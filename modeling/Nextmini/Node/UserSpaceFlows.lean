import Mathlib.Order.Basic
import Nextmini.Library.TransitionSystem

/-!
# User-space flows

The client of a user-space TCP flow: at every turn it polls its interface and sends what the transmit
buffer takes. The socket does what the network stack documents: sending appends to the buffer, a poll
moves bytes on to the network, and an abort discards what is still buffered. A flow that its peer cuts
off is left out, and so are the reports and the pause that keeps a flow rate, which touch neither the
socket nor the counters. Time is counted in nanoseconds.
-/

namespace Nextmini.Node

open Nextmini.Library

set_option autoImplicit false

inductive FlowLen where
  | bytes (size : Nat)
  | duration (limit : Nat)
  deriving DecidableEq, Repr

def FlowLen.exceeded (flowLen : FlowLen) (sentSize elapsed : Nat) : Bool :=
  match flowLen with
  | .bytes size => size ≤ sentSize
  | .duration limit => limit ≤ elapsed

/-- A transmit buffer with what it holds, and what was handed to the network so far. -/
structure TcpSocket where
  capacity : Nat
  active : Bool
  maySend : Bool
  buffered : Nat
  delivered : Nat
  deriving DecidableEq, Repr

namespace TcpSocket

def canSend (socket : TcpSocket) : Prop :=
  socket.active ∧ socket.maySend ∧ socket.buffered < socket.capacity

instance (socket : TcpSocket) : Decidable socket.canSend := inferInstanceAs (Decidable (_ ∧ _ ∧ _))

def append (socket : TcpSocket) (sent : Nat) : TcpSocket :=
  { socket with buffered := socket.buffered + sent }

/-- A poll may also complete the handshake. -/
def poll (socket : TcpSocket) (moved : Nat) (established : Bool) : TcpSocket :=
  { socket with
    maySend := socket.maySend || established
    buffered := socket.buffered - moved
    delivered := socket.delivered + moved }

def abort (socket : TcpSocket) : TcpSocket :=
  { socket with active := false, maySend := false, buffered := 0 }

end TcpSocket

structure UserSpaceClient where
  flowLen : FlowLen
  bytesTotal : Nat
  socket : TcpSocket
  finished : Bool
  deriving DecidableEq, Repr

/-- What the surroundings decide at a turn: the bytes that the poll moves, whether it completes the
handshake, the room that the buffer offers in one piece, and the time since the flow began. -/
structure ClientTurn where
  moved : Nat
  established : Bool
  room : Nat
  elapsed : Nat
  deriving DecidableEq, Repr

namespace UserSpaceClient

def socketBufferSize : Nat := 1048576

def new (capacity : Nat) (flowLen : FlowLen) : UserSpaceClient where
  flowLen := flowLen
  bytesTotal := 0
  socket := ⟨capacity, true, false, 0, 0⟩
  finished := false

def remaining (client : UserSpaceClient) : Nat :=
  match client.flowLen with
  | .bytes size => size - client.bytesTotal
  | .duration _ => socketBufferSize

def send (client : UserSpaceClient) (room elapsed : Nat) : UserSpaceClient :=
  if client.socket.canSend then
    let sent := min room client.remaining
    if 0 < sent then
      let updated := { client with
        bytesTotal := client.bytesTotal + sent
        socket := client.socket.append sent }
      if client.flowLen.exceeded updated.bytesTotal elapsed then
        { updated with socket := updated.socket.abort }
      else updated
    else client
  else client

def polled (client : UserSpaceClient) (turn : ClientTurn) : UserSpaceClient :=
  { client with socket := client.socket.poll turn.moved turn.established }

def turn (client : UserSpaceClient) (turn : ClientTurn) : UserSpaceClient :=
  if (client.polled turn).socket.active then (client.polled turn).send turn.room turn.elapsed
  else { client.polled turn with finished := true }

/-- A client over any schedule of polls: a poll moves at most what is buffered, and the buffer offers
some of its room wherever it has any. -/
def system (capacity : Nat) (flowLen : FlowLen) : TransitionSystem UserSpaceClient ClientTurn where
  initial client := client = new capacity flowLen
  step client turn later :=
    client.finished = false ∧ turn.moved ≤ client.socket.buffered ∧
      ((client.polled turn).socket.canSend → 0 < turn.room ∧
        turn.room ≤ capacity - (client.polled turn).socket.buffered) ∧
      later = client.turn turn

/-- Whenever the connection is closed, as many bytes went to the network as the flow is long. -/
def DeliversItsLength (capacity size : Nat) : Prop :=
  ∀ client, (system capacity (.bytes size)).Reachable client → client.socket.active = false →
    client.socket.delivered = size

variable {client : UserSpaceClient} {capacity size room elapsed : Nat}

/-- What sending does to a flow of so many bytes: it stops in the very call that accepts the last. -/
theorem send_cases (flow : client.flowLen = .bytes size) :
    (client.send room elapsed = client ∧
        (client.socket.canSend → 0 < room → size ≤ client.bytesTotal)) ∨
      ∃ sent, client.socket.canSend ∧ 0 < sent ∧ client.bytesTotal + sent ≤ size ∧
        client.send room elapsed =
          { client with
            bytesTotal := client.bytesTotal + sent
            socket := if client.bytesTotal + sent = size then (client.socket.append sent).abort
              else client.socket.append sent } := by
  rw [send]
  have left : client.remaining = size - client.bytesTotal := by simp only [remaining, flow]
  by_cases ready : client.socket.canSend
  · by_cases accepted : 0 < min room client.remaining
    · right
      have bounded : client.bytesTotal + min room client.remaining ≤ size := by omega
      refine ⟨_, ready, accepted, bounded, ?_⟩
      simp only [if_pos ready, if_pos accepted, flow, FlowLen.exceeded, decide_eq_true_eq]
      by_cases last : client.bytesTotal + min room client.remaining = size
      · rw [if_pos (Nat.le_of_eq last.symm), if_pos last]
      · rw [if_neg (by omega), if_neg last]
    · left
      simp only [if_pos ready, if_neg accepted, true_and]
      omega
  · exact .inl ⟨if_neg ready, fun able => absurd able ready⟩

/-- What is accepted is delivered or still buffered; an abort finds some of it in the buffer. -/
structure Sending (capacity size : Nat) (client : UserSpaceClient) : Prop where
  flow : client.flowLen = .bytes size
  room : client.socket.capacity = capacity
  accounted : client.socket.active = true →
    client.socket.delivered + client.socket.buffered = client.bytesTotal
  bounded : client.bytesTotal ≤ size
  running : client.socket.active = true → client.finished = false
  cut : client.socket.active = false →
    client.socket.buffered = 0 ∧ client.socket.delivered < size ∧ 0 < capacity

theorem new_sending (capacity size : Nat) : Sending capacity size (new capacity (.bytes size)) where
  flow := rfl
  room := rfl
  accounted _ := rfl
  bounded := Nat.zero_le _
  running _ := rfl
  cut closed := by cases closed

theorem polled_sending {turn : ClientTurn} (sending : Sending capacity size client)
    (moved : turn.moved ≤ client.socket.buffered) : Sending capacity size (client.polled turn) where
  flow := sending.flow
  room := sending.room
  accounted active := by
    have before := sending.accounted active
    simp only [polled, TcpSocket.poll]
    omega
  bounded := sending.bounded
  running := sending.running
  cut closed := by
    have before := sending.cut closed
    simp only [polled, TcpSocket.poll]
    omega

theorem send_sending (sending : Sending capacity size client) (active : client.socket.active = true)
    (room elapsed : Nat) : Sending capacity size (client.send room elapsed) := by
  have accounted := sending.accounted active
  rcases @send_cases client size room elapsed sending.flow with
    ⟨same, _⟩ | ⟨sent, ready, accepted, bounded, changed⟩
  · rw [same]
    exact sending
  · rw [changed]
    by_cases last : client.bytesTotal + sent = size
    · simp only [if_pos last]
      have short : client.socket.delivered < size := by omega
      have positive : 0 < capacity := by
        rw [← sending.room]
        exact Nat.zero_lt_of_lt ready.2.2
      exact ⟨sending.flow, sending.room, nofun, bounded, nofun, fun _ => ⟨rfl, short, positive⟩⟩
    · simp only [if_neg last]
      refine ⟨sending.flow, sending.room, fun _ => ?_, bounded, sending.running, fun closed => ?_⟩
      · simp only [TcpSocket.append]
        omega
      · rw [TcpSocket.append, active] at closed
        cases closed

theorem turn_sending {turn : ClientTurn} (sending : Sending capacity size client)
    (moved : turn.moved ≤ client.socket.buffered) : Sending capacity size (client.turn turn) := by
  have ready := polled_sending sending moved
  rw [UserSpaceClient.turn]
  split_ifs with active
  · exact send_sending ready active _ _
  · exact ⟨ready.flow, ready.room, ready.accounted, ready.bounded, fun again => absurd again active,
      ready.cut⟩

theorem reachable_sending (reachable : (system capacity (.bytes size)).Reachable client) :
    Sending capacity size client := by
  apply TransitionSystem.invariant_of_reachable (motive := Sending capacity size) _ _ reachable
  · rintro _ rfl
    exact new_sending capacity size
  · rintro before turn _ sending ⟨_, moved, _, rfl⟩
    exact turn_sending sending moved

/-! ## The last bytes -/

/-- A turn that empties the buffer and offers all of it makes progress, so some run comes to its end. -/
theorem closing_run (positive : 0 < capacity)
    (reachable : (system capacity (.bytes size)).Reachable client)
    (active : client.socket.active = true) (short : client.bytesTotal < size) :
    ∃ closed, (system capacity (.bytes size)).Reachable closed ∧ closed.socket.active = false := by
  generalize left : size - client.bytesTotal = bytesLeft
  induction bytesLeft using Nat.strongRecOn generalizing client with
  | ind bytesLeft induction =>
    have sending := reachable_sending reachable
    let turn : ClientTurn := ⟨client.socket.buffered, true, capacity, 0⟩
    have emptied : (client.polled turn).socket.buffered = 0 := Nat.sub_self _
    have able : (client.polled turn).socket.canSend := by
      refine ⟨active, Bool.or_true _, ?_⟩
      rw [emptied, (polled_sending sending (Nat.le_refl _)).room]
      exact positive
    have step : (system capacity (.bytes size)).step client turn (client.turn turn) := by
      refine ⟨sending.running active, Nat.le_refl _, fun _ => ⟨positive, ?_⟩, rfl⟩
      rw [emptied]
      exact Nat.le_refl _
    have sends : client.turn turn = (client.polled turn).send capacity 0 := if_pos active
    have reached := reachable.step step
    rw [sends] at reached
    rcases @send_cases (client.polled turn) size capacity 0 sending.flow with
      ⟨_, stuck⟩ | ⟨sent, _, accepted, bounded, changed⟩
    · exact absurd (stuck able positive) (Nat.not_le_of_lt short)
    · have before : (client.polled turn).bytesTotal = client.bytesTotal := rfl
      rw [changed] at reached
      by_cases last : (client.polled turn).bytesTotal + sent = size
      · refine ⟨_, reached, ?_⟩
        simp only [if_pos last]
        rfl
      · refine induction _ ?_ reached ?_ ?_ rfl
        · simp only
          omega
        · simp only [if_neg last]
          exact active
        · simp only
          omega

/-- Every run that comes to its end has delivered too little: the flow is as long as promised only
where the client never sends and never closes. -/
theorem delivers_its_length_iff (capacity size : Nat) :
    (∀ client, (system capacity (.bytes size)).Reachable client → client.socket.active = false →
        client.socket.delivered < size) ∧
      (DeliversItsLength capacity size ↔ size = 0 ∨ capacity = 0) := by
  have short : ∀ client, (system capacity (.bytes size)).Reachable client →
      client.socket.active = false → client.socket.delivered < size :=
    fun client reachable closed => ((reachable_sending reachable).cut closed).2.1
  refine ⟨short, ?_, ?_⟩
  · intro delivers
    by_contra sends
    have start : (system capacity (.bytes size)).Reachable (new capacity (.bytes size)) :=
      TransitionSystem.reachable_of_initial rfl
    rcases closing_run (by omega) start rfl (Nat.pos_of_ne_zero fun zero => sends (.inl zero)) with ⟨client, reachable, closed⟩
    have less := short client reachable closed
    have all := delivers client reachable closed
    omega
  · intro never client reachable closed
    rcases (reachable_sending reachable).cut closed with ⟨_, less, positive⟩
    omega

/-- A flow of five bytes fits the buffer whole: all five are accepted, and the abort discards them. -/
theorem last_bytes_discarded :
    ∃ client, (system socketBufferSize (.bytes 5)).Reachable client ∧
      client.socket.active = false ∧ client.bytesTotal = 5 ∧ client.socket.delivered = 0 ∧
        ¬DeliversItsLength socketBufferSize 5 := by
  have start : (system socketBufferSize (.bytes 5)).Reachable (new socketBufferSize (.bytes 5)) :=
    TransitionSystem.reachable_of_initial rfl
  have step : (system socketBufferSize (.bytes 5)).step (new socketBufferSize (.bytes 5))
      ⟨0, true, socketBufferSize, 0⟩
      ((new socketBufferSize (.bytes 5)).turn ⟨0, true, socketBufferSize, 0⟩) :=
    ⟨rfl, Nat.le_refl _, fun _ => by decide, rfl⟩
  have reached := start.step step
  refine ⟨_, reached, by decide, by decide, by decide, fun delivers => ?_⟩
  exact absurd (delivers _ reached (by decide)) (by decide)

end UserSpaceClient

end Nextmini.Node
