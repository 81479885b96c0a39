import Mathlib.Data.List.Basic

/-!
# A bounded broadcast log

A sender appends messages to a log, of which a ring keeps the newest ones, and each receiver reads at
a position of its own. A receiver that is more than the capacity behind is told so once, and goes on
at the oldest message that is left. A receiver that was never so far behind has read the front of the
log; one that ever was misses a message for good.
-/

namespace Nextmini.Library

set_option autoImplicit false

/-- The position of a receiver in the log, and the messages it has read. -/
structure RingCursor (Message : Type*) where
  position : Nat
  received : List Message

inductive Received (Message : Type*) where
  | empty
  | message (content : Message) (later : RingCursor Message)
  | lagged (later : RingCursor Message)

namespace RingCursor

variable {Message : Type*}

def start : RingCursor Message where
  position := 0
  received := []

/-- How many messages of the log are still to come. -/
def behind (log : List Message) (cursor : RingCursor Message) : Nat := log.length - cursor.position

def receive (capacity : Nat) (log : List Message) (cursor : RingCursor Message) :
    Received Message :=
  if capacity < cursor.behind log then
    .lagged { cursor with position := log.length - capacity }
  else
    match log[cursor.position]? with
    | none => .empty
    | some content =>
        .message content
          { position := cursor.position + 1
            received := cursor.received ++ [content] }

/-- The receiver has read the log up to its position. -/
structure Intact (log : List Message) (cursor : RingCursor Message) : Prop where
  inside : cursor.position ≤ log.length
  received : cursor.received = log.take cursor.position

/-- The receiver has missed a message, or is about to. -/
structure Overrun (capacity : Nat) (log : List Message) (cursor : RingCursor Message) : Prop where
  inside : cursor.position ≤ log.length
  counted : cursor.received.length ≤ cursor.position
  missing : capacity < cursor.behind log ∨ cursor.received.length < cursor.position

variable {capacity : Nat} {log : List Message} {cursor later : RingCursor Message}
  {content : Message}

theorem intact_start : Intact log (start : RingCursor Message) where
  inside := Nat.zero_le _
  received := (List.take_zero).symm

theorem receive_message (received : cursor.receive capacity log = .message content later) :
    cursor.behind log ≤ capacity ∧ log[cursor.position]? = some content ∧
      later.position = cursor.position + 1 ∧ later.received = cursor.received ++ [content] := by
  simp only [receive] at received
  split_ifs at received with lagging
  cases present : log[cursor.position]? with
  | none =>
    rw [present] at received
    cases received
  | some found =>
    rw [present] at received
    cases received
    exact ⟨Nat.not_lt.mp lagging, rfl, rfl, rfl⟩

theorem receive_lagged (received : cursor.receive capacity log = .lagged later) :
    capacity < cursor.behind log ∧ later.position = log.length - capacity ∧
      later.received = cursor.received := by
  simp only [receive] at received
  split_ifs at received with lagging
  · cases received
    exact ⟨lagging, rfl, rfl⟩
  · cases present : log[cursor.position]? with
    | none =>
      rw [present] at received
      cases received
    | some found =>
      rw [present] at received
      cases received

theorem intact_send (intact : Intact log cursor) (content : Message) :
    Intact (log ++ [content]) cursor where
  inside := by
    rw [List.length_append]
    exact Nat.le_add_right_of_le intact.inside
  received := by rw [intact.received, List.take_append_of_le_length intact.inside]

theorem intact_receive (intact : Intact log cursor)
    (received : cursor.receive capacity log = .message content later) : Intact log later := by
  rcases receive_message received with ⟨_, present, position, read⟩
  rcases List.getElem?_eq_some_iff.mp present with ⟨bound, same⟩
  constructor
  · rw [position]
    exact bound
  · rw [read, position, intact.received, List.take_add_one, present]
    rfl

theorem intact_counted (intact : Intact log cursor) : cursor.received.length ≤ cursor.position := by
  rw [intact.received, List.length_take]
  exact Nat.min_le_left _ _

/-- A message sent to a receiver that is the full capacity behind overruns it. -/
theorem send_overruns (intact : Intact log cursor) (full : capacity ≤ cursor.behind log)
    (content : Message) : Overrun capacity (log ++ [content]) cursor := by
  have inside := intact.inside
  refine ⟨?_, intact_counted intact, .inl ?_⟩
  · rw [List.length_append]
    exact Nat.le_add_right_of_le inside
  · simp only [behind, List.length_append, List.length_singleton] at full ⊢
    omega

theorem overrun_send (overrun : Overrun capacity log cursor) (content : Message) :
    Overrun capacity (log ++ [content]) cursor := by
  rcases overrun with ⟨inside, counted, missing⟩
  refine ⟨?_, counted, missing.imp_left ?_⟩
  · rw [List.length_append]
    exact Nat.le_add_right_of_le inside
  · simp only [behind, List.length_append]
    omega

theorem overrun_receive (overrun : Overrun capacity log cursor)
    (received : cursor.receive capacity log = .message content later) :
    Overrun capacity log later := by
  rcases receive_message received with ⟨within, present, position, read⟩
  rcases List.getElem?_eq_some_iff.mp present with ⟨bound, _⟩
  have short := overrun.missing.resolve_left (Nat.not_lt.mpr within)
  refine ⟨?_, ?_, .inr ?_⟩
  · rw [position]
    exact bound
  · rw [position, read, List.length_append, List.length_singleton]
    exact Nat.succ_le_succ overrun.counted
  · rw [position, read, List.length_append, List.length_singleton]
    exact Nat.succ_lt_succ short

/-- A receiver that has been told of a gap has missed something. -/
theorem lagged_overruns (counted : cursor.received.length ≤ cursor.position)
    (received : cursor.receive capacity log = .lagged later) : Overrun capacity log later := by
  rcases receive_lagged received with ⟨lagging, position, read⟩
  have ahead : cursor.position < later.position := by
    rw [position]
    simp only [behind] at lagging
    omega
  refine ⟨?_, ?_, .inr ?_⟩
  · rw [position]
    exact Nat.sub_le _ _
  · rw [read]
    exact Nat.le_trans counted (Nat.le_of_lt ahead)
  · rw [read]
    exact Nat.lt_of_le_of_lt counted ahead

theorem overrun_received_ne (overrun : Overrun capacity log cursor) : cursor.received ≠ log := by
  intro same
  have counted := overrun.counted
  have inside := overrun.inside
  rw [same] at counted
  rcases overrun.missing with lagging | short
  · rw [behind, Nat.sub_eq_zero_of_le counted] at lagging
    exact Nat.not_lt_zero capacity lagging
  · rw [same] at short
    exact absurd short (Nat.not_lt.mpr inside)

theorem intact_received_eq (intact : Intact log cursor) (caughtUp : cursor.position = log.length) :
    cursor.received = log := by
  rw [intact.received, caughtUp, List.take_length]

end RingCursor

end Nextmini.Library
