import Mathlib.Logic.Function.Basic
import Nextmini.Library.TransitionSystem
import Nextmini.Routing.RoutingTable

/-!
# User-space servers

The servers that consume the packets of user-space flows. A processor that has no sender for a flow
asks the shared handle for one; the handle starts a server for a flow id it has not seen, and gives
out the sender it remembers for one it has. A server ends when its socket is no longer active, which
the TCP stack decides; its end is announced to the processors. Senders and servers are known by the
number of the server, and packets by number. Rates of flows do not matter here and are left out.
-/

namespace Nextmini.Node

open Nextmini.Library Nextmini.Routing

set_option autoImplicit false

def dstPort (flowId : FlowId) : UInt16 := UInt16.ofNat (flowId.toNat >>> 32)

structure UserSpaceServer where
  flowId : FlowId
  running : Bool
  queued : List Nat
  deriving DecidableEq

inductive SenderMessage where
  | connectUserSpaceSender (flowId : FlowId) (sender : Nat)
  | disconnectUserSpaceSender (flowId : FlowId)
  deriving DecidableEq

/-- The map of the shared handle, the servers started so far, the messages to the processors, and of
each processor the senders it knows and how many messages it has handled. -/
structure ServerState (Index : Type*) where
  packetSenders : FlowId → Option Nat
  servers : List UserSpaceServer
  messages : List SenderMessage
  userSpaceSenders : Index → FlowId → Option Nat
  handled : Index → Nat

structure ServerConfig where
  channelCapacity : Nat
  userSpaceServerPort : UInt16

inductive ServerEvent (Index : Type*) where
  | packet (index : Index) (flowId : FlowId) (packet : Nat)
  | messageHandled (index : Index)
  | consumed (server : Nat)
  | terminated (server : Nat)

inductive PacketFate where
  | queued (server : Nat)
  | dropped
  deriving DecidableEq, Repr

namespace ServerState

variable {Index : Type*} [DecidableEq Index]

def start : ServerState Index where
  packetSenders _ := none
  servers := []
  messages := []
  userSpaceSenders _ _ := none
  handled _ := 0

def addServer (state : ServerState Index) (flowId : FlowId) : ServerState Index × Nat :=
  match state.packetSenders flowId with
  | some existingSender => (state, existingSender)
  | none =>
      let sender := state.servers.length
      ({ state with
          packetSenders := Function.update state.packetSenders flowId (some sender)
          servers := state.servers ++ [⟨flowId, true, []⟩]
          messages := state.messages ++ [.connectUserSpaceSender flowId sender] }, sender)

def setSender (state : ServerState Index) (index : Index) (flowId : FlowId)
    (sender : Option Nat) : ServerState Index :=
  { state with
    userSpaceSenders :=
      Function.update state.userSpaceSenders index
        (Function.update (state.userSpaceSenders index) flowId sender) }

/-- The sender for a flow as a processor finds it; none for a port that is not the server's. -/
def userSpaceSender (config : ServerConfig) (state : ServerState Index) (index : Index)
    (flowId : FlowId) : ServerState Index × Option Nat :=
  match state.userSpaceSenders index flowId with
  | some sender => (state, some sender)
  | none =>
      if dstPort flowId ≠ config.userSpaceServerPort then (state, none)
      else
        let (state, sender) := state.addServer flowId
        (state.setSender index flowId (some sender), some sender)

/-- A packet fits a channel that has room and whose server still holds the other end. -/
def trySend (config : ServerConfig) (state : ServerState Index) (sender packet : Nat) :
    Option (ServerState Index) :=
  match state.servers[sender]? with
  | none => none
  | some server =>
      if server.running ∧ server.queued.length < config.channelCapacity then
        some
          { state with
            servers := state.servers.set sender { server with queued := server.queued ++ [packet] } }
      else none

def sendPacket (config : ServerConfig) (state : ServerState Index) (index : Index)
    (flowId : FlowId) (packet : Nat) : ServerState Index × PacketFate :=
  match state.userSpaceSender config index flowId with
  | (state, none) => (state, .dropped)
  | (state, some sender) =>
      match state.trySend config sender packet with
      | none => (state, .dropped)
      | some sent => (sent, .queued sender)

def handleMessage (state : ServerState Index) (index : Index) : SenderMessage → ServerState Index
  | .connectUserSpaceSender flowId sender => state.setSender index flowId (some sender)
  | .disconnectUserSpaceSender flowId => state.setSender index flowId none

/-- `none`: the event does not happen here. -/
def step (config : ServerConfig) (state : ServerState Index) :
    ServerEvent Index → Option (ServerState Index × Option PacketFate)
  | .packet index flowId packet =>
      let (next, fate) := state.sendPacket config index flowId packet
      some (next, some fate)
  | .messageHandled index =>
      match state.messages[state.handled index]? with
      | none => none
      | some message =>
          let next := state.handleMessage index message
          some ({ next with handled := Function.update next.handled index (next.handled index + 1) },
            none)
  | .consumed index =>
      match state.servers[index]? with
      | none => none
      | some server =>
          match server.running, server.queued with
          | true, _ :: rest =>
              some ({ state with servers := state.servers.set index { server with queued := rest } },
                none)
          | _, _ => none
  | .terminated index =>
      match state.servers[index]? with
      | none => none
      | some server =>
          if server.running then
            some
              ({ state with
                  servers := state.servers.set index { server with running := false, queued := [] }
                  messages := state.messages ++ [.disconnectUserSpaceSender server.flowId] }, none)
          else none

end ServerState

structure ServerLabel (Index : Type*) where
  event : ServerEvent Index
  fate : Option PacketFate

def userSpaceServers (Index : Type*) [DecidableEq Index] (config : ServerConfig) :
    TransitionSystem (ServerState Index) (ServerLabel Index) where
  initial state := state = .start
  step state label next := state.step config label.event = some (next, label.fate)

namespace ServerState

variable {Index : Type*}

/-! ## One server for a flow id -/

/-- The map of the handle names the one server that was ever started for a flow id. -/
def OneServerEach (state : ServerState Index) : Prop :=
  ∀ flowId sender, state.packetSenders flowId = some sender ↔
    state.servers[sender]?.map UserSpaceServer.flowId = some flowId

theorem one_server_each_start : (start : ServerState Index).OneServerEach := by
  intro flowId sender
  simp [start]

theorem server_at_concat (servers : List UserSpaceServer) (server : UserSpaceServer) (sender : Nat) :
    (servers ++ [server])[sender]? =
      if sender = servers.length then some server else servers[sender]? := by
  by_cases fresh : sender = servers.length
  · simp [fresh]
  · rw [if_neg fresh]
    by_cases before : sender < servers.length
    · exact List.getElem?_append_left before
    · have beyond : servers.length + 1 ≤ sender := by omega
      rw [List.getElem?_eq_none (by simpa using beyond), List.getElem?_eq_none (by omega)]

theorem add_server_one {state : ServerState Index} (each : state.OneServerEach) (flowId : FlowId) :
    (state.addServer flowId).1.OneServerEach := by
  unfold addServer
  cases known : state.packetSenders flowId with
  | some existingSender => exact each
  | none =>
    intro other sender
    simp only [server_at_concat]
    by_cases fresh : sender = state.servers.length
    · have unnamed : state.packetSenders other ≠ some state.servers.length := by
        intro named
        have absent := (each other _).mp named
        simp at absent
      by_cases same : other = flowId
      · simp [fresh, same]
      · simp [fresh, same, unnamed, Ne.symm same]
    · by_cases same : other = flowId
      · have unstarted : state.servers[sender]?.map UserSpaceServer.flowId ≠ some flowId := by
          intro started
          rw [← each, known] at started
          cases started
        simpa [same, fresh, Ne.symm fresh] using unstarted
      · simpa [same, fresh] using each other sender

theorem set_server_one {state next : ServerState Index} {sender : Nat}
    {server changed : UserSpaceServer} (each : state.OneServerEach)
    (found : state.servers[sender]? = some server)
    (senders : next.packetSenders = state.packetSenders)
    (servers : next.servers = state.servers.set sender changed)
    (same : changed.flowId = server.flowId) : next.OneServerEach := by
  intro flowId other
  rw [senders, servers, each flowId other, List.getElem?_set]
  have inside : sender < state.servers.length := by
    rcases List.getElem?_eq_some_iff.mp found with ⟨inside, _⟩
    exact inside
  by_cases at_it : sender = other
  · subst at_it
    simp only [if_true, inside, found, Option.map_some, same]
  · simp [at_it]

variable [DecidableEq Index] {config : ServerConfig}

theorem user_space_sender_one {state next : ServerState Index} {index : Index} {flowId : FlowId}
    {sender : Option Nat} (each : state.OneServerEach)
    (found : state.userSpaceSender config index flowId = (next, sender)) : next.OneServerEach := by
  unfold userSpaceSender at found
  cases known : state.userSpaceSenders index flowId with
  | some existing =>
    rw [known] at found
    cases found
    exact each
  | none =>
    rw [known] at found
    by_cases port : dstPort flowId = config.userSpaceServerPort
    · simp only [ne_eq, port, not_true_eq_false, if_false] at found
      cases found
      exact add_server_one each flowId
    · simp only [ne_eq, port, not_false_eq_true, if_true] at found
      cases found
      exact each

omit [DecidableEq Index] in
theorem try_send_one {state next : ServerState Index} {sender packet : Nat}
    (each : state.OneServerEach) (sent : state.trySend config sender packet = some next) :
    next.OneServerEach := by
  unfold trySend at sent
  cases found : state.servers[sender]? with
  | none => simp [found] at sent
  | some server =>
    simp only [found] at sent
    split_ifs at sent with room
    cases sent
    exact set_server_one each found rfl rfl rfl

theorem send_packet_one {state : ServerState Index} (each : state.OneServerEach) (index : Index)
    (flowId : FlowId) (packet : Nat) :
    (state.sendPacket config index flowId packet).1.OneServerEach := by
  unfold sendPacket
  rcases found : state.userSpaceSender config index flowId with ⟨asked, sender⟩
  have kept := user_space_sender_one each found
  cases sender with
  | none => exact kept
  | some sender =>
    cases sent : asked.trySend config sender packet with
    | none => simpa [sent] using kept
    | some next => simpa [sent] using try_send_one kept sent

theorem handle_message_one {state : ServerState Index} (each : state.OneServerEach) (index : Index)
    (message : SenderMessage) : (state.handleMessage index message).OneServerEach := by
  cases message <;> exact each

theorem step_one {state next : ServerState Index} {event : ServerEvent Index}
    {fate : Option PacketFate} (each : state.OneServerEach)
    (step : state.step config event = some (next, fate)) : next.OneServerEach := by
  cases event with
  | packet index flowId packet =>
    cases step
    exact send_packet_one each index flowId packet
  | messageHandled index =>
    cases waiting : state.messages[state.handled index]? with
    | none => simp [ServerState.step, waiting] at step
    | some message =>
      simp only [ServerState.step, waiting] at step
      cases step
      exact handle_message_one each index message
  | consumed sender =>
    cases found : state.servers[sender]? with
    | none => simp [ServerState.step, found] at step
    | some server =>
      simp only [ServerState.step, found] at step
      split at step
      · cases step
        exact set_server_one each found rfl rfl rfl
      · cases step
  | terminated sender =>
    cases found : state.servers[sender]? with
    | none => simp [ServerState.step, found] at step
    | some server =>
      simp only [ServerState.step, found] at step
      split_ifs at step with running
      cases step
      exact set_server_one each found rfl rfl rfl

theorem one_server_of_reachable {state : ServerState Index}
    (reachable : (userSpaceServers Index config).Reachable state) : state.OneServerEach := by
  apply TransitionSystem.invariant_of_reachable _ _ reachable
  · rintro _ rfl
    exact one_server_each_start
  · intro state label next each step
    exact step_one each step

/-! ## What `add_server` returns -/

/-- The sender that `add_server` returns belongs to a running server of the flow. -/
def ReturnsRunning (state : ServerState Index) (flowId : FlowId) : Prop :=
  ∃ server, (state.addServer flowId).1.servers[(state.addServer flowId).2]? = some server ∧
    server.flowId = flowId ∧ server.running = true

omit [DecidableEq Index] in
theorem returns_running_of_unknown {state : ServerState Index} {flowId : FlowId}
    (unknown : state.packetSenders flowId = none) : state.ReturnsRunning flowId := by
  refine ⟨⟨flowId, true, []⟩, ?_, rfl, rfl⟩
  simp [addServer, unknown]

/-- A server is started once for a flow id, and its sender is given out from then on: the sender
belongs to a running server exactly as long as no server of the flow id has terminated. -/
theorem add_server_running_iff {state : ServerState Index}
    (reachable : (userSpaceServers Index config).Reachable state) (flowId : FlowId) :
    state.ReturnsRunning flowId ↔
      ∀ server ∈ state.servers, server.flowId = flowId → server.running = true := by
  have each := one_server_of_reachable reachable
  cases known : state.packetSenders flowId with
  | none =>
    have unstarted : ∀ server ∈ state.servers, server.flowId ≠ flowId := by
      intro server member same
      rcases List.getElem?_of_mem member with ⟨sender, found⟩
      have named := (each flowId sender).mpr (by simp [found, same])
      rw [known] at named
      cases named
    constructor
    · intro _ server member same
      exact absurd same (unstarted server member)
    · intro _
      exact returns_running_of_unknown known
  | some existingSender =>
    have returned : state.addServer flowId = (state, existingSender) := by
      simp [addServer, known]
    rcases Option.map_eq_some_iff.mp ((each _ _).mp known) with ⟨named, found, same⟩
    simp only [ReturnsRunning, returned, found, Option.some.injEq]
    constructor
    · rintro ⟨server, rfl, _, running⟩ other member ofFlow
      rcases List.getElem?_of_mem member with ⟨sender, at_it⟩
      have theirs := (each flowId sender).mpr (by simp [at_it, ofFlow])
      rw [known] at theirs
      cases theirs
      rw [found] at at_it
      cases at_it
      exact running
    · intro running
      exact ⟨named, rfl, same, running named (List.mem_of_getElem? found) same⟩

/-! ## A flow id used again -/

def exampleServers : ServerConfig where
  channelCapacity := 16
  userSpaceServerPort := 5000

def reusedFlowId : FlowId := 0x0a0000010a0000029c40138800000000

def firstPacket : ServerState Unit :=
  ((start : ServerState Unit).sendPacket exampleServers () reusedFlowId 1).1

theorem first_packet_served : firstPacket.ReturnsRunning reusedFlowId := by
  have reachable : (userSpaceServers Unit exampleServers).Reachable firstPacket := by
    refine ⟨start, [⟨.packet () reusedFlowId 1, some (.queued 0)⟩], rfl, .single ?_⟩
    rfl
  apply (add_server_running_iff reachable reusedFlowId).mpr
  decide

def firstLife : List (ServerEvent Unit) :=
  [.packet () reusedFlowId 1, .consumed 0, .terminated 0, .messageHandled (), .messageHandled ()]

/-- After a server has ended and every processor knows it, the next flow of the same id is given the
sender of the ended server, and its packet is dropped. -/
theorem reused_flow_dropped : ∃ state next,
    (userSpaceServers Unit exampleServers).Reachable state ∧
      state.handled () = state.messages.length ∧ ¬state.ReturnsRunning reusedFlowId ∧
      (userSpaceServers Unit exampleServers).step state
        ⟨.packet () reusedFlowId 2, some .dropped⟩ next := by
  rcases Option.isSome_iff_exists.mp
    (show (TransitionSystem.execute (ServerState.step exampleServers) start firstLife).isSome
      by decide) with ⟨⟨state, fates⟩, executed⟩
  have reachable : (userSpaceServers Unit exampleServers).Reachable state :=
    ⟨start, _, rfl, TransitionSystem.run_of_execute (fun event fate => ⟨event, fate⟩)
      (fun _ _ _ _ stepped => stepped) executed⟩
  have looked : (TransitionSystem.execute (ServerState.step exampleServers) start firstLife).map
      (fun result => (result.1.packetSenders reusedFlowId, result.1.servers,
        result.1.userSpaceSenders () reusedFlowId, result.1.handled (), result.1.messages.length)) =
      some (some 0, [⟨reusedFlowId, false, []⟩], none, 2, 2) := by
    decide
  rw [executed] at looked
  simp only [Option.map_some, Option.some.injEq, Prod.mk.injEq] at looked
  rcases looked with ⟨named, servers, unknown, handled, sent⟩
  have port : dstPort reusedFlowId = exampleServers.userSpaceServerPort := by decide
  have returned : state.addServer reusedFlowId = (state, 0) := by simp [addServer, named]
  have fate : (state.sendPacket exampleServers () reusedFlowId 2).2 = .dropped := by
    simp [sendPacket, userSpaceSender, unknown, port, returned, trySend, setSender, servers]
  refine ⟨state, (state.sendPacket exampleServers () reusedFlowId 2).1, reachable, ?_, ?_, ?_⟩
  · rw [handled, sent]
  · rintro ⟨server, found, _, running⟩
    rw [returned, servers] at found
    cases found
    cases running
  · have stepped : state.step exampleServers (.packet () reusedFlowId 2) =
        some ((state.sendPacket exampleServers () reusedFlowId 2).1,
          some (state.sendPacket exampleServers () reusedFlowId 2).2) := rfl
    rw [fate] at stepped
    exact stepped

end ServerState

end Nextmini.Node
