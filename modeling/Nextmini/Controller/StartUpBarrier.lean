import Nextmini.Controller.TopologyReady
import Nextmini.Node.ControlReceiver

/-!
# The start-up barrier

The controller and its nodes from the first connection to the first flow. A connection's task answers
the node's StartUp and sends it the links, routes and groups of its set-up; the node is known to the
other tasks before it is answered, and they may send it further messages. The node takes the first
message it reads as the answer, whatever it is, handles the others in order and reports once its links
are up; the coordinator broadcasts TopologyReady, and only then do nodes start flows. Messages in flight
in either direction stay in order, and all parties interleave. A node starts up once on each of its
connections.
-/

namespace Nextmini.Controller

open Nextmini.Library Nextmini.Node Nextmini.Routing
open Nextmini.Messages (ControllerToDataplane)

set_option autoImplicit false

/-! ## Sessions of nodes -/

/-- What the task of a connection sends a node at its start-up behind the answer: links to its
neighbours, routes, and unless they cannot be read, the group directory and the routes of groups. -/
structure SetUp where
  links : List AddNode
  routes : List RoutingTableEntry
  groups : Option (List GroupDirectoryEntry × List (GroupId × NodeId × List GroupRoutingTableEntry))

def SetUp.groupMessages (setUp : SetUp) : List ControllerToDataplane :=
  match setUp.groups with
  | none => []
  | some (groups, trees) =>
      .installGroupDirectory groups ::
        trees.map fun tree => .installGroupRoutes tree.1 tree.2.1 tree.2.2

def SetUp.messages (setUp : SetUp) : List ControllerToDataplane :=
  .startUp :: (setUp.links.map ControllerToDataplane.addNode ++
    .installRoutes setUp.routes :: setUp.groupMessages)

/-- A connection whose StartUp was accepted: the set-up messages not sent yet, the messages on their
way to the node, those it has read and handled (the first one as the answer to its StartUp), what it
has done, and its reports on their way back. -/
structure NodeSession where
  nodeId : NodeId
  setUp : SetUp
  rest : List ControllerToDataplane
  inbox : List ControllerToDataplane
  handled : List ControllerToDataplane
  receiver : ControlReceiver
  effects : List ControlEffect
  reports : Nat

namespace NodeSession

def start (nodeId : NodeId) (setUp : SetUp) : NodeSession where
  nodeId := nodeId
  setUp := setUp
  rest := setUp.messages
  inbox := []
  handled := []
  receiver := .new
  effects := []
  reports := 0

def send (session : NodeSession) (message : ControllerToDataplane) : NodeSession :=
  { session with inbox := session.inbox ++ [message] }

def sendNext (session : NodeSession) (message : ControllerToDataplane)
    (rest : List ControllerToDataplane) : NodeSession :=
  { session with
    rest := rest
    inbox := session.inbox ++ [message] }

/-- The node reads the first of its messages. The very first one it takes as the answer to its StartUp:
another one in that place is passed over. -/
def handle (session : NodeSession) (message : ControllerToDataplane)
    (later : List ControllerToDataplane) : NodeSession :=
  if session.handled.isEmpty then
    { session with
      inbox := later
      handled := session.handled ++ [message] }
  else
    let (receiver, effects) := session.receiver.processControlMsg session.nodeId message
    { session with
      inbox := later
      handled := session.handled ++ [message]
      receiver := receiver
      effects := session.effects ++ effects
      reports := session.reports + effects.countP ControlEffect.isReport }

/-- Everything the controller has sent the node or has still to send at its set-up. -/
def messages (session : NodeSession) : List ControllerToDataplane :=
  session.handled ++ session.inbox ++ session.rest

/-- The node has begun a flow, or let its sessions begin. -/
def Started (session : NodeSession) : Prop :=
  session.effects.flatMap ControlEffect.tcpStarted ≠ [] ∨
    session.effects.flatMap ControlEffect.losslessStarted ≠ [] ∨
    ControlEffect.runtimeReady ∈ session.effects

/-- The node has reported that its links are up, and had routes and a directory by then. -/
def Reported (session : NodeSession) : Prop :=
  ∃ before after, session.effects = before ++ .nodeTopologyReady session.nodeId :: after ∧
    ∃ front, front <+: session.handled ∧ front.any ControllerToDataplane.isRoutes = true ∧
      front.any ControllerToDataplane.isDirectory = true ∧
      before.filterMap ControlEffect.link? = front.filterMap ControllerToDataplane.link?

/-- The report came after every link of the set-up was up. -/
def Wired (session : NodeSession) : Prop :=
  ∃ before after, session.effects = before ++ .nodeTopologyReady session.nodeId :: after ∧
    before.filterMap ControlEffect.link? = session.setUp.links

end NodeSession

/-! ## The system -/

structure StartUpBarrier where
  topology : TopologyState
  sessions : ConnectionId → Option NodeSession

inductive BarrierLabel where
  | connected
  | startedUp (connection : ConnectionId) (nodeId : NodeId) (setUp : SetUp)
  | refused (connection : ConnectionId) (maybeNodeId : Option NodeId)
  | setUpSent (connection : ConnectionId)
  | announced (connection : ConnectionId)
  | sent (connection : ConnectionId) (message : ControllerToDataplane)
  | handled (connection : ConnectionId)
  | reported (connection : ConnectionId)
  | closed (connection : ConnectionId)
  | eventHandled
  | lagged

namespace StartUpBarrier

def start : StartUpBarrier where
  topology := .start
  sessions _ := none

def setSession (state : StartUpBarrier) (connection : ConnectionId) (session : NodeSession) :
    StartUpBarrier :=
  { state with sessions := Function.update state.sessions connection (some session) }

/-- `send_topology_ready`: every node in the registry is sent the message; nothing joins or leaves
while the registry is gone through. -/
def sendTopologyReady (registry : NodeRegistry) (sessions : ConnectionId → Option NodeSession) :
    ConnectionId → Option NodeSession :=
  fun connection => (sessions connection).map fun session =>
    if registry.nodeWs session.nodeId = some connection then session.send .topologyReady
    else session

/-- The coordinator takes an event, and sends TopologyReady if that made its counts complete. -/
def take (expectedNodeCount : Option Nat) (state : StartUpBarrier) (event : TopologyEvent)
    (later : RingCursor TopologyEvent) : StartUpBarrier :=
  let coordinator :=
    Coordinator.handle expectedNodeCount { state.topology.coordinator with cursor := later } event
  { topology := { state.topology with coordinator := coordinator }
    sessions :=
      if state.topology.coordinator.broadcasts < coordinator.broadcasts then
        sendTopologyReady state.topology.registry state.sessions
      else state.sessions }

end StartUpBarrier

/-- Links are sent by set-ups alone, and TopologyReady by the coordinator alone; a report is read in
between a connection's other messages. -/
inductive BarrierStep (expectedNodeCount : Option Nat) (capacity : Nat) (state : StartUpBarrier) :
    BarrierLabel → StartUpBarrier → Prop
  | connected :
      BarrierStep expectedNodeCount capacity state .connected
        { state with
          topology := { state.topology with registry := state.topology.registry.connect } }
  | startedUp (connection : ConnectionId) (nodeId : NodeId) (setUp : SetUp) :
      connection ∈ state.topology.registry.opened → connection ∉ state.topology.settingUp →
        state.topology.registry.currentNodeId connection = none →
        state.topology.registry.nodeWs nodeId = none →
          BarrierStep expectedNodeCount capacity state (.startedUp connection nodeId setUp)
            (StartUpBarrier.setSession
              { state with topology := state.topology.startUp connection (some nodeId) }
              connection (.start nodeId setUp))
  | refused (connection : ConnectionId) (maybeNodeId : Option NodeId) :
      (∀ nodeId ∈ maybeNodeId, (state.topology.registry.nodeWs nodeId).isSome = true) →
        BarrierStep expectedNodeCount capacity state (.refused connection maybeNodeId) state
  | setUpSent (connection : ConnectionId) (session : NodeSession) (message : ControllerToDataplane)
      (rest : List ControllerToDataplane) :
      state.sessions connection = some session → session.rest = message :: rest →
        BarrierStep expectedNodeCount capacity state (.setUpSent connection)
          (state.setSession connection (session.sendNext message rest))
  | announced (connection : ConnectionId) (session : NodeSession) :
      connection ∈ state.topology.settingUp → state.sessions connection = some session →
        session.rest = [] →
          BarrierStep expectedNodeCount capacity state (.announced connection)
            { state with topology := state.topology.announce connection session.nodeId }
  | sent (connection : ConnectionId) (session : NodeSession) (message : ControllerToDataplane) :
      state.sessions connection = some session → message.link? = none →
        message.isTopologyReady = false →
          BarrierStep expectedNodeCount capacity state (.sent connection message)
            (state.setSession connection (session.send message))
  | handled (connection : ConnectionId) (session : NodeSession) (message : ControllerToDataplane)
      (later : List ControllerToDataplane) :
      state.sessions connection = some session → session.inbox = message :: later →
        BarrierStep expectedNodeCount capacity state (.handled connection)
          (state.setSession connection (session.handle message later))
  | reported (connection : ConnectionId) (session : NodeSession) :
      connection ∈ state.topology.registry.opened → connection ∉ state.topology.settingUp →
        state.sessions connection = some session → 0 < session.reports →
          BarrierStep expectedNodeCount capacity state (.reported connection)
            (StartUpBarrier.setSession
              { state with
                topology := state.topology.nodeTopologyReady expectedNodeCount connection }
              connection { session with reports := session.reports - 1 })
  | closed (connection : ConnectionId) :
      connection ∈ state.topology.registry.opened → connection ∉ state.topology.settingUp →
        BarrierStep expectedNodeCount capacity state (.closed connection)
          { state with topology := state.topology.close connection }
  | eventHandled (event : TopologyEvent) (later : RingCursor TopologyEvent) :
      state.topology.coordinator.cursor.receive capacity state.topology.events =
          .message event later →
        BarrierStep expectedNodeCount capacity state .eventHandled
          (state.take expectedNodeCount event later)
  | lagged (later : RingCursor TopologyEvent) :
      state.topology.coordinator.cursor.receive capacity state.topology.events = .lagged later →
        BarrierStep expectedNodeCount capacity state .lagged
          { state with
            topology :=
              { state.topology with
                coordinator := { state.topology.coordinator with cursor := later } } }

def startUpBarrier (expectedNodeCount : Option Nat) (capacity : Nat) :
    TransitionSystem StartUpBarrier BarrierLabel where
  initial state := state = .start
  step := BarrierStep expectedNodeCount capacity

/-- As many nodes as expected were set up and have reported. -/
def Passed (expectedNodeCount : Option Nat) (state : StartUpBarrier) : Prop :=
  ∃ ids : Finset NodeId, (∃ expected, expectedNodeCount = some expected ∧ expected ≤ ids.card) ∧
    ∀ id ∈ ids, ∃ connection session, state.sessions connection = some session ∧
      session.nodeId = id ∧ connection ∉ state.topology.settingUp ∧ session.Reported

/-! ## The coordinator on one event -/

section Coordinator

variable {expectedNodeCount : Option Nat} {coordinator : Coordinator}

theorem maybe_broadcast_sets :
    (coordinator.maybeBroadcastTopologyReady expectedNodeCount).connectedNodes =
        coordinator.connectedNodes ∧
      (coordinator.maybeBroadcastTopologyReady expectedNodeCount).locallyReadyNodes =
        coordinator.locallyReadyNodes ∧
      (coordinator.maybeBroadcastTopologyReady expectedNodeCount).cursor = coordinator.cursor := by
  cases expectedNodeCount with
  | none => exact ⟨rfl, rfl, rfl⟩
  | some expected =>
    simp only [Coordinator.maybeBroadcastTopologyReady]
    split_ifs
    all_goals exact ⟨rfl, rfl, rfl⟩

theorem maybe_broadcast_due :
    (coordinator.maybeBroadcastTopologyReady expectedNodeCount).broadcasts =
        coordinator.broadcasts ∨
      (coordinator.maybeBroadcastTopologyReady expectedNodeCount).broadcasts =
          coordinator.broadcasts + 1 ∧
        expectedNodeCount = some coordinator.connectedNodes.card ∧
        expectedNodeCount = some coordinator.locallyReadyNodes.card := by
  cases expectedNodeCount with
  | none => exact .inl rfl
  | some expected =>
    simp only [Coordinator.maybeBroadcastTopologyReady]
    split_ifs with sent counts
    · exact .inl rfl
    · exact .inr ⟨rfl, congrArg some counts.1.symm, congrArg some counts.2.symm⟩
    · exact .inl rfl

variable (expectedNodeCount coordinator)

theorem handle_sets (event : TopologyEvent) :
    (coordinator.handle expectedNodeCount event).connectedNodes =
        coordinator.connectedNodes ∪ connectedIds [event] ∧
      (coordinator.handle expectedNodeCount event).locallyReadyNodes =
        coordinator.locallyReadyNodes ∪ readyIds [event] ∧
      (coordinator.handle expectedNodeCount event).cursor = coordinator.cursor := by
  cases event with
  | nodeConnected nodeId =>
    have added : coordinator.connectedNodes ∪ connectedIds [.nodeConnected nodeId] =
        insert nodeId coordinator.connectedNodes := by
      rw [show connectedIds [.nodeConnected nodeId] = {nodeId} from rfl, Finset.union_comm]
      rfl
    have kept : coordinator.locallyReadyNodes ∪ readyIds [.nodeConnected nodeId] =
        coordinator.locallyReadyNodes := Finset.union_empty _
    rw [added, kept]
    simp only [Coordinator.handle]
    split_ifs with known
    · exact ⟨(Finset.insert_eq_of_mem known).symm, rfl, rfl⟩
    · exact maybe_broadcast_sets
  | nodeLocallyReady nodeId =>
    have added : coordinator.locallyReadyNodes ∪ readyIds [.nodeLocallyReady nodeId] =
        insert nodeId coordinator.locallyReadyNodes := by
      rw [show readyIds [.nodeLocallyReady nodeId] = {nodeId} from rfl, Finset.union_comm]
      rfl
    have kept : coordinator.connectedNodes ∪ connectedIds [.nodeLocallyReady nodeId] =
        coordinator.connectedNodes := Finset.union_empty _
    rw [added, kept]
    exact maybe_broadcast_sets

theorem handle_due (event : TopologyEvent) :
    (coordinator.handle expectedNodeCount event).broadcasts = coordinator.broadcasts ∨
      (coordinator.handle expectedNodeCount event).broadcasts = coordinator.broadcasts + 1 ∧
        expectedNodeCount =
          some (coordinator.handle expectedNodeCount event).connectedNodes.card ∧
        expectedNodeCount =
          some (coordinator.handle expectedNodeCount event).locallyReadyNodes.card := by
  cases event with
  | nodeConnected nodeId =>
    simp only [Coordinator.handle]
    split_ifs with known
    · exact .inl rfl
    · rw [maybe_broadcast_sets.1, maybe_broadcast_sets.2.1]
      exact maybe_broadcast_due
  | nodeLocallyReady nodeId =>
    simp only [Coordinator.handle]
    rw [maybe_broadcast_sets.1, maybe_broadcast_sets.2.1]
    exact maybe_broadcast_due

end Coordinator

/-! ## Sessions -/

/-- The session of a connection: what the node has done follows from what it has handled, and none is
told that the topology is ready before the broadcast. -/
structure SessionSound (state : StartUpBarrier) (connection : ConnectionId)
    (session : NodeSession) : Prop where
  ran : ControlReceiver.run session.nodeId session.handled.tail = (session.receiver, session.effects)
  answer : ∀ answer ∈ session.messages.head?, answer.link? = none
  current : state.topology.registry.currentNodeId connection = some session.nodeId
  reports : session.reports ≤ session.effects.countP ControlEffect.isReport
  links : session.messages.filterMap ControllerToDataplane.link? = session.setUp.links
  sequel : session.rest <:+ session.setUp.messages
  told : (session.handled ++ session.inbox).any ControllerToDataplane.isTopologyReady = true →
    0 < state.topology.coordinator.broadcasts

namespace NodeSession

variable {session : NodeSession} {message : ControllerToDataplane}
  {later : List ControllerToDataplane}

@[simp] theorem handle_kept : (session.handle message later).nodeId = session.nodeId ∧
    (session.handle message later).setUp = session.setUp ∧
      (session.handle message later).rest = session.rest ∧
        (session.handle message later).inbox = later ∧
          (session.handle message later).handled = session.handled ++ [message] := by
  simp only [handle]
  split_ifs <;> exact ⟨rfl, rfl, rfl, rfl, rfl⟩

/-- What reading a message adds to the effects, and the reports among that. -/
theorem handle_effects : ∃ effects,
    (session.handle message later).effects = session.effects ++ effects ∧
      (session.handle message later).reports =
        session.reports + effects.countP ControlEffect.isReport := by
  simp only [handle]
  split_ifs
  · exact ⟨[], (List.append_nil _).symm, rfl⟩
  · exact ⟨_, rfl, rfl⟩

theorem handle_messages (next : session.inbox = message :: later) :
    (session.handle message later).messages = session.messages := by
  simp only [messages, handle_kept, next, List.append_assoc, List.singleton_append]

theorem send_next_messages (next : session.rest = message :: later) :
    (session.sendNext message later).messages = session.messages := by
  simp only [messages, sendNext, next, List.append_assoc, List.singleton_append]

/-- The first message of a node stays what it was, or is the one that is sent. -/
theorem send_first {property : ControllerToDataplane → Prop}
    (first : ∀ answer ∈ session.messages.head?, property answer) (own : property message) :
    ∀ answer ∈ (session.send message).messages.head?, property answer := by
  simp only [messages, send, ← List.append_assoc] at first ⊢
  cases front : session.handled ++ session.inbox with
  | nil =>
    intro answer member
    cases Option.some.inj member
    exact own
  | cons head rest =>
    rw [front] at first
    exact first

end NodeSession

namespace SetUp

variable (setUp : SetUp)

theorem group_messages_kinds (message : ControllerToDataplane)
    (member : message ∈ setUp.groupMessages) :
    message.link? = none ∧ message.isTopologyReady = false := by
  unfold groupMessages at member
  cases groups : setUp.groups with
  | none =>
    rw [groups] at member
    cases member
  | some parts =>
    rw [groups] at member
    rcases List.mem_cons.mp member with rfl | tree
    · exact ⟨rfl, rfl⟩
    · rcases List.mem_map.mp tree with ⟨parts, _, rfl⟩
      exact ⟨rfl, rfl⟩

theorem messages_links : setUp.messages.filterMap ControllerToDataplane.link? = setUp.links := by
  have none : setUp.groupMessages.filterMap ControllerToDataplane.link? = [] :=
    List.filterMap_eq_nil_iff.mpr fun message member =>
      (setUp.group_messages_kinds message member).1
  have all : (setUp.links.map ControllerToDataplane.addNode).filterMap
      ControllerToDataplane.link? = setUp.links := by
    rw [List.filterMap_map]
    exact List.filterMap_some
  rw [messages, List.filterMap_cons, List.filterMap_append, all, List.filterMap_cons, none]
  exact List.append_nil _

theorem messages_not_ready (message : ControllerToDataplane) (member : message ∈ setUp.messages) :
    message.isTopologyReady = false := by
  rcases List.mem_cons.mp member with rfl | member
  · rfl
  rcases List.mem_append.mp member with link | member
  · rcases List.mem_map.mp link with ⟨link, _, rfl⟩
    rfl
  · rcases List.mem_cons.mp member with rfl | member
    · rfl
    · exact (setUp.group_messages_kinds message member).2

end SetUp

namespace SessionSound

variable {state : StartUpBarrier} {connection : ConnectionId} {session : NodeSession}
  {message : ControllerToDataplane} {rest : List ControllerToDataplane}

theorem start {nodeId : NodeId} {setUp : SetUp}
    (current : state.topology.registry.currentNodeId connection = some nodeId) :
    SessionSound state connection (.start nodeId setUp) where
  ran := rfl
  answer := by
    rintro _ ⟨⟩
    rfl
  current := current
  reports := Nat.le_refl 0
  links := setUp.messages_links
  sequel := List.suffix_rfl
  told impossible := by cases impossible

theorem send (sound : SessionSound state connection session) (noLink : message.link? = none)
    (told : message.isTopologyReady = true → 0 < state.topology.coordinator.broadcasts) :
    SessionSound state connection (session.send message) where
  ran := sound.ran
  answer := @NodeSession.send_first _ _ (·.link? = none) sound.answer noLink
  current := sound.current
  reports := sound.reports
  links := by
    have same := sound.links
    simp only [NodeSession.messages, List.filterMap_append] at same
    simp only [NodeSession.messages, NodeSession.send, List.filterMap_append,
      List.filterMap_cons, noLink, List.filterMap_nil, List.append_nil]
    exact same
  sequel := sound.sequel
  told ready := by
    simp only [NodeSession.send, List.any_append, List.any_cons, List.any_nil, Bool.or_false,
      Bool.or_eq_true, ← or_assoc] at ready
    rcases ready with before | now
    · apply sound.told
      rw [List.any_append, Bool.or_eq_true]
      exact before
    · exact told now

theorem send_next (sound : SessionSound state connection session)
    (next : session.rest = message :: rest) :
    SessionSound state connection (session.sendNext message rest) where
  ran := sound.ran
  answer := by
    rw [NodeSession.send_next_messages next]
    exact sound.answer
  current := sound.current
  reports := sound.reports
  links := by
    rw [NodeSession.send_next_messages next]
    exact sound.links
  sequel := by
    have before := sound.sequel
    rw [next] at before
    exact (List.suffix_cons message rest).trans before
  told ready := by
    have own : message ∈ session.setUp.messages :=
      sound.sequel.subset (by rw [next]; exact List.mem_cons_self)
    simp only [NodeSession.sendNext, List.any_append, List.any_cons, List.any_nil, Bool.or_false,
      session.setUp.messages_not_ready message own] at ready
    apply sound.told
    rw [List.any_append]
    exact ready

theorem handle (sound : SessionSound state connection session)
    (next : session.inbox = message :: rest) :
    SessionSound state connection (session.handle message rest) where
  ran := by
    have before := sound.ran
    cases read : session.handled with
    | nil =>
      rw [read] at before
      simpa [NodeSession.handle, read] using before
    | cons answer others =>
      rw [read] at before
      simp only [NodeSession.handle, read, List.isEmpty_cons, Bool.false_eq_true, if_false,
        List.cons_append, List.tail_cons] at before ⊢
      rw [ControlReceiver.run_concat, before]
      rfl
  answer := by
    rw [NodeSession.handle_messages next]
    exact sound.answer
  current := by
    rw [NodeSession.handle_kept.1]
    exact sound.current
  reports := by
    rcases @NodeSession.handle_effects session message rest with ⟨more, effects, reports⟩
    rw [effects, reports, List.countP_append]
    exact Nat.add_le_add_right sound.reports _
  links := by
    rw [NodeSession.handle_messages next, NodeSession.handle_kept.2.1]
    exact sound.links
  sequel := by
    rw [NodeSession.handle_kept.2.2.1, NodeSession.handle_kept.2.1]
    exact sound.sequel
  told ready := by
    apply sound.told
    rw [next]
    simpa only [NodeSession.handle_kept, List.append_assoc, List.singleton_append] using ready

/-- What is known of a session holds on in states that know its node and have broadcast before. -/
theorem later (sound : SessionSound state connection session) {next : StartUpBarrier}
    (current : next.topology.registry.currentNodeId connection =
      state.topology.registry.currentNodeId connection)
    (broadcasts : state.topology.coordinator.broadcasts ≤ next.topology.coordinator.broadcasts) :
    SessionSound next connection session where
  ran := sound.ran
  answer := sound.answer
  current := current.trans sound.current
  reports := sound.reports
  links := sound.links
  sequel := sound.sequel
  told ready := Nat.lt_of_lt_of_le (sound.told ready) broadcasts

end SessionSound

/-! ## What every run keeps -/

/-- The sessions are sound; each id the coordinator counts as ready is that of a node that has
reported; and after the broadcast it counts as many as expected. -/
structure Passing (expectedNodeCount : Option Nat) (state : StartUpBarrier) : Prop where
  sessions : ∀ connection session, state.sessions connection = some session →
    SessionSound state connection session
  counted : state.topology.coordinator.locallyReadyNodes ⊆ readyIds state.topology.events
  enough : 0 < state.topology.coordinator.broadcasts → ∃ expected,
    expectedNodeCount = some expected ∧ expected ≤ state.topology.coordinator.locallyReadyNodes.card
  reported : ∀ id ∈ readyIds state.topology.events, ∃ connection session,
    state.sessions connection = some session ∧ session.nodeId = id ∧
      connection ∉ state.topology.settingUp ∧
      0 < session.effects.countP ControlEffect.isReport
  settingUp : ∀ connection ∈ state.topology.settingUp, state.sessions connection ≠ none
  unknown : ∀ connection, state.sessions connection = none →
    state.topology.registry.currentNodeId connection = none

section Runs

variable {expectedNodeCount : Option Nat} {capacity : Nat} {state next : StartUpBarrier}
  {label : BarrierLabel} {connection : ConnectionId} {session : NodeSession}

theorem passing_start : Passing expectedNodeCount .start where
  sessions _ _ found := by cases found
  counted := Finset.empty_subset _
  enough broadcast := absurd broadcast (Nat.lt_irrefl 0)
  reported id member := absurd member (Finset.notMem_empty id)
  settingUp connection member := absurd member (Finset.notMem_empty connection)
  unknown _ _ := rfl

/-- A session that goes on under its id, having reported no less. -/
theorem passing_session (passing : Passing expectedNodeCount state)
    (found : state.sessions connection = some session) {later : NodeSession}
    (sound : SessionSound state connection later) (same : later.nodeId = session.nodeId)
    (reports : session.effects.countP ControlEffect.isReport ≤
      later.effects.countP ControlEffect.isReport) :
    Passing expectedNodeCount (state.setSession connection later) where
  sessions other own held := by
    simp only [StartUpBarrier.setSession, Function.update_apply] at held
    split_ifs at held with here
    · cases held
      rw [here]
      exact sound.later rfl (Nat.le_refl _)
    · exact (passing.sessions other own held).later rfl (Nat.le_refl _)
  counted := passing.counted
  enough := passing.enough
  reported id member := by
    rcases passing.reported id member with ⟨other, own, held, named, done, reported⟩
    by_cases here : other = connection
    · subst here
      rw [found] at held
      cases held
      exact ⟨other, later, Function.update_self .., same.trans named, done,
        Nat.lt_of_lt_of_le reported reports⟩
    · exact ⟨other, own, (Function.update_of_ne here ..).trans held, named, done, reported⟩
  settingUp other member := by
    simp only [StartUpBarrier.setSession, Function.update_apply]
    split_ifs
    · exact Option.some_ne_none _
    · exact passing.settingUp other member
  unknown other held := by
    simp only [StartUpBarrier.setSession, Function.update_apply] at held
    split_ifs at held
    exact passing.unknown other held

theorem passing_topology (passing : Passing expectedNodeCount state) {topology : TopologyState}
    (current : topology.registry.currentNodeId = state.topology.registry.currentNodeId)
    (ready : readyIds topology.events = readyIds state.topology.events)
    (settingUp : topology.settingUp ⊆ state.topology.settingUp)
    (ids : topology.coordinator.locallyReadyNodes = state.topology.coordinator.locallyReadyNodes)
    (broadcasts : topology.coordinator.broadcasts = state.topology.coordinator.broadcasts) :
    Passing expectedNodeCount { state with topology := topology } where
  sessions other own held := by
    refine (passing.sessions other own held).later ?_ (Nat.le_of_eq broadcasts.symm)
    exact congrFun current other
  counted := by
    rw [ids, ready]
    exact passing.counted
  enough := by
    rw [ids, broadcasts]
    exact passing.enough
  reported id member := by
    rw [ready] at member
    rcases passing.reported id member with ⟨other, own, held, named, done, reported⟩
    exact ⟨other, own, held, named, fun still => done (settingUp still), reported⟩
  settingUp other member := passing.settingUp other (settingUp member)
  unknown other held := by
    rw [current]
    exact passing.unknown other held

theorem topology_start_up (topology : TopologyState) (connection : ConnectionId) {nodeId : NodeId}
    (free : topology.registry.nodeWs nodeId = none) :
    topology.startUp connection (some nodeId) =
      { topology with
        registry := topology.registry.startUp connection (some nodeId)
        settingUp := insert connection topology.settingUp
        ready := topology.ready.erase nodeId } := by
  simp only [TopologyState.startUp, free]
  rfl

theorem passing_started_up (passing : Passing expectedNodeCount state) {nodeId : NodeId}
    (setUp : SetUp) (fresh : state.topology.registry.currentNodeId connection = none)
    (free : state.topology.registry.nodeWs nodeId = none) :
    Passing expectedNodeCount (StartUpBarrier.setSession
      { state with topology := state.topology.startUp connection (some nodeId) }
      connection (.start nodeId setUp)) := by
  have apart (other : ConnectionId) (own : NodeSession) (held : state.sessions other = some own) :
      other ≠ connection := by
    rintro rfl
    rw [(passing.sessions other own held).current] at fresh
    cases fresh
  have current : (state.topology.registry.startUp connection (some nodeId)).currentNodeId =
      Function.update state.topology.registry.currentNodeId connection (some nodeId) := by
    rw [start_up_accepted connection free]
  rw [topology_start_up state.topology connection free]
  refine ⟨?_, passing.counted, passing.enough, ?_, ?_, ?_⟩
  · intro other own held
    simp only [StartUpBarrier.setSession, Function.update_apply] at held
    split_ifs at held with here
    · cases held
      subst here
      apply SessionSound.start
      simp only [StartUpBarrier.setSession, current, Function.update_self]
    · refine (passing.sessions other own held).later ?_ (Nat.le_refl _)
      simp only [StartUpBarrier.setSession, current, Function.update_of_ne here]
  · intro id member
    rcases passing.reported id member with ⟨other, own, held, named, done, reported⟩
    have here := apart other own held
    refine ⟨other, own, (Function.update_of_ne here ..).trans held, named, ?_, reported⟩
    intro still
    rcases Finset.mem_insert.mp still with same | before
    · exact here same
    · exact done before
  · intro other member
    simp only [StartUpBarrier.setSession, Function.update_apply]
    split_ifs with here
    · exact Option.some_ne_none _
    · exact passing.settingUp other ((Finset.mem_insert.mp member).resolve_left here)
  · intro other held
    simp only [StartUpBarrier.setSession, Function.update_apply] at held
    split_ifs at held with here
    simp only [StartUpBarrier.setSession, current, Function.update_of_ne here]
    exact passing.unknown other held

theorem passing_reported (passing : Passing expectedNodeCount state)
    (found : state.sessions connection = some session)
    (settled : connection ∉ state.topology.settingUp) (some : 0 < session.reports) :
    Passing expectedNodeCount (StartUpBarrier.setSession
      { state with topology := state.topology.nodeTopologyReady expectedNodeCount connection }
      connection { session with reports := session.reports - 1 }) := by
  have sound := passing.sessions connection session found
  have heard : Passing expectedNodeCount
      { state with topology := state.topology.nodeTopologyReady expectedNodeCount connection } := by
    simp only [TopologyState.nodeTopologyReady, sound.current]
    refine ⟨?_, ?_, passing.enough, ?_, passing.settingUp, passing.unknown⟩
    · intro other own held
      exact (passing.sessions other own held).later rfl (Nat.le_refl _)
    · rw [ready_ids_ready]
      exact passing.counted.trans (Finset.subset_insert _ _)
    · intro id member
      rw [ready_ids_ready] at member
      rcases Finset.mem_insert.mp member with rfl | before
      · exact ⟨connection, session, found, rfl, settled, Nat.lt_of_lt_of_le some sound.reports⟩
      · exact passing.reported id before
  have heardSound := heard.sessions connection session found
  refine passing_session heard found ?_ rfl (Nat.le_refl _)
  exact { heardSound with reports := (Nat.sub_le _ _).trans heardSound.reports }

theorem sent_topology_ready {registry : NodeRegistry}
    {sessions : ConnectionId → Option NodeSession}
    (held : StartUpBarrier.sendTopologyReady registry sessions connection = some session) :
    ∃ before, sessions connection = some before ∧
      (session = before ∧ registry.nodeWs before.nodeId ≠ some connection ∨
        session = before.send .topologyReady ∧
          registry.nodeWs before.nodeId = some connection) := by
  rcases Option.map_eq_some_iff.mp held with ⟨before, found, same⟩
  refine ⟨before, found, ?_⟩
  split_ifs at same with registered
  · exact .inr ⟨same.symm, registered⟩
  · exact .inl ⟨same.symm, registered⟩

theorem kept_session (registry : NodeRegistry) {sessions : ConnectionId → Option NodeSession}
    (found : sessions connection = some session) :
    ∃ later, StartUpBarrier.sendTopologyReady registry sessions connection = some later ∧
      later.nodeId = session.nodeId ∧ later.effects = session.effects ∧
      (registry.nodeWs session.nodeId = some connection → later = session.send .topologyReady) := by
  refine ⟨_, congrArg (Option.map _) found, ?_⟩
  dsimp only
  split_ifs with registered
  · exact ⟨rfl, rfl, fun _ => rfl⟩
  · exact ⟨rfl, rfl, fun impossible => absurd impossible registered⟩

theorem passing_sent_all (passing : Passing expectedNodeCount state) (registry : NodeRegistry)
    (broadcast : 0 < state.topology.coordinator.broadcasts) :
    Passing expectedNodeCount
      { state with sessions := StartUpBarrier.sendTopologyReady registry state.sessions } := by
  refine ⟨?_, passing.counted, passing.enough, ?_, ?_, ?_⟩
  · intro other own held
    rcases sent_topology_ready held with ⟨before, found, kept | sent⟩
    · rw [kept.1]
      exact (passing.sessions other before found).later rfl (Nat.le_refl _)
    · rw [sent.1]
      exact ((passing.sessions other before found).send rfl fun _ => broadcast).later rfl
        (Nat.le_refl _)
  · intro id member
    rcases passing.reported id member with ⟨other, own, held, named, done, reported⟩
    rcases kept_session registry held with ⟨later, sent, same, effects, _⟩
    exact ⟨other, later, sent, same.trans named, done, effects ▸ reported⟩
  · intro other member absent
    exact passing.settingUp other member (Option.map_eq_none_iff.mp absent)
  · intro other absent
    exact passing.unknown other (Option.map_eq_none_iff.mp absent)

theorem ready_ids_mem {events : List TopologyEvent} {event : TopologyEvent} (member : event ∈ events) :
    readyIds [event] ⊆ readyIds events := by
  intro id held
  rw [readyIds, List.mem_toFinset, List.mem_filterMap] at held ⊢
  rcases held with ⟨other, own, named⟩
  exact ⟨other, List.mem_singleton.mp own ▸ member, named⟩

theorem passing_take (passing : Passing expectedNodeCount state) {event : TopologyEvent}
    {later : RingCursor TopologyEvent}
    (received : state.topology.coordinator.cursor.receive capacity state.topology.events =
      .message event later) :
    Passing expectedNodeCount (state.take expectedNodeCount event later) := by
  have member : event ∈ state.topology.events :=
    List.mem_of_getElem? (RingCursor.receive_message received).2.1
  let waiting : Coordinator := { state.topology.coordinator with cursor := later }
  have sets := handle_sets expectedNodeCount waiting event
  have due := handle_due expectedNodeCount waiting event
  have grown : state.topology.coordinator.locallyReadyNodes.card ≤
      (waiting.handle expectedNodeCount event).locallyReadyNodes.card := by
    rw [sets.2.1]
    exact Finset.card_le_card Finset.subset_union_left
  have taken : Passing expectedNodeCount
      { state with
        topology :=
          { state.topology with coordinator := waiting.handle expectedNodeCount event } } := by
    refine ⟨?_, ?_, ?_, passing.reported, passing.settingUp, passing.unknown⟩
    · intro other own held
      refine (passing.sessions other own held).later rfl ?_
      rcases due with same | more
      · exact Nat.le_of_eq same.symm
      · exact (Nat.le_succ _).trans (Nat.le_of_eq more.1.symm)
    · show (waiting.handle expectedNodeCount event).locallyReadyNodes ⊆ _
      rw [sets.2.1]
      exact Finset.union_subset passing.counted (ready_ids_mem member)
    · intro broadcast
      rcases due with same | more
      · rcases passing.enough (same ▸ broadcast) with ⟨expected, given, enough⟩
        exact ⟨expected, given, enough.trans grown⟩
      · exact ⟨_, more.2.2, Nat.le_refl _⟩
  unfold StartUpBarrier.take
  dsimp only
  split_ifs with broadcast
  · exact passing_sent_all taken state.topology.registry (Nat.lt_of_le_of_lt (Nat.zero_le _) broadcast)
  · exact taken

theorem passing_step (passing : Passing expectedNodeCount state)
    (step : BarrierStep expectedNodeCount capacity state label next) :
    Passing expectedNodeCount next := by
  cases step with
  | connected => exact passing_topology passing rfl rfl Finset.Subset.rfl rfl rfl
  | startedUp connection nodeId setUp opened settled fresh free =>
    exact passing_started_up passing setUp fresh free
  | refused connection maybeNodeId used => exact passing
  | setUpSent connection session message rest found next =>
    exact passing_session passing found ((passing.sessions _ _ found).send_next next) rfl
      (Nat.le_refl _)
  | announced connection session settingUp found finished =>
    exact passing_topology passing rfl (ready_ids_connected _ _) (Finset.erase_subset _ _) rfl rfl
  | sent connection session message found noLink notReady =>
    refine passing_session passing found ((passing.sessions _ _ found).send noLink ?_) rfl
      (Nat.le_refl _)
    intro ready
    rw [notReady] at ready
    cases ready
  | handled connection session message later found next =>
    refine passing_session passing found ((passing.sessions _ _ found).handle next)
      NodeSession.handle_kept.1 ?_
    rcases @NodeSession.handle_effects session message later with ⟨more, effects, _⟩
    rw [effects, List.countP_append]
    exact Nat.le_add_right _ _
  | reported connection session opened settled found some =>
    exact passing_reported passing found settled some
  | closed connection opened settled => exact passing_topology passing rfl rfl Finset.Subset.rfl rfl rfl
  | eventHandled event later received => exact passing_take passing received
  | lagged later received => exact passing_topology passing rfl rfl Finset.Subset.rfl rfl rfl

theorem passing_of_reachable (reachable : (startUpBarrier expectedNodeCount capacity).Reachable state) :
    Passing expectedNodeCount state := by
  apply TransitionSystem.invariant_of_reachable (motive := Passing expectedNodeCount) _ _ reachable
  · rintro state rfl
    exact passing_start
  · intro state label next passing step
    exact passing_step passing step

/-! ## No flow before the barrier -/

/-- A sound session that reported did so with routes and a directory, and all links named by then. -/
theorem reported_of_count (sound : SessionSound state connection session)
    (counted : 0 < session.effects.countP ControlEffect.isReport) : session.Reported := by
  rcases List.countP_pos_iff.mp counted with ⟨effect, member, report⟩
  have effects : (ControlReceiver.run session.nodeId session.handled.tail).2 = session.effects := by
    rw [sound.ran]
  rw [← effects] at member
  rcases ControlReceiver.report_position member report with
    ⟨front, inside, routes, directory, before, after, split, _, links⟩
  rw [effects] at split
  cases read : session.handled with
  | nil =>
    rw [read] at inside
    rw [List.prefix_nil.mp inside] at routes
    cases routes
  | cons answer others =>
    -- the answer to the StartUp is no link
    have noLink : answer.link? = none := by
      apply sound.answer
      rw [NodeSession.messages, read]
      rfl
    rw [read] at inside
    refine ⟨before, after, split, answer :: front, ?_, ?_, ?_, ?_⟩
    · rw [read]
      exact List.cons_prefix_cons.mpr ⟨rfl, inside⟩
    · rw [List.any_cons, routes, Bool.or_true]
    · rw [List.any_cons, directory, Bool.or_true]
    · rw [links, List.filterMap_cons, noLink]

theorem told_of_started (sound : SessionSound state connection session)
    (started : session.Started) : 0 < state.topology.coordinator.broadcasts := by
  have accounted := ControlReceiver.flows_accounted session.nodeId session.handled.tail
  have runtime := ControlReceiver.runtime_ready_told session.nodeId session.handled.tail
  rw [sound.ran] at accounted runtime
  apply sound.told
  rw [List.any_append, Bool.or_eq_true]
  left
  suffices ready : session.receiver.topologyReady = true by
    rw [accounted.ready] at ready
    rcases List.any_eq_true.mp ready with ⟨message, member, isReady⟩
    exact List.any_eq_true.mpr ⟨message, List.mem_of_mem_tail member, isReady⟩
  by_contra notReady
  rw [Bool.not_eq_true] at notReady
  rcases accounted.waiting notReady with ⟨noTcp, noLossless⟩
  rcases started with tcp | lossless | runtimeReady
  · exact tcp noTcp
  · exact lossless noLossless
  · rw [accounted.ready, runtime runtimeReady] at notReady
    cases notReady

theorem passed_of_started (passing : Passing expectedNodeCount state)
    (found : state.sessions connection = some session) (started : session.Started) :
    Passed expectedNodeCount state := by
  have broadcast := told_of_started (passing.sessions connection session found) started
  rcases passing.enough broadcast with ⟨expected, given, enough⟩
  refine ⟨state.topology.coordinator.locallyReadyNodes, ⟨expected, given, enough⟩, ?_⟩
  intro id member
  rcases passing.reported id (passing.counted member) with
    ⟨other, own, held, named, done, reported⟩
  exact ⟨other, own, held, named, done, reported_of_count (passing.sessions other own held) reported⟩

/-- In every run, with connections that close and come back and events that the coordinator misses: no
node starts a flow before as many nodes as expected were set up and have reported, each with routes
and a directory installed and each link up that it had been told of. -/
theorem flows_start_after_reports
    (reachable : (startUpBarrier expectedNodeCount capacity).Reachable state)
    (found : state.sessions connection = some session) (started : session.Started) :
    Passed expectedNodeCount state :=
  passed_of_started (passing_of_reachable reachable) found started

/-! ## Links come first -/

def NoLinkAfter (earlier later : ControllerToDataplane) : Prop :=
  earlier.isDirectory = true → later.link? = none

theorem SetUp.links_first (setUp : SetUp) : setUp.messages.Pairwise NoLinkAfter := by
  refine List.pairwise_cons.mpr ⟨?_, List.pairwise_append.mpr ⟨?_, ?_, ?_⟩⟩
  · rintro _ _ ⟨⟩
  · apply List.pairwise_of_forall_mem_list
    intro earlier member _ _ directory
    rcases List.mem_map.mp member with ⟨link, _, rfl⟩
    cases directory
  · apply List.pairwise_of_forall_mem_list
    intro _ _ later member _
    rcases List.mem_cons.mp member with rfl | member
    · rfl
    · exact (setUp.group_messages_kinds later member).1
  · intro earlier member _ _ directory
    rcases List.mem_map.mp member with ⟨link, _, rfl⟩
    cases directory

/-- While a node is being set up, no other task sends it a group directory. -/
def DirectoryAfterSetUp (state : StartUpBarrier) (label : BarrierLabel) : Prop :=
  ∀ connection message, label = .sent connection message → message.isDirectory = true →
    connection ∉ state.topology.settingUp

/-- A set-up that is done has nothing left to send, and no node is sent a link after a directory. -/
structure LinksFirst (state : StartUpBarrier) : Prop where
  finished : ∀ connection session, state.sessions connection = some session →
    connection ∉ state.topology.settingUp → session.rest = []
  ordered : ∀ connection session, state.sessions connection = some session →
    session.messages.Pairwise NoLinkAfter

theorem links_first_session (first : LinksFirst state)
    (found : state.sessions connection = some session) {later : NodeSession}
    (finished : session.rest = [] → later.rest = [])
    (ordered : later.messages.Pairwise NoLinkAfter) :
    LinksFirst (state.setSession connection later) where
  finished other own held settled := by
    simp only [StartUpBarrier.setSession, Function.update_apply] at held
    split_ifs at held with here
    · cases held
      subst here
      exact finished (first.finished other session found settled)
    · exact first.finished other own held settled
  ordered other own held := by
    simp only [StartUpBarrier.setSession, Function.update_apply] at held
    split_ifs at held with here
    · cases held
      exact ordered
    · exact first.ordered other own held

theorem sent_ordered {message : ControllerToDataplane}
    (ordered : session.messages.Pairwise NoLinkAfter) (noLink : message.link? = none)
    (last : message.isDirectory = true → session.rest = []) :
    (session.send message).messages.Pairwise NoLinkAfter := by
  have split : session.messages = (session.handled ++ session.inbox) ++ session.rest := rfl
  rw [split] at ordered
  have longer : (session.send message).messages =
      (session.handled ++ session.inbox) ++ message :: session.rest := by
    simp only [NodeSession.messages, NodeSession.send, List.append_assoc, List.cons_append,
      List.nil_append]
  rcases List.pairwise_append.mp ordered with ⟨front, back, across⟩
  rw [longer]
  refine List.pairwise_append.mpr ⟨front, List.pairwise_cons.mpr ⟨?_, back⟩, ?_⟩
  · intro later member directory
    rw [last directory] at member
    cases member
  · intro earlier member later after
    rcases List.mem_cons.mp after with rfl | after
    · intro _
      exact noLink
    · exact across earlier member later after

theorem links_first_step (first : LinksFirst state)
    (guarded : DirectoryAfterSetUp state label)
    (step : BarrierStep expectedNodeCount capacity state label next) : LinksFirst next := by
  cases step with
  | connected => exact ⟨first.finished, first.ordered⟩
  | startedUp connection nodeId setUp opened settled fresh free =>
    have settingUp : (state.topology.startUp connection (some nodeId)).settingUp =
        insert connection state.topology.settingUp := by
      rw [topology_start_up state.topology connection free]
    refine ⟨?_, ?_⟩
    · intro other own held done
      simp only [StartUpBarrier.setSession, settingUp, Finset.mem_insert, not_or] at held done
      rw [Function.update_of_ne done.1] at held
      exact first.finished other own held done.2
    · intro other own held
      simp only [StartUpBarrier.setSession, Function.update_apply] at held
      split_ifs at held with here
      · cases held
        exact setUp.links_first
      · exact first.ordered other own held
  | refused connection maybeNodeId used => exact first
  | setUpSent connection session message rest found next =>
    apply links_first_session first found
    · intro impossible
      rw [next] at impossible
      cases impossible
    · rw [NodeSession.send_next_messages next]
      exact first.ordered connection session found
  | announced connection session settingUp found finished =>
    refine ⟨?_, first.ordered⟩
    intro other own held done
    by_cases here : other = connection
    · subst here
      rw [found] at held
      cases held
      exact finished
    · apply first.finished other own held
      intro still
      exact done (Finset.mem_erase.mpr ⟨here, still⟩)
  | sent connection session message found noLink notReady =>
    refine links_first_session first found id ?_
    apply sent_ordered (first.ordered connection session found) noLink
    intro directory
    exact first.finished connection session found (guarded connection message rfl directory)
  | handled connection session message later found next =>
    apply links_first_session first found
    · intro finished
      rw [NodeSession.handle_kept.2.2.1]
      exact finished
    · rw [NodeSession.handle_messages next]
      exact first.ordered connection session found
  | reported connection session opened settled found some =>
    have heard : LinksFirst
        { state with
          topology := state.topology.nodeTopologyReady expectedNodeCount connection } := by
      refine ⟨?_, first.ordered⟩
      intro other own held done
      apply first.finished other own held
      simp only [TopologyState.nodeTopologyReady] at done
      cases known : state.topology.registry.currentNodeId connection with
      | none =>
        rw [known] at done
        exact done
      | some nodeId =>
        rw [known] at done
        exact done
    exact links_first_session heard found id (first.ordered connection session found)
  | closed connection opened settled => exact ⟨first.finished, first.ordered⟩
  | eventHandled event later received =>
    simp only [StartUpBarrier.take]
    split_ifs with broadcast
    · refine ⟨?_, ?_⟩
      · intro other own held done
        rcases sent_topology_ready held with ⟨before, found, kept | sent⟩
        · rw [kept.1]
          exact first.finished other before found done
        · rw [sent.1]
          exact first.finished other before found done
      · intro other own held
        rcases sent_topology_ready held with ⟨before, found, kept | sent⟩
        · rw [kept.1]
          exact first.ordered other before found
        · rw [sent.1]
          refine sent_ordered (first.ordered other before found) rfl ?_
          intro impossible
          cases impossible
    · exact ⟨first.finished, first.ordered⟩
  | lagged later received => exact ⟨first.finished, first.ordered⟩

theorem wired_of_reported (sound : SessionSound state connection session)
    (ordered : session.messages.Pairwise NoLinkAfter) (reported : session.Reported) :
    session.Wired := by
  rcases reported with ⟨before, after, split, front, inside, _, directory, links⟩
  refine ⟨before, after, split, links.trans ?_⟩
  rcases List.any_eq_true.mp directory with ⟨message, member, isDirectory⟩
  have whole : front <+: session.messages := by
    rw [NodeSession.messages, List.append_assoc]
    exact inside.trans (List.prefix_append _ _)
  rcases whole with ⟨back, same⟩
  rw [← same] at ordered
  have none : back.filterMap ControllerToDataplane.link? = [] := by
    rw [List.filterMap_eq_nil_iff]
    intro later held
    exact (List.pairwise_append.mp ordered).2.2 message member later held isDirectory
  rw [← sound.links, ← same, List.filterMap_append, none, List.append_nil]

/-- In every run in which no other task sends a node a group directory while it is being set up, a
flow starts only after as many nodes as expected have reported with every link of their set-up up. -/
theorem flows_start_after_links {labels : List BarrierLabel}
    (run : ((startUpBarrier expectedNodeCount capacity).restrict DirectoryAfterSetUp).Run
      .start labels state)
    (found : state.sessions connection = some session) (started : session.Started) :
    ∃ ids : Finset NodeId, (∃ expected, expectedNodeCount = some expected ∧ expected ≤ ids.card) ∧
      ∀ id ∈ ids, ∃ other own, state.sessions other = some own ∧ own.nodeId = id ∧ own.Wired := by
  have both : Passing expectedNodeCount state ∧ LinksFirst state := by
    apply TransitionSystem.run_preserves (motive := fun state =>
      Passing expectedNodeCount state ∧ LinksFirst state) _ run
    · refine ⟨passing_start, ?_, ?_⟩
      · intro _ _ held
        cases held
      · intro _ _ held
        cases held
    · rintro state label next ⟨passing, first⟩ ⟨guarded, step⟩
      exact ⟨passing_step passing step, links_first_step first guarded step⟩
  rcases passed_of_started both.1 found started with ⟨ids, enough, reported⟩
  refine ⟨ids, enough, ?_⟩
  intro id member
  rcases reported id member with ⟨other, own, held, named, _, report⟩
  exact ⟨other, own, held, named,
    wired_of_reported (both.1.sessions other own held) (both.2.ordered other own held) report⟩

end Runs

/-! ## One node and its flow -/

/-- No connection closes, no event is missed, no set-up goes without a directory, and other tasks send a
node nothing before the answer to its StartUp was sent. -/
structure Orderly (state : StartUpBarrier) (label : BarrierLabel) : Prop where
  opened : ∀ connection, label ≠ .closed connection
  prompt : label ≠ .lagged
  directory : ∀ connection nodeId setUp, label = .startedUp connection nodeId setUp →
    setUp.groups ≠ none
  answered : ∀ connection message session, label = .sent connection message →
    state.sessions connection = some session → .startUp ∉ session.rest

/-- A step that every run may take: set-ups bring directories, and only they send messages. -/
def BarrierLabel.plain : BarrierLabel → Bool
  | .startedUp _ _ setUp => setUp.groups.isSome
  | .sent _ _ => false
  | .closed _ => false
  | .lagged => false
  | _ => true

theorem plain_guarded {state : StartUpBarrier} {label : BarrierLabel} (plain : label.plain = true) :
    DirectoryAfterSetUp state label ∧ Orderly state label := by
  refine ⟨?_, ?_, ?_, ?_, ?_⟩
  · rintro connection message rfl
    cases plain
  · rintro connection rfl
    cases plain
  · rintro rfl
    cases plain
  · rintro connection nodeId setUp rfl
    exact Option.isSome_iff_ne_none.mp plain
  · rintro connection message session rfl
    cases plain

theorem plain_run {start middle finish : StartUpBarrier} {label : BarrierLabel}
    {labels : List BarrierLabel} (step : BarrierStep (some 1) 1024 start label middle)
    (plain : label.plain = true)
    (rest : ((startUpBarrier (some 1) 1024).restrict fun state label =>
      DirectoryAfterSetUp state label ∧ Orderly state label).Run middle labels finish) :
    ((startUpBarrier (some 1) 1024).restrict fun state label =>
      DirectoryAfterSetUp state label ∧ Orderly state label).Run start (label :: labels) finish :=
  .cons ⟨plain_guarded plain, step⟩ rest

theorem sent_run {start middle finish : StartUpBarrier} {connection : ConnectionId}
    {message : ControllerToDataplane} {labels : List BarrierLabel} {session : NodeSession}
    (step : BarrierStep (some 1) 1024 start (.sent connection message) middle)
    (other : message.isDirectory = false) (found : start.sessions connection = some session)
    (answered : .startUp ∉ session.rest)
    (rest : ((startUpBarrier (some 1) 1024).restrict fun state label =>
      DirectoryAfterSetUp state label ∧ Orderly state label).Run middle labels finish) :
    ((startUpBarrier (some 1) 1024).restrict fun state label =>
      DirectoryAfterSetUp state label ∧ Orderly state label).Run start
        (.sent connection message :: labels) finish := by
  refine .cons ⟨⟨?_, ?_, ?_, ?_, ?_⟩, step⟩ rest
  · rintro _ _ ⟨⟩ directory
    rw [other] at directory
    cases directory
  · rintro _ ⟨⟩
  · rintro ⟨⟩
  · rintro _ _ _ ⟨⟩
  · rintro _ _ own ⟨⟩ held
    rw [found] at held
    cases held
    exact answered

def plainSetUp : SetUp := ⟨[⟨2, "10.0.0.2:8000"⟩], [], some ([], [])⟩

def firstFlow : Messages.Flow := ⟨some 1, 1, 2, none, ⟨.bytes 4096, none, none, .tcp⟩⟩

/-- The one expected node is answered, is sent a flow while it is set up, reports, is told and starts
the flow. -/
theorem one_node_run : ∃ state session,
    ((startUpBarrier (some 1) 1024).restrict fun state label =>
      DirectoryAfterSetUp state label ∧ Orderly state label).Run .start
      [.connected, .startedUp 0 1 plainSetUp, .setUpSent 0, .setUpSent 0,
        .sent 0 (.addFlows [firstFlow]), .setUpSent 0, .setUpSent 0, .announced 0, .handled 0,
        .handled 0, .handled 0, .handled 0, .handled 0, .reported 0, .eventHandled, .eventHandled,
        .handled 0] state ∧
    state.sessions 0 = some session ∧
    session.effects.flatMap ControlEffect.tcpStarted = [firstFlow] ∧
    (connectedIds state.topology.events).card = 1 ∧ state.topology.settingUp = ∅ ∧
    state.topology.coordinator.cursor.position = state.topology.events.length ∧
    state.topology.registry.currentNodeId = Function.update (fun _ => none) 0 (some 1) ∧
    session.rest = [] ∧ session.inbox = [] ∧ session.reports = 0 := by
  apply Exists.intro
  apply Exists.intro
  constructor
  · apply plain_run .connected rfl
    apply plain_run (.startedUp 0 1 plainSetUp (by decide) (by decide) rfl rfl) rfl
    apply plain_run (.setUpSent 0 _ _ _ rfl rfl) rfl
    apply plain_run (.setUpSent 0 _ _ _ rfl rfl) rfl
    apply sent_run (.sent 0 _ (.addFlows [firstFlow]) rfl rfl rfl) rfl rfl
    · rintro (_ | ⟨_, _ | ⟨_, ⟨⟩⟩⟩)
    apply plain_run (.setUpSent 0 _ _ _ rfl rfl) rfl
    apply plain_run (.setUpSent 0 _ _ _ rfl rfl) rfl
    apply plain_run (.announced 0 _ (by decide) rfl rfl) rfl
    apply plain_run (.handled 0 _ _ _ rfl rfl) rfl
    apply plain_run (.handled 0 _ _ _ rfl rfl) rfl
    apply plain_run (.handled 0 _ _ _ rfl rfl) rfl
    apply plain_run (.handled 0 _ _ _ rfl rfl) rfl
    apply plain_run (.handled 0 _ _ _ rfl rfl) rfl
    apply plain_run (.reported 0 _ (by decide) (by decide) rfl (by decide)) rfl
    apply plain_run (.eventHandled _ _ rfl) rfl
    apply plain_run (.eventHandled _ _ rfl) rfl
    exact plain_run (.handled 0 _ _ _ rfl rfl) rfl .nil
  · exact ⟨rfl, rfl, rfl, rfl, rfl, rfl, rfl, rfl, rfl⟩

theorem one_node_starts_flow : ∃ (state : StartUpBarrier) (session : NodeSession),
    state.sessions 0 = some session ∧
    session.effects.flatMap ControlEffect.tcpStarted = [firstFlow] ∧ Passed (some 1) state := by
  rcases one_node_run with ⟨state, session, run, found, started, _⟩
  have reachable : (startUpBarrier (some 1) 1024).Reachable state :=
    ⟨_, _, rfl, run.unrestricted⟩
  refine ⟨state, session, found, started, flows_start_after_reports reachable found (.inl ?_)⟩
  rw [started]
  exact List.cons_ne_nil _ _

theorem one_node_wired : ∃ (state : StartUpBarrier) (session : NodeSession),
    state.sessions 0 = some session ∧
    session.effects.flatMap ControlEffect.tcpStarted = [firstFlow] ∧
    ∃ ids : Finset NodeId, (∃ expected, some 1 = some expected ∧ expected ≤ ids.card) ∧
      ∀ id ∈ ids, ∃ other own, state.sessions other = some own ∧ own.nodeId = id ∧ own.Wired := by
  rcases one_node_run with ⟨state, session, run, found, started, _⟩
  have guarded : ((startUpBarrier (some 1) 1024).restrict DirectoryAfterSetUp).Run .start _ state :=
    TransitionSystem.Run.restrict_mono run fun _ _ both => both.1
  refine ⟨state, session, found, started, flows_start_after_links guarded found (.inl ?_)⟩
  rw [started]
  exact List.cons_ne_nil _ _

end Nextmini.Controller
