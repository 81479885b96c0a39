import Mathlib.Data.Finset.Card
import Nextmini.Controller.NodeRegistry
import Nextmini.Library.BroadcastRing

/-!
# Topology readiness

The controller announces each node that has been set up, and each node that reports its links ready,
to a coordinator that counts ids and broadcasts TopologyReady when both counts equal the expected
number. The counts only grow: they know nothing of connections that close. Beside the state it is
recorded which nodes are connected and have reported since, and whether they were ever enough.
-/

namespace Nextmini.Controller

open Nextmini.Library Nextmini.Routing

set_option autoImplicit false

/-! ## The coordinator -/

inductive TopologyEvent where
  | nodeConnected (nodeId : NodeId)
  | nodeLocallyReady (nodeId : NodeId)

structure Coordinator where
  cursor : RingCursor TopologyEvent
  connectedNodes : Finset NodeId
  locallyReadyNodes : Finset NodeId
  topologyReadySent : Bool
  broadcasts : Nat

namespace Coordinator

def start : Coordinator where
  cursor := .start
  connectedNodes := ∅
  locallyReadyNodes := ∅
  topologyReadySent := false
  broadcasts := 0

def maybeBroadcastTopologyReady (expectedNodeCount : Option Nat) (coordinator : Coordinator) :
    Coordinator :=
  match expectedNodeCount with
  | none => coordinator
  | some expected =>
      if coordinator.topologyReadySent then coordinator
      else if coordinator.connectedNodes.card = expected ∧
          coordinator.locallyReadyNodes.card = expected then
        { coordinator with
          topologyReadySent := true
          broadcasts := coordinator.broadcasts + 1 }
      else coordinator

/-- An id that has connected before is passed over without a check. -/
def handle (expectedNodeCount : Option Nat) (coordinator : Coordinator) :
    TopologyEvent → Coordinator
  | .nodeConnected nodeId =>
      if nodeId ∈ coordinator.connectedNodes then coordinator
      else
        maybeBroadcastTopologyReady expectedNodeCount
          { coordinator with connectedNodes := insert nodeId coordinator.connectedNodes }
  | .nodeLocallyReady nodeId =>
      maybeBroadcastTopologyReady expectedNodeCount
        { coordinator with locallyReadyNodes := insert nodeId coordinator.locallyReadyNodes }

end Coordinator

/-! ## The controller -/

/-- The connections, those whose node is being set up, the events sent and the coordinator; and the
record of the nodes connected and ready, and of whether they were ever as many as expected. -/
structure TopologyState where
  registry : NodeRegistry
  settingUp : Finset ConnectionId
  events : List TopologyEvent
  coordinator : Coordinator
  ready : Finset NodeId
  wasReady : Bool

/-- At least as many nodes as expected. -/
def allReady (expectedNodeCount : Option Nat) (ready : Finset NodeId) : Bool :=
  match expectedNodeCount with
  | none => false
  | some expected => expected ≤ ready.card

namespace TopologyState

def start : TopologyState where
  registry := .empty
  settingUp := ∅
  events := []
  coordinator := .start
  ready := ∅
  wasReady := false

/-- An accepted StartUp is followed by the set-up of the node, which starts out not ready. -/
def startUp (state : TopologyState) (connection : ConnectionId) (maybeNodeId : Option NodeId) :
    TopologyState :=
  match maybeNodeId with
  | none => state
  | some nodeId =>
      if (state.registry.nodeWs nodeId).isSome then state
      else
        { state with
          registry := state.registry.startUp connection (some nodeId)
          settingUp := insert connection state.settingUp
          ready := state.ready.erase nodeId }

def announce (state : TopologyState) (connection : ConnectionId) (nodeId : NodeId) : TopologyState :=
  { state with
    settingUp := state.settingUp.erase connection
    events := state.events ++ [.nodeConnected nodeId] }

/-- A report counts for the id the connection registered; one before any StartUp is ignored. -/
def nodeTopologyReady (expectedNodeCount : Option Nat) (state : TopologyState)
    (connection : ConnectionId) : TopologyState :=
  match state.registry.currentNodeId connection with
  | none => state
  | some nodeId =>
      { state with
        events := state.events ++ [.nodeLocallyReady nodeId]
        ready := insert nodeId state.ready
        wasReady := state.wasReady || allReady expectedNodeCount (insert nodeId state.ready) }

/-- The nodes of a connection that closes are no longer connected. -/
def close (state : TopologyState) (connection : ConnectionId) : TopologyState :=
  { state with
    registry := state.registry.close connection
    ready := state.ready.filter fun nodeId => state.registry.registrar nodeId ≠ some connection }

end TopologyState

inductive TopologyLabel where
  | connected
  | startedUp (connection : ConnectionId) (maybeNodeId : Option NodeId)
  | announced (connection : ConnectionId)
  | reported (connection : ConnectionId)
  | closed (connection : ConnectionId)
  | eventHandled
  | lagged

/-- The task of a connection handles one message after another, so a connection whose node is being
set up neither reports nor closes. -/
inductive TopologyStep (expectedNodeCount : Option Nat) (capacity : Nat) (state : TopologyState) :
    TopologyLabel → TopologyState → Prop
  | connected :
      TopologyStep expectedNodeCount capacity state .connected
        { state with registry := state.registry.connect }
  | startedUp (connection : ConnectionId) (maybeNodeId : Option NodeId) :
      connection ∈ state.registry.opened → connection ∉ state.settingUp →
        TopologyStep expectedNodeCount capacity state (.startedUp connection maybeNodeId)
          (state.startUp connection maybeNodeId)
  | announced (connection : ConnectionId) (nodeId : NodeId) :
      connection ∈ state.settingUp → state.registry.currentNodeId connection = some nodeId →
        TopologyStep expectedNodeCount capacity state (.announced connection)
          (state.announce connection nodeId)
  | reported (connection : ConnectionId) :
      connection ∈ state.registry.opened → connection ∉ state.settingUp →
        TopologyStep expectedNodeCount capacity state (.reported connection)
          (state.nodeTopologyReady expectedNodeCount connection)
  | closed (connection : ConnectionId) :
      connection ∈ state.registry.opened → connection ∉ state.settingUp →
        TopologyStep expectedNodeCount capacity state (.closed connection) (state.close connection)
  | eventHandled (event : TopologyEvent) (later : RingCursor TopologyEvent) :
      state.coordinator.cursor.receive capacity state.events = .message event later →
        TopologyStep expectedNodeCount capacity state .eventHandled
          { state with
            coordinator :=
              Coordinator.handle expectedNodeCount { state.coordinator with cursor := later } event }
  | lagged (later : RingCursor TopologyEvent) :
      state.coordinator.cursor.receive capacity state.events = .lagged later →
        TopologyStep expectedNodeCount capacity state .lagged
          { state with coordinator := { state.coordinator with cursor := later } }

def topology (expectedNodeCount : Option Nat) (capacity : Nat) :
    TransitionSystem TopologyState TopologyLabel where
  initial state := state = .start
  step := TopologyStep expectedNodeCount capacity

/-- TopologyReady is broadcast at most once, only after as many nodes as expected were connected and
ready together, and by the time the coordinator has seen all events if they were. -/
structure ReadyOnce (state : TopologyState) : Prop where
  atMostOnce : state.coordinator.broadcasts ≤ 1
  notBefore : 0 < state.coordinator.broadcasts → state.wasReady = true
  always : state.wasReady = true → state.coordinator.cursor.position = state.events.length →
    state.coordinator.broadcasts = 1

/-! ## The ids in a list of events -/

def TopologyEvent.connectedId : TopologyEvent → Option NodeId
  | .nodeConnected nodeId => some nodeId
  | .nodeLocallyReady _ => none

def TopologyEvent.readyId : TopologyEvent → Option NodeId
  | .nodeConnected _ => none
  | .nodeLocallyReady nodeId => some nodeId

def connectedIds (events : List TopologyEvent) : Finset NodeId :=
  (events.filterMap TopologyEvent.connectedId).toFinset

def readyIds (events : List TopologyEvent) : Finset NodeId :=
  (events.filterMap TopologyEvent.readyId).toFinset

@[simp] theorem connected_ids_nil : connectedIds [] = ∅ := rfl

@[simp] theorem ready_ids_nil : readyIds [] = ∅ := rfl

@[simp] theorem connected_ids_connected (events : List TopologyEvent) (nodeId : NodeId) :
    connectedIds (events ++ [.nodeConnected nodeId]) = insert nodeId (connectedIds events) := by
  ext other
  simp [connectedIds, TopologyEvent.connectedId]

@[simp] theorem connected_ids_ready (events : List TopologyEvent) (nodeId : NodeId) :
    connectedIds (events ++ [.nodeLocallyReady nodeId]) = connectedIds events := by
  simp [connectedIds, TopologyEvent.connectedId, List.filterMap_cons]

@[simp] theorem ready_ids_connected (events : List TopologyEvent) (nodeId : NodeId) :
    readyIds (events ++ [.nodeConnected nodeId]) = readyIds events := by
  simp [readyIds, TopologyEvent.readyId, List.filterMap_cons]

@[simp] theorem ready_ids_ready (events : List TopologyEvent) (nodeId : NodeId) :
    readyIds (events ++ [.nodeLocallyReady nodeId]) = insert nodeId (readyIds events) := by
  ext other
  simp [readyIds, TopologyEvent.readyId]

/-- As many ids as expected were ever announced, and as many were ever reported. -/
def CountsMet (expectedNodeCount : Option Nat) (events : List TopologyEvent) : Prop :=
  ∃ expected, expectedNodeCount = some expected ∧ (connectedIds events).card = expected ∧
    (readyIds events).card = expected

/-- They were after one of the events. -/
def EverMet (expectedNodeCount : Option Nat) (events : List TopologyEvent) : Prop :=
  ∃ front event, front ++ [event] <+: events ∧ CountsMet expectedNodeCount (front ++ [event])

section Counts

variable {expectedNodeCount : Option Nat} {events : List TopologyEvent}

theorem ever_met_nil : ¬EverMet expectedNodeCount [] := by
  rintro ⟨front, event, inside, _⟩
  exact List.append_ne_nil_of_right_ne_nil front (List.cons_ne_nil event [])
    (List.prefix_nil.mp inside)

theorem ever_met_concat (event : TopologyEvent) :
    EverMet expectedNodeCount (events ++ [event]) ↔
      EverMet expectedNodeCount events ∨ CountsMet expectedNodeCount (events ++ [event]) := by
  constructor
  · rintro ⟨front, last, inside, met⟩
    rcases List.prefix_concat_iff.mp inside with same | before
    · rw [same] at met
      exact .inr met
    · exact .inl ⟨front, last, before, met⟩
  · rintro (⟨front, last, inside, met⟩ | met)
    · exact ⟨front, last, inside.trans (List.prefix_append _ _), met⟩
    · exact ⟨events, event, List.prefix_rfl, met⟩

theorem ever_met_mono {front : List TopologyEvent} (inside : front <+: events)
    (met : EverMet expectedNodeCount front) : EverMet expectedNodeCount events := by
  rcases met with ⟨before, event, within, met⟩
  exact ⟨before, event, within.trans inside, met⟩

theorem counts_met_known {nodeId : NodeId} (known : nodeId ∈ connectedIds events)
    (met : CountsMet expectedNodeCount (events ++ [.nodeConnected nodeId])) :
    EverMet expectedNodeCount events := by
  rcases List.eq_nil_or_concat' events with rfl | ⟨front, last, rfl⟩
  · exact absurd known (Finset.notMem_empty _)
  · rcases met with ⟨expected, same, connected, ready⟩
    rw [connected_ids_connected, Finset.insert_eq_of_mem known] at connected
    rw [ready_ids_connected] at ready
    exact ⟨front, last, List.prefix_rfl, expected, same, connected, ready⟩

/-- The announcement of a new id leaves more ids announced than reported. -/
theorem counts_not_met_new {nodeId : NodeId} (fresh : nodeId ∉ connectedIds events)
    (reported : readyIds events ⊆ connectedIds events) :
    ¬CountsMet expectedNodeCount (events ++ [.nodeConnected nodeId]) := by
  rintro ⟨expected, _, connected, ready⟩
  have fewer := Finset.card_le_card reported
  rw [connected_ids_connected, Finset.card_insert_of_notMem fresh] at connected
  rw [ready_ids_connected] at ready
  omega

theorem ever_met_announced {nodeId : NodeId} (reported : readyIds events ⊆ connectedIds events) :
    EverMet expectedNodeCount (events ++ [.nodeConnected nodeId]) ↔
      EverMet expectedNodeCount events := by
  rw [ever_met_concat]
  constructor
  · rintro (before | met)
    · exact before
    · by_cases known : nodeId ∈ connectedIds events
      · exact counts_met_known known met
      · exact absurd met (counts_not_met_new known reported)
  · exact .inl

end Counts

/-! ## The coordinator on the events it takes -/

/-- The coordinator has taken every event up to its cursor, and the counts never met. -/
structure Waiting (expectedNodeCount : Option Nat) (capacity : Nat) (events : List TopologyEvent)
    (coordinator : Coordinator) : Prop where
  intact : coordinator.cursor.Intact events
  within : coordinator.cursor.behind events ≤ capacity
  connected : coordinator.connectedNodes = connectedIds coordinator.cursor.received
  ready : coordinator.locallyReadyNodes = readyIds coordinator.cursor.received
  unsent : coordinator.topologyReadySent = false
  none : coordinator.broadcasts = 0
  notMet : ¬EverMet expectedNodeCount coordinator.cursor.received

structure Broadcast (expectedNodeCount : Option Nat) (events : List TopologyEvent)
    (coordinator : Coordinator) : Prop where
  sent : coordinator.topologyReadySent = true
  once : coordinator.broadcasts = 1
  met : EverMet expectedNodeCount events

section Coordinator

variable {expectedNodeCount : Option Nat} {capacity : Nat} {events : List TopologyEvent}
  {coordinator : Coordinator}

variable (expectedNodeCount) in
theorem maybe_broadcast_counts {seen : List TopologyEvent}
    (connected : coordinator.connectedNodes = connectedIds seen)
    (ready : coordinator.locallyReadyNodes = readyIds seen)
    (unsent : coordinator.topologyReadySent = false) :
    (CountsMet expectedNodeCount seen ∧
      coordinator.maybeBroadcastTopologyReady expectedNodeCount =
        { coordinator with
          topologyReadySent := true
          broadcasts := coordinator.broadcasts + 1 }) ∨
    (¬CountsMet expectedNodeCount seen ∧
      coordinator.maybeBroadcastTopologyReady expectedNodeCount = coordinator) := by
  cases expectedNodeCount with
  | none =>
    right
    refine ⟨?_, rfl⟩
    rintro ⟨expected, ⟨⟩, _⟩
  | some expected =>
    simp only [Coordinator.maybeBroadcastTopologyReady, unsent, Bool.false_eq_true, if_false,
      connected, ready]
    by_cases met : (connectedIds seen).card = expected ∧ (readyIds seen).card = expected
    · left
      exact ⟨⟨expected, rfl, met⟩, if_pos met⟩
    · right
      refine ⟨?_, if_neg met⟩
      rintro ⟨_, ⟨⟩, counts⟩
      exact met counts

theorem maybe_broadcast_after (broadcast : Broadcast expectedNodeCount events coordinator) :
    Broadcast expectedNodeCount events
      (coordinator.maybeBroadcastTopologyReady expectedNodeCount) := by
  cases expectedNodeCount with
  | none => exact broadcast
  | some expected =>
    simp only [Coordinator.maybeBroadcastTopologyReady, if_pos broadcast.sent]
    exact broadcast

/-- After the broadcast no event brings another. -/
theorem handle_broadcast (broadcast : Broadcast expectedNodeCount events coordinator)
    (event : TopologyEvent) :
    Broadcast expectedNodeCount events (coordinator.handle expectedNodeCount event) := by
  rcases broadcast with ⟨sent, once, met⟩
  cases event with
  | nodeConnected nodeId =>
    simp only [Coordinator.handle]
    split_ifs with known
    · exact ⟨sent, once, met⟩
    · exact maybe_broadcast_after ⟨sent, once, met⟩
  | nodeLocallyReady nodeId => exact maybe_broadcast_after ⟨sent, once, met⟩

/-- A coordinator that has counted the events read so far and checks its counts. -/
theorem waiting_checked (intact : coordinator.cursor.Intact events)
    (within : coordinator.cursor.behind events ≤ capacity)
    (connected : coordinator.connectedNodes = connectedIds coordinator.cursor.received)
    (ready : coordinator.locallyReadyNodes = readyIds coordinator.cursor.received)
    (unsent : coordinator.topologyReadySent = false) (none : coordinator.broadcasts = 0)
    {before : List TopologyEvent} {event : TopologyEvent}
    (read : coordinator.cursor.received = before ++ [event])
    (notMet : ¬EverMet expectedNodeCount before) :
    Waiting expectedNodeCount capacity events
        (coordinator.maybeBroadcastTopologyReady expectedNodeCount) ∨
      Broadcast expectedNodeCount events
        (coordinator.maybeBroadcastTopologyReady expectedNodeCount) := by
  have inside : coordinator.cursor.received <+: events := by
    rw [intact.received]
    exact List.take_prefix _ _
  rcases maybe_broadcast_counts expectedNodeCount connected ready unsent with
    ⟨met, same⟩ | ⟨counts, same⟩
  · right
    rw [same]
    rw [read] at inside met
    refine ⟨rfl, ?_, ever_met_mono inside ((ever_met_concat event).mpr (.inr met))⟩
    simp only [none]
  · left
    rw [same]
    refine ⟨intact, within, connected, ready, unsent, none, ?_⟩
    rw [read] at counts ⊢
    rw [ever_met_concat]
    exact not_or.mpr ⟨notMet, counts⟩

theorem handle_waiting {event : TopologyEvent} {later : RingCursor TopologyEvent}
    (waiting : Waiting expectedNodeCount capacity events coordinator)
    (received : coordinator.cursor.receive capacity events = .message event later) :
    Waiting expectedNodeCount capacity events
        (Coordinator.handle expectedNodeCount { coordinator with cursor := later } event) ∨
      Broadcast expectedNodeCount events
        (Coordinator.handle expectedNodeCount { coordinator with cursor := later } event) := by
  rcases waiting with ⟨intact, within, connected, ready, unsent, none, notMet⟩
  have laterIntact := RingCursor.intact_receive intact received
  rcases RingCursor.receive_message received with ⟨_, _, position, read⟩
  have laterWithin : later.behind events ≤ capacity := by
    simp only [RingCursor.behind, position] at within ⊢
    omega
  cases event with
  | nodeConnected nodeId =>
    simp only [Coordinator.handle]
    split_ifs with known
    · left
      rw [connected] at known
      refine ⟨laterIntact, laterWithin, ?_, ?_, unsent, none, ?_⟩
      · rw [read, connected_ids_connected, Finset.insert_eq_of_mem known]
        exact connected
      · rw [read, ready_ids_connected]
        exact ready
      · rw [read, ever_met_concat]
        exact not_or.mpr ⟨notMet, notMet ∘ counts_met_known known⟩
    · refine waiting_checked laterIntact laterWithin ?_ ?_ unsent none read notMet
      · rw [read, connected_ids_connected, connected]
      · rw [read, ready_ids_connected]
        exact ready
  | nodeLocallyReady nodeId =>
    refine waiting_checked laterIntact laterWithin ?_ ?_ unsent none read notMet
    · rw [read, connected_ids_ready]
      exact connected
    · rw [read, ready_ids_ready, ready]

theorem counted_send (counted : Waiting expectedNodeCount capacity events coordinator ∨
      Broadcast expectedNodeCount events coordinator)
    (room : coordinator.broadcasts = 0 → coordinator.cursor.behind events < capacity)
    (event : TopologyEvent) :
    Waiting expectedNodeCount capacity (events ++ [event]) coordinator ∨
      Broadcast expectedNodeCount (events ++ [event]) coordinator := by
  rcases counted with waiting | broadcast
  · left
    have before := room waiting.none
    refine { waiting with intact := RingCursor.intact_send waiting.intact event, within := ?_ }
    simp only [RingCursor.behind, List.length_append, List.length_singleton] at before ⊢
    omega
  · right
    exact { broadcast with met := ever_met_mono (List.prefix_append _ _) broadcast.met }

end Coordinator

/-! ## Runs -/

/-- Each id a connection reports for was announced, and so was each id reported. -/
structure AnnouncedFirst (state : TopologyState) : Prop where
  current : ∀ connection ∉ state.settingUp, ∀ nodeId,
    state.registry.currentNodeId connection = some nodeId → nodeId ∈ connectedIds state.events
  reported : readyIds state.events ⊆ connectedIds state.events

/-- The counts have met exactly when enough nodes were connected and ready together, and the
coordinator is still waiting for that or has broadcast. -/
structure Counted (expectedNodeCount : Option Nat) (capacity : Nat) (state : TopologyState) :
    Prop where
  met : EverMet expectedNodeCount state.events ↔ state.wasReady = true
  coordinator : Waiting expectedNodeCount capacity state.events state.coordinator ∨
    Broadcast expectedNodeCount state.events state.coordinator

/-- Until the broadcast, events are sent only while the coordinator is less than the capacity behind.
Until as many nodes as expected are connected and ready, no more ids than that are announced, and no
connection of a node that has reported closes. -/
structure CountsInTime (expectedNodeCount : Option Nat) (capacity : Nat) (state : TopologyState)
    (label : TopologyLabel) : Prop where
  room : ∀ connection, label = .announced connection ∨ label = .reported connection →
    state.coordinator.broadcasts = 0 →
      state.coordinator.cursor.behind state.events < capacity
  few : ∀ connection nodeId, label = .announced connection →
    state.registry.currentNodeId connection = some nodeId → state.wasReady = false →
      ∀ expected ∈ expectedNodeCount,
        (connectedIds (state.events ++ [.nodeConnected nodeId])).card ≤ expected
  stays : ∀ connection, label = .closed connection → state.wasReady = false →
    ∀ nodeId ∈ readyIds state.events, state.registry.registrar nodeId ≠ some connection

/-- Until enough nodes are ready, the ids ever reported are those of the nodes that are connected and
ready, and no more ids than expected were announced. -/
structure Together (expectedNodeCount : Option Nat) (state : TopologyState) : Prop where
  registered : Registered state.registry
  same : state.wasReady = false → readyIds state.events = state.ready
  present : state.wasReady = false → ∀ nodeId ∈ state.ready,
    ∃ connection ∈ state.registry.opened, state.registry.registrar nodeId = some connection
  few : state.wasReady = false → ∀ expected ∈ expectedNodeCount,
    (connectedIds state.events).card ≤ expected

section Runs

variable {expectedNodeCount : Option Nat} {capacity : Nat} {state next : TopologyState}
  {label : TopologyLabel}

theorem announced_first_start : AnnouncedFirst .start where
  current _ _ _ current := by cases current
  reported := by rfl

theorem announced_first_step (announced : AnnouncedFirst state)
    (step : TopologyStep expectedNodeCount capacity state label next) : AnnouncedFirst next := by
  rcases announced with ⟨current, reported⟩
  cases step with
  | connected => exact ⟨current, reported⟩
  | startedUp connection maybeNodeId opened ready =>
    cases maybeNodeId with
    | none => exact ⟨current, reported⟩
    | some nodeId =>
      simp only [TopologyState.startUp]
      split_ifs with used
      · exact ⟨current, reported⟩
      · refine ⟨?_, reported⟩
        intro other settled otherId known
        rcases not_or.mp (Finset.mem_insert.not.mp settled) with ⟨apart, before⟩
        have free := Option.not_isSome_iff_eq_none.mp used
        rw [start_up_accepted connection free] at known
        simp only [Function.update_apply, if_neg apart] at known
        exact current other before otherId known
  | announced connection nodeId settingUp own =>
    simp only [TopologyState.announce]
    constructor
    · intro other settled otherId known
      rw [connected_ids_connected]
      by_cases same : other = connection
      · subst same
        rw [own] at known
        cases known
        exact Finset.mem_insert_self _ _
      · apply Finset.mem_insert_of_mem
        apply current other _ otherId known
        intro before
        exact settled (Finset.mem_erase.mpr ⟨same, before⟩)
    · rw [ready_ids_connected, connected_ids_connected]
      exact reported.trans (Finset.subset_insert _ _)
  | reported connection opened settled =>
    simp only [TopologyState.nodeTopologyReady]
    cases known : state.registry.currentNodeId connection with
    | none => exact ⟨current, reported⟩
    | some nodeId =>
      have member := current connection settled nodeId known
      constructor
      · intro other settled otherId known
        rw [connected_ids_ready]
        exact current other settled otherId known
      · rw [ready_ids_ready, connected_ids_ready]
        exact Finset.insert_subset member reported
  | closed connection opened settled => exact ⟨current, reported⟩
  | eventHandled event later received => exact ⟨current, reported⟩
  | lagged later received => exact ⟨current, reported⟩

theorem together_start : Together expectedNodeCount .start where
  registered := registered_empty
  same _ := rfl
  present _ _ member := absurd member (Finset.notMem_empty _)
  few _ _ _ := Nat.zero_le _

/-- The id of an accepted StartUp is not that of a node that is connected and ready. -/
theorem together_start_up (together : Together expectedNodeCount state) {connection : ConnectionId}
    (opened : connection ∈ state.registry.opened) (maybeNodeId : Option NodeId) :
    Together expectedNodeCount (state.startUp connection maybeNodeId) := by
  cases maybeNodeId with
  | none => exact together
  | some nodeId =>
    simp only [TopologyState.startUp]
    split_ifs with used
    · exact together
    · have free := Option.not_isSome_iff_eq_none.mp used
      have away (waiting : state.wasReady = false) : nodeId ∉ state.ready := by
        intro member
        rcases together.present waiting nodeId member with ⟨holder, live, registrar⟩
        have entry := together.registered.kept nodeId holder live registrar
        rw [free] at entry
        cases entry
      refine ⟨registered_start_up together.registered opened (some nodeId), ?_, ?_, together.few⟩
      · intro waiting
        rw [together.same waiting, Finset.erase_eq_of_notMem (away waiting)]
      · intro waiting other member
        have before := Finset.mem_of_mem_erase member
        rcases together.present waiting other before with ⟨holder, live, registrar⟩
        have apart : other ≠ nodeId := by
          rintro rfl
          exact away waiting before
        rw [start_up_accepted connection free]
        refine ⟨holder, live, ?_⟩
        simp only [Function.update_apply, if_neg apart]
        exact registrar

theorem together_report (together : Together expectedNodeCount state) {connection : ConnectionId}
    (opened : connection ∈ state.registry.opened) :
    Together expectedNodeCount (state.nodeTopologyReady expectedNodeCount connection) := by
  simp only [TopologyState.nodeTopologyReady]
  cases known : state.registry.currentNodeId connection with
  | none => exact together
  | some nodeId =>
    refine ⟨together.registered, ?_, ?_, ?_⟩
    · intro waiting
      rw [ready_ids_ready, together.same (Bool.or_eq_false_iff.mp waiting).1]
    · intro waiting other member
      rcases Finset.mem_insert.mp member with rfl | before
      · have entry := together.registered.current connection opened other known
        exact ⟨connection, opened, (together.registered.entry other connection entry).1⟩
      · exact together.present (Bool.or_eq_false_iff.mp waiting).1 other before
    · intro waiting expected counted
      rw [connected_ids_ready]
      exact together.few (Bool.or_eq_false_iff.mp waiting).1 expected counted

theorem together_close (together : Together expectedNodeCount state) {connection : ConnectionId}
    (opened : connection ∈ state.registry.opened)
    (guarded : CountsInTime expectedNodeCount capacity state (.closed connection)) :
    Together expectedNodeCount (state.close connection) := by
  have apart (waiting : state.wasReady = false) (nodeId : NodeId) (member : nodeId ∈ state.ready) :
      state.registry.registrar nodeId ≠ some connection := by
    rw [← together.same waiting] at member
    exact guarded.stays connection rfl waiting nodeId member
  refine ⟨registered_close together.registered opened, ?_, ?_, together.few⟩
  · intro waiting
    have kept := Finset.filter_true_of_mem (apart waiting)
    simp only [TopologyState.close, kept]
    exact together.same waiting
  · intro waiting nodeId member
    have before := (Finset.mem_filter.mp member).1
    rcases together.present waiting nodeId before with ⟨holder, live, registrar⟩
    refine ⟨holder, Finset.mem_erase.mpr ⟨?_, live⟩, registrar⟩
    rintro rfl
    exact apart waiting nodeId before registrar

theorem together_step (together : Together expectedNodeCount state)
    (guarded : CountsInTime expectedNodeCount capacity state label)
    (step : TopologyStep expectedNodeCount capacity state label next) :
    Together expectedNodeCount next := by
  cases step with
  | connected =>
    refine ⟨registered_connect together.registered, together.same, ?_, together.few⟩
    intro waiting nodeId member
    rcases together.present waiting nodeId member with ⟨holder, live, registrar⟩
    exact ⟨holder, Finset.mem_insert_of_mem live, registrar⟩
  | startedUp connection maybeNodeId opened settled => exact together_start_up together opened _
  | announced connection nodeId settingUp own =>
    refine ⟨together.registered, ?_, together.present, ?_⟩
    · intro waiting
      simp only [TopologyState.announce, ready_ids_connected]
      exact together.same waiting
    · intro waiting expected counted
      exact guarded.few connection nodeId rfl own waiting expected counted
  | reported connection opened settled => exact together_report together opened
  | closed connection opened settled => exact together_close together opened guarded
  | eventHandled event later received =>
    exact ⟨together.registered, together.same, together.present, together.few⟩
  | lagged later received =>
    exact ⟨together.registered, together.same, together.present, together.few⟩

/-- A report makes as many ids as expected ever announced and ever reported exactly when it makes as
many nodes as expected connected and ready. -/
theorem counts_met_iff_ready (announced : AnnouncedFirst state)
    (together : Together expectedNodeCount state) {connection : ConnectionId} {nodeId : NodeId}
    (settled : connection ∉ state.settingUp)
    (known : state.registry.currentNodeId connection = some nodeId)
    (waiting : state.wasReady = false) :
    CountsMet expectedNodeCount (state.events ++ [.nodeLocallyReady nodeId]) ↔
      allReady expectedNodeCount (insert nodeId state.ready) = true := by
  have member := announced.current connection settled nodeId known
  have fewer := Finset.card_le_card (Finset.insert_subset member announced.reported)
  rw [together.same waiting] at fewer
  unfold CountsMet
  rw [ready_ids_ready, connected_ids_ready, together.same waiting]
  cases expectedNodeCount with
  | none =>
    refine iff_of_false ?_ ?_
    · rintro ⟨_, ⟨⟩, _⟩
    · rintro ⟨⟩
  | some expected =>
    have few := together.few waiting expected rfl
    rw [allReady, decide_eq_true_eq]
    constructor
    · rintro ⟨_, ⟨⟩, _, ready⟩
      exact ready.ge
    · intro enough
      exact ⟨expected, rfl, by omega, by omega⟩

theorem counted_start : Counted expectedNodeCount capacity .start where
  met := by
    refine iff_of_false ever_met_nil ?_
    rintro ⟨⟩
  coordinator :=
    .inl ⟨RingCursor.intact_start, Nat.zero_le _, rfl, rfl, rfl, rfl, ever_met_nil⟩

theorem counted_report {connection : ConnectionId} (announced : AnnouncedFirst state)
    (together : Together expectedNodeCount state)
    (counted : Counted expectedNodeCount capacity state) (settled : connection ∉ state.settingUp)
    (guarded : CountsInTime expectedNodeCount capacity state (.reported connection)) :
    Counted expectedNodeCount capacity (state.nodeTopologyReady expectedNodeCount connection) := by
  rcases counted with ⟨met, coordinator⟩
  simp only [TopologyState.nodeTopologyReady]
  cases known : state.registry.currentNodeId connection with
  | none => exact ⟨met, coordinator⟩
  | some nodeId =>
    refine ⟨?_, counted_send coordinator (guarded.room connection (.inr rfl)) _⟩
    rw [ever_met_concat, met, Bool.or_eq_true]
    cases before : state.wasReady with
    | true => simp only [true_or]
    | false =>
      simp only [Bool.false_eq_true, false_or]
      exact counts_met_iff_ready announced together settled known before

theorem counted_step (announced : AnnouncedFirst state)
    (together : Together expectedNodeCount state)
    (counted : Counted expectedNodeCount capacity state)
    (guarded : CountsInTime expectedNodeCount capacity state label)
    (step : TopologyStep expectedNodeCount capacity state label next) :
    Counted expectedNodeCount capacity next := by
  cases step with
  | connected => exact ⟨counted.met, counted.coordinator⟩
  | startedUp connection maybeNodeId opened settled =>
    cases maybeNodeId with
    | none => exact counted
    | some nodeId =>
      simp only [TopologyState.startUp]
      split_ifs with used
      · exact counted
      · exact ⟨counted.met, counted.coordinator⟩
  | announced connection nodeId settingUp own =>
    refine ⟨?_, counted_send counted.coordinator (guarded.room connection (.inl rfl)) _⟩
    exact (ever_met_announced announced.reported).trans counted.met
  | reported connection opened settled =>
    exact counted_report announced together counted settled guarded
  | closed connection opened settled => exact ⟨counted.met, counted.coordinator⟩
  | eventHandled event later received =>
    refine ⟨counted.met, ?_⟩
    rcases counted.coordinator with waiting | ⟨sent, once, met⟩
    · exact handle_waiting waiting received
    · right
      have after : Broadcast expectedNodeCount state.events
          { state.coordinator with cursor := later } := ⟨sent, once, met⟩
      exact handle_broadcast after event
  | lagged later received =>
    refine ⟨counted.met, ?_⟩
    rcases counted.coordinator with waiting | ⟨sent, once, met⟩
    · exact absurd waiting.within (Nat.not_le.mpr (RingCursor.receive_lagged received).1)
    · right
      exact ⟨sent, once, met⟩

theorem ready_once_of_counted (counted : Counted expectedNodeCount capacity state) :
    ReadyOnce state := by
  rcases counted with ⟨met, waiting | broadcast⟩
  · refine ⟨?_, ?_, ?_⟩
    · rw [waiting.none]
      exact Nat.zero_le 1
    · intro some
      rw [waiting.none] at some
      exact absurd some (Nat.lt_irrefl 0)
    · intro ready caughtUp
      have all := RingCursor.intact_received_eq waiting.intact caughtUp
      have notMet := waiting.notMet
      rw [all] at notMet
      exact absurd (met.mpr ready) notMet
  · refine ⟨Nat.le_of_eq broadcast.once, ?_, ?_⟩
    · intro _
      exact met.mp broadcast.met
    · intro _ _
      exact broadcast.once

/-- In every run that keeps the counts in time, TopologyReady is broadcast once, not before enough
nodes are connected and ready, and always once they are. -/
theorem topology_ready_once (expectedNodeCount : Option Nat) (capacity : Nat)
    {labels : List TopologyLabel} {finish : TopologyState}
    (run : ((topology expectedNodeCount capacity).restrict
      (CountsInTime expectedNodeCount capacity)).Run .start labels finish) : ReadyOnce finish := by
  have all : AnnouncedFirst finish ∧ Together expectedNodeCount finish ∧
      Counted expectedNodeCount capacity finish := by
    apply TransitionSystem.run_preserves (motive := fun state => AnnouncedFirst state ∧
      Together expectedNodeCount state ∧ Counted expectedNodeCount capacity state) _ run
    · exact ⟨announced_first_start, together_start, counted_start⟩
    · rintro state label next ⟨announced, together, counted⟩ ⟨guarded, step⟩
      exact ⟨announced_first_step announced step, together_step together guarded step,
        counted_step announced together counted guarded step⟩
  exact ready_once_of_counted all.2.2

/-! ## One node, and one node too many -/

def TopologyState.after (expectedNodeCount : Option Nat) (state : TopologyState)
    (event : TopologyEvent) : TopologyState :=
  { state with
    coordinator := Coordinator.handle expectedNodeCount
      { state.coordinator with
        cursor :=
          { position := state.coordinator.cursor.position + 1
            received := state.coordinator.cursor.received ++ [event] } } event }

theorem event_taken {event : TopologyEvent}
    (within : state.coordinator.cursor.behind state.events ≤ capacity)
    (present : state.events[state.coordinator.cursor.position]? = some event) :
    TopologyStep expectedNodeCount capacity state .eventHandled
      (state.after expectedNodeCount event) := by
  apply TopologyStep.eventHandled
  rw [RingCursor.receive, if_neg (Nat.not_lt.mpr within), present]

theorem in_time_without_event (notAnnounced : ∀ connection, label ≠ .announced connection)
    (notReported : ∀ connection, label ≠ .reported connection)
    (notClosed : ∀ connection, label ≠ .closed connection) :
    CountsInTime expectedNodeCount capacity state label where
  room connection sends := by
    rcases sends with announced | reported
    · exact absurd announced (notAnnounced connection)
    · exact absurd reported (notReported connection)
  few connection _ announced := absurd announced (notAnnounced connection)
  stays connection closed := absurd closed (notClosed connection)

def oneAnnounced : TopologyState :=
  ({ TopologyState.start with registry := NodeRegistry.empty.connect }.startUp 0 (some 1)).announce 0 1

/-- The connection of the node has closed before it reports, and the node is set up anew. -/
def oneReconnected : TopologyState :=
  { oneAnnounced.close 0 with registry := (oneAnnounced.close 0).registry.connect }.startUp 1 (some 1)

def oneReported : TopologyState :=
  (oneReconnected.announce 1 1).nodeTopologyReady (some 1) 1

/-- The one node that is expected is announced, reconnects, is announced again and reports. -/
theorem one_node_ready :
    ReadyOnce (((oneReported.after (some 1) (.nodeConnected 1)).after (some 1)
      (.nodeConnected 1)).after (some 1) (.nodeLocallyReady 1)) := by
  have announceInTime : CountsInTime (some 1) 1024
      ({ TopologyState.start with registry := NodeRegistry.empty.connect }.startUp 0 (some 1))
      (.announced 0) := by
    constructor
    · intro _ _ _
      decide
    · rintro _ nodeId ⟨⟩ ⟨⟩ _ _ ⟨⟩
      decide
    · rintro _ ⟨⟩
  have closeInTime : CountsInTime (some 1) 1024 oneAnnounced (.closed 0) := by
    constructor
    · rintro _ (⟨⟨⟩⟩ | ⟨⟨⟩⟩)
    · rintro _ _ ⟨⟩
    · intro _ _ _ nodeId reported
      exact absurd reported (Finset.notMem_empty _)
  have againInTime : CountsInTime (some 1) 1024 oneReconnected (.announced 1) := by
    constructor
    · intro _ _ _
      decide
    · rintro _ nodeId ⟨⟩ ⟨⟩ _ _ ⟨⟩
      decide
    · rintro _ ⟨⟩
  have reportInTime : CountsInTime (some 1) 1024 (oneReconnected.announce 1 1) (.reported 1) := by
    constructor
    · intro _ _ _
      decide
    · rintro _ _ ⟨⟩
    · rintro _ ⟨⟩
  suffices run : ((topology (some 1) 1024).restrict (CountsInTime (some 1) 1024)).Run .start
      [.connected, .startedUp 0 (some 1), .announced 0, .closed 0, .connected, .startedUp 1 (some 1),
        .announced 1, .reported 1, .eventHandled, .eventHandled, .eventHandled]
      (((oneReported.after (some 1) (.nodeConnected 1)).after (some 1) (.nodeConnected 1)).after
        (some 1) (.nodeLocallyReady 1)) by
    exact topology_ready_once (some 1) 1024 run
  refine .cons ⟨in_time_without_event nofun nofun nofun, .connected⟩ ?_
  refine .cons ⟨in_time_without_event nofun nofun nofun, .startedUp 0 (some 1) ?_ ?_⟩ ?_
  · decide
  · decide
  refine .cons ⟨announceInTime, .announced 0 1 ?_ rfl⟩ (.cons ⟨closeInTime, .closed 0 ?_ ?_⟩ ?_)
  · decide
  · decide
  · decide
  refine .cons ⟨in_time_without_event nofun nofun nofun, .connected⟩ ?_
  refine .cons ⟨in_time_without_event nofun nofun nofun, .startedUp 1 (some 1) ?_ ?_⟩ ?_
  · decide
  · decide
  refine .cons ⟨againInTime, .announced 1 1 ?_ rfl⟩ (.cons ⟨reportInTime, .reported 1 ?_ ?_⟩ ?_)
  · decide
  · decide
  · decide
  refine .cons ⟨in_time_without_event nofun nofun nofun, event_taken ?_ rfl⟩
    (.cons ⟨in_time_without_event nofun nofun nofun, event_taken ?_ rfl⟩
      (.single ⟨in_time_without_event nofun nofun nofun, event_taken ?_ rfl⟩))
  · decide
  · decide
  · decide

def twoConnected : TopologyState :=
  { TopologyState.start with registry := NodeRegistry.empty.connect.connect }

def twoAnnounced : TopologyState :=
  (((twoConnected.startUp 0 (some 1)).announce 0 1).startUp 1 (some 2)).announce 1 2

def secondBeforeReport : TopologyState :=
  (((twoAnnounced.nodeTopologyReady (some 1) 0).after (some 1) (.nodeConnected 1)).after (some 1)
    (.nodeConnected 2)).after (some 1) (.nodeLocallyReady 1)

/-- One node is expected and a second one is announced before it reports: the coordinator takes all
events and broadcasts nothing, although the node was ready. -/
theorem second_node_before_report :
    (∃ labels, (topology (some 1) 1024).Run .start labels secondBeforeReport) ∧
      secondBeforeReport.coordinator.cursor.position = secondBeforeReport.events.length ∧
      secondBeforeReport.wasReady = true ∧ secondBeforeReport.coordinator.broadcasts = 0 ∧
      ¬ReadyOnce secondBeforeReport := by
  refine ⟨⟨[.connected, .connected, .startedUp 0 (some 1), .announced 0, .startedUp 1 (some 2),
    .announced 1, .reported 0, .eventHandled, .eventHandled, .eventHandled], ?_⟩, rfl, rfl, by decide,
    ?_⟩
  · refine .cons .connected (.cons .connected ?_)
    refine .cons (.startedUp 0 (some 1) ?_ ?_) (.cons (.announced 0 1 ?_ rfl) ?_)
    · decide
    · decide
    · decide
    refine .cons (.startedUp 1 (some 2) ?_ ?_) (.cons (.announced 1 2 ?_ rfl) ?_)
    · decide
    · decide
    · decide
    refine .cons (.reported 0 ?_ ?_) ?_
    · decide
    · decide
    refine .cons (event_taken ?_ rfl) (.cons (event_taken ?_ rfl) (.single (event_taken ?_ rfl)))
    · decide
    · decide
    · decide
  · intro once
    have broadcast := once.always rfl rfl
    exact absurd broadcast (by decide)

end Runs

end Nextmini.Controller
