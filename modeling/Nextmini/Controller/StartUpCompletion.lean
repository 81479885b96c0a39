import Nextmini.Controller.StartUpBarrier

/-!
# The start-up completes

No start-up gets stuck: once nothing is on its way any more and as many nodes as expected have been
set up, each of them was told that the topology is ready and has started what it was given. Here no
connection closes, the coordinator misses no event, every set-up brings a group directory, and a node is
sent nothing else before the answer to its StartUp.
-/

namespace Nextmini.Controller

open Nextmini.Library Nextmini.Node Nextmini.Routing
open Nextmini.Messages (ControllerToDataplane)

set_option autoImplicit false

/-- Nothing is on its way: all set-ups are done, all messages handled and all events taken. -/
structure StartUpBarrier.Settled (state : StartUpBarrier) : Prop where
  setUp : state.topology.settingUp = ∅
  taken : state.topology.coordinator.cursor.position = state.topology.events.length
  sessions : ∀ connection session, state.sessions connection = some session →
    session.rest = [] ∧ session.inbox = [] ∧ session.reports = 0

/-! ## The coordinator's counts -/

section Counts

variable {expectedNodeCount : Option Nat} {events : List TopologyEvent} {coordinator : Coordinator}

/-- The coordinator has counted what it has read, or has broadcast. -/
def Counting (expectedNodeCount : Option Nat) (events : List TopologyEvent)
    (coordinator : Coordinator) : Prop :=
  Waiting expectedNodeCount events.length events coordinator ∨
    Broadcast expectedNodeCount events coordinator

theorem counting_start : Counting expectedNodeCount [] .start :=
  .inl ⟨RingCursor.intact_start, Nat.le_refl 0, rfl, rfl, rfl, rfl, ever_met_nil⟩

theorem counting_send (counting : Counting expectedNodeCount events coordinator)
    (event : TopologyEvent) : Counting expectedNodeCount (events ++ [event]) coordinator := by
  have wider : Waiting expectedNodeCount (events ++ [event]).length events coordinator ∨
      Broadcast expectedNodeCount events coordinator := by
    refine counting.imp_left fun waiting => { waiting with within := ?_ }
    exact waiting.within.trans (by simp)
  refine counted_send wider ?_ event
  intro _
  rw [List.length_append, List.length_singleton]
  exact Nat.lt_succ_of_le (Nat.sub_le _ _)

theorem counting_taken {capacity : Nat} {event : TopologyEvent} {later : RingCursor TopologyEvent}
    (counting : Counting expectedNodeCount events coordinator)
    (received : coordinator.cursor.receive capacity events = .message event later) :
    Counting expectedNodeCount events
      (Coordinator.handle expectedNodeCount { coordinator with cursor := later } event) := by
  rcases counting with waiting | ⟨sent, once, met⟩
  · apply handle_waiting waiting
    rcases RingCursor.receive_message received with ⟨within, present, _, _⟩
    rw [RingCursor.receive, if_neg (Nat.not_lt.mpr within), present] at received
    rw [RingCursor.receive, if_neg (Nat.not_lt.mpr waiting.within), present]
    exact received
  · right
    have after : Broadcast expectedNodeCount events { coordinator with cursor := later } :=
      ⟨sent, once, met⟩
    exact handle_broadcast after event

theorem counting_connected {capacity : Nat} {event : TopologyEvent}
    {later : RingCursor TopologyEvent}
    (waiting : Waiting expectedNodeCount events.length events coordinator)
    (received : coordinator.cursor.receive capacity events = .message event later) :
    (Coordinator.handle expectedNodeCount { coordinator with cursor := later } event).connectedNodes ⊆
      connectedIds events := by
  have member : event ∈ events := List.mem_of_getElem? (RingCursor.receive_message received).2.1
  have inside : coordinator.cursor.received <+: events := by
    rw [waiting.intact.received]
    exact List.take_prefix _ _
  rw [(handle_sets expectedNodeCount _ event).1]
  intro id held
  rw [connectedIds, List.mem_toFinset, List.mem_filterMap]
  rcases Finset.mem_union.mp held with before | now
  · have counted : id ∈ coordinator.connectedNodes := before
    rw [waiting.connected, connectedIds, List.mem_toFinset, List.mem_filterMap] at counted
    rcases counted with ⟨earlier, read, named⟩
    exact ⟨earlier, inside.subset read, named⟩
  · rw [connectedIds, List.mem_toFinset, List.mem_filterMap] at now
    rcases now with ⟨other, own, named⟩
    exact ⟨other, List.mem_singleton.mp own ▸ member, named⟩

end Counts

/-! ## What orderly runs keep -/

/-- A node that has been sent TopologyReady behind the message it takes as an answer. -/
def NodeSession.Told (session : NodeSession) : Prop :=
  (session.handled ++ session.inbox).tail.any ControllerToDataplane.isTopologyReady = true

/-- A session in an orderly run: its set-up is complete, its node is in the registry, and is announced
and its report read in time. -/
structure SessionOnTime (state : StartUpBarrier) (connection : ConnectionId)
    (session : NodeSession) : Prop where
  answer : ∀ answer ∈ session.messages.head?, answer.flows = []
  given : session.setUp.messages.Sublist session.messages
  directory : session.setUp.groups ≠ none
  registered : state.topology.registry.nodeWs session.nodeId = some connection
  announced : connection ∉ state.topology.settingUp →
    session.nodeId ∈ connectedIds state.topology.events
  report : 0 < session.effects.countP ControlEffect.isReport →
    0 < session.reports ∨ session.nodeId ∈ readyIds state.topology.events

structure OnTime (expectedNodeCount : Option Nat) (state : StartUpBarrier) : Prop where
  sessions : ∀ connection session, state.sessions connection = some session →
    SessionOnTime state connection session
  known : ∀ id ∈ connectedIds state.topology.events, ∃ connection session,
    state.sessions connection = some session ∧ session.nodeId = id ∧
      session.handled ++ session.inbox ≠ []
  counting : Counting expectedNodeCount state.topology.events state.topology.coordinator
  told : 0 < state.topology.coordinator.broadcasts → ∃ ids : Finset NodeId,
    expectedNodeCount = some ids.card ∧ ∀ id ∈ ids, ∃ connection session,
      state.sessions connection = some session ∧ session.nodeId = id ∧ session.Told

section Runs

variable {expectedNodeCount : Option Nat} {capacity : Nat} {state next : StartUpBarrier}
  {label : BarrierLabel} {connection : ConnectionId} {session : NodeSession}

theorem on_time_start : OnTime expectedNodeCount .start where
  sessions _ _ found := by cases found
  known id member := absurd member (Finset.notMem_empty id)
  counting := counting_start
  told broadcast := absurd broadcast (Nat.lt_irrefl 0)

theorem told_later {later : NodeSession}
    (read : session.handled ++ session.inbox <+: later.handled ++ later.inbox)
    (told : session.Told) : later.Told := by
  rcases read with ⟨more, same⟩
  unfold NodeSession.Told at told ⊢
  rw [← same]
  cases front : session.handled ++ session.inbox with
  | nil =>
    rw [front] at told
    cases told
  | cons answer others =>
    rw [front, List.tail_cons] at told
    rw [List.cons_append, List.tail_cons, List.any_append, told, Bool.true_or]

/-- A session is on time in later states too, in which its node is registered and no fewer nodes are
announced and read. -/
theorem SessionOnTime.later (onTime : SessionOnTime state connection session)
    (registered : next.topology.registry.nodeWs session.nodeId = some connection)
    (settled : connection ∉ next.topology.settingUp → connection ∉ state.topology.settingUp)
    (announced : connectedIds state.topology.events ⊆ connectedIds next.topology.events)
    (ready : readyIds state.topology.events ⊆ readyIds next.topology.events) :
    SessionOnTime next connection session where
  answer := onTime.answer
  given := onTime.given
  directory := onTime.directory
  registered := registered
  announced done := announced (onTime.announced (settled done))
  report counted := (onTime.report counted).imp_right (ready ·)

theorem on_time_session (onTime : OnTime expectedNodeCount state)
    (found : state.sessions connection = some session) {later : NodeSession}
    (same : later.nodeId = session.nodeId) (plan : later.setUp = session.setUp)
    (answer : ∀ answer ∈ later.messages.head?, answer.flows = [])
    (messages : session.messages.Sublist later.messages)
    (read : session.handled ++ session.inbox <+: later.handled ++ later.inbox)
    (report : 0 < later.effects.countP ControlEffect.isReport →
      0 < later.reports ∨ later.nodeId ∈ readyIds state.topology.events) :
    OnTime expectedNodeCount (state.setSession connection later) := by
  have before := onTime.sessions connection session found
  have own : SessionOnTime (state.setSession connection later) connection later := by
    refine ⟨answer, ?_, ?_, ?_, ?_, report⟩
    · rw [plan]
      exact before.given.trans messages
    · rw [plan]
      exact before.directory
    · rw [same]
      exact before.registered
    · rw [same]
      exact before.announced
  refine ⟨?_, ?_, onTime.counting, ?_⟩
  · intro other held opened
    simp only [StartUpBarrier.setSession, Function.update_apply] at opened
    split_ifs at opened with here
    · cases opened
      rw [here]
      exact own
    · have kept := onTime.sessions other held opened
      exact kept.later kept.registered id Finset.Subset.rfl Finset.Subset.rfl
  · intro id member
    rcases onTime.known id member with ⟨other, held, opened, named, some⟩
    by_cases here : other = connection
    · subst here
      rw [found] at opened
      cases opened
      refine ⟨other, later, Function.update_self .., same.trans named, ?_⟩
      intro none
      rw [none, List.prefix_nil] at read
      exact some read
    · exact ⟨other, held, (Function.update_of_ne here ..).trans opened, named, some⟩
  · intro broadcast
    rcases onTime.told broadcast with ⟨ids, counted, all⟩
    refine ⟨ids, counted, ?_⟩
    intro id member
    rcases all id member with ⟨other, held, opened, named, told⟩
    by_cases here : other = connection
    · subst here
      rw [found] at opened
      cases opened
      exact ⟨other, later, Function.update_self .., same.trans named, told_later read told⟩
    · exact ⟨other, held, (Function.update_of_ne here ..).trans opened, named, told⟩

theorem on_time_started_up (passing : Passing expectedNodeCount state)
    (onTime : OnTime expectedNodeCount state) {nodeId : NodeId} {setUp : SetUp}
    (directory : setUp.groups ≠ none)
    (fresh : state.topology.registry.currentNodeId connection = none)
    (free : state.topology.registry.nodeWs nodeId = none) :
    OnTime expectedNodeCount (StartUpBarrier.setSession
      { state with topology := state.topology.startUp connection (some nodeId) }
      connection (.start nodeId setUp)) := by
  have apart (other : ConnectionId) (own : NodeSession) (held : state.sessions other = some own) :
      other ≠ connection := by
    rintro rfl
    rw [(passing.sessions other own held).current] at fresh
    cases fresh
  have entries : (state.topology.registry.startUp connection (some nodeId)).nodeWs =
      Function.update state.topology.registry.nodeWs nodeId (some connection) := by
    rw [start_up_accepted connection free]
  rw [topology_start_up state.topology connection free]
  refine ⟨?_, ?_, onTime.counting, ?_⟩
  · intro other own held
    simp only [StartUpBarrier.setSession, Function.update_apply] at held
    split_ifs at held with here
    · cases held
      subst here
      refine ⟨?_, List.Sublist.refl _, directory, ?_, ?_, ?_⟩
      · rintro _ ⟨⟩
        rfl
      · simp only [StartUpBarrier.setSession, NodeSession.start, entries, Function.update_self]
      · intro done
        exact absurd (Finset.mem_insert_self _ _) done
      · intro impossible
        exact absurd impossible (Nat.lt_irrefl 0)
    · have kept := onTime.sessions other own held
      refine kept.later ?_ ?_ Finset.Subset.rfl Finset.Subset.rfl
      · simp only [StartUpBarrier.setSession, entries, Function.update_apply]
        rw [if_neg]
        · exact kept.registered
        · intro same
          have entry := kept.registered
          rw [same, free] at entry
          cases entry
      · intro done still
        exact done (Finset.mem_insert_of_mem still)
  · intro id member
    rcases onTime.known id member with ⟨other, own, held, named, some⟩
    exact ⟨other, own, (Function.update_of_ne (apart other own held) ..).trans held, named, some⟩
  · intro broadcast
    rcases onTime.told broadcast with ⟨ids, counted, all⟩
    refine ⟨ids, counted, ?_⟩
    intro id member
    rcases all id member with ⟨other, own, held, named, told⟩
    exact ⟨other, own, (Function.update_of_ne (apart other own held) ..).trans held, named, told⟩

theorem sent_of_finished (onTime : SessionOnTime state connection session)
    (finished : session.rest = []) : session.handled ++ session.inbox ≠ [] := by
  intro none
  have given := onTime.given
  rw [NodeSession.messages, none, finished] at given
  cases List.sublist_nil.mp given

theorem on_time_announced (onTime : OnTime expectedNodeCount state)
    (found : state.sessions connection = some session) (finished : session.rest = []) :
    OnTime expectedNodeCount
      { state with topology := state.topology.announce connection session.nodeId } := by
  refine ⟨?_, ?_, counting_send onTime.counting _, onTime.told⟩
  · intro other own held
    rcases onTime.sessions other own held with
      ⟨answer, given, directory, registered, announced, report⟩
    refine ⟨answer, given, directory, registered, ?_, ?_⟩
    · intro done
      simp only [TopologyState.announce, connected_ids_connected] at done ⊢
      by_cases here : other = connection
      · subst here
        rw [found] at held
        cases held
        exact Finset.mem_insert_self _ _
      · apply Finset.mem_insert_of_mem
        apply announced
        intro still
        exact done (Finset.mem_erase.mpr ⟨here, still⟩)
    · simp only [TopologyState.announce, ready_ids_connected]
      exact report
  · intro id member
    simp only [TopologyState.announce, connected_ids_connected] at member
    rcases Finset.mem_insert.mp member with rfl | before
    · exact ⟨connection, session, found, rfl,
        sent_of_finished (onTime.sessions connection session found) finished⟩
    · exact onTime.known id before

theorem on_time_reported (passing : Passing expectedNodeCount state)
    (onTime : OnTime expectedNodeCount state)
    (found : state.sessions connection = some session) :
    OnTime expectedNodeCount (StartUpBarrier.setSession
      { state with topology := state.topology.nodeTopologyReady expectedNodeCount connection }
      connection { session with reports := session.reports - 1 }) := by
  have current := (passing.sessions connection session found).current
  have heard : OnTime expectedNodeCount
      { state with topology := state.topology.nodeTopologyReady expectedNodeCount connection } := by
    simp only [TopologyState.nodeTopologyReady, current]
    refine ⟨?_, ?_, counting_send onTime.counting _, onTime.told⟩
    · intro other own held
      have kept := onTime.sessions other own held
      refine kept.later kept.registered id ?_ ?_
      · rw [connected_ids_ready]
      · rw [ready_ids_ready]
        exact Finset.subset_insert _ _
    · intro id member
      rw [connected_ids_ready] at member
      exact onTime.known id member
  refine on_time_session heard found rfl rfl (onTime.sessions connection session found).answer
    (List.Sublist.refl _) List.prefix_rfl ?_
  intro _
  right
  simp only [TopologyState.nodeTopologyReady, current, ready_ids_ready]
  exact Finset.mem_insert_self _ _

theorem sent_on_time (onTime : SessionOnTime state connection session) :
    SessionOnTime state connection (session.send .topologyReady) := by
  refine ⟨?_, onTime.given.trans ?_, onTime.directory, onTime.registered, onTime.announced,
    onTime.report⟩
  · exact @NodeSession.send_first _ _ (·.flows = []) onTime.answer rfl
  · simp only [NodeSession.messages, NodeSession.send, List.append_assoc]
    exact (List.Sublist.refl _).append
      ((List.Sublist.refl _).append (List.sublist_append_right _ _))

theorem told_of_sent (some : session.handled ++ session.inbox ≠ []) :
    (session.send .topologyReady).Told := by
  rw [NodeSession.Told, NodeSession.send, ← List.append_assoc, List.tail_append_of_ne_nil some,
    List.any_append]
  exact Bool.or_true _

theorem on_time_take (onTime : OnTime expectedNodeCount state) {event : TopologyEvent}
    {later : RingCursor TopologyEvent}
    (received : state.topology.coordinator.cursor.receive capacity state.topology.events =
      .message event later) :
    OnTime expectedNodeCount (state.take expectedNodeCount event later) := by
  have counting := counting_taken onTime.counting received
  have due := handle_due expectedNodeCount { state.topology.coordinator with cursor := later } event
  unfold StartUpBarrier.take
  dsimp only
  split_ifs with broadcast
  · have complete := (due.resolve_left (Nat.ne_of_gt broadcast)).2.1
    refine ⟨?_, ?_, counting, ?_⟩
    · intro other own held
      rcases sent_topology_ready held with ⟨before, found, kept | sent⟩
      · rw [kept.1]
        have kept := onTime.sessions other before found
        exact kept.later kept.registered id Finset.Subset.rfl Finset.Subset.rfl
      · rw [sent.1]
        have kept := sent_on_time (onTime.sessions other before found)
        exact kept.later kept.registered id Finset.Subset.rfl Finset.Subset.rfl
    · intro id member
      rcases onTime.known id member with ⟨other, own, held, named, some⟩
      rcases kept_session state.topology.registry held with ⟨kept, found, same, _, told⟩
      refine ⟨other, kept, found, same.trans named, ?_⟩
      rw [told (onTime.sessions other own held).registered]
      simp [NodeSession.send]
    · intro _
      refine ⟨_, complete, ?_⟩
      intro id member
      have waiting : Waiting expectedNodeCount state.topology.events.length state.topology.events
          state.topology.coordinator := by
        apply onTime.counting.resolve_right
        rintro ⟨sent, once, met⟩
        have before : Broadcast expectedNodeCount state.topology.events
            { state.topology.coordinator with cursor := later } := ⟨sent, once, met⟩
        exact Nat.ne_of_lt broadcast (once.trans (handle_broadcast before event).once.symm)
      rcases onTime.known id (counting_connected waiting received member) with
        ⟨other, own, held, named, some⟩
      rcases kept_session state.topology.registry held with
        ⟨kept, found, same, _, told⟩
      refine ⟨other, kept, found, same.trans named, ?_⟩
      rw [told (onTime.sessions other own held).registered]
      exact told_of_sent some
  · refine ⟨?_, onTime.known, counting, ?_⟩
    · intro other own held
      have kept := onTime.sessions other own held
      exact kept.later kept.registered id Finset.Subset.rfl Finset.Subset.rfl
    · intro some
      apply onTime.told
      rcases due with same | more
      · exact same ▸ some
      · exact absurd (more.1 ▸ Nat.lt_succ_self _) broadcast

theorem on_time_sent (onTime : OnTime expectedNodeCount state)
    (found : state.sessions connection = some session) (answered : .startUp ∉ session.rest)
    (message : ControllerToDataplane) :
    OnTime expectedNodeCount (state.setSession connection (session.send message)) := by
  have kept := onTime.sessions connection session found
  refine on_time_session onTime found rfl rfl ?_ ?_ ?_ kept.report
  · cases front : session.handled ++ session.inbox with
    | nil =>
      -- otherwise the answer would be among the messages of the set-up still to be sent
      have given := kept.given
      rw [NodeSession.messages, front, List.nil_append] at given
      exact absurd (given.subset List.mem_cons_self) answered
    | cons answer others =>
      have first := kept.answer
      simp only [NodeSession.messages, NodeSession.send, ← List.append_assoc, front] at first ⊢
      exact first
  · simp only [NodeSession.messages, NodeSession.send, List.append_assoc]
    exact (List.Sublist.refl _).append
      ((List.Sublist.refl _).append (List.sublist_append_right _ _))
  · simp only [NodeSession.send, ← List.append_assoc]
    exact List.prefix_append _ _

theorem on_time_handled (onTime : OnTime expectedNodeCount state)
    (found : state.sessions connection = some session) {message : ControllerToDataplane}
    {later : List ControllerToDataplane} (next : session.inbox = message :: later) :
    OnTime expectedNodeCount (state.setSession connection (session.handle message later)) := by
  have kept := onTime.sessions connection session found
  have same := NodeSession.handle_messages next
  rcases @NodeSession.handle_kept session message later with
    ⟨nodeId, setUp, rest, inbox, handled⟩
  rcases @NodeSession.handle_effects session message later with ⟨more, effects, reports⟩
  refine on_time_session onTime found nodeId setUp ?_ ?_ ?_ ?_
  · rw [same]
    exact kept.answer
  · rw [same]
  · rw [handled, inbox, next, List.append_assoc, List.singleton_append]
  · rw [effects, reports, nodeId, List.countP_append]
    intro counted
    by_cases before : 0 < session.effects.countP ControlEffect.isReport
    · exact (kept.report before).imp_left (Nat.lt_add_right _ ·)
    · left
      omega

theorem on_time_step (passing : Passing expectedNodeCount state)
    (onTime : OnTime expectedNodeCount state) (guarded : Orderly state label)
    (step : BarrierStep expectedNodeCount capacity state label next) :
    OnTime expectedNodeCount next := by
  cases step with
  | connected =>
    refine ⟨?_, onTime.known, onTime.counting, onTime.told⟩
    intro other own held
    have kept := onTime.sessions other own held
    exact kept.later kept.registered id Finset.Subset.rfl Finset.Subset.rfl
  | startedUp connection nodeId setUp opened settled fresh free =>
    exact on_time_started_up passing onTime (guarded.directory _ _ _ rfl) fresh free
  | refused connection maybeNodeId used => exact onTime
  | setUpSent connection session message rest found next =>
    have kept := onTime.sessions connection session found
    have same := NodeSession.send_next_messages next
    refine on_time_session onTime found rfl rfl ?_ ?_ ?_ kept.report
    · rw [same]
      exact kept.answer
    · rw [same]
    · simp only [NodeSession.sendNext, ← List.append_assoc]
      exact List.prefix_append _ _
  | announced connection session settingUp found finished =>
    exact on_time_announced onTime found finished
  | sent connection session message found noLink notReady =>
    exact on_time_sent onTime found (guarded.answered _ _ _ rfl found) message
  | handled connection session message later found next => exact on_time_handled onTime found next
  | reported connection session opened settled found some => exact on_time_reported passing onTime found
  | closed connection opened settled => exact absurd rfl (guarded.opened connection)
  | eventHandled event later received => exact on_time_take onTime received
  | lagged later received => exact absurd rfl guarded.prompt

theorem settled_reported (sound : SessionSound state connection session)
    (onTime : SessionOnTime state connection session) (settled : state.Settled)
    (found : state.sessions connection = some session) :
    session.nodeId ∈ readyIds state.topology.events := by
  rcases settled.sessions connection session found with ⟨rest, inbox, reports⟩
  have all : session.setUp.messages.tail.Sublist session.handled.tail := by
    have given := onTime.given
    rw [NodeSession.messages, rest, inbox, List.append_nil, List.append_nil] at given
    exact given.tail
  have accounted := ControlReceiver.report_accounted session.nodeId session.handled.tail
  rw [sound.ran] at accounted
  have routes : session.handled.tail.any ControllerToDataplane.isRoutes = true := by
    apply List.any_eq_true.mpr
    refine ⟨.installRoutes session.setUp.routes, all.subset ?_, rfl⟩
    exact List.mem_append_right _ List.mem_cons_self
  have directory : session.handled.tail.any ControllerToDataplane.isDirectory = true := by
    rcases Option.ne_none_iff_exists'.mp onTime.directory with ⟨parts, given⟩
    apply List.any_eq_true.mpr
    refine ⟨.installGroupDirectory parts.1, all.subset ?_, rfl⟩
    apply List.mem_append_right
    apply List.mem_cons_of_mem
    rw [SetUp.groupMessages, given]
    exact List.mem_cons_self
  have counted : session.effects.countP ControlEffect.isReport = 1 := by
    rw [accounted.reports, accounted.sent, accounted.routes, accounted.directory, routes, directory]
    rfl
  rcases onTime.report (by rw [counted]; exact Nat.one_pos) with waiting | read
  · rw [reports] at waiting
    exact absurd waiting (Nat.lt_irrefl 0)
  · exact read

/-- Once nothing is on its way and the nodes set up are as many as expected, TopologyReady has been
sent to every node. -/
theorem settled_told (passing : Passing expectedNodeCount state)
    (onTime : OnTime expectedNodeCount state) (settled : state.Settled)
    (all : expectedNodeCount = some (connectedIds state.topology.events).card)
    (found : state.sessions connection = some session) : session.Told := by
  have announced (other : ConnectionId) (own : NodeSession)
      (held : state.sessions other = some own) : own.nodeId ∈ connectedIds state.topology.events := by
    apply (onTime.sessions other own held).announced
    rw [settled.setUp]
    exact Finset.notMem_empty other
  have same : readyIds state.topology.events = connectedIds state.topology.events := by
    apply Finset.Subset.antisymm
    · intro id member
      rcases passing.reported id member with ⟨other, own, held, rfl, _⟩
      exact announced other own held
    · intro id member
      rcases onTime.known id member with ⟨other, own, held, rfl, _⟩
      exact settled_reported (passing.sessions other own held) (onTime.sessions other own held)
        settled held
  have broadcast : 0 < state.topology.coordinator.broadcasts := by
    rcases onTime.counting with waiting | ⟨_, once, _⟩
    · exfalso
      have read := RingCursor.intact_received_eq waiting.intact settled.taken
      apply waiting.notMet
      rw [read]
      have own := announced connection session found
      rcases List.eq_nil_or_concat' state.topology.events with empty | ⟨front, last, split⟩
      · rw [empty] at own
        exact absurd own (Finset.notMem_empty _)
      · rw [split, ever_met_concat, ← split]
        exact .inr ⟨_, all, rfl, congrArg Finset.card same⟩
    · rw [once]
      exact Nat.one_pos
  rcases onTime.told broadcast with ⟨ids, counted, allTold⟩
  have whole : ids = connectedIds state.topology.events := by
    apply Finset.eq_of_subset_of_card_le
    · intro id member
      rcases allTold id member with ⟨other, own, held, rfl, _⟩
      exact announced other own held
    · rw [all, Option.some.injEq] at counted
      exact Nat.le_of_eq counted
  rcases allTold session.nodeId (whole ▸ announced connection session found) with
    ⟨other, own, held, named, told⟩
  have entry := (onTime.sessions other own held).registered
  rw [named, (onTime.sessions connection session found).registered] at entry
  cases entry
  rw [found] at held
  cases held
  exact told

/-- Orderly start-ups complete: once nothing is on its way any more and the nodes set up are as many
as expected, every node has started each flow that it was sent and is an end of; the message it took as
the answer to its StartUp is among those it was sent, and had none. -/
theorem start_up_completes {labels : List BarrierLabel}
    (run : ((startUpBarrier expectedNodeCount capacity).restrict Orderly).Run .start labels state)
    (settled : state.Settled)
    (all : expectedNodeCount = some (connectedIds state.topology.events).card)
    (found : state.sessions connection = some session) :
    session.receiver.topologyReady = true ∧
      session.effects.flatMap ControlEffect.tcpStarted =
        toldFlows (isTcpClient session.nodeId) session.handled ∧
      session.effects.flatMap ControlEffect.losslessStarted =
        toldFlows (isLosslessEnd session.nodeId) session.handled := by
  have both : Passing expectedNodeCount state ∧ OnTime expectedNodeCount state := by
    apply TransitionSystem.run_preserves (motive := fun state =>
      Passing expectedNodeCount state ∧ OnTime expectedNodeCount state) _ run
    · exact ⟨passing_start, on_time_start⟩
    · rintro state label next ⟨passing, onTime⟩ ⟨guarded, step⟩
      exact ⟨passing_step passing step, on_time_step passing onTime guarded step⟩
  have told := settled_told both.1 both.2 settled all found
  rcases settled.sessions connection session found with ⟨rest, inbox, _⟩
  rw [NodeSession.Told, inbox, List.append_nil] at told
  have given (kind : Messages.Flow → Bool) :
      toldFlows kind session.handled = toldFlows kind session.handled.tail := by
    have answer := (both.2.sessions connection session found).answer
    rw [NodeSession.messages, inbox, rest, List.append_nil, List.append_nil] at answer
    cases read : session.handled with
    | nil => rfl
    | cons first others =>
      rw [read] at answer
      rw [toldFlows, toldFlows, List.flatMap_cons, answer first rfl, List.tail_cons,
        List.nil_append]
  have accounted := ControlReceiver.flows_accounted session.nodeId session.handled.tail
  rw [(both.1.sessions connection session found).ran] at accounted
  rw [given, given]
  rcases accounted with ⟨ready, tcp, lossless, stored, waiting, flushed⟩
  rw [told] at ready
  rcases flushed ready with ⟨noTcp, noLossless⟩
  rw [noTcp, List.append_nil] at tcp
  rw [noLossless, List.append_nil] at lossless
  exact ⟨ready, tcp, lossless⟩

end Runs

/-- The one node that is expected has started its flow. -/
theorem one_node_completes : ∃ (state : StartUpBarrier) (session : NodeSession),
    state.sessions 0 = some session ∧
    session.receiver.topologyReady = true ∧
    session.effects.flatMap ControlEffect.tcpStarted =
      toldFlows (isTcpClient session.nodeId) session.handled ∧
    session.effects.flatMap ControlEffect.losslessStarted =
      toldFlows (isLosslessEnd session.nodeId) session.handled := by
  rcases one_node_run with
    ⟨state, session, run, found, _, counted, setUp, taken, current, rest, inbox, reports⟩
  have orderly : ((startUpBarrier (some 1) 1024).restrict Orderly).Run .start _ state :=
    TransitionSystem.Run.restrict_mono run fun _ _ both => both.2
  have passing : Passing (some 1) state := passing_of_reachable ⟨_, _, rfl, run.unrestricted⟩
  have settled : state.Settled := by
    refine ⟨setUp, taken, ?_⟩
    intro other own held
    have known := (passing.sessions other own held).current
    by_cases here : other = 0
    · subst here
      rw [found] at held
      cases held
      exact ⟨rest, inbox, reports⟩
    · rw [current, Function.update_of_ne here] at known
      cases known
  refine ⟨state, session, found, start_up_completes orderly settled ?_ found⟩
  rw [counted]

end Nextmini.Controller
