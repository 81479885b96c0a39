import Nextmini.Library.BroadcastRing
import Nextmini.Routing.CacheTransparency

/-!
# Packet processors

The processors of a node and the control channel they share. A control message goes into one bounded
ring, and each processor takes it from there when its loop selects the channel; the loop works off
all queued packets before it selects again, and a processor that is told it lagged listens to packets
only until one arrives. Attachments and schedulers are given by number. The commands that `rateLimit`
and `setFlowWeight` pass on to schedulers leave the processor as it is and are left out.
-/

namespace Nextmini.Node

open Nextmini.Library Nextmini.Routing

set_option autoImplicit false

/-! ## Control messages -/

abbrev Handle := Nat

structure TokenBucketSpec where
  rate : Nat
  bucketSize : Nat

inductive ProcessorMessage where
  | updateRoutingTable (routes : List RoutingTableEntry)
  | updateGroupDirectory (groups : List GroupDirectoryEntry)
  | updateGroupRoutes (groupId : GroupId) (srcNodeId : NodeId) (routes : List GroupRoutingTableEntry)
  | addNode (nodeId : NodeId) (scheduler : Handle)
  | connectLocalInterface (localInterface : Handle)
  | connectServerHandle (userSpaceServer : Handle)
  | connectUserSpaceSender (flowId : FlowId) (sender : Handle)
  | disconnectUserSpaceSender (flowId : FlowId)
  | rateLimit (nodeId : NodeId) (spec : TokenBucketSpec)
  | setFlowWeight (flowId : FlowId) (weight : Nat)
  | pinRouteForFlow (flowId : FlowId) (routeId : Nat)
  | setFlowStatsReporter (flowstatsReporter : Handle)
  | connectLosslessHandle (handle : Handle)

structure Processor where
  routingTable : RoutingTable
  schedulers : Std.HashMap NodeId Handle
  localInterface : Option Handle
  userSpaceSenders : Std.HashMap FlowId Handle
  server : Option Handle
  flowstatsReporter : Option Handle
  losslessHandle : Option Handle

namespace Processor

def new (config : LocalConfig) : Processor where
  routingTable := .new config
  schedulers := ∅
  localInterface := none
  userSpaceSenders := ∅
  server := none
  flowstatsReporter := none
  losslessHandle := none

def handleMessage (processor : Processor) : ProcessorMessage → Processor
  | .updateRoutingTable routes =>
      { processor with routingTable := processor.routingTable.installRoutes routes }
  | .updateGroupDirectory groups =>
      { processor with routingTable := processor.routingTable.installGroupDirectory groups }
  | .updateGroupRoutes groupId srcNodeId routes =>
      { processor with
        routingTable := processor.routingTable.installGroupRoutes groupId srcNodeId routes }
  | .addNode nodeId scheduler =>
      { processor with schedulers := processor.schedulers.insert nodeId scheduler }
  | .connectLocalInterface localInterface =>
      { processor with localInterface := some localInterface }
  | .connectServerHandle userSpaceServer => { processor with server := some userSpaceServer }
  | .connectUserSpaceSender flowId sender =>
      { processor with userSpaceSenders := processor.userSpaceSenders.insert flowId sender }
  | .disconnectUserSpaceSender flowId =>
      { processor with userSpaceSenders := processor.userSpaceSenders.erase flowId }
  | .rateLimit _ _ => processor
  | .setFlowWeight _ _ => processor
  | .pinRouteForFlow flowId routeId =>
      { processor with routingTable := (processor.routingTable.pinRouteForFlow flowId routeId).1 }
  | .setFlowStatsReporter flowstatsReporter =>
      { processor with flowstatsReporter := some flowstatsReporter }
  | .connectLosslessHandle handle => { processor with losslessHandle := some handle }

end Processor

/-! ## The processors of a node -/

/-- Where the loop of a processor stands. -/
inductive LoopPhase where
  | selecting
  | packetsOnly
  | draining
  deriving DecidableEq

structure Worker where
  processor : Processor
  cursor : RingCursor ProcessorMessage
  phase : LoopPhase
  queued : Nat

/-- The control messages sent so far, and the processors. -/
structure NodeState (Index : Type*) where
  sent : List ProcessorMessage
  worker : Index → Worker

inductive NodeLabel (Index : Type*) where
  | controlSent (message : ProcessorMessage)
  | packetQueued (index : Index)
  | packetHandled (index : Index)
  | drained (index : Index)
  | messageHandled (index : Index)
  | lagged (index : Index)

section Node

variable {Index : Type*} [DecidableEq Index] (slot : JumpSlot) (capacity : Nat)

/-- What a packet does to its processor: a lookup in the routing table, and perhaps a new sender for a
user-space flow. Link probes do neither. -/
inductive PacketEffect (processor : Processor) : Processor → Prop
  | looked (flowId : FlowId) (treeId : Option UInt16) (table : RoutingTable)
      (answer : Except String (List NodeId)) (senders : Std.HashMap FlowId Handle) :
      processor.routingTable.getNextHopsByFlowAndTree slot flowId treeId = some (table, answer) →
      (senders = processor.userSpaceSenders ∨
        ∃ sender, senders = processor.userSpaceSenders.insert flowId sender) →
        PacketEffect processor
          { processor with
            routingTable := table
            userSpaceSenders := senders }
  | probed : PacketEffect processor processor

def NodeState.set (state : NodeState Index) (index : Index) (worker : Worker) : NodeState Index :=
  { state with worker := Function.update state.worker index worker }

inductive NodeStep (state : NodeState Index) : NodeLabel Index → NodeState Index → Prop
  | controlSent (message : ProcessorMessage) :
      NodeStep state (.controlSent message) { state with sent := state.sent ++ [message] }
  | packetQueued (index : Index) :
      NodeStep state (.packetQueued index)
        (state.set index
          { state.worker index with queued := (state.worker index).queued + 1 })
  | packetHandled (index : Index) (processor : Processor) :
      0 < (state.worker index).queued →
        PacketEffect slot (state.worker index).processor processor →
          NodeStep state (.packetHandled index)
            (state.set index
              { state.worker index with
                processor := processor
                phase := .draining
                queued := (state.worker index).queued - 1 })
  | drained (index : Index) :
      (state.worker index).phase = .draining → (state.worker index).queued = 0 →
        NodeStep state (.drained index)
          (state.set index { state.worker index with phase := .selecting })
  | messageHandled (index : Index) (message : ProcessorMessage)
      (later : RingCursor ProcessorMessage) :
      (state.worker index).phase = .selecting →
        (state.worker index).cursor.receive capacity state.sent = .message message later →
          NodeStep state (.messageHandled index)
            (state.set index
              { state.worker index with
                processor := (state.worker index).processor.handleMessage message
                cursor := later })
  | lagged (index : Index) (later : RingCursor ProcessorMessage) :
      (state.worker index).phase = .selecting →
        (state.worker index).cursor.receive capacity state.sent = .lagged later →
          NodeStep state (.lagged index)
            (state.set index
              { state.worker index with
                cursor := later
                phase := .packetsOnly })

def NodeState.start (config : LocalConfig) : NodeState Index where
  sent := []
  worker _ :=
    { processor := .new config
      cursor := .start
      phase := .selecting
      queued := 0 }

def processors (config : LocalConfig) : TransitionSystem (NodeState Index) (NodeLabel Index) where
  initial state := state = .start config
  step := NodeStep slot capacity

/-! ## What a processor has applied -/

def ProcessorMessage.routingOp : ProcessorMessage → Option RoutingOp
  | .updateRoutingTable routes => some (.installRoutes routes)
  | .updateGroupDirectory groups => some (.installGroupDirectory groups)
  | .updateGroupRoutes groupId srcNodeId routes => some (.installGroupRoutes groupId srcNodeId routes)
  | .pinRouteForFlow flowId routeId => some (.pinRouteForFlow flowId routeId)
  | _ => none

def referenceAfter (reference : ReferenceTable) (message : ProcessorMessage) : ReferenceTable :=
  match message.routingOp with
  | none => reference
  | some op => ((reference.apply slot op).map Prod.fst).getD reference

def schedulersAfter (schedulers : Std.HashMap NodeId Handle) :
    ProcessorMessage → Std.HashMap NodeId Handle
  | .addNode nodeId scheduler => schedulers.insert nodeId scheduler
  | _ => schedulers

/-- The processor is what a list of control messages makes of a new one, up to the caches of its
routing table. -/
structure Applied (config : LocalConfig) (messages : List ProcessorMessage) (processor : Processor) :
    Prop where
  table : CachesAgree slot processor.routingTable
    (messages.foldl (referenceAfter slot) (.new config))
  schedulers : processor.schedulers = messages.foldl schedulersAfter ∅

variable {slot capacity} {config : LocalConfig} {messages : List ProcessorMessage}
  {processor next : Processor}

theorem applied_new (slot : JumpSlot) (config : LocalConfig) : Applied slot config [] (.new config) :=
  ⟨new_tables_agree slot config, rfl⟩

theorem handle_message_applied (applied : Applied slot config messages processor)
    (message : ProcessorMessage) :
    Applied slot config (messages ++ [message]) (processor.handleMessage message) := by
  rcases applied with ⟨table, schedulers⟩
  constructor
  · rw [List.foldl_append, List.foldl_cons, List.foldl_nil]
    generalize messages.foldl (referenceAfter slot) (.new config) = reference at table ⊢
    cases message with
    | updateRoutingTable routes => exact install_routes_agree table routes
    | updateGroupDirectory groups => exact { table with groupDir := rfl }
    | updateGroupRoutes groupId srcNodeId routes =>
      exact install_group_routes_agree table groupId srcNodeId routes
    | pinRouteForFlow flowId routeId =>
      have alike := apply_alike table (.pinRouteForFlow flowId routeId)
      simp only [RoutingTable.apply] at alike
      simp only [referenceAfter, ProcessorMessage.routingOp, Processor.handleMessage]
      generalize reference.apply slot (.pinRouteForFlow flowId routeId) = expected at alike ⊢
      cases alike with
      | some both => exact both.1
    | _ => exact table
  · rw [List.foldl_append, List.foldl_cons, List.foldl_nil, ← schedulers]
    cases message <;> rfl

theorem packet_effect_applied (applied : Applied slot config messages processor)
    (effect : PacketEffect slot processor next) : Applied slot config messages next := by
  rcases applied with ⟨table, schedulers⟩
  cases effect with
  | looked flowId treeId later answer senders looked _ =>
    have alike := next_hops_alike table flowId treeId
    rw [AnswersAlike, looked] at alike
    generalize ReferenceTable.nextHops slot _ flowId treeId = expected at alike
    cases alike with
    | some both => exact ⟨both.1, schedulers⟩
  | probed => exact ⟨table, schedulers⟩

/-! ## Steps as one processor sees them -/

/-- What a step of the node does to one processor: a message is sent, packets are worked on, or the
processor takes the next message or is told that it lagged. -/
inductive WorkerStep (slot : JumpSlot) (capacity : Nat) (sent : List ProcessorMessage)
    (worker : Worker) : List ProcessorMessage → Worker → Prop
  | sent (message : ProcessorMessage) : WorkerStep slot capacity sent worker (sent ++ [message]) worker
  | worked (later : Worker) :
      later.cursor = worker.cursor →
      (∀ config messages, Applied slot config messages worker.processor →
        Applied slot config messages later.processor) →
      (later.phase = .packetsOnly → worker.phase = .packetsOnly) →
        WorkerStep slot capacity sent worker sent later
  | handled (message : ProcessorMessage) (later : Worker) :
      worker.cursor.receive capacity sent = .message message later.cursor →
      later.processor = worker.processor.handleMessage message → later.phase = .selecting →
        WorkerStep slot capacity sent worker sent later
  | lagged (later : Worker) :
      worker.cursor.receive capacity sent = .lagged later.cursor →
      later.processor = worker.processor →
        WorkerStep slot capacity sent worker sent later

theorem worker_unmoved (sent : List ProcessorMessage) (worker : Worker) :
    WorkerStep slot capacity sent worker sent worker :=
  .worked worker rfl (fun _ _ applied => applied) id

theorem set_worker {state : NodeState Index} {index : Index} {worker : Worker}
    (moved : WorkerStep slot capacity state.sent (state.worker index) state.sent worker)
    (other : Index) :
    WorkerStep slot capacity state.sent (state.worker other) (state.set index worker).sent
      ((state.set index worker).worker other) := by
  by_cases same : other = index
  · subst same
    simp only [NodeState.set, Function.update_self]
    exact moved
  · simp only [NodeState.set, ne_eq, same, not_false_eq_true, Function.update_of_ne]
    exact worker_unmoved state.sent (state.worker other)

theorem node_step_worker {state later : NodeState Index} {label : NodeLabel Index}
    (step : NodeStep slot capacity state label later) (index : Index) :
    WorkerStep slot capacity state.sent (state.worker index) later.sent (later.worker index) := by
  cases step with
  | controlSent message => exact .sent message
  | packetQueued other =>
    apply set_worker
    exact .worked _ rfl (fun _ _ applied => applied) id
  | packetHandled other processor waiting effect =>
    apply set_worker
    refine .worked _ rfl ?_ ?_
    · intro config messages applied
      exact packet_effect_applied applied effect
    · rintro ⟨⟩
  | drained other draining empty =>
    apply set_worker
    refine .worked _ rfl (fun _ _ applied => applied) ?_
    rintro ⟨⟩
  | messageHandled other message cursor selecting received =>
    apply set_worker
    exact .handled message _ received rfl selecting
  | lagged other cursor selecting received =>
    apply set_worker
    exact .lagged _ received rfl

/-- The processor has applied what it received, and has read the log so far or missed a message; it
hears packets only once it has missed one. -/
structure Following (slot : JumpSlot) (capacity : Nat) (config : LocalConfig)
    (sent : List ProcessorMessage) (worker : Worker) : Prop where
  applied : Applied slot config worker.cursor.received worker.processor
  read : worker.cursor.Intact sent ∨ worker.cursor.Overrun capacity sent
  told : worker.phase = .packetsOnly → worker.cursor.Overrun capacity sent

variable {sent laterSent : List ProcessorMessage} {worker later : Worker}

theorem overrun_step (overrun : worker.cursor.Overrun capacity sent)
    (step : WorkerStep slot capacity sent worker laterSent later) :
    later.cursor.Overrun capacity laterSent := by
  cases step with
  | sent message => exact RingCursor.overrun_send overrun message
  | worked later same _ _ =>
    rw [same]
    exact overrun
  | handled message later received _ _ => exact RingCursor.overrun_receive overrun received
  | lagged later received _ => exact RingCursor.lagged_overruns overrun.counted received

theorem following_step (following : Following slot capacity config sent worker)
    (step : WorkerStep slot capacity sent worker laterSent later) :
    Following slot capacity config laterSent later := by
  have counted : worker.cursor.received.length ≤ worker.cursor.position := by
    rcases following.read with intact | overrun
    · exact RingCursor.intact_counted intact
    · exact overrun.counted
  have stillOverrun := fun overrun => overrun_step overrun step
  cases step with
  | sent message =>
    refine ⟨following.applied, ?_, ?_⟩
    · exact following.read.imp (fun intact => RingCursor.intact_send intact message) stillOverrun
    · exact stillOverrun ∘ following.told
  | worked later same kept told =>
    refine ⟨?_, ?_, ?_⟩
    · rw [same]
      exact kept config _ following.applied
    · rw [same]
      exact following.read
    · exact stillOverrun ∘ following.told ∘ told
  | handled message later received handled selecting =>
    refine ⟨?_, ?_, ?_⟩
    · rw [handled, (RingCursor.receive_message received).2.2.2]
      exact handle_message_applied following.applied message
    · exact following.read.imp (fun intact => RingCursor.intact_receive intact received) stillOverrun
    · rw [selecting]
      rintro ⟨⟩
  | lagged later received same =>
    have overrun := RingCursor.lagged_overruns counted received
    refine ⟨?_, .inr overrun, fun _ => overrun⟩
    rw [same, (RingCursor.receive_lagged received).2.2]
    exact following.applied

theorem following_of_run {state : NodeState Index} {labels : List (NodeLabel Index)}
    (run : (processors slot capacity config).Run (.start config) labels state) (index : Index) :
    Following slot capacity config state.sent (state.worker index) := by
  apply TransitionSystem.run_preserves
    (motive := fun state => Following slot capacity config state.sent (state.worker index)) _ run
  · exact ⟨applied_new slot config, .inl RingCursor.intact_start, fun told => by cases told⟩
  · intro before label after following step
    exact following_step following (node_step_worker step index)

/-- A processor that has read all that was sent up to its place, and is within the capacity. -/
structure InTouch (capacity : Nat) (sent : List ProcessorMessage) (worker : Worker) : Prop where
  intact : worker.cursor.Intact sent
  within : worker.cursor.behind sent ≤ capacity
  listening : worker.phase ≠ .packetsOnly

theorem in_touch_step (inTouch : InTouch capacity sent worker)
    (step : WorkerStep slot capacity sent worker laterSent later)
    (room : laterSent ≠ sent → worker.cursor.behind sent < capacity) :
    InTouch capacity laterSent later := by
  rcases inTouch with ⟨intact, within, listening⟩
  cases step with
  | sent message =>
    have before := room (by simp)
    refine ⟨RingCursor.intact_send intact message, ?_, listening⟩
    simp only [RingCursor.behind, List.length_append, List.length_singleton] at before ⊢
    omega
  | worked later same kept told =>
    refine ⟨?_, ?_, listening ∘ told⟩
    · rw [same]
      exact intact
    · rw [same]
      exact within
  | handled message later received handled selecting =>
    refine ⟨RingCursor.intact_receive intact received, ?_, ?_⟩
    · have position := (RingCursor.receive_message received).2.2.1
      simp only [RingCursor.behind, position] at within ⊢
      omega
    · rw [selecting]
      rintro ⟨⟩
  | lagged later received same =>
    exact absurd within (Nat.not_le.mpr (RingCursor.receive_lagged received).1)

/-! ## Agreement -/

/-- A control message is sent only while every processor is less than the capacity behind. -/
def SendsInTime (capacity : Nat) (state : NodeState Index) (label : NodeLabel Index) : Prop :=
  ∀ message, label = .controlSent message →
    ∀ index, (state.worker index).cursor.behind state.sent < capacity

/-- No processor has a packet or a message that it could work on. -/
def NodeState.Quiescent (state : NodeState Index) : Prop :=
  ∀ index, (state.worker index).queued = 0 ∧ (state.worker index).phase ≠ .draining ∧
    ((state.worker index).phase = .packetsOnly ∨
      (state.worker index).cursor.position = state.sent.length)

/-- Every processor has applied exactly the messages sent, and all of them hold the same routing
table, up to its caches, and the same schedulers. -/
def Agreement (slot : JumpSlot) (state : NodeState Index) : Prop :=
  (∀ index, (state.worker index).cursor.received = state.sent) ∧
    ∃ reference schedulers, ∀ index,
      CachesAgree slot (state.worker index).processor.routingTable reference ∧
        (state.worker index).processor.schedulers = schedulers

theorem in_touch_of_run {state : NodeState Index} {labels : List (NodeLabel Index)}
    (run : ((processors slot capacity config).restrict (SendsInTime capacity)).Run (.start config)
      labels state) (index : Index) : InTouch capacity state.sent (state.worker index) := by
  apply TransitionSystem.run_preserves
    (motive := fun state => InTouch capacity state.sent (state.worker index)) _ run
  · refine ⟨RingCursor.intact_start, Nat.zero_le _, ?_⟩
    rintro ⟨⟩
  · rintro before label after inTouch ⟨inTime, step⟩
    apply in_touch_step inTouch (node_step_worker step index)
    intro changed
    cases step with
    | controlSent message => exact inTime message rfl index
    | _ => exact absurd rfl changed

/-- In every run that comes to rest, the processors agree exactly when each control message was sent
while every processor was less than the capacity behind. -/
theorem processors_agree_iff (slot : JumpSlot) (capacity : Nat) (config : LocalConfig)
    {labels : List (NodeLabel Index)} {finish : NodeState Index}
    (run : (processors slot capacity config).Run (.start config) labels finish)
    (rest : finish.Quiescent) :
    Agreement slot finish ↔
      ((processors slot capacity config).restrict (SendsInTime capacity)).Run (.start config) labels
        finish := by
  constructor
  · rintro ⟨applied, same⟩
    have missedNone : ∀ index, ¬(finish.worker index).cursor.Overrun capacity finish.sent := by
      intro index overrun
      exact RingCursor.overrun_received_ne overrun (applied index)
    clear rest applied same
    induction run with
    | nil => exact .nil
    | @snoc labels middle finish label before step induction =>
      have earlier : ∀ index, ¬(middle.worker index).cursor.Overrun capacity middle.sent := by
        intro index overrun
        exact missedNone index (overrun_step overrun (node_step_worker step index))
      refine .snoc (induction earlier) ⟨?_, step⟩
      rintro message rfl index
      cases step with
      | controlSent =>
        by_contra full
        have intact := (following_of_run before index).read.resolve_right (earlier index)
        exact missedNone index (RingCursor.send_overruns intact (Nat.not_lt.mp full) message)
  · intro restricted
    have received : ∀ index, (finish.worker index).cursor.received = finish.sent := by
      intro index
      have inTouch := in_touch_of_run restricted index
      exact RingCursor.intact_received_eq inTouch.intact
        ((rest index).2.2.resolve_left inTouch.listening)
    refine ⟨received, finish.sent.foldl (referenceAfter slot) (.new config),
      finish.sent.foldl schedulersAfter ∅, ?_⟩
    intro index
    have applied := (following_of_run run index).applied
    rw [received index] at applied
    exact ⟨applied.table, applied.schedulers⟩

/-! ## A message taken by both processors, and a burst -/

/-- A scheduler announced to two idle processors. -/
theorem announced_scheduler_agreed :
    ∃ labels finish, (processors (fun _ _ => 0) 16 defaultConfig).Run (.start defaultConfig) labels
      finish ∧ finish.sent = [.addNode 2 0] ∧ Agreement (fun _ _ => 0) (finish : NodeState Bool) := by
  let sent : NodeState Bool := { NodeState.start defaultConfig with sent := [.addNode 2 0] }
  let taken : Worker :=
    { processor := (Processor.new defaultConfig).handleMessage (.addNode 2 0)
      cursor := { position := 1, received := [.addNode 2 0] }
      phase := .selecting
      queued := 0 }
  let finish : NodeState Bool := (sent.set false taken).set true taken
  have read : RingCursor.start.receive 16 sent.sent = .message (.addNode 2 0) taken.cursor := rfl
  have announced : NodeStep (fun _ _ => 0) 16 (.start defaultConfig) (.controlSent (.addNode 2 0))
      sent := .controlSent (.addNode 2 0)
  have first : NodeStep (fun _ _ => 0) 16 sent (.messageHandled false) (sent.set false taken) :=
    .messageHandled false (.addNode 2 0) taken.cursor rfl read
  have second : NodeStep (fun _ _ => 0) 16 (sent.set false taken) (.messageHandled true) finish :=
    .messageHandled true (.addNode 2 0) taken.cursor rfl read
  have rest : finish.Quiescent := by
    intro index
    cases index with
    | false => exact ⟨rfl, nofun, .inr rfl⟩
    | true => exact ⟨rfl, nofun, .inr rfl⟩
  have inTime : SendsInTime 16 (.start defaultConfig : NodeState Bool)
      (.controlSent (.addNode 2 0)) := by
    intro _ _ index
    cases index <;> decide
  refine ⟨_, finish, .cons announced (.cons first (.single second)), rfl, ?_⟩
  apply (processors_agree_iff (fun _ _ => 0) 16 defaultConfig
    (.cons announced (.cons first (.single second))) rest).mpr
  refine .cons ⟨inTime, announced⟩ (.cons ⟨?_, first⟩ (.single ⟨?_, second⟩))
  · rintro _ ⟨⟩
  · rintro _ ⟨⟩

/-- A state in which nothing has been read of what was sent. -/
def unread (config : LocalConfig) (sent : List ProcessorMessage) : NodeState Bool :=
  { NodeState.start config with sent := sent }

theorem unread_reached (slot : JumpSlot) (capacity : Nat) (config : LocalConfig)
    (message : ProcessorMessage) (count : Nat) :
    (processors slot capacity config).Run (.start config)
      (List.replicate count (.controlSent message)) (unread config (List.replicate count message)) := by
  induction count with
  | zero => exact .nil
  | succ count induction =>
    rw [List.replicate_succ', List.replicate_succ']
    exact .snoc induction (.controlSent message)

/-- One message more than the capacity, sent while no processor selects the channel, is lost to
both. -/
theorem burst_is_missed (slot : JumpSlot) (capacity : Nat) (config : LocalConfig)
    (message : ProcessorMessage) :
    ∃ labels finish, (processors slot capacity config).Run (.start config) labels finish ∧
      finish.sent = List.replicate (capacity + 1) message ∧ finish.Quiescent ∧
        ¬Agreement slot (finish : NodeState Bool) := by
  let full : NodeState Bool := unread config (List.replicate (capacity + 1) message)
  let told : Worker :=
    { processor := .new config
      cursor := { RingCursor.start with position := full.sent.length - capacity }
      phase := .packetsOnly
      queued := 0 }
  have behind : capacity < RingCursor.behind full.sent .start := by
    simp [full, unread, RingCursor.behind, RingCursor.start]
  have lagging : RingCursor.start.receive capacity full.sent = .lagged told.cursor := if_pos behind
  have first : (processors slot capacity config).step full (.lagged false) (full.set false told) :=
    .lagged false told.cursor rfl lagging
  have second : (processors slot capacity config).step (full.set false told) (.lagged true)
      ((full.set false told).set true told) := .lagged true told.cursor rfl lagging
  have run := (unread_reached slot capacity config message (capacity + 1)).append
    (.cons first (.single second))
  have waits : told.phase ≠ .draining := by simp [told]
  refine ⟨_, _, run, rfl, ?_, ?_⟩
  · intro index
    cases index with
    | false => exact ⟨rfl, waits, .inl rfl⟩
    | true => exact ⟨rfl, waits, .inl rfl⟩
  · rintro ⟨applied, _⟩
    have nothing : [] = List.replicate (capacity + 1) message := applied true
    cases nothing

theorem second_burst_message_lost :
    ∃ labels finish, (processors (fun _ _ => 0) 16 defaultConfig).Run (.start defaultConfig) labels
      finish ∧ finish.sent = List.replicate 17 (.addNode 2 0) ∧ finish.Quiescent ∧
        ¬Agreement (fun _ _ => 0) (finish : NodeState Bool) :=
  burst_is_missed (fun _ _ => 0) 16 defaultConfig (.addNode 2 0)

end Node

end Nextmini.Node
