import Nextmini.Controller.InstalledTrees
import Nextmini.Node.SequentialNode

/-!
# Order of a flow through a node

The packets of one flow and FEC tree on the way to one scheduler stand in one line: those that have
left it, those inside it, its channel, and the lane that the two select. A step moves packets along
the line or drops them, and only a lookup of next hops can put a packet in twice.
-/

namespace Nextmini.Node

open Nextmini.Library Nextmini.Routing Nextmini.Controller

set_option autoImplicit false

/-! ## The line of a flow and tree -/

/-- The copies of the packet in hand that go to a scheduler. -/
def Lane.copiesFor (localId : NodeId) (handle : Handle) (lane : Lane) : List Packet :=
  (lane.dispatching.filter fun copy =>
    lane.processor.schedulerFor localId copy.2 = some handle).map Prod.fst

def Lane.line (localId : NodeId) (handle : Handle) (key : FlowTree) (lane : Lane) : List Packet :=
  key.of (lane.copiesFor localId handle) ++ key.of lane.queued

def Lane.packets (lane : Lane) : List Packet := lane.dispatching.map Prod.fst ++ lane.queued

section Line

variable (slots : LaneSlots) {config : NodeConfig}

def NodeConfig.laneOf (config : NodeConfig) (key : FlowTree) : Nat :=
  let laneCount := UInt32.ofNat config.numPacketProcessors
  match key.losslessFecTreeId with
  | some treeId => (slots.flowTree key.flowId treeId laneCount).toNat
  | none => (slots.flow key.flowId laneCount).toNat

/-- The packets of a flow and tree that have left a scheduler or are on the way to it. -/
def SequentialNode.line (handle : Handle) (key : FlowTree) (state : SequentialNode config) :
    List Packet :=
  key.of (state.left handle) ++ (state.scheduler handle).inside key ++
    (key.of (state.channel handle) ++
      (state.lane (config.laneOf slots key)).line config.nodeId handle key)

def SequentialLabel.submitted : SequentialLabel → List Packet
  | .processed packet => [packet]
  | .tryProcessed packet => [packet]
  | _ => []

structure InLine (state : SequentialNode config) : Prop where
  sorted : ∀ handle, (state.scheduler handle).queue.Sorted
  ownLane : ∀ index, ∀ packet ∈ (state.lane index).packets,
    config.laneOf slots packet.flowTree = index
  ordered : ∀ handle key, (state.line slots handle key).Sublist (key.of state.submitted)

end Line

variable {slots : LaneSlots} {slot : JumpSlot} {config : NodeConfig}
  {state next : SequentialNode config} {label : SequentialLabel} {handle : Handle} {key : FlowTree}

/-! ### Lanes -/

theorem lane_of_packet (slots : LaneSlots) (config : NodeConfig) (packet : Packet) :
    config.selectProcessorIngressLane slots packet = config.laneOf slots packet.flowTree := rfl

theorem send_queued (config : NodeConfig) (lane : Lane) (packet : Packet) :
    lane.send config packet = { lane with queued := lane.queued ++ [packet] } ∨
      lane.send config packet = lane := by
  rw [Lane.send, Lane.trySend]
  split_ifs
  · exact .inl rfl
  · exact .inl rfl
  · exact .inr rfl

theorem try_send_queued (config : NodeConfig) (lane : Lane) (packet : Packet) :
    lane.trySend config packet = { lane with queued := lane.queued ++ [packet] } ∨
      lane.trySend config packet = lane := by
  rw [Lane.trySend]
  split_ifs
  · exact .inl rfl
  · exact .inr rfl

theorem process_packet_cases {packet : Packet}
    (submitted : state.processPacket slots packet = some next ∨
      state.tryProcessPacket slots packet = some next) :
    next = state ∨
      next = state.setLane (config.laneOf slots packet.flowTree)
        { state.lane (config.laneOf slots packet.flowTree) with
          queued := (state.lane (config.laneOf slots packet.flowTree)).queued ++ [packet] } := by
  have queued (send : Lane → Packet → Lane)
      (sends : ∀ lane : Lane, send lane packet = { lane with queued := lane.queued ++ [packet] } ∨
        send lane packet = lane) (sent : state.sendBy slots send packet = some next) :
      next = state ∨
        next = state.setLane (config.laneOf slots packet.flowTree)
          { state.lane (config.laneOf slots packet.flowTree) with
            queued := (state.lane (config.laneOf slots packet.flowTree)).queued ++ [packet] } := by
    simp only [SequentialNode.sendBy, lane_of_packet] at sent
    rcases Option.ite_none_right_eq_some.mp sent with ⟨_, updated⟩
    rw [← Option.some.inj updated]
    rcases sends (state.lane (config.laneOf slots packet.flowTree)) with longer | same
    · exact .inr (by rw [longer])
    · rw [same]
      exact .inl (by simp [SequentialNode.setLane])
  rcases submitted with blocking | trying
  · simp only [SequentialNode.processPacket] at blocking
    split at blocking
    · exact queued _ (send_queued config · packet) blocking
    · split at blocking
      · exact queued _ (send_queued config · packet) blocking
      · exact .inl (Option.some.inj blocking).symm
  · simp only [SequentialNode.tryProcessPacket] at trying
    split at trying
    · exact queued _ (try_send_queued config · packet) trying
    · split at trying
      · exact queued _ (try_send_queued config · packet) trying
      · exact .inl (Option.some.inj trying).symm

theorem send_to_scheduler_cases {channel later : List Packet} {packet : Packet}
    (sent : config.sendToScheduler channel packet = some later) :
    later = channel ++ [packet] ∨ later = channel := by
  simp only [NodeConfig.sendToScheduler] at sent
  split_ifs at sent
  · exact .inl (Option.some.inj sent).symm
  · exact .inr (Option.some.inj sent).symm

/-! ### Steps -/

/-- The next hops that a lane looks up for a packet lead to each scheduler at most once. -/
def HopsApart (slot : JumpSlot) (state : SequentialNode config) (label : SequentialLabel) : Prop :=
  ∀ index packet rest table nextHops, label = .taken index →
    (state.lane index).queued = packet :: rest →
      (state.lane index).processor.routingTable.getNextHopsByFlowAndTree slot packet.flowId
        packet.tag.losslessFecTreeId = some (table, .ok nextHops) →
      (nextHops.filterMap
        ((state.lane index).processor.schedulerFor config.nodeId)).Nodup

theorem line_set_lane {index : Nat} {lane : Lane} {extra : List Packet}
    (kept : config.laneOf slots key = index →
      (lane.line config.nodeId handle key).Sublist
        ((state.lane index).line config.nodeId handle key ++ extra)) :
    ((state.setLane index lane).line slots handle key).Sublist
      (state.line slots handle key ++ extra) := by
  simp only [SequentialNode.line, SequentialNode.setLane, List.append_assoc]
  refine (List.Sublist.refl _).append ((List.Sublist.refl _).append ((List.Sublist.refl _).append ?_))
  by_cases own : config.laneOf slots key = index
  · rw [own, Function.update_self]
    exact kept own
  · rw [Function.update_of_ne own]
    exact List.sublist_append_left _ _

/-- Of the copies made for a packet, at most one goes to a scheduler. -/
theorem copies_of_hops {processor : Processor} {localId : NodeId} {nextHops : List NodeId}
    (apart : (nextHops.filterMap (processor.schedulerFor localId)).Nodup) (packet : Packet)
    (queued : List Packet) (handle : Handle) :
    (Lane.copiesFor localId handle
      { processor := processor
        queued := queued
        dispatching := nextHops.map fun nextHopId => (packet, nextHopId) }).Sublist [packet] := by
  have same : Lane.copiesFor localId handle
      { processor := processor
        queued := queued
        dispatching := nextHops.map fun nextHopId => (packet, nextHopId) } =
      List.replicate ((nextHops.filterMap (processor.schedulerFor localId)).count handle) packet := by
    induction nextHops with
    | nil => rfl
    | cons nextHopId rest induction =>
      rw [List.filterMap_cons] at apart ⊢
      simp only [Lane.copiesFor, List.map_cons, List.filter_cons] at induction ⊢
      cases found : processor.schedulerFor localId nextHopId with
      | none =>
        rw [found] at apart
        simpa [found] using induction apart
      | some other =>
        rw [found] at apart
        have later := induction (List.nodup_cons.mp apart).2
        by_cases here : other = handle
        · simp [here, later, List.replicate_succ]
        · simpa [here] using later
  rw [same]
  have once := List.nodup_iff_count_le_one.mp apart handle
  exact List.replicate_sublist_iff.mpr (by simpa using once)

theorem submitted_step (step : SequentialStep slots slot state label next) :
    next.submitted = state.submitted ++ label.submitted := by
  cases step with
  | processed packet later processed => rfl
  | tryProcessed packet later processed => rfl
  | _ => exact (List.append_nil _).symm

theorem sorted_of_step (sorted : ∀ handle, (state.scheduler handle).queue.Sorted)
    (step : SequentialStep slots slot state label next) (handle : Handle) :
    (next.scheduler handle).queue.Sorted := by
  have updated (changed : Handle) {inner : SchedulerLabel}
      {scheduler : Scheduler config.queueCapacity}
      (step : SchedulerStep (state.scheduler changed) inner scheduler) :
      (Function.update state.scheduler changed scheduler handle).queue.Sorted := by
    by_cases own : handle = changed
    · rw [own, Function.update_self]
      exact sorted_step (sorted changed) step
    · rw [Function.update_of_ne own]
      exact sorted handle
  cases step with
  | processed packet later processed =>
    rcases process_packet_cases (.inl processed) with rfl | rfl
    · exact sorted handle
    · exact sorted handle
  | tryProcessed packet later processed =>
    rcases process_packet_cases (.inr processed) with rfl | rfl
    · exact sorted handle
    · exact sorted handle
  | received changed packet rest scheduler front inner => exact updated changed inner
  | scheduled changed inner scheduler none inside => exact updated changed inside
  | _ => exact sorted handle

theorem lane_packets_step (step : SequentialStep slots slot state label next) {index : Nat}
    {packet : Packet} (member : packet ∈ (next.lane index).packets) :
    packet ∈ (state.lane index).packets ∨ config.laneOf slots packet.flowTree = index := by
  have updated {changed : Nat} {lane : Lane}
      (fewer : ∀ other ∈ lane.packets, other ∈ (state.lane changed).packets ∨
        config.laneOf slots other.flowTree = changed)
      (inLane : packet ∈ ((state.setLane changed lane).lane index).packets) :
      packet ∈ (state.lane index).packets ∨ config.laneOf slots packet.flowTree = index := by
    simp only [SequentialNode.setLane] at inLane
    by_cases here : index = changed
    · rw [here, Function.update_self] at inLane
      rw [here]
      exact fewer packet inLane
    · rw [Function.update_of_ne here] at inLane
      exact .inl inLane
  have submitted {other : Packet} {later : SequentialNode config}
      (processed : state.processPacket slots other = some later ∨
        state.tryProcessPacket slots other = some later)
      (inLane : packet ∈ (later.lane index).packets) :
      packet ∈ (state.lane index).packets ∨ config.laneOf slots packet.flowTree = index := by
    rcases process_packet_cases processed with rfl | rfl
    · exact .inl inLane
    · apply updated _ inLane
      intro queued inQueue
      simp only [Lane.packets, List.mem_append, List.mem_singleton] at inQueue ⊢
      rcases inQueue with dispatching | before | rfl
      · exact .inl (.inl dispatching)
      · exact .inl (.inr before)
      · exact .inr rfl
  cases step with
  | processed other later processed => exact submitted (.inl processed) member
  | tryProcessed other later processed => exact submitted (.inr processed) member
  | messageHandled changed message idle =>
    apply updated _ member
    intro other inLane
    exact .inl inLane
  | taken changed front rest table answer idle queued looked =>
    apply updated _ member
    intro other inLane
    simp only [Lane.packets, List.map_map, List.mem_append, List.mem_map, Function.comp_apply]
      at inLane
    left
    rw [Lane.packets, queued, List.mem_append, List.mem_cons]
    rcases inLane with ⟨nextHopId, _, rfl⟩ | behind
    · exact .inr (.inl rfl)
    · exact .inr (.inr behind)
  | kept changed front nextHopId rest copies unknown =>
    apply updated _ member
    intro other inLane
    left
    rw [Lane.packets, copies, List.map_cons]
    exact List.mem_cons_of_mem _ inLane
  | sent changed front nextHopId rest handle channel copies found sent =>
    apply updated _ member
    intro other inLane
    left
    rw [Lane.packets, copies, List.map_cons]
    exact List.mem_cons_of_mem _ inLane
  | received handle front rest scheduler first inner => exact .inl member
  | scheduled handle inner scheduler none inside => exact .inl member

/-- A copy that is sent goes from the front of its lane's line to the end of the channel, or nowhere. -/
theorem sent_line {index : Nat} {packet : Packet} {nextHopId : NodeId}
    {rest : List (Packet × NodeId)} {changed : Handle} {channel : List Packet}
    (copies : (state.lane index).dispatching = (packet, nextHopId) :: rest)
    (found : (state.lane index).processor.schedulerFor config.nodeId nextHopId = some changed)
    (sent : channel = state.channel changed ++ [packet] ∨ channel = state.channel changed)
    (selected : config.laneOf slots packet.flowTree = index) (handle : Handle) (key : FlowTree) :
    (key.of (Function.update state.channel changed channel handle) ++
      (Function.update state.lane index { state.lane index with dispatching := rest }
        (config.laneOf slots key)).line config.nodeId handle key).Sublist
      (key.of (state.channel handle) ++
        (state.lane (config.laneOf slots key)).line config.nodeId handle key) := by
  by_cases own : config.laneOf slots key = index
  · have front : (state.lane index).line config.nodeId handle key =
        key.of (if changed = handle then [packet] else []) ++
          Lane.line config.nodeId handle key { state.lane index with dispatching := rest } := by
      simp only [Lane.line, Lane.copiesFor, copies, List.filter_cons, found, ← List.append_assoc,
        ← FlowTree.of_append, Option.some.injEq, decide_eq_true_eq]
      split_ifs <;> rfl
    rw [own, Function.update_self, front, ← List.append_assoc, ← FlowTree.of_append]
    refine List.Sublist.append ?_ (List.Sublist.refl _)
    apply FlowTree.of_sublist
    by_cases here : handle = changed
    · rw [here, Function.update_self, if_pos rfl]
      rcases sent with rfl | rfl
      · exact List.Sublist.refl _
      · exact List.sublist_append_left _ _
    · rw [Function.update_of_ne here]
      exact List.sublist_append_left _ _
  · have other : key.of [packet] = [] := by
      apply FlowTree.of_none
      intro only member same
      rw [List.mem_singleton.mp member] at same
      rw [same] at selected
      exact own selected
    rw [Function.update_of_ne own]
    refine List.Sublist.append ?_ (List.Sublist.refl _)
    by_cases here : handle = changed
    · rw [here, Function.update_self]
      rcases sent with rfl | rfl
      · rw [FlowTree.of_append, other, List.append_nil]
      · exact List.Sublist.refl _
    · rw [Function.update_of_ne here]

/-- A step moves the packets of a line along it, drops some or adds the submitted one at its end. -/
theorem line_step (inLine : InLine slots state) (apart : HopsApart slot state label)
    (step : SequentialStep slots slot state label next) (handle : Handle) (key : FlowTree) :
    (next.line slots handle key).Sublist
      (state.line slots handle key ++ key.of label.submitted) := by
  have submitted {packet : Packet} {later : SequentialNode config}
      (processed : state.processPacket slots packet = some later ∨
        state.tryProcessPacket slots packet = some later) :
      (later.line slots handle key).Sublist (state.line slots handle key ++ key.of [packet]) := by
    rcases process_packet_cases processed with rfl | rfl
    · exact List.sublist_append_left _ _
    · apply line_set_lane
      intro own
      simp only [Lane.line, FlowTree.of_append, List.append_assoc]
      exact List.Sublist.refl _
  cases step with
  | processed packet later processed =>
    have moved := submitted (.inl processed)
    exact moved
  | tryProcessed packet later processed =>
    have moved := submitted (.inr processed)
    exact moved
  | messageHandled index message idle =>
    apply line_set_lane
    intro _
    simp [Lane.line, Lane.copiesFor, idle]
  | taken index packet rest table answer idle queued looked =>
    apply line_set_lane
    intro _
    have once : (Lane.copiesFor config.nodeId handle
        { processor := { (state.lane index).processor with routingTable := table }
          queued := rest
          dispatching := (resolvedHops answer).map fun nextHopId =>
            (packet, nextHopId) }).Sublist [packet] := by
      cases answer with
      | error reason => exact List.nil_sublist _
      | ok nextHops =>
        exact copies_of_hops (apart index packet rest table nextHops rfl queued looked) packet
          rest handle
    have before : (state.lane index).line config.nodeId handle key =
        key.of [packet] ++ key.of rest := by
      simp only [Lane.line, Lane.copiesFor, idle, queued, ← FlowTree.of_append,
        List.singleton_append]
      rfl
    refine List.Sublist.trans ?_ (List.sublist_append_left _ _)
    rw [before]
    exact (FlowTree.of_sublist once key).append (List.Sublist.refl (key.of rest))
  | kept index packet nextHopId rest copies unknown =>
    apply line_set_lane
    intro _
    simp [Lane.line, Lane.copiesFor, copies, unknown]
  | sent index packet nextHopId rest changed channel copies found sent =>
    refine List.Sublist.trans ?_ (List.sublist_append_left _ _)
    have member : packet ∈ (state.lane index).packets := by
      rw [Lane.packets, copies]
      exact List.mem_cons_self
    have selected := inLine.ownLane index packet member
    simp only [SequentialNode.line, SequentialNode.setChannel, SequentialNode.setLane]
    refine (List.Sublist.refl _).append ?_
    exact sent_line copies found (send_to_scheduler_cases sent) selected handle key
  | received changed packet rest scheduler front inner =>
    have moved := inside_step (inLine.sorted changed) inner key
    refine List.Sublist.trans ?_ (List.sublist_append_left _ _)
    simp only [SequentialNode.line, SequentialNode.setChannel, SequentialNode.setScheduler,
      ← List.append_assoc]
    refine List.Sublist.append ?_ (List.Sublist.refl _)
    by_cases here : handle = changed
    · rw [here, Function.update_self, Function.update_self, front, ← List.singleton_append,
        FlowTree.of_append]
      simp only [Scheduler.leaving, SchedulerLabel.arriving, FlowTree.of_nil, List.nil_append]
        at moved
      simp only [List.append_assoc]
      refine (List.Sublist.refl _).append ?_
      simpa using moved.append (List.Sublist.refl (key.of rest))
    · rw [Function.update_of_ne here, Function.update_of_ne here]
  | scheduled changed inner scheduler none inside =>
    have moved := inside_step (inLine.sorted changed) inside key
    rw [none, FlowTree.of_nil, List.append_nil] at moved
    refine List.Sublist.trans ?_ (List.sublist_append_left _ _)
    simp only [SequentialNode.line, SequentialNode.setScheduler]
    refine List.Sublist.append ?_ (List.Sublist.refl _)
    by_cases here : handle = changed
    · rw [here, Function.update_self, Function.update_self, FlowTree.of_append, List.append_assoc]
      exact (List.Sublist.refl _).append moved
    · rw [Function.update_of_ne here, Function.update_of_ne here]

/-! ### Runs -/

theorem in_line_new (slots : LaneSlots) (config : NodeConfig) :
    InLine slots (SequentialNode.new config) where
  sorted _ := SchedulerQueue.sorted_new config.schedulerType
  ownLane := nofun
  ordered handle key := by
    have inside := @inside_new config.queueCapacity config.schedulerType config.channelBackpressure key
    simp [SequentialNode.line, SequentialNode.new, inside, Lane.line, Lane.copiesFor]

theorem in_line_step (inLine : InLine slots state) (apart : HopsApart slot state label)
    (step : SequentialStep slots slot state label next) : InLine slots next where
  sorted := sorted_of_step inLine.sorted step
  ownLane index packet member := by
    rcases lane_packets_step step member with before | selected
    · exact inLine.ownLane index packet before
    · exact selected
  ordered handle key := by
    rw [submitted_step step, FlowTree.of_append]
    exact (line_step inLine apart step handle key).trans
      ((inLine.ordered handle key).append (List.Sublist.refl _))

/-- As long as each lookup leads to each scheduler at most once, the packets of a flow and tree that
have left a scheduler are among the submitted ones, in the order of their submission. -/
theorem flow_leaves_in_order (slots : LaneSlots) (slot : JumpSlot) (config : NodeConfig)
    {labels : List SequentialLabel} {state : SequentialNode config}
    (run : ((sequential slots slot config).restrict (HopsApart slot)).Run (.new config) labels state)
    (handle : Handle) (key : FlowTree) :
    (key.of (state.left handle)).Sublist (key.of state.submitted) := by
  have inLine : InLine slots state := by
    apply TransitionSystem.run_preserves _ run (in_line_new slots config)
    rintro state label next inLine ⟨apart, step⟩
    exact in_line_step inLine apart step
  refine List.Sublist.trans ?_ (inLine.ordered handle key)
  rw [SequentialNode.line, List.append_assoc]
  exact List.sublist_append_left _ _

/-! ## A tree with two edges to one node -/

def oneLane : NodeConfig where
  nodeId := 1
  addresses := defaultConfig
  operatingMode := .normal
  numPacketProcessors := 1
  channelCapacity := 16
  channelBackpressure := false
  queueCapacity := 16
  schedulerType := .fifo

def firstLane : LaneSlots where
  flow _ _ := 0
  flowTree _ _ _ := 0

def treePacket : Packet where
  flowId := groupFlow
  isTcpData := false
  tag := ⟨some 0, 0⟩

def secondPacket : Packet := { treePacket with tag := ⟨some 0, 1⟩ }

def treeProcessor (nextHops : List NodeId) : Processor :=
  { Processor.new defaultConfig with
    routingTable := directoryTable.installGroupRoutes 7 1 [⟨7 * 65536, nextHops⟩]
    schedulers := Std.HashMap.insert ∅ 2 0 }

/-- What each lookup of the flow on tree 0 answers. -/
def KnowsTree (nextHops : List NodeId) (table : RoutingTable) : Prop :=
  ∃ reference, CachesAgree (fun _ _ => 0) table reference ∧
    keyForFlow reference.config reference.groupDir groupFlow (some 0) = some (.multicast 1 7 0) ∧
    treeLookup reference.installed 1 7 0 = .ok nextHops

theorem knows_tree {nextHops : List NodeId} (usable : invalidNode ∉ nextHops) :
    KnowsTree nextHops (treeProcessor nextHops).routingTable := by
  have known : deterministicMulticastRouteId 7 0 = some (7 * 65536) := by decide
  have given : treeHops 7 [⟨7 * 65536, nextHops⟩] 0 = some nextHops := by
    rw [tree_hops_single, if_pos known]
  rcases directoryTable.installed.install_tree_found 1 known given with ⟨found, _⟩
  have listed : (RoutingTable.new defaultConfig).apply (fun _ _ => 0)
      (.installGroupDirectory [⟨7, 0xefff0001⟩]) = some (directoryTable, .done) := rfl
  rcases reference_follows (new_tables_agree _ _) listed with ⟨reference, _, agree⟩
  refine ⟨_, install_group_routes_agree agree 7 1 [⟨7 * 65536, nextHops⟩], ?_, ?_⟩
  · simp only [← agree.config, ← agree.groupDir]
    exact group_flow_key 0
  · simp only [← agree.installed]
    rw [tree_lookup_found 1 known found, copy_usable_hops _ usable]

theorem KnowsTree.looked_up {nextHops : List NodeId} {table : RoutingTable}
    (knows : KnowsTree nextHops table) :
    ∃ later, table.getNextHopsByFlowAndTree (fun _ _ => 0) groupFlow (some 0) =
      some (later, .ok nextHops) ∧ KnowsTree nextHops later := by
  rcases knows with ⟨reference, agree, keyed, answer⟩
  have alike := next_hops_alike agree groupFlow (some 0)
  rw [reference_tree_lookup keyed, answer] at alike
  generalize table.getNextHopsByFlowAndTree _ _ _ = looked at alike ⊢
  cases alike with
  | @some result _ both =>
    rcases result with ⟨later, _⟩
    rcases both with ⟨agreeLater, rfl⟩
    exact ⟨later, rfl, reference, agreeLater, keyed, answer⟩

theorem tree_looked_up {nextHops : List NodeId} (usable : invalidNode ∉ nextHops) :
    ∃ table, (treeProcessor nextHops).routingTable.getNextHopsByFlowAndTree (fun _ _ => 0) groupFlow
      (some 0) = some (table, .ok nextHops) := by
  rcases (knows_tree usable).looked_up with ⟨table, looked, _⟩
  exact ⟨table, looked⟩

theorem tree_scheduler (nextHops : List NodeId) :
    (treeProcessor nextHops).schedulerFor 1 2 = some 0 := by
  simp [Processor.schedulerFor, treeProcessor]

abbrev oneLaneNode : TransitionSystem (SequentialNode oneLane) SequentialLabel :=
  sequential firstLane (fun _ _ => 0) oneLane

/-- Its runs in which each lookup leads to each scheduler at most once. -/
abbrev oneLaneApart : TransitionSystem (SequentialNode oneLane) SequentialLabel :=
  oneLaneNode.restrict (HopsApart fun _ _ => 0)

theorem apart_of_step {state next : SequentialNode oneLane} {label : SequentialLabel}
    (other : ∀ index, label ≠ .taken index) (step : oneLaneNode.step state label next) :
    oneLaneApart.step state label next :=
  ⟨fun index _ _ _ _ same => absurd same (other index), step⟩

def holding (queue : ArrayQueue Packet 16) (queuesNotEmpty : Bool) : Scheduler 16 :=
  { Scheduler.new 16 .fifo false with
    queue := .fifo queue
    queuesNotEmpty := queuesNotEmpty }

/-- What the lane holds, what is on the way to the scheduler of node 2, and what has left it. -/
structure OnTheWay (state : SequentialNode oneLane) (lane : Lane) (channel : List Packet)
    (scheduler : Scheduler 16) (submitted left : List Packet) : Prop where
  lane : state.lane 0 = lane
  channel : state.channel 0 = channel
  scheduler : state.scheduler 0 = scheduler
  submitted : state.submitted = submitted
  left : state.left 0 = left

def treeLabels (nextHops : List NodeId) : List SequentialLabel :=
  [.messageHandled 0 (.updateGroupDirectory [⟨7, 0xefff0001⟩]),
    .messageHandled 0 (.updateGroupRoutes 7 1 [⟨7 * 65536, nextHops⟩]),
    .messageHandled 0 (.addNode 2 0), .processed treePacket]

/-- The first packet is submitted, and then the second one. -/
theorem tree_packets_queued (nextHops : List NodeId) :
    ∃ one two, oneLaneApart.Run (.new oneLane) (treeLabels nextHops) one ∧
      oneLaneApart.step one (.processed secondPacket) two ∧
      OnTheWay one ⟨treeProcessor nextHops, [treePacket], []⟩ [] (holding .empty false)
        [treePacket] [] ∧
      OnTheWay two ⟨treeProcessor nextHops, [treePacket, secondPacket], []⟩ []
        (holding .empty false) [treePacket, secondPacket] [] := by
  have run : oneLaneApart.Run (.new oneLane) (treeLabels nextHops) _ :=
    .cons (apart_of_step (by nofun) (.messageHandled 0 _ rfl))
      (.cons (apart_of_step (by nofun) (.messageHandled 0 _ rfl))
        (.cons (apart_of_step (by nofun) (.messageHandled 0 _ rfl))
          (.single (apart_of_step (by nofun) (.processed treePacket _ rfl)))))
  exact ⟨_, _, run, apart_of_step (by nofun) (.processed secondPacket _ rfl),
    ⟨rfl, rfl, rfl, rfl, rfl⟩, ⟨rfl, rfl, rfl, rfl, rfl⟩⟩

section OnTheWay

variable {state : SequentialNode oneLane} {processor : Processor} {lane : Lane}
  {queued channel submitted left rest : List Packet} {count : Nat} {packet : Packet}
  {current : Scheduler 16}

/-- The lane takes a packet, with as many copies to send as its hops name node 2. -/
theorem tree_packet_taken
    (onTheWay : OnTheWay state ⟨processor, packet :: queued, []⟩ channel current submitted left)
    (knows : KnowsTree (List.replicate count 2) processor.routingTable)
    (leads : processor.schedulerFor 1 2 = some 0) (flow : packet.flowId = groupFlow)
    (tree : packet.tag.losslessFecTreeId = some 0) :
    ∃ taken table, oneLaneNode.step state (.taken 0) taken ∧
      (count ≤ 1 → HopsApart (fun _ _ => 0) state (.taken 0)) ∧
      KnowsTree (List.replicate count 2) table ∧
      OnTheWay taken ⟨{ processor with routingTable := table }, queued,
        List.replicate count (packet, 2)⟩ channel current submitted left := by
  rcases knows.looked_up with ⟨table, looked, later⟩
  rw [← flow, ← tree] at looked
  have step : oneLaneNode.step state (.taken 0) _ :=
    .taken 0 packet queued table (.ok (List.replicate count 2)) (by rw [onTheWay.lane])
      (by rw [onTheWay.lane]) (by rw [onTheWay.lane]; exact looked)
  refine ⟨_, table, step, ?_, later, ?_, onTheWay.channel, onTheWay.scheduler, onTheWay.submitted,
    onTheWay.left⟩
  · intro once index first others other hops same front found
    cases same
    rw [onTheWay.lane] at front found ⊢
    cases front
    have answered := Option.some.inj (looked.symm.trans found)
    cases answered
    have led : (List.replicate count 2).filterMap (processor.schedulerFor 1) =
        List.replicate count 0 := List.filterMap_replicate_of_some leads
    have single : (List.replicate count (0 : Handle)).Nodup := List.nodup_replicate.mpr once
    rw [← led] at single
    exact single
  · simp [SequentialNode.setLane, resolvedHops, onTheWay.lane]

/-- The lane sends its copies, one for each time its hops name node 2. -/
theorem copies_sent
    (onTheWay : OnTheWay state ⟨processor, queued, List.replicate count (packet, 2)⟩ channel current
      submitted left) (leads : processor.schedulerFor 1 2 = some 0)
    (room : channel.length + count ≤ 16) :
    ∃ labels later, oneLaneApart.Run state labels later ∧
      OnTheWay later ⟨processor, queued, []⟩ (channel ++ List.replicate count packet) current
        submitted left := by
  induction count generalizing state channel with
  | zero => exact ⟨[], state, .nil, by simpa using onTheWay⟩
  | succ count induction =>
    have sent : oneLane.sendToScheduler (state.channel 0) packet = some (channel ++ [packet]) := by
      rw [onTheWay.channel, NodeConfig.sendToScheduler, if_pos]
      change channel.length < 16
      omega
    have step : oneLaneNode.step state (.sent 0) _ :=
      .sent 0 packet 2 (List.replicate count (packet, 2)) 0 _ (by rw [onTheWay.lane]; rfl)
        (by rw [onTheWay.lane]; exact leads) sent
    have fits : (channel ++ [packet]).length + count ≤ 16 := by
      rw [List.length_append, List.length_singleton]
      omega
    have moved : OnTheWay ((state.setLane 0
        { state.lane 0 with dispatching := List.replicate count (packet, 2) }).setChannel 0
          (channel ++ [packet])) ⟨processor, queued, List.replicate count (packet, 2)⟩
        (channel ++ [packet]) current submitted left := by
      refine ⟨?_, rfl, onTheWay.scheduler, onTheWay.submitted, onTheWay.left⟩
      rw [onTheWay.lane]
      rfl
    rcases induction moved fits with ⟨labels, later, run, arrived⟩
    refine ⟨_, later, .cons (apart_of_step (by nofun) step) run, ?_⟩
    rwa [List.append_assoc, List.singleton_append, ← List.replicate_succ] at arrived

theorem scheduled_step {next : Scheduler 16} {label : SchedulerLabel}
    (onTheWay : OnTheWay state lane channel current submitted left)
    (unarrived : label.arriving = []) (inner : SchedulerStep current label next) :
    ∃ later, oneLaneApart.step state (.scheduled 0 label) later ∧
      OnTheWay later lane channel next submitted (left ++ current.leaving label) := by
  rw [← onTheWay.scheduler] at inner
  refine ⟨_, apart_of_step (by nofun) (.scheduled 0 label next unarrived inner), ?_⟩
  have gone : state.left 0 ++ (state.scheduler 0).leaving label = left ++ current.leaving label := by
    rw [onTheWay.left, onTheWay.scheduler]
    rfl
  exact ⟨onTheWay.lane, onTheWay.channel, rfl, onTheWay.submitted, gone⟩

theorem scheduled_run {finish : Scheduler 16} {labels : List SchedulerLabel}
    (onTheWay : OnTheWay state lane channel current submitted left)
    (run : ((scheduler 16 .fifo false).restrict fun scheduler label =>
      label.arriving = [] ∧ scheduler.leaving label = []).Run current labels finish) :
    ∃ later, oneLaneApart.Run state (labels.map (.scheduled 0)) later ∧
      OnTheWay later lane channel finish submitted left := by
  induction run with
  | nil => exact ⟨state, .nil, onTheWay⟩
  | snoc before step induction =>
    rcases induction with ⟨middle, earlier, reached⟩
    rcases step with ⟨⟨unarrived, unleft⟩, inner⟩
    rcases scheduled_step reached unarrived inner with ⟨later, step, arrived⟩
    rw [unleft, List.append_nil] at arrived
    rw [List.map_append]
    exact ⟨later, .snoc earlier step, arrived⟩

theorem packet_accepted {queue longer : ArrayQueue Packet 16} {queuesNotEmpty : Bool}
    (onTheWay : OnTheWay state lane (packet :: rest) (holding queue queuesNotEmpty) submitted left)
    (notifies : ∀ queueLen, packet.notifies queueLen = true)
    (pushed : queue.push packet = some longer) :
    ∃ labels later, oneLaneApart.Run state labels later ∧
      OnTheWay later lane rest (holding longer true) submitted left := by
  have received : SchedulerStep (state.scheduler 0) (.received packet)
      { holding queue queuesNotEmpty with reader := .received packet } := by
    rw [onTheWay.scheduler]
    exact .received packet rfl
  have step : oneLaneNode.step state (.received 0) _ :=
    .received 0 packet rest _ onTheWay.channel received
  have taken : OnTheWay ((state.setChannel 0 rest).setScheduler 0
      { holding queue queuesNotEmpty with reader := .received packet }) lane rest
      { holding queue queuesNotEmpty with reader := .received packet } submitted left :=
    ⟨onTheWay.lane, rfl, rfl, onTheWay.submitted, onTheWay.left⟩
  have added : (SchedulerQueue.fifo queue).enqueue packet = some (.fifo longer) := by
    rw [SchedulerQueue.enqueue, pushed]
    rfl
  have inner : ((scheduler 16 .fifo false).restrict fun scheduler label =>
      label.arriving = [] ∧ scheduler.leaving label = []).Run
        { holding queue queuesNotEmpty with reader := .received packet }
        [.acquired, .measured, .enqueued packet queue.length, .notified] (holding longer true) := by
    refine .cons ⟨⟨rfl, rfl⟩, .acquired packet none rfl rfl⟩ ?_
    refine .cons ⟨⟨rfl, rfl⟩, .measured packet rfl⟩ ?_
    refine .cons ⟨⟨rfl, rfl⟩, .enqueued packet queue.length _ rfl added⟩ ?_
    exact .single ⟨⟨rfl, rfl⟩, .notified (if_pos (notifies _))⟩
  rcases scheduled_run taken inner with ⟨later, run, arrived⟩
  exact ⟨_, later, .cons (apart_of_step (by rintro _ ⟨⟩) step) run, arrived⟩

theorem popped_run (packets batch : List Packet) (fits : packets.length ≤ 16) :
    ((scheduler 16 .fifo false).restrict fun scheduler label =>
      label.arriving = [] ∧ scheduler.leaving label = []).Run
        { holding ⟨packets, fits⟩ true with writer := .popping batch }
        (List.replicate packets.length .popped ++ [.ranEmpty])
        { holding .empty true with writer := .collected (batch ++ packets) } := by
  induction packets generalizing batch with
  | nil =>
    rw [List.append_nil]
    exact .single ⟨⟨rfl, rfl⟩, .ranEmpty _ batch rfl rfl rfl⟩
  | cons packet rest induction =>
    have popped := induction (batch ++ [packet]) (Nat.le_of_succ_le fits)
    rw [List.append_assoc, List.singleton_append] at popped
    exact .cons ⟨⟨rfl, rfl⟩, .popped _ _ packet batch rfl rfl rfl⟩ popped

theorem packets_leave {packets : List Packet} {fits : packets.length ≤ 16} (some : packets ≠ [])
    (onTheWay : OnTheWay state lane channel (holding ⟨packets, fits⟩ true) submitted left) :
    ∃ labels later, oneLaneApart.Run state labels later ∧
      later.submitted = submitted ∧ later.left 0 = left ++ packets := by
  have nonempty : (SchedulerQueue.fifo ⟨packets, fits⟩).isEmpty = false := by
    cases packets with
    | nil => exact absurd rfl some
    | cons packet rest => rfl
  have inner : ((scheduler 16 .fifo false).restrict fun scheduler label =>
      label.arriving = [] ∧ scheduler.leaving label = []).Run (holding ⟨packets, fits⟩ true) _
        { holding .empty true with writer := .sending packets } :=
    .cons ⟨⟨rfl, rfl⟩, .messagesHandled rfl⟩ (.cons ⟨⟨rfl, rfl⟩, .foundPackets rfl nonempty⟩
      ((popped_run packets [] fits).snoc ⟨⟨rfl, rfl⟩, .credited packets rfl⟩))
  rcases scheduled_run onTheWay inner with ⟨sending, run, reached⟩
  rcases scheduled_step reached rfl (.sent packets rfl) with ⟨later, step, arrived⟩
  exact ⟨_, later, .snoc run step, arrived.submitted, arrived.left⟩

end OnTheWay

/-- A tree with one edge to node 2: two packets leave once each, in their order. -/
theorem two_packets_leave_in_order :
    ∃ labels state, oneLaneApart.Run (.new oneLane) labels state ∧
      state.left 0 = [treePacket, secondPacket] ∧
      (FlowTree.of ⟨groupFlow, some 0⟩ (state.left 0)).Sublist
        (FlowTree.of ⟨groupFlow, some 0⟩ state.submitted) := by
  rcases tree_packets_queued [2] with ⟨_, _, first, second, _, queued⟩
  have knows : KnowsTree (List.replicate 1 2) (treeProcessor [2]).routingTable :=
    knows_tree (by decide)
  rcases tree_packet_taken queued knows (tree_scheduler [2]) rfl rfl with
    ⟨_, table, step, apart, knows, taken⟩
  rcases copies_sent taken (tree_scheduler [2]) (by decide) with ⟨_, _, sending, sent⟩
  rcases tree_packet_taken sent knows (tree_scheduler [2]) rfl rfl with
    ⟨_, _, stepAgain, apartAgain, _, takenAgain⟩
  rcases copies_sent takenAgain (tree_scheduler [2]) (by decide) with
    ⟨_, _, sendingAgain, sentAgain⟩
  rcases packet_accepted sentAgain (fun _ => rfl) rfl with ⟨_, _, accepting, accepted⟩
  rcases packet_accepted accepted (fun _ => rfl) rfl with ⟨_, _, acceptingAgain, acceptedAgain⟩
  rcases packets_leave (List.cons_ne_nil _ _) acceptedAgain with ⟨_, state, leaving, _, left⟩
  have run := ((first.snoc second).snoc ⟨apart (Nat.le_refl 1), step⟩).append sending
  have rest := sendingAgain.append (accepting.append (acceptingAgain.append leaving))
  have whole := (run.snoc ⟨apartAgain (Nat.le_refl 1), stepAgain⟩).append rest
  exact ⟨_, state, whole, left, flow_leaves_in_order firstLane (fun _ _ => 0) oneLane whole 0 _⟩

/-- A tree with two edges to node 2 gives node 1 two hops to it, and the packet leaves twice. -/
theorem parallel_edges_leave_twice :
    buildGroupRoutesForNodeMultitree 7 [⟨0, [(1, 2), (1, 2)]⟩] 1 ∅ = .ok [⟨7 * 65536, [2, 2]⟩] ∧
      ∃ labels state,
        (sequential firstLane (fun _ _ => 0) oneLane).Run (.new oneLane)
          (treeLabels [2, 2] ++ labels) state ∧
        state.submitted = [treePacket] ∧ state.left 0 = [treePacket, treePacket] ∧
        ¬(FlowTree.of ⟨groupFlow, some 0⟩ (state.left 0)).Sublist
          (FlowTree.of ⟨groupFlow, some 0⟩ state.submitted) := by
  constructor
  · have computed : computeMultitreeRouteId 7 0 = .ok (7 * 65536) := by decide
    have accepted := one_tree_accepted 7 ⟨0, [(1, 2), (1, 2)]⟩ (7 * 65536) computed
    rw [buildGroupRoutesForNodeMultitree, accepted]
    rfl
  · rcases tree_packets_queued [2, 2] with ⟨_, _, start, _, queued, _⟩
    have knows : KnowsTree (List.replicate 2 2) (treeProcessor [2, 2]).routingTable :=
      knows_tree (by decide)
    rcases tree_packet_taken queued knows (tree_scheduler [2, 2]) rfl rfl with
      ⟨_, _, step, _, _, taken⟩
    rcases copies_sent taken (tree_scheduler [2, 2]) (by decide) with ⟨_, _, sending, sent⟩
    rcases packet_accepted sent (fun _ => rfl) rfl with ⟨_, _, accepting, accepted⟩
    rcases packet_accepted accepted (fun _ => rfl) rfl with ⟨_, _, acceptingAgain, acceptedAgain⟩
    rcases packets_leave (List.cons_ne_nil _ _) acceptedAgain with
      ⟨_, state, leaving, submitted, left⟩
    have rest := sending.append (accepting.append (acceptingAgain.append leaving))
    have run := start.unrestricted.append (.cons step rest.unrestricted)
    refine ⟨_, state, run, submitted, left, ?_⟩
    rw [submitted, left]
    intro kept
    exact absurd kept.length_le (by decide)

end Nextmini.Node
