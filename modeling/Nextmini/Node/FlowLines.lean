import Nextmini.Library.PipeChain
import Nextmini.Node.FlowOrder

/-!
# Packets on their way through a node

The packets of one flow and FEC tree in a node: those that wait in the lane that the two select, those
on the way to one scheduler, and those kept for the node itself. Each step moves them on and loses one
only where it drops it; which copies there are is decided where a lane looks up the next hops.
-/

namespace Nextmini.Node

open Nextmini.Library Nextmini.Library.PipeChain Nextmini.Routing

set_option autoImplicit false

/-! ## Where packets are lost -/

theorem inside_carried {capacity : Nat} {state next : Scheduler capacity} {label : SchedulerLabel}
    (sorted : state.queue.Sorted) (step : SchedulerStep state label next) (key : FlowTree) :
    CarriedOver (label.loses = true) (state.inside key ++ key.of label.arriving)
      (key.of (state.leaving label) ++ next.inside key) := by
  by_cases loses : label.loses = true
  · exact .fewer loses (inside_step sorted step key)
  · exact .whole (inside_exact sorted step (Bool.eq_false_of_not_eq_true loses) key)

theorem of_other {packet : Packet} {key : FlowTree} (other : packet.flowTree ≠ key) :
    key.of [packet] = [] := by
  apply FlowTree.of_none
  intro only member
  rw [List.mem_singleton.mp member]
  exact other

/-! ## The parts of a line -/

def Lane.copiesHere (localId : NodeId) (lane : Lane) : List Packet :=
  (lane.dispatching.filter fun copy => copy.2 = localId).map Prod.fst

section Parts

variable (slots : LaneSlots) {config : NodeConfig}

namespace SequentialNode

/-- The packets of a flow and tree that wait in their lane. -/
def waiting (key : FlowTree) (state : SequentialNode config) : List Packet :=
  key.of (state.lane (config.laneOf slots key)).queued

/-- Those that have left a scheduler or are on the way to it from the lookup of their next hops. -/
def beyond (handle : Handle) (key : FlowTree) (state : SequentialNode config) : List Packet :=
  key.of (state.left handle) ++ (state.scheduler handle).inside key ++
    (key.of (state.channel handle) ++
      key.of ((state.lane (config.laneOf slots key)).copiesFor config.nodeId handle))

def keeping (key : FlowTree) (state : SequentialNode config) : List Packet :=
  key.of ((state.lane (config.laneOf slots key)).copiesHere config.nodeId)

/-- The copy that a step gives to the node's own receivers. -/
def handedOver (state : SequentialNode config) : SequentialLabel → List Packet
  | .kept index =>
      ((state.lane index).dispatching.take 1 |>.filter fun copy => copy.2 = config.nodeId).map Prod.fst
  | _ => []

/-- The copies of one kind that a lookup has made. -/
def looked (copies : Lane → List Packet) (key : FlowTree) (next : SequentialNode config) :
    SequentialLabel → List Packet
  | .taken index => if index = config.laneOf slots key then key.of (copies (next.lane index)) else []
  | _ => []

/-- A lane that is full refuses a packet, unless its sender waits; in max mode a packet for another
node does not go to a lane at all. -/
def refuses (key : FlowTree) (state : SequentialNode config) : SequentialLabel → Prop
  | .processed packet => packet.flowTree = key ∧
      ¬(config.operatingMode = .normal ∧ config.channelBackpressure = true)
  | .tryProcessed packet => packet.flowTree = key ∧
      ¬(config.operatingMode = .normal ∧
        (state.lane (config.laneOf slots key)).queued.length < config.channelCapacity)
  | _ => False

end SequentialNode

def SequentialLabel.loses (config : NodeConfig) : SequentialLabel → Bool
  | .sent _ => !config.channelBackpressure
  | .scheduled _ label => label.loses
  | _ => false

end Parts

namespace SequentialNode

variable {slots : LaneSlots} {slot : JumpSlot} {config : NodeConfig}
  {state next : SequentialNode config} {label : SequentialLabel} {handle : Handle} {key : FlowTree}

theorem line_parts : state.line slots handle key =
    state.beyond slots handle key ++ state.waiting slots key := by
  simp only [line, beyond, waiting, Lane.line, List.append_assoc]

theorem other_lane (index : Nat) {packets : List Packet}
    (own : ∀ packet ∈ packets, config.laneOf slots packet.flowTree = index)
    (other : index ≠ config.laneOf slots key) : key.of packets = [] := by
  apply FlowTree.of_none
  intro packet member same
  rw [← own packet member, same] at other
  exact other rfl

theorem beyond_set_lane {index : Nat} {lane : Lane}
    (same : key.of (lane.copiesFor config.nodeId handle) =
      key.of ((state.lane index).copiesFor config.nodeId handle)) :
    (state.setLane index lane).beyond slots handle key = state.beyond slots handle key := by
  simp only [beyond, setLane]
  by_cases own : config.laneOf slots key = index
  · rw [own, Function.update_self, same]
  · rw [Function.update_of_ne own]

theorem keeping_set_lane {index : Nat} {lane : Lane}
    (same : lane.copiesHere config.nodeId = (state.lane index).copiesHere config.nodeId) :
    (state.setLane index lane).keeping slots key = state.keeping slots key := by
  simp only [keeping, setLane]
  by_cases own : config.laneOf slots key = index
  · rw [own, Function.update_self, same]
  · rw [Function.update_of_ne own]

theorem send_to_scheduler_waits {channel later : List Packet} {packet : Packet}
    (backpressure : config.channelBackpressure = true)
    (sent : config.sendToScheduler channel packet = some later) : later = channel ++ [packet] := by
  simp only [NodeConfig.sendToScheduler, backpressure, if_true] at sent
  split_ifs at sent
  exact (Option.some.inj sent).symm

theorem sent_beyond {index : Nat} {packet : Packet} {nextHopId : NodeId}
    {rest : List (Packet × NodeId)} {changed : Handle} {channel : List Packet}
    (copies : (state.lane index).dispatching = (packet, nextHopId) :: rest)
    (found : (state.lane index).processor.schedulerFor config.nodeId nextHopId = some changed)
    (selected : config.laneOf slots packet.flowTree = index)
    (sent : channel = state.channel changed ++ [packet]) :
    ((state.setLane index { state.lane index with dispatching := rest }).setChannel changed
      channel).beyond slots handle key = state.beyond slots handle key := by
  have moving : key.of ((state.lane (config.laneOf slots key)).copiesFor config.nodeId handle) =
      key.of (if changed = handle then [packet] else []) ++
        key.of ((Function.update state.lane index { state.lane index with dispatching := rest }
          (config.laneOf slots key)).copiesFor config.nodeId handle) := by
    by_cases here : config.laneOf slots key = index
    · rw [here, Function.update_self, ← FlowTree.of_append]
      simp only [Lane.copiesFor, copies, List.filter_cons, found, Option.some.injEq,
        decide_eq_true_eq]
      split_ifs <;> rfl
    · have other : packet.flowTree ≠ key := by
        rintro rfl
        exact here selected
      rw [Function.update_of_ne here]
      split_ifs
      · rw [of_other other, List.nil_append]
      · rfl
  have arrived : key.of (Function.update state.channel changed channel handle) =
      key.of (state.channel handle) ++ key.of (if changed = handle then [packet] else []) := by
    by_cases here : handle = changed
    · rw [here, Function.update_self, if_pos rfl, sent, FlowTree.of_append]
    · rw [Function.update_of_ne here, if_neg (Ne.symm here), FlowTree.of_nil, List.append_nil]
  simp only [beyond, setChannel, setLane, arrived, moving, List.append_assoc]

theorem unsent_beyond {index : Nat} {packet : Packet} {nextHopId : NodeId}
    {rest : List (Packet × NodeId)} {changed : Handle} {channel : List Packet}
    (copies : (state.lane index).dispatching = (packet, nextHopId) :: rest)
    (same : channel = state.channel changed) :
    (((state.setLane index { state.lane index with dispatching := rest }).setChannel changed
      channel).beyond slots handle key).Sublist (state.beyond slots handle key) := by
  have channels : Function.update state.channel changed channel = state.channel := by
    rw [same, Function.update_eq_self]
  simp only [beyond, setChannel, setLane, channels]
  apply List.Sublist.append_left
  apply List.Sublist.append_left
  apply FlowTree.of_sublist
  by_cases here : config.laneOf slots key = index
  · rw [here, Function.update_self, Lane.copiesFor, Lane.copiesFor, copies]
    apply List.Sublist.map
    exact (List.sublist_cons_self _ rest).filter _
  · rw [Function.update_of_ne here]

/-- A step moves what is beyond the lookup along, and adds the copies that it looks up itself. -/
theorem beyond_step (handle : Handle) (key : FlowTree)
    (sorted : ∀ handle, (state.scheduler handle).queue.Sorted)
    (own : ∀ index, ∀ packet ∈ (state.lane index).packets, config.laneOf slots packet.flowTree = index)
    (step : SequentialStep slots slot state label next) :
    CarriedOver (label.loses config = true)
      (state.beyond slots handle key ++
        next.looked slots (Lane.copiesFor config.nodeId handle) key label)
      (next.beyond slots handle key) := by
  have submitted {packet : Packet} {later : SequentialNode config}
      (processed : state.processPacket slots packet = some later ∨
        state.tryProcessPacket slots packet = some later) :
      later.beyond slots handle key = state.beyond slots handle key := by
    rcases process_packet_cases processed with rfl | rfl
    · rfl
    · exact beyond_set_lane rfl
  cases step with
  | processed packet later processed =>
    have moved := submitted (.inl processed)
    simp only [looked, List.append_nil]
    exact .whole moved
  | tryProcessed packet later processed =>
    have moved := submitted (.inr processed)
    simp only [looked, List.append_nil]
    exact .whole moved
  | messageHandled index message idle =>
    apply CarriedOver.whole
    simp only [looked, List.append_nil]
    apply beyond_set_lane
    rw [Lane.copiesFor, Lane.copiesFor, idle]
    rfl
  | taken index packet rest table answer idle queued found =>
    apply CarriedOver.whole
    by_cases here : index = config.laneOf slots key
    · subst here
      simp [looked, beyond, setLane, Lane.copiesFor, idle]
    · have others : (config.laneOf slots key) ≠ index := fun same => here same.symm
      simp [looked, beyond, setLane, here, others]
  | kept index packet nextHopId rest copies unknown =>
    apply CarriedOver.whole
    simp only [looked, List.append_nil]
    apply beyond_set_lane
    simp [Lane.copiesFor, copies, unknown]
  | sent index packet nextHopId rest changed channel copies found sent =>
    have selected : config.laneOf slots packet.flowTree = index := by
      apply own index
      rw [Lane.packets, copies]
      exact List.mem_cons_self
    simp only [looked, List.append_nil]
    by_cases waits : config.channelBackpressure = true
    · exact .whole (sent_beyond copies found selected (send_to_scheduler_waits waits sent))
    · refine .fewer (by simpa [SequentialLabel.loses] using waits) ?_
      rcases send_to_scheduler_cases sent with longer | same
      · rw [sent_beyond copies found selected longer]
      · exact unsent_beyond copies same
  | received changed packet rest scheduler front inner =>
    have moved := inside_exact (sorted changed) inner rfl key
    apply CarriedOver.whole
    simp only [looked, List.append_nil, beyond, setChannel, setScheduler]
    by_cases here : handle = changed
    · rw [here, Function.update_self, Function.update_self, front]
      simp only [Scheduler.leaving, SchedulerLabel.arriving, FlowTree.of_nil, List.nil_append]
        at moved
      have next : key.of (packet :: rest) = key.of [packet] ++ key.of rest :=
        FlowTree.of_append key [packet] rest
      rw [moved, next]
      simp only [List.append_assoc]
    · rw [Function.update_of_ne here, Function.update_of_ne here]
  | scheduled changed inner scheduler none inside =>
    have moved := inside_carried (sorted changed) inside key
    rw [none, FlowTree.of_nil, List.append_nil] at moved
    simp only [looked, List.append_nil, beyond, setScheduler]
    apply CarriedOver.append_right
    by_cases here : handle = changed
    · rw [here, Function.update_self, Function.update_self, FlowTree.of_append, List.append_assoc]
      exact moved.append_left _
    · rw [Function.update_of_ne here, Function.update_of_ne here]
      exact .whole rfl

/-- Copies for the node itself stay in the lane until they are handed over. -/
theorem keeping_step (key : FlowTree)
    (own : ∀ index, ∀ packet ∈ (state.lane index).packets, config.laneOf slots packet.flowTree = index)
    (step : SequentialStep slots slot state label next) :
    key.of (state.handedOver label) ++ next.keeping slots key = state.keeping slots key ++
      next.looked slots (Lane.copiesHere config.nodeId) key label := by
  have submitted {packet : Packet} {later : SequentialNode config}
      (processed : state.processPacket slots packet = some later ∨
        state.tryProcessPacket slots packet = some later) :
      later.keeping slots key = state.keeping slots key := by
    rcases process_packet_cases processed with rfl | rfl
    · rfl
    · exact keeping_set_lane rfl
  cases step with
  | processed packet later processed =>
    have kept := submitted (.inl processed)
    simp only [handedOver, looked, FlowTree.of_nil, List.nil_append, List.append_nil]
    exact kept
  | tryProcessed packet later processed =>
    have kept := submitted (.inr processed)
    simp only [handedOver, looked, FlowTree.of_nil, List.nil_append, List.append_nil]
    exact kept
  | messageHandled index message idle =>
    simp only [handedOver, looked, FlowTree.of_nil, List.nil_append, List.append_nil]
    apply keeping_set_lane
    rw [Lane.copiesHere, Lane.copiesHere]
  | taken index packet rest table answer idle queued found =>
    by_cases here : index = config.laneOf slots key
    · subst here
      simp [handedOver, looked, keeping, setLane, Lane.copiesHere, idle]
    · have others : (config.laneOf slots key) ≠ index := fun same => here same.symm
      simp [handedOver, looked, keeping, setLane, here, others]
  | kept index packet nextHopId rest copies unknown =>
    have selected : config.laneOf slots packet.flowTree = index := by
      apply own index
      rw [Lane.packets, copies]
      exact List.mem_cons_self
    simp only [handedOver, looked, List.append_nil, keeping, setLane]
    by_cases here : config.laneOf slots key = index
    · rw [here, Function.update_self, ← FlowTree.of_append]
      apply congrArg key.of
      simp only [Lane.copiesHere, copies, List.take_succ_cons, List.take_zero, List.filter_cons]
      split_ifs <;> rfl
    · have others : key.of (((state.lane index).dispatching.take 1 |>.filter fun copy =>
          copy.2 = config.nodeId).map Prod.fst) = [] := by
        apply other_lane index _ (Ne.symm here)
        rw [copies]
        simp only [List.take_succ_cons, List.take_zero, List.filter_cons, List.filter_nil]
        intro only member
        split_ifs at member
        · rw [List.mem_singleton.mp member]
          exact selected
        · cases member
      rw [others, Function.update_of_ne here, List.nil_append]
  | sent index packet nextHopId rest changed channel copies found sent =>
    simp only [handedOver, looked, FlowTree.of_nil, List.nil_append, List.append_nil]
    have away : nextHopId ≠ config.nodeId := by
      intro same
      rw [Processor.schedulerFor, if_pos same] at found
      cases found
    exact keeping_set_lane (by simp [Lane.copiesHere, copies, away])
  | received changed packet rest scheduler front inner =>
    simp only [handedOver, looked, FlowTree.of_nil, List.nil_append, List.append_nil]
    rfl
  | scheduled changed inner scheduler none inside =>
    simp only [handedOver, looked, FlowTree.of_nil, List.nil_append, List.append_nil]
    rfl

theorem left_step (handle : Handle) (step : SequentialStep slots slot state label next) :
    ∃ more, next.left handle = state.left handle ++ more := by
  have unchanged : ∃ more, state.left handle = state.left handle ++ more :=
    ⟨[], (List.append_nil _).symm⟩
  cases step with
  | processed packet later processed =>
    rcases process_packet_cases (.inl processed) with rfl | rfl
    · exact unchanged
    · exact unchanged
  | tryProcessed packet later processed =>
    rcases process_packet_cases (.inr processed) with rfl | rfl
    · exact unchanged
    · exact unchanged
  | scheduled changed inner scheduler none inside =>
    by_cases here : handle = changed
    · rw [here]
      exact ⟨_, Function.update_self _ _ _⟩
    · have same : Function.update state.left changed
          (state.left changed ++ (state.scheduler changed).leaving inner) handle = state.left handle :=
        Function.update_of_ne here _ _
      exact ⟨[], same.trans (List.append_nil _).symm⟩
  | _ => exact unchanged

/-! ## Lanes -/

theorem accepted_packet {packet : Packet} (own : packet.flowTree = key)
    (submitted : state.processPacket slots packet = some next ∧
        ¬state.refuses slots key (.processed packet) ∨
      state.tryProcessPacket slots packet = some next ∧
        ¬state.refuses slots key (.tryProcessed packet)) :
    next = state.setLane (config.laneOf slots packet.flowTree)
      { state.lane (config.laneOf slots packet.flowTree) with
        queued := (state.lane (config.laneOf slots packet.flowTree)).queued ++ [packet] } := by
  subst own
  rcases submitted with ⟨processed, accepted⟩ | ⟨processed, accepted⟩
  · have normal := not_not.mp fun refused => accepted ⟨rfl, refused⟩
    simp only [processPacket, normal.1, ite_self, sendToProcessor, sendBy, lane_of_packet] at processed
    rcases Option.ite_none_right_eq_some.mp processed with ⟨_, updated⟩
    rw [← Option.some.inj updated, Lane.send, if_pos normal.2]
  · have normal := not_not.mp fun refused => accepted ⟨rfl, refused⟩
    simp only [tryProcessPacket, normal.1, ite_self, trySendToProcessor, sendBy, lane_of_packet]
      at processed
    rcases Option.ite_none_right_eq_some.mp processed with ⟨_, updated⟩
    rw [← Option.some.inj updated, Lane.trySend, if_pos normal.2]

/-- Between two lookups a packet that is submitted comes behind those that wait. -/
theorem waiting_step (between : label ≠ .taken (config.laneOf slots key))
    (step : SequentialStep slots slot state label next) :
    CarriedOver (state.refuses slots key label) (state.waiting slots key ++ key.of label.submitted)
      (next.waiting slots key) := by
  have unchanged {index : Nat} {lane : Lane} (same : lane.queued = (state.lane index).queued) :
      CarriedOver (state.refuses slots key label) (state.waiting slots key ++ key.of [])
        ((state.setLane index lane).waiting slots key) := by
    apply CarriedOver.whole
    rw [FlowTree.of_nil, List.append_nil]
    simp only [waiting, setLane]
    by_cases here : config.laneOf slots key = index
    · rw [here, Function.update_self, same]
    · rw [Function.update_of_ne here]
  have behind (packet : Packet) :
      (state.setLane (config.laneOf slots packet.flowTree)
        { state.lane (config.laneOf slots packet.flowTree) with
          queued := (state.lane (config.laneOf slots packet.flowTree)).queued ++
            [packet] }).waiting slots key = state.waiting slots key ++ key.of [packet] := by
    simp only [waiting, setLane]
    by_cases here : config.laneOf slots key = config.laneOf slots packet.flowTree
    · rw [here, Function.update_self, FlowTree.of_append]
    · have other : packet.flowTree ≠ key := by
        rintro rfl
        exact here rfl
      rw [Function.update_of_ne here, of_other other, List.append_nil]
  have submitted {packet : Packet} {later : SequentialNode config} {refused : Prop}
      (processed : state.processPacket slots packet = some later ∨
        state.tryProcessPacket slots packet = some later)
      (accepted : packet.flowTree = key → ¬refused →
        later = state.setLane (config.laneOf slots packet.flowTree)
          { state.lane (config.laneOf slots packet.flowTree) with
            queued := (state.lane (config.laneOf slots packet.flowTree)).queued ++ [packet] }) :
      CarriedOver refused (state.waiting slots key ++ key.of [packet]) (later.waiting slots key) := by
    by_cases own : packet.flowTree = key
    · by_cases turned : refused
      · apply CarriedOver.fewer turned
        rcases process_packet_cases processed with rfl | rfl
        · exact List.sublist_append_left _ _
        · rw [behind packet]
      · rw [accepted own turned]
        exact .whole (behind packet)
    · apply CarriedOver.whole
      rcases process_packet_cases processed with rfl | rfl
      · rw [of_other own, List.append_nil]
      · exact behind packet
  cases step with
  | processed packet later processed =>
    have moved := submitted (.inl processed) fun own accepted =>
      accepted_packet own (.inl ⟨processed, accepted⟩)
    exact moved
  | tryProcessed packet later processed =>
    have moved := submitted (.inr processed) fun own accepted =>
      accepted_packet own (.inr ⟨processed, accepted⟩)
    exact moved
  | messageHandled index message idle => exact unchanged rfl
  | taken index packet rest table answer idle queued found =>
    have other : config.laneOf slots key ≠ index := by
      intro same
      rw [same] at between
      exact between rfl
    apply CarriedOver.whole
    simp only [waiting, setLane, Function.update_of_ne other]
    exact (List.append_nil _).symm
  | kept index packet nextHopId rest copies unknown => exact unchanged rfl
  | sent index packet nextHopId rest changed channel copies found sent => exact unchanged rfl
  | received changed packet rest scheduler front inner =>
    exact .whole (List.append_nil _).symm
  | scheduled changed inner scheduler none inside =>
    exact .whole (List.append_nil _).symm

/-! ## Lookups -/

/-- The schedulers a node's lanes know are named by the neighbors they send to. -/
def Announced (state : SequentialNode config) : Prop :=
  ∀ (index : Nat) (neighbor : NodeId) (handle : Handle),
    (state.lane index).processor.schedulers[neighbor]? = some handle → handle = neighbor

/-- All lookups of a flow and tree give the same next hops. -/
def LooksUp (slot : JumpSlot) (key : FlowTree) (hops : List NodeId) (state : SequentialNode config)
    (label : SequentialLabel) : Prop :=
  ∀ index packet rest table answer, label = .taken index →
    (state.lane index).queued = packet :: rest → packet.flowTree = key →
      (state.lane index).processor.routingTable.getNextHopsByFlowAndTree slot packet.flowId
        packet.tag.losslessFecTreeId = some (table, answer) → resolvedHops answer = hops

theorem announced_step (announced : Announced state)
    (named : ∀ index neighbor handle, label = .messageHandled index (.addNode neighbor handle) →
      handle = neighbor) (step : SequentialStep slots slot state label next) : Announced next := by
  have updated {changed : Nat} {lane : Lane}
      (known : ∀ (neighbor : NodeId) (handle : Handle),
        lane.processor.schedulers[neighbor]? = some handle → handle = neighbor) : Announced (state.setLane changed lane) := by
    intro index neighbor handle found
    simp only [setLane] at found
    by_cases here : index = changed
    · rw [here, Function.update_self] at found
      exact known neighbor handle found
    · rw [Function.update_of_ne here] at found
      exact announced index neighbor handle found
  cases step with
  | processed packet later processed =>
    rcases process_packet_cases (.inl processed) with rfl | rfl
    · exact announced
    · exact updated (announced _)
  | tryProcessed packet later processed =>
    rcases process_packet_cases (.inr processed) with rfl | rfl
    · exact announced
    · exact updated (announced _)
  | messageHandled index message idle =>
    apply updated
    intro neighbor handle found
    cases message with
    | addNode added scheduler =>
      simp only [Processor.handleMessage, Std.HashMap.getElem?_insert] at found
      split_ifs at found with same
      · rw [← Option.some.inj found, ← eq_of_beq same]
        exact named index added scheduler rfl
      · exact announced index neighbor handle found
    | _ => exact announced index neighbor handle found
  | taken index packet rest table answer idle queued looked => exact updated (announced index)
  | kept index packet nextHopId rest copies unknown => exact updated (announced index)
  | sent index packet nextHopId rest changed channel copies found sent =>
    exact updated (announced index)
  | received changed packet rest scheduler front inner => exact announced
  | scheduled changed inner scheduler none inside => exact announced

theorem copies_along (goes : NodeId → Bool) (packet : Packet) (hops : List NodeId) :
    ((hops.map fun nextHopId => (packet, nextHopId)).filter fun copy => goes copy.2).map Prod.fst =
      List.replicate (hops.countP goes) packet := by
  induction hops with
  | nil => rfl
  | cons nextHopId rest induction =>
    rw [List.map_cons, List.filter_cons, List.countP_cons]
    split_ifs with led
    · rw [List.map_cons, induction, List.replicate_succ]
    · exact induction

theorem of_replicate (key : FlowTree) (packet : Packet) (count : Nat) :
    key.of (List.replicate count packet) = (List.replicate count (key.of [packet])).flatten := by
  induction count with
  | zero => rfl
  | succ count induction =>
    have next : key.of (List.replicate (count + 1) packet) =
        key.of [packet] ++ key.of (List.replicate count packet) :=
      FlowTree.of_append key [packet] (List.replicate count packet)
    rw [next, induction, List.replicate_succ, List.flatten_cons]

theorem taken_step {hops : List NodeId}
    (looksUp : LooksUp slot key hops state (.taken (config.laneOf slots key)))
    (step : SequentialStep slots slot state (.taken (config.laneOf slots key)) next) :
    ∃ packet rest, (state.lane (config.laneOf slots key)).queued = packet :: rest ∧
      state.waiting slots key = key.of [packet] ++ next.waiting slots key ∧
      (∀ handle, next.looked slots (Lane.copiesFor config.nodeId handle) key
          (.taken (config.laneOf slots key)) =
        (List.replicate (hops.countP fun nextHopId =>
          (state.lane (config.laneOf slots key)).processor.schedulerFor config.nodeId nextHopId =
            some handle) (key.of [packet])).flatten) ∧
      next.looked slots (Lane.copiesHere config.nodeId) key (.taken (config.laneOf slots key)) =
        (List.replicate (hops.countP fun nextHopId => nextHopId = config.nodeId)
          (key.of [packet])).flatten := by
  generalize found : SequentialLabel.taken (config.laneOf slots key) = label at step
  cases step with
  | taken index packet rest table answer idle queued looked =>
    cases found
    have copied (goes : NodeId → Bool) :
        key.of ((((resolvedHops answer).map fun nextHopId => (packet, nextHopId)).filter
          fun copy => goes copy.2).map Prod.fst) =
        (List.replicate (hops.countP goes) (key.of [packet])).flatten := by
      rw [copies_along, of_replicate]
      by_cases own : packet.flowTree = key
      · rw [looksUp _ packet rest table answer rfl queued own looked]
      · simp only [of_other own, List.flatten_replicate_nil]
    refine ⟨packet, rest, queued, ?_, ?_, ?_⟩
    · simp only [waiting, setLane, Function.update_self, queued, ← FlowTree.of_append,
        List.singleton_append]
    · intro handle
      simp only [SequentialNode.looked, setLane, Function.update_self, if_true, Lane.copiesFor]
      exact copied fun nextHopId =>
        (state.lane (config.laneOf slots key)).processor.schedulerFor config.nodeId nextHopId =
          some handle
    · simp only [SequentialNode.looked, setLane, Function.update_self, if_true, Lane.copiesHere]
      exact copied fun nextHopId => nextHopId = config.nodeId
  | _ => cases found

/-! ## Lines -/

section Ways

variable {hops : List NodeId} {index : Nat}

theorem scheduler_for_named (announced : Announced state) {nextHopId : NodeId}
    (leads : (state.lane index).processor.schedulerFor config.nodeId nextHopId = some handle) :
    nextHopId = handle ∧ handle ≠ config.nodeId := by
  rw [Processor.schedulerFor] at leads
  split_ifs at leads with own
  have same := announced index nextHopId handle leads
  rw [same]
  exact ⟨rfl, own⟩

theorem ways_le_one (handle : Handle) (index : Nat) (announced : Announced state) (apart : hops.Nodup) :
    (hops.countP fun nextHopId =>
      (state.lane index).processor.schedulerFor config.nodeId nextHopId = some handle) ≤ 1 := by
  apply Nat.le_trans _ (List.nodup_iff_count_le_one.mp apart handle)
  apply List.countP_mono_left
  intro nextHopId _ leads
  rw [beq_iff_eq]
  exact (scheduler_for_named announced (of_decide_eq_true leads)).1

theorem ways_none (announced : Announced state) (off : ¬(handle ∈ hops ∧ handle ≠ config.nodeId)) :
    (hops.countP fun nextHopId =>
      (state.lane index).processor.schedulerFor config.nodeId nextHopId = some handle) = 0 := by
  apply List.countP_eq_zero.mpr
  intro nextHopId member leads
  rcases scheduler_for_named announced (of_decide_eq_true leads) with ⟨rfl, away⟩
  exact off ⟨member, away⟩

theorem ways_some
    (known : (state.lane index).processor.schedulerFor config.nodeId handle = some handle)
    (member : handle ∈ hops) : (hops.countP fun nextHopId =>
      (state.lane index).processor.schedulerFor config.nodeId nextHopId = some handle) ≠ 0 := by
  intro none
  exact List.countP_eq_zero.mp none handle member (decide_eq_true known)

end Ways

/-- Where a packet on the line to a scheduler may get lost. -/
def mayLose (slots : LaneSlots) (key : FlowTree) (handle : Handle) (state : SequentialNode config)
    (label : SequentialLabel) : Prop :=
  label.loses config = true ∨ state.refuses slots key label ∨
    label = .taken (config.laneOf slots key) ∧
      (∃ packet rest, (state.lane (config.laneOf slots key)).queued = packet :: rest ∧
        packet.flowTree = key) ∧
      (state.lane (config.laneOf slots key)).processor.schedulerFor config.nodeId handle ≠ some handle

theorem looked_between (between : label ≠ .taken (config.laneOf slots key)) (copies : Lane → List Packet) :
    next.looked slots copies key label = [] := by
  cases label with
  | taken index =>
    have other : index ≠ config.laneOf slots key := fun same => between (congrArg _ same)
    rw [looked, if_neg other]
  | _ => rfl

theorem copied_sublist {count : Nat} (few : count ≤ 1) (packets : List Packet) :
    (List.replicate count packets).flatten.Sublist packets := by
  cases Nat.le_one_iff_eq_zero_or_eq_one.mp few with
  | inl none =>
    rw [none]
    exact List.nil_sublist packets
  | inr one =>
    rw [one, List.replicate_one, List.flatten_singleton]

section Lines

variable {hops : List NodeId}

theorem line_carried (sorted : ∀ handle, (state.scheduler handle).queue.Sorted)
    (own : ∀ index, ∀ packet ∈ (state.lane index).packets, config.laneOf slots packet.flowTree = index)
    (announced : Announced state) (apart : hops.Nodup) (onRoute : handle ∈ hops)
    (looksUp : LooksUp slot key hops state label)
    (step : SequentialStep slots slot state label next) :
    CarriedOver (state.mayLose slots key handle label)
      (state.line slots handle key ++ key.of label.submitted) (next.line slots handle key) := by
  have moved := beyond_step handle key sorted own step
  rw [line_parts, line_parts, List.append_assoc]
  by_cases taken : label = .taken (config.laneOf slots key)
  · subst taken
    rcases taken_step looksUp step with ⟨packet, rest, front, waits, copies, _⟩
    have ways := ways_le_one handle (config.laneOf slots key) announced apart
    have exact := moved.exact Bool.false_ne_true
    have submitted : key.of (SequentialLabel.taken (config.laneOf slots key)).submitted = [] := rfl
    rw [exact, copies handle, waits, submitted, List.append_nil, List.append_assoc]
    apply CarriedOver.append_left
    apply CarriedOver.append_right
    by_cases known : (state.lane (config.laneOf slots key)).processor.schedulerFor config.nodeId
        handle = some handle
    · have one := Nat.le_antisymm ways (Nat.one_le_iff_ne_zero.mpr (ways_some known onRoute))
      rw [one]
      exact .whole (List.append_nil _)
    · by_cases own : packet.flowTree = key
      · exact .fewer (.inr (.inr ⟨rfl, ⟨packet, rest, front, own⟩, known⟩)) (copied_sublist ways _)
      · rw [of_other own, List.flatten_replicate_nil]
        exact .whole rfl
  · rw [looked_between taken, List.append_nil] at moved
    apply (moved.append (waiting_step taken step)).mono
    intro risk
    cases risk with
    | inl loses => exact .inl loses
    | inr refuses => exact .inr (.inl refuses)

/-- Nothing is on the way to a scheduler that the next hops do not lead to. -/
theorem beyond_empty (sorted : ∀ handle, (state.scheduler handle).queue.Sorted)
    (own : ∀ index, ∀ packet ∈ (state.lane index).packets, config.laneOf slots packet.flowTree = index)
    (announced : Announced state) (off : ¬(handle ∈ hops ∧ handle ≠ config.nodeId))
    (looksUp : LooksUp slot key hops state label) (empty : state.beyond slots handle key = [])
    (step : SequentialStep slots slot state label next) : next.beyond slots handle key = [] := by
  have moved := (beyond_step handle key sorted own step).sublist
  have unlooked : next.looked slots (Lane.copiesFor config.nodeId handle) key label = [] := by
    by_cases taken : label = .taken (config.laneOf slots key)
    · subst taken
      rcases taken_step looksUp step with ⟨packet, _, _, _, copies, _⟩
      rw [copies handle, ways_none announced off]
      rfl
    · exact looked_between taken _
  rw [empty, unlooked] at moved
  exact List.eq_nil_of_sublist_nil moved

theorem kept_carried
    (own : ∀ index, ∀ packet ∈ (state.lane index).packets, config.laneOf slots packet.flowTree = index)
    (apart : hops.Nodup) (looksUp : LooksUp slot key hops state label)
    (step : SequentialStep slots slot state label next) :
    CarriedOver (state.refuses slots key label ∨ config.nodeId ∉ hops)
      (state.keeping slots key ++ state.waiting slots key ++ key.of label.submitted)
      (key.of (state.handedOver label) ++ next.keeping slots key ++ next.waiting slots key) := by
  rw [keeping_step key own step, List.append_assoc]
  by_cases taken : label = .taken (config.laneOf slots key)
  · subst taken
    rcases taken_step looksUp step with ⟨packet, _, _, waits, _, copies⟩
    have submitted : key.of (SequentialLabel.taken (config.laneOf slots key)).submitted = [] := rfl
    rw [copies, waits, submitted, List.append_nil, List.append_assoc]
    apply CarriedOver.append_left
    apply CarriedOver.append_right
    have ways : hops.countP (fun nextHopId => nextHopId = config.nodeId) = hops.count config.nodeId :=
      rfl
    rw [ways]
    by_cases member : config.nodeId ∈ hops
    · rw [List.count_eq_one_of_mem apart member]
      exact .whole (List.append_nil _)
    · exact .fewer (.inr member) (copied_sublist (List.nodup_iff_count_le_one.mp apart _) _)
  · rw [looked_between taken, List.append_nil]
    apply CarriedOver.append_left
    exact (waiting_step taken step).mono .inl

theorem keeping_empty
    (own : ∀ index, ∀ packet ∈ (state.lane index).packets, config.laneOf slots packet.flowTree = index)
    (off : config.nodeId ∉ hops) (looksUp : LooksUp slot key hops state label)
    (empty : state.keeping slots key = []) (step : SequentialStep slots slot state label next) :
    key.of (state.handedOver label) = [] ∧ next.keeping slots key = [] := by
  have moved := keeping_step key own step
  have unlooked : next.looked slots (Lane.copiesHere config.nodeId) key label = [] := by
    by_cases taken : label = .taken (config.laneOf slots key)
    · subst taken
      rcases taken_step looksUp step with ⟨packet, _, _, _, _, copies⟩
      have none : hops.countP (fun nextHopId => nextHopId = config.nodeId) = 0 :=
        List.count_eq_zero_of_not_mem off
      rw [copies, none]
      rfl
    · exact looked_between taken _
  rw [empty, unlooked] at moved
  exact List.append_eq_nil_iff.mp moved

end Lines

/-! ## Backpressure -/

/-- A node in which senders wait for room. -/
structure Waits (config : NodeConfig) : Prop where
  normal : config.operatingMode = .normal
  backpressure : config.channelBackpressure = true
  room : 0 < config.queueCapacity

theorem balanced_of_step (balanced : ∀ handle, Balanced (state.scheduler handle))
    (step : SequentialStep slots slot state label next) (handle : Handle) :
    Balanced (next.scheduler handle) := by
  have updated (changed : Handle) {inner : SchedulerLabel}
      {scheduler : Scheduler config.queueCapacity}
      (step : SchedulerStep (state.scheduler changed) inner scheduler) :
      Balanced (Function.update state.scheduler changed scheduler handle) := by
    by_cases own : handle = changed
    · rw [own, Function.update_self]
      exact balanced_step (balanced changed) step
    · rw [Function.update_of_ne own]
      exact balanced handle
  cases step with
  | processed packet later processed =>
    rcases process_packet_cases (.inl processed) with rfl | rfl
    · exact balanced handle
    · exact balanced handle
  | tryProcessed packet later processed =>
    rcases process_packet_cases (.inr processed) with rfl | rfl
    · exact balanced handle
    · exact balanced handle
  | received changed packet rest scheduler front inner => exact updated changed inner
  | scheduled changed inner scheduler none inside => exact updated changed inside
  | _ => exact balanced handle

/-- With permits for all it holds, a scheduler drops nothing. -/
theorem balanced_loses_nothing {capacity : Nat} {scheduler later : Scheduler capacity}
    {inner : SchedulerLabel} (balanced : Balanced scheduler)
    (step : SchedulerStep scheduler inner later) : inner.loses = false := by
  cases step with
  | dropped packet queueLen reader unbounded =>
    rcases balanced.balance with ⟨permits, held, _⟩
    rw [held] at unbounded
    cases unbounded
  | rejected packet queueLen reader full =>
    rcases room_of_balanced balanced reader with ⟨later, enqueued⟩
    rw [full] at enqueued
    cases enqueued
  | _ => rfl

theorem loses_nothing (waits : Waits config) (balanced : ∀ handle, Balanced (state.scheduler handle))
    (step : SequentialStep slots slot state label next) : label.loses config = false := by
  cases step with
  | sent index packet nextHopId rest changed channel copies found sent =>
    rw [SequentialLabel.loses, waits.backpressure]
    rfl
  | scheduled changed inner scheduler none inside =>
    exact balanced_loses_nothing (balanced changed) inside
  | _ => rfl

end SequentialNode

end Nextmini.Node
