import Nextmini.Node.Scheduler

/-!
# Order in a scheduler

The packets of one flow and FEC tree inside a scheduler, from the batch of the writer over the queue
to the packet the reader holds. Each step lets them leave in the order in which they came.
-/

namespace Nextmini.Node

open Nextmini.Library Nextmini.Routing

set_option autoImplicit false

/-! ## Flows and trees -/

structure FlowTree where
  flowId : FlowId
  losslessFecTreeId : Option UInt16
  deriving DecidableEq

def Packet.flowTree (packet : Packet) : FlowTree where
  flowId := packet.flowId
  losslessFecTreeId := packet.tag.losslessFecTreeId

def FlowTree.of (key : FlowTree) (packets : List Packet) : List Packet :=
  packets.filter (·.flowTree = key)

namespace FlowTree

variable {key : FlowTree} {packets : List Packet}

@[simp] theorem of_nil (key : FlowTree) : key.of [] = [] := rfl

@[simp] theorem of_append (key : FlowTree) (first second : List Packet) :
    key.of (first ++ second) = key.of first ++ key.of second :=
  List.filter_append first second

theorem of_none (others : ∀ packet ∈ packets, packet.flowTree ≠ key) : key.of packets = [] := by
  rw [of, List.filter_eq_nil_iff]
  intro packet member same
  exact others packet member (of_decide_eq_true same)

theorem of_sublist {fewer : List Packet} (kept : fewer.Sublist packets) (key : FlowTree) :
    (key.of fewer).Sublist (key.of packets) :=
  kept.filter _

end FlowTree

/-! ## The queue -/

variable {capacity : Nat}

def SchedulerQueue.ofFlow (flowId : FlowId) : SchedulerQueue capacity → List Packet
  | .fifo queue => queue.items
  | .wrr queue => (queue.flowQueues flowId).items

/-- Each ring holds packets of its own flow. -/
def SchedulerQueue.Sorted : SchedulerQueue capacity → Prop
  | .fifo _ => True
  | .wrr queue => ∀ flowId, ∀ packet ∈ (queue.flowQueues flowId).items, packet.flowId = flowId

namespace SchedulerQueue

variable {queue later : SchedulerQueue capacity} {packet : Packet}

theorem sorted_new (schedulerType : SchedulingDiscipline) : (new capacity schedulerType).Sorted := by
  cases schedulerType with
  | fifo => trivial
  | wrr => nofun

@[simp] theorem of_flow_new (schedulerType : SchedulingDiscipline) (flowId : FlowId) :
    (new capacity schedulerType).ofFlow flowId = [] := by
  cases schedulerType <;> rfl

@[simp] theorem of_flow_handle_message (queue : SchedulerQueue capacity)
    (message : SchedulerWriterMessage) (flowId : FlowId) :
    (queue.handleMessage message).ofFlow flowId = queue.ofFlow flowId := by
  cases message with
  | setFlowWeight other weight => cases queue <;> rfl
  | rateLimit rate bucketSize => rfl
  | linkProbePackets packets => rfl

theorem sorted_handle_message (sorted : queue.Sorted) (message : SchedulerWriterMessage) :
    (queue.handleMessage message).Sorted := by
  cases message with
  | setFlowWeight other weight =>
    cases queue with
    | fifo ring => exact sorted
    | wrr rings => exact sorted
  | rateLimit rate bucketSize => exact sorted
  | linkProbePackets packets => exact sorted

theorem of_flow_enqueue (enqueued : queue.enqueue packet = some later) (key : FlowTree) :
    key.of (later.ofFlow key.flowId) = key.of (queue.ofFlow key.flowId) ++ key.of [packet] := by
  cases queue with
  | fifo ring =>
    rcases Option.map_eq_some_iff.mp enqueued with ⟨longer, pushed, rfl⟩
    rw [ofFlow, ofFlow, ArrayQueue.push_items pushed, FlowTree.of_append]
  | wrr rings =>
    rcases Option.map_eq_some_iff.mp enqueued with ⟨_, added, rfl⟩
    rcases Option.map_eq_some_iff.mp added with ⟨longer, pushed, rfl⟩
    simp only [ofFlow, WrrQueue.setFlow]
    by_cases own : key.flowId = packet.flowId
    · rw [own, Function.update_self, ArrayQueue.push_items pushed, FlowTree.of_append]
    · have other : key.of [packet] = [] := by
        apply FlowTree.of_none
        intro only member same
        rw [List.mem_singleton.mp member] at same
        exact own (congrArg FlowTree.flowId same).symm
      rw [Function.update_of_ne own, other, List.append_nil]

theorem sorted_enqueue (sorted : queue.Sorted) (enqueued : queue.enqueue packet = some later) :
    later.Sorted := by
  cases queue with
  | fifo ring =>
    rcases Option.map_eq_some_iff.mp enqueued with ⟨longer, pushed, rfl⟩
    trivial
  | wrr rings =>
    rcases Option.map_eq_some_iff.mp enqueued with ⟨_, added, rfl⟩
    rcases Option.map_eq_some_iff.mp added with ⟨longer, pushed, rfl⟩
    intro flowId waiting member
    simp only [WrrQueue.setFlow] at member
    by_cases own : flowId = packet.flowId
    · rw [own, Function.update_self, ArrayQueue.push_items pushed, List.mem_append] at member
      rcases member with earlier | last
      · rw [own]
        exact sorted packet.flowId waiting earlier
      · rw [List.mem_singleton.mp last, own]
    · rw [Function.update_of_ne own] at member
      exact sorted flowId waiting member

theorem of_flow_visit {rings : WrrQueue capacity} (sorted : (wrr rings).Sorted) (flowId : FlowId)
    (key : FlowTree) :
    key.of (rings.visit flowId).1 ++ key.of ((wrr (rings.visit flowId).2).ofFlow key.flowId) =
      key.of ((wrr rings).ofFlow key.flowId) := by
  have taken := ArrayQueue.pop_up_to_items (rings.weight flowId) (rings.flowQueues flowId)
  simp only [ofFlow, WrrQueue.visit, WrrQueue.setFlow]
  by_cases own : key.flowId = flowId
  · rw [own, Function.update_self, ← FlowTree.of_append, taken]
  · have others : key.of ((rings.flowQueues flowId).popUpTo (rings.weight flowId)).1 = [] := by
      apply FlowTree.of_none
      intro packet member same
      have inRing : packet ∈ (rings.flowQueues flowId).items := by
        rw [← taken]
        exact List.mem_append_left _ member
      rw [← sorted flowId packet inRing] at own
      exact own (congrArg FlowTree.flowId same).symm
    rw [Function.update_of_ne own, others, List.nil_append]

theorem sorted_visit {rings : WrrQueue capacity} (sorted : (wrr rings).Sorted) (flowId : FlowId) :
    (wrr (rings.visit flowId).2).Sorted := by
  intro other packet member
  simp only [WrrQueue.visit, WrrQueue.setFlow] at member
  by_cases own : other = flowId
  · rw [own, Function.update_self] at member
    rw [own]
    apply sorted flowId packet
    rw [← ArrayQueue.pop_up_to_items (rings.weight flowId) (rings.flowQueues flowId)]
    exact List.mem_append_right _ member
  · rw [Function.update_of_ne own] at member
    exact sorted other packet member

end SchedulerQueue

/-! ## The tasks -/

def ReaderPhase.packets : ReaderPhase → List Packet
  | .receiving => []
  | .received packet => [packet]
  | .acquired packet => [packet]
  | .measured packet _ => [packet]
  | .notifying => []

def WriterPhase.batch : WriterPhase → List Packet
  | .popping batch => batch
  | .visiting _ batch => batch
  | .collected batch => batch
  | .sending batch => batch
  | _ => []

/-- The packets of a flow and tree in a scheduler, the next to leave first. -/
def Scheduler.inside (key : FlowTree) (state : Scheduler capacity) : List Packet :=
  key.of state.writer.batch ++ key.of (state.queue.ofFlow key.flowId) ++ key.of state.reader.packets

def SchedulerLabel.arriving : SchedulerLabel → List Packet
  | .received packet => [packet]
  | _ => []

/-- The batch that a step hands to the network interface. -/
def Scheduler.leaving (state : Scheduler capacity) : SchedulerLabel → List Packet
  | .sent => state.writer.batch
  | _ => []

variable {state next : Scheduler capacity} {label : SchedulerLabel}

theorem inside_new (schedulerType : SchedulingDiscipline) (channelBackpressure : Bool)
    (key : FlowTree) :
    (Scheduler.new capacity schedulerType channelBackpressure).inside key = [] := by
  simp [Scheduler.inside, Scheduler.new, WriterPhase.batch, ReaderPhase.packets]

@[simp] theorem batch_collect_packets (queue : SchedulerQueue capacity) :
    queue.collectPackets.batch = [] := by
  cases queue <;> rfl

@[simp] theorem batch_plan (queue : WrrQueue capacity) (flowIds : List FlowId) :
    (queue.plan flowIds).batch = [] := by
  rw [WrrQueue.plan]
  cases queue.minRounds flowIds <;> rfl

theorem sorted_step (sorted : state.queue.Sorted) (step : SchedulerStep state label next) :
    next.queue.Sorted := by
  cases step with
  | enqueued packet queueLen later reader added => exact SchedulerQueue.sorted_enqueue sorted added
  | messageHandled message writer => exact SchedulerQueue.sorted_handle_message sorted message
  | wokenByMessage message writer =>
    cases message with
    | none => exact sorted
    | some message => exact SchedulerQueue.sorted_handle_message sorted message
  | popped queue later packet batch writer fifo popped => trivial
  | visited queue flowId visits batch writer wrr =>
    rw [wrr] at sorted
    exact SchedulerQueue.sorted_visit sorted flowId
  | _ => exact sorted

def SchedulerLabel.loses : SchedulerLabel → Bool
  | .dropped => true
  | .rejected => true
  | _ => false

/-- Apart from drops, what leaves and what is inside afterwards is what was inside and what came. -/
theorem inside_exact (sorted : state.queue.Sorted) (step : SchedulerStep state label next)
    (kept : label.loses = false) (key : FlowTree) :
    key.of (state.leaving label) ++ next.inside key = state.inside key ++ key.of label.arriving := by
  simp only [Scheduler.inside]
  cases step with
  | dropped packet queueLen reader unbounded => cases kept
  | rejected packet queueLen reader full => cases kept
  | enqueued packet queueLen later reader added =>
    have before : state.reader.packets = [packet] := by rw [reader]; rfl
    have after : (if packet.notifies queueLen then ReaderPhase.notifying
        else .receiving).packets = [] := by
      split <;> rfl
    simp [before, after, Scheduler.leaving, SchedulerLabel.arriving,
      SchedulerQueue.of_flow_enqueue added]
  | popped queue later packet batch writer fifo popped =>
    have front : key.of queue.items = key.of [packet] ++ key.of later.items := by
      rw [ArrayQueue.pop_items popped, ← FlowTree.of_append, List.singleton_append]
    simp [writer, front, fifo, Scheduler.leaving, SchedulerLabel.arriving, WriterPhase.batch,
      SchedulerQueue.ofFlow]
  | visited queue flowId visits batch writer wrr =>
    rw [wrr] at sorted
    have front := SchedulerQueue.of_flow_visit sorted flowId key
    simp [writer, wrr, ← front, Scheduler.leaving, SchedulerLabel.arriving, WriterPhase.batch]
  | messageHandled message writer => simp [Scheduler.leaving, SchedulerLabel.arriving]
  | wokenByMessage message writer =>
    cases message <;> simp [writer, Scheduler.leaving, SchedulerLabel.arriving, WriterPhase.batch]
  | foundPackets writer nonempty =>
    have before : state.writer.batch = [] := by rw [writer]; rfl
    simp [before, Scheduler.leaving, SchedulerLabel.arriving]
  | scanned queue flowIds writer wrr flows =>
    have before : state.writer.batch = [] := by rw [writer]; rfl
    simp [before, Scheduler.leaving, SchedulerLabel.arriving]
  | _ =>
    simp [*, Scheduler.leaving, SchedulerLabel.arriving, ReaderPhase.packets, WriterPhase.batch]

/-- What leaves in a step and what is inside after it is what was inside and what came, less a packet
that was dropped. -/
theorem inside_step (sorted : state.queue.Sorted) (step : SchedulerStep state label next)
    (key : FlowTree) :
    (key.of (state.leaving label) ++ next.inside key).Sublist
      (state.inside key ++ key.of label.arriving) := by
  cases lost : label.loses with
  | false => rw [inside_exact sorted step lost key]
  | true =>
    simp only [Scheduler.inside]
    cases step with
    | dropped | rejected =>
      simp [*, Scheduler.leaving, SchedulerLabel.arriving, ReaderPhase.packets]
    | _ => cases lost

end Nextmini.Node
