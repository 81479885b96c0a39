import Mathlib.Algebra.BigOperators.Group.Finset.Basic
import Nextmini.Library.ArrayQueue
import Nextmini.Routing.RoutingTable

/-!
# Scheduler queues

The queue of a scheduler under its two disciplines: one ring for all packets, or one for each flow,
from which each round takes as many packets of a flow as the flow's weight. The loop over the rounds
takes the locks anew for each flow and is split into its visits.
-/

namespace Nextmini.Node

open Nextmini.Library Nextmini.Routing

set_option autoImplicit false

/-! ## Packets -/

/-- What a scheduler carries along in a packet and never looks at: the FEC tree the packet goes by,
and a number for the rest of its content. -/
class PacketTag where
  losslessFecTreeId : Option UInt16
  number : Nat
  deriving DecidableEq

instance : PacketTag := ⟨none, 0⟩

structure Packet where
  flowId : FlowId
  isTcpData : Bool
  [tag : PacketTag]
  deriving DecidableEq

inductive SchedulingDiscipline where
  | fifo
  | wrr
  deriving DecidableEq

/-! ## Weighted round robin -/

/-- A flow has a ring once a packet of it was enqueued. -/
structure WrrQueue (capacity : Nat) where
  flows : Finset FlowId
  flowQueues : FlowId → ArrayQueue Packet capacity
  unused : ∀ flowId ∉ flows, flowQueues flowId = .empty
  flowWeights : FlowId → Option Nat

namespace WrrQueue

variable {capacity : Nat}

def new : WrrQueue capacity where
  flows := ∅
  flowQueues _ := .empty
  unused _ _ := rfl
  flowWeights _ := none

def setFlow (queue : WrrQueue capacity) (flowId : FlowId) (flowQueue : ArrayQueue Packet capacity) :
    WrrQueue capacity where
  flows := insert flowId queue.flows
  flowQueues := Function.update queue.flowQueues flowId flowQueue
  unused other absent := by
    rcases not_or.mp (Finset.mem_insert.not.mp absent) with ⟨apart, before⟩
    rw [Function.update_of_ne apart]
    exact queue.unused other before
  flowWeights := queue.flowWeights

def enqueue (queue : WrrQueue capacity) (packet : Packet) : Option (WrrQueue capacity) :=
  ((queue.flowQueues packet.flowId).push packet).map (queue.setFlow packet.flowId)

def isEmpty (queue : WrrQueue capacity) : Bool :=
  decide (∀ flowId ∈ queue.flows, (queue.flowQueues flowId).isEmpty = true)

def queueLen (queue : WrrQueue capacity) (flowId : FlowId) : Nat :=
  (queue.flowQueues flowId).length

def setFlowWeight (queue : WrrQueue capacity) (flowId : FlowId) (weight : Nat) :
    WrrQueue capacity :=
  { queue with flowWeights := Function.update queue.flowWeights flowId (some weight) }

def weight (queue : WrrQueue capacity) (flowId : FlowId) : Nat :=
  max ((queue.flowWeights flowId).getD 1) 1

def rounds (queue : WrrQueue capacity) (flowId : FlowId) : Nat :=
  max (queue.queueLen flowId / queue.weight flowId) 1

def minRounds (queue : WrrQueue capacity) (flowIds : List FlowId) : Option Nat :=
  flowIds.foldl (fun least flowId => match least with
    | some current => some (min current (queue.rounds flowId))
    | none => some (queue.rounds flowId)) none

def visit (queue : WrrQueue capacity) (flowId : FlowId) : List Packet × WrrQueue capacity :=
  let (packets, rest) := (queue.flowQueues flowId).popUpTo (queue.weight flowId)
  (packets, queue.setFlow flowId rest)

def size (queue : WrrQueue capacity) : Nat :=
  ∑ flowId ∈ queue.flows, queue.queueLen flowId

variable {queue later : WrrQueue capacity} {packet : Packet}

theorem size_split (queue : WrrQueue capacity) (flowId : FlowId) :
    queue.size = queue.queueLen flowId + ∑ other ∈ queue.flows.erase flowId, queue.queueLen other := by
  by_cases member : flowId ∈ queue.flows
  · exact (Finset.add_sum_erase queue.flows queue.queueLen member).symm
  · have empty : queue.queueLen flowId = 0 := by rw [queueLen, queue.unused flowId member]; rfl
    rw [Finset.erase_eq_of_notMem member, empty, Nat.zero_add]
    rfl

theorem size_set_flow (queue : WrrQueue capacity) (flowId : FlowId)
    (flowQueue : ArrayQueue Packet capacity) :
    (queue.setFlow flowId flowQueue).size + queue.queueLen flowId = queue.size + flowQueue.length := by
  have own : (queue.setFlow flowId flowQueue).queueLen flowId = flowQueue.length := by
    simp only [queueLen, setFlow, Function.update_self]
  have others : ∑ other ∈ (queue.setFlow flowId flowQueue).flows.erase flowId,
      (queue.setFlow flowId flowQueue).queueLen other =
        ∑ other ∈ queue.flows.erase flowId, queue.queueLen other := by
    have sameFlows : (queue.setFlow flowId flowQueue).flows.erase flowId =
        queue.flows.erase flowId := Finset.erase_insert_eq_erase _ _
    rw [sameFlows]
    apply Finset.sum_congr rfl
    intro other member
    simp only [queueLen, setFlow, Function.update_of_ne (Finset.ne_of_mem_erase member)]
  rw [size_split (queue.setFlow flowId flowQueue) flowId, size_split queue flowId, own, others]
  omega

theorem queue_len_le_size (queue : WrrQueue capacity) (flowId : FlowId) :
    queue.queueLen flowId ≤ queue.size := by
  rw [size_split queue flowId]
  exact Nat.le_add_right _ _

theorem size_enqueue (enqueued : queue.enqueue packet = some later) :
    later.size = queue.size + 1 := by
  rcases Option.map_eq_some_iff.mp enqueued with ⟨flowQueue, pushed, rfl⟩
  have longer := ArrayQueue.length_push pushed
  have moved := size_set_flow queue packet.flowId flowQueue
  rw [queueLen] at moved
  omega

theorem size_visit (queue : WrrQueue capacity) (flowId : FlowId) :
    (queue.visit flowId).1.length + (queue.visit flowId).2.size = queue.size := by
  have taken := ArrayQueue.length_pop_up_to (queue.weight flowId) (queue.flowQueues flowId)
  have moved := size_set_flow queue flowId
    ((queue.flowQueues flowId).popUpTo (queue.weight flowId)).2
  simp only [visit, queueLen] at moved ⊢
  omega

theorem is_empty_iff : queue.isEmpty = true ↔ queue.size = 0 := by
  simp only [isEmpty, decide_eq_true_eq, size, Finset.sum_eq_zero_iff, ArrayQueue.is_empty_iff,
    queueLen]

theorem min_rounds_some (queue : WrrQueue capacity) {flowIds : List FlowId} (nonempty : flowIds ≠ []) :
    ∃ rounds, queue.minRounds flowIds = some rounds := by
  rcases flowIds.eq_nil_or_concat' with rfl | ⟨front, last, rfl⟩
  · exact absurd rfl nonempty
  · rw [minRounds, List.foldl_append, List.foldl_cons, List.foldl_nil]
    cases List.foldl _ none front with
    | none => exact ⟨_, rfl⟩
    | some current => exact ⟨_, rfl⟩

end WrrQueue

/-! ## The queue of a scheduler -/

inductive SchedulerQueue (capacity : Nat) where
  | fifo (queue : ArrayQueue Packet capacity)
  | wrr (queue : WrrQueue capacity)

namespace SchedulerQueue

variable {capacity : Nat}

def new (capacity : Nat) : SchedulingDiscipline → SchedulerQueue capacity
  | .fifo => .fifo .empty
  | .wrr => .wrr .new

def enqueue (packet : Packet) : SchedulerQueue capacity → Option (SchedulerQueue capacity)
  | .fifo queue => (queue.push packet).map .fifo
  | .wrr queue => (queue.enqueue packet).map .wrr

def isEmpty : SchedulerQueue capacity → Bool
  | .fifo queue => queue.isEmpty
  | .wrr queue => queue.isEmpty

/-- One ring has one length for all flows. -/
def queueLen (flowId : FlowId) : SchedulerQueue capacity → Nat
  | .fifo queue => queue.length
  | .wrr queue => queue.queueLen flowId

def setFlowWeight (flowId : FlowId) (weight : Nat) :
    SchedulerQueue capacity → SchedulerQueue capacity
  | .fifo queue => .fifo queue
  | .wrr queue => .wrr (queue.setFlowWeight flowId weight)

def size : SchedulerQueue capacity → Nat
  | .fifo queue => queue.length
  | .wrr queue => queue.size

variable {queue later : SchedulerQueue capacity} {packet : Packet}

@[simp] theorem size_new (discipline : SchedulingDiscipline) : (new capacity discipline).size = 0 := by
  cases discipline <;> rfl

@[simp] theorem size_set_flow_weight (queue : SchedulerQueue capacity) (flowId : FlowId)
    (weight : Nat) : (queue.setFlowWeight flowId weight).size = queue.size := by
  cases queue <;> rfl

theorem is_empty_iff : queue.isEmpty = true ↔ queue.size = 0 := by
  cases queue with
  | fifo queue => exact ArrayQueue.is_empty_iff
  | wrr queue => exact WrrQueue.is_empty_iff

theorem size_enqueue (enqueued : queue.enqueue packet = some later) :
    later.size = queue.size + 1 := by
  cases queue with
  | fifo queue =>
    rcases Option.map_eq_some_iff.mp enqueued with ⟨longer, pushed, rfl⟩
    exact ArrayQueue.length_push pushed
  | wrr queue =>
    rcases Option.map_eq_some_iff.mp enqueued with ⟨longer, added, rfl⟩
    exact WrrQueue.size_enqueue added

/-- No ring is full before the whole queue holds as many packets as its capacity. -/
theorem enqueue_of_room (room : queue.size < capacity) (packet : Packet) :
    ∃ later, queue.enqueue packet = some later := by
  cases queue with
  | fifo queue =>
    rcases ArrayQueue.push_of_room room packet with ⟨later, pushed⟩
    exact ⟨.fifo later, Option.map_eq_some_iff.mpr ⟨later, pushed, rfl⟩⟩
  | wrr queue =>
    have flowRoom : (queue.flowQueues packet.flowId).length < capacity :=
      Nat.lt_of_le_of_lt (queue.queue_len_le_size packet.flowId) room
    rcases ArrayQueue.push_of_room flowRoom packet with ⟨later, pushed⟩
    refine ⟨.wrr (queue.setFlow packet.flowId later), ?_⟩
    rw [enqueue, WrrQueue.enqueue, pushed]
    rfl

end SchedulerQueue

end Nextmini.Node
