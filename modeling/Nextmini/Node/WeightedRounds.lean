import Mathlib.Order.Bounds.Basic
import Mathlib.Tactic.Ring
import Nextmini.Node.SchedulerOrder

/-!
# Weighted round robin

One collection with nobody else at the queue, and the histories of enqueues and collections: what a
collection takes from each flow, that the packets of a flow leave in the order in which they were
accepted, that no flow with packets is passed over, and that flows with enough packets are served in
proportion to their weights.
-/

namespace Nextmini.Node

open Nextmini.Library Nextmini.Routing

set_option autoImplicit false

variable {capacity : Nat}

def ofFlowId (flowId : FlowId) (packets : List Packet) : List Packet :=
  packets.filter (·.flowId = flowId)

@[simp] theorem of_flow_id_append (flowId : FlowId) (first second : List Packet) :
    ofFlowId flowId (first ++ second) = ofFlowId flowId first ++ ofFlowId flowId second :=
  List.filter_append first second

/-! ## One collection -/

namespace WrrQueue

def serve : List FlowId → WrrQueue capacity → List Packet × WrrQueue capacity
  | [], queue => ([], queue)
  | flowId :: visits, queue =>
      let (packets, rest) := queue.visit flowId
      let (batch, last) := serve visits rest
      (packets ++ batch, last)

/-- The packets added to the batch, and the queue they leave behind; `none` is the failed assertion
that some queue holds packets. The flows come in the order in which the map gives them. -/
def collectPackets (queue : WrrQueue capacity) (flowIds : List FlowId) :
    Option (List Packet × WrrQueue capacity) :=
  (queue.minRounds flowIds).map fun rounds =>
    queue.serve (List.replicate rounds flowIds).flatten

/-- Each ring holds packets of its own flow. -/
def Sorted (queue : WrrQueue capacity) : Prop :=
  ∀ flowId, ∀ packet ∈ (queue.flowQueues flowId).items, packet.flowId = flowId

/-- What a collection takes: the rounds are the least number over the flows with packets, and each
flow gives the front of its ring. -/
structure Served (before : WrrQueue capacity) (batch : List Packet)
    (after : WrrQueue capacity) (rounds : Nat) : Prop where
  least : IsLeast {count | ∃ flowId ∈ before.flows,
    (before.flowQueues flowId).isEmpty = false ∧ before.rounds flowId = count} rounds
  front : ∀ flowId, ofFlowId flowId batch =
    (before.flowQueues flowId).items.take (before.weight flowId * rounds)
  rest : ∀ flowId, (after.flowQueues flowId).items =
    (before.flowQueues flowId).items.drop (before.weight flowId * rounds)
  count : ∀ flowId, (ofFlowId flowId batch).length =
    min (before.queueLen flowId) (before.weight flowId * rounds)
  weights : after.flowWeights = before.flowWeights

variable {queue : WrrQueue capacity} {flowIds : List FlowId}

theorem of_flow_id_ring (sorted : queue.Sorted) (flowId other : FlowId) (count : Nat) :
    ofFlowId flowId ((queue.flowQueues other).items.take count) =
      if flowId = other then (queue.flowQueues other).items.take count else [] := by
  have own : ∀ packet ∈ (queue.flowQueues other).items.take count, packet.flowId = other :=
    fun packet member => sorted other packet (List.mem_of_mem_take member)
  split_ifs with same
  · rw [ofFlowId, List.filter_eq_self]
    intro packet member
    exact decide_eq_true (by rw [own packet member, same])
  · rw [ofFlowId, List.filter_eq_nil_iff]
    intro packet member
    rw [own packet member]
    exact fun equal => same (of_decide_eq_true equal).symm

theorem visit_front (queue : WrrQueue capacity) (flowId : FlowId) :
    (queue.visit flowId).1 = (queue.flowQueues flowId).items.take (queue.weight flowId) :=
  (ArrayQueue.pop_up_to_take (queue.weight flowId) (queue.flowQueues flowId)).1

theorem visit_rest (queue : WrrQueue capacity) (flowId other : FlowId) :
    ((queue.visit flowId).2.flowQueues other).items =
      if other = flowId then (queue.flowQueues flowId).items.drop (queue.weight flowId)
      else (queue.flowQueues other).items := by
  simp only [visit, setFlow]
  split_ifs with own
  · rw [own, Function.update_self]
    exact (ArrayQueue.pop_up_to_take (queue.weight flowId) (queue.flowQueues flowId)).2
  · rw [Function.update_of_ne own]

@[simp] theorem weight_visit (queue : WrrQueue capacity) (flowId other : FlowId) :
    (queue.visit flowId).2.weight other = queue.weight other := rfl

theorem serve_takes (visits : List FlowId) (queue : WrrQueue capacity) (sorted : queue.Sorted)
    (flowId : FlowId) :
    ofFlowId flowId (queue.serve visits).1 =
        (queue.flowQueues flowId).items.take (queue.weight flowId * visits.count flowId) ∧
      ((queue.serve visits).2.flowQueues flowId).items =
        (queue.flowQueues flowId).items.drop (queue.weight flowId * visits.count flowId) ∧
      (queue.serve visits).2.flowWeights = queue.flowWeights := by
  induction visits generalizing queue with
  | nil => exact ⟨rfl, rfl, rfl⟩
  | cons visited visits induction =>
    have kept : (queue.visit visited).2.Sorted := SchedulerQueue.sorted_visit sorted visited
    obtain ⟨front, rest, weights⟩ := induction (queue.visit visited).2 kept
    have mine := of_flow_id_ring sorted flowId visited (queue.weight visited)
    rw [weight_visit, visit_rest] at front rest
    refine ⟨?_, ?_, weights⟩
    · rw [serve, of_flow_id_append, visit_front, mine, front]
      by_cases own : flowId = visited
      · subst own
        rw [if_pos rfl, if_pos rfl, List.count_cons_self, Nat.mul_succ, Nat.add_comm,
          List.take_add]
      · rw [if_neg own, if_neg own, List.count_cons_of_ne (Ne.symm own), List.nil_append]
    · rw [serve, rest]
      by_cases own : flowId = visited
      · subst own
        rw [if_pos rfl, List.count_cons_self, Nat.mul_succ, Nat.add_comm, List.drop_drop]
      · rw [if_neg own, List.count_cons_of_ne (Ne.symm own)]

/-! ### The number of rounds -/

theorem rounds_pos (queue : WrrQueue capacity) (flowId : FlowId) : 0 < queue.rounds flowId :=
  Nat.lt_of_lt_of_le Nat.zero_lt_one (Nat.le_max_right _ _)

theorem weight_pos (queue : WrrQueue capacity) (flowId : FlowId) : 0 < queue.weight flowId :=
  Nat.lt_of_lt_of_le Nat.zero_lt_one (Nat.le_max_right _ _)

theorem min_rounds_least (flowIds : List FlowId) {rounds : Nat}
    (found : queue.minRounds flowIds = some rounds) :
    (∃ flowId ∈ flowIds, queue.rounds flowId = rounds) ∧
      ∀ flowId ∈ flowIds, rounds ≤ queue.rounds flowId := by
  induction flowIds using List.reverseRecOn generalizing rounds with
  | nil => cases found
  | append_singleton front last induction =>
    rw [minRounds, List.foldl_append, List.foldl_cons, List.foldl_nil, ← minRounds] at found
    cases earlier : queue.minRounds front with
    | none =>
      have empty : front = [] := by
        by_contra nonempty
        obtain ⟨some, exists_⟩ := queue.min_rounds_some nonempty
        rw [earlier] at exists_
        cases exists_
      rw [earlier] at found
      cases found
      subst empty
      simp
    | some least =>
      rw [earlier] at found
      cases found
      obtain ⟨⟨flowId, member, attained⟩, lower⟩ := induction earlier
      constructor
      · rcases Nat.le_total least (queue.rounds last) with smaller | larger
        · exact ⟨flowId, List.mem_append_left _ member,
            attained.trans (Nat.min_eq_left smaller).symm⟩
        · exact ⟨last, List.mem_append_right _ (List.mem_singleton.mpr rfl),
            (Nat.min_eq_right larger).symm⟩
      · intro other inside
        rcases List.mem_append.mp inside with before | only
        · exact (Nat.min_le_left _ _).trans (lower other before)
        · rw [List.mem_singleton.mp only]
          exact Nat.min_le_right _ _

theorem count_visits (scanned : Scanned queue flowIds) (rounds : Nat) (flowId : FlowId) :
    (List.replicate rounds flowIds).flatten.count flowId =
      if flowId ∈ flowIds then rounds else 0 := by
  induction rounds with
  | zero => simp
  | succ rounds induction =>
    rw [List.replicate_succ, List.flatten_cons, List.count_append, induction]
    split_ifs with member
    · rw [List.count_eq_one_of_mem scanned.distinct member, Nat.add_comm]
    · rw [List.count_eq_zero_of_not_mem member]

theorem unscanned_empty (scanned : Scanned queue flowIds) {flowId : FlowId}
    (absent : flowId ∉ flowIds) : (queue.flowQueues flowId).items = [] := by
  by_cases known : flowId ∈ queue.flows
  · have empty : (queue.flowQueues flowId).isEmpty = true := by
      by_contra waiting
      exact absent ((scanned.waiting flowId).mpr ⟨known, Bool.not_eq_true _ ▸ waiting⟩)
    exact List.isEmpty_iff.mp empty
  · rw [queue.unused flowId known]
    rfl

theorem collect_served (sorted : queue.Sorted) (scanned : Scanned queue flowIds)
    {batch : List Packet} {later : WrrQueue capacity}
    (collected : queue.collectPackets flowIds = some (batch, later)) :
    ∃ rounds, queue.Served batch later rounds := by
  obtain ⟨rounds, found, served⟩ := Option.map_eq_some_iff.mp collected
  obtain ⟨⟨least, member, attained⟩, lower⟩ := min_rounds_least flowIds found
  have takes (flowId : FlowId) :=
    serve_takes (List.replicate rounds flowIds).flatten queue sorted flowId
  rw [served] at takes
  have front (flowId : FlowId) : ofFlowId flowId batch =
      (queue.flowQueues flowId).items.take (queue.weight flowId * rounds) := by
    rw [(takes flowId).1, count_visits scanned]
    split_ifs with inside
    · rfl
    · rw [unscanned_empty scanned inside, List.take_nil, List.take_nil]
  refine ⟨rounds, ⟨?_, ?_⟩, front, ?_, ?_, (takes least).2.2⟩
  · obtain ⟨known, waiting⟩ := (scanned.waiting least).mp member
    exact ⟨least, known, waiting, attained⟩
  · rintro count ⟨flowId, known, waiting, rfl⟩
    exact lower flowId ((scanned.waiting flowId).mpr ⟨known, waiting⟩)
  · intro flowId
    rw [(takes flowId).2.1, count_visits scanned]
    split_ifs with inside
    · rfl
    · rw [unscanned_empty scanned inside, List.drop_nil, List.drop_nil]
  · intro flowId
    rw [front, List.length_take, Nat.min_comm]
    rfl

theorem collect_some (scanned : Scanned queue flowIds) (waiting : queue.isEmpty = false) :
    ∃ batch later, queue.collectPackets flowIds = some (batch, later) := by
  have nonempty : flowIds ≠ [] := by
    rintro rfl
    have all : queue.isEmpty = true := by
      apply decide_eq_true
      intro flowId known
      exact List.isEmpty_iff.mpr (unscanned_empty scanned List.not_mem_nil)
    rw [all] at waiting
    cases waiting
  obtain ⟨rounds, found⟩ := queue.min_rounds_some nonempty
  exact ⟨_, _, by rw [collectPackets, found]; rfl⟩

/-! ### What a collection gives each flow -/

namespace Served

variable {after : WrrQueue capacity} {batch : List Packet} {rounds : Nat}

theorem rounds_pos (served : queue.Served batch after rounds) : 0 < rounds := by
  obtain ⟨flowId, _, _, rfl⟩ := served.least.1
  exact queue.rounds_pos flowId

theorem unskipped (served : queue.Served batch after rounds) {flowId : FlowId}
    (waiting : (queue.flowQueues flowId).isEmpty = false) : ofFlowId flowId batch ≠ [] := by
  have positive : 0 < queue.weight flowId * rounds :=
    Nat.mul_pos (queue.weight_pos flowId) served.rounds_pos
  rw [served.front, ne_eq, List.take_eq_nil_iff, not_or]
  refine ⟨positive.ne', ?_⟩
  rintro none
  rw [ArrayQueue.isEmpty, none] at waiting
  cases waiting

/-- A flow with as many packets as its weight gives its whole share. -/
theorem whole_share (served : queue.Served batch after rounds) {flowId : FlowId}
    (enough : queue.weight flowId ≤ queue.queueLen flowId) :
    (ofFlowId flowId batch).length = queue.weight flowId * rounds := by
  have positive := queue.weight_pos flowId
  have waiting : (queue.flowQueues flowId).isEmpty = false := by
    by_contra empty
    have none := ArrayQueue.is_empty_iff.mp (Bool.not_eq_false _ ▸ empty)
    rw [queueLen] at enough
    omega
  have known : flowId ∈ queue.flows := by
    by_contra absent
    rw [queue.unused flowId absent] at waiting
    cases waiting
  have few := served.least.2 ⟨flowId, known, waiting, rfl⟩
  have quotient : 1 ≤ queue.queueLen flowId / queue.weight flowId :=
    (Nat.one_le_div_iff positive).mpr enough
  rw [WrrQueue.rounds, Nat.max_eq_left quotient] at few
  rw [served.count]
  apply Nat.min_eq_right
  calc queue.weight flowId * _ ≤ queue.weight flowId * (queue.queueLen flowId / queue.weight flowId) :=
        Nat.mul_le_mul_left _ few
    _ ≤ queue.queueLen flowId := Nat.mul_div_le _ _

theorem conserved (served : queue.Served batch after rounds) (flowId : FlowId) :
    ofFlowId flowId batch ++ (after.flowQueues flowId).items = (queue.flowQueues flowId).items := by
  rw [served.front, served.rest, List.take_append_drop]

end Served

end WrrQueue

/-! ## Histories -/

/-- One collection: the queue it found, what it took and the queue it left. -/
structure WrrCall (capacity : Nat) where
  before : WrrQueue capacity
  batch : List Packet
  after : WrrQueue capacity

structure WrrHistory (capacity : Nat) where
  queue : WrrQueue capacity
  accepted : List Packet
  calls : List (WrrCall capacity)

namespace WrrHistory

def collected (history : WrrHistory capacity) : List Packet :=
  (history.calls.map WrrCall.batch).flatten

end WrrHistory

inductive WrrEvent where
  | enqueued (packet : Packet)
  | collected (flowIds : List FlowId)

/-- A packet that its full ring refuses is not accepted. -/
inductive WrrStep (history : WrrHistory capacity) : WrrEvent → WrrHistory capacity → Prop
  | enqueued (packet : Packet) (later : WrrQueue capacity) :
      history.queue.enqueue packet = some later →
        WrrStep history (.enqueued packet)
          { history with
            queue := later
            accepted := history.accepted ++ [packet] }
  | refused (packet : Packet) :
      history.queue.enqueue packet = none → WrrStep history (.enqueued packet) history
  | collected (flowIds : List FlowId) (batch : List Packet) (later : WrrQueue capacity) :
      Scanned history.queue flowIds → history.queue.collectPackets flowIds = some (batch, later) →
        WrrStep history (.collected flowIds)
          { history with
            queue := later
            calls := history.calls ++ [⟨history.queue, batch, later⟩] }

def wrrRuns (capacity : Nat) (flowWeights : FlowId → Option Nat) :
    TransitionSystem (WrrHistory capacity) WrrEvent where
  initial history := history =
    { queue := { (WrrQueue.new : WrrQueue capacity) with flowWeights := flowWeights }
      accepted := []
      calls := [] }
  step := WrrStep

/-- 0 or absent counts as 1. -/
def flowWeight (flowWeights : FlowId → Option Nat) (flowId : FlowId) : Nat :=
  max ((flowWeights flowId).getD 1) 1

def WrrEvent.isCollection : WrrEvent → Bool
  | .enqueued _ => false
  | .collected _ => true

/-- What holds after any history of enqueues and collections. -/
structure FairlyCollected (flowWeights : FlowId → Option Nat) (history : WrrHistory capacity) :
    Prop where
  conserved : ∀ flowId, ofFlowId flowId history.collected ++
    (history.queue.flowQueues flowId).items = ofFlowId flowId history.accepted
  served : ∀ call ∈ history.calls, ∃ rounds, call.before.Served call.batch call.after rounds
  unskipped : ∀ call ∈ history.calls, ∀ flowId,
    (call.before.flowQueues flowId).isEmpty = false → ofFlowId flowId call.batch ≠ []
  proportional : ∀ first second,
    (∀ call ∈ history.calls, flowWeight flowWeights first ≤ call.before.queueLen first ∧
      flowWeight flowWeights second ≤ call.before.queueLen second) →
    (ofFlowId first history.collected).length * flowWeight flowWeights second =
      (ofFlowId second history.collected).length * flowWeight flowWeights first

/-- The invariant that carries the rest. -/
structure WrrOrdered (flowWeights : FlowId → Option Nat) (history : WrrHistory capacity) : Prop where
  sorted : history.queue.Sorted
  weights : history.queue.flowWeights = flowWeights
  conserved : ∀ flowId, ofFlowId flowId history.collected ++
    (history.queue.flowQueues flowId).items = ofFlowId flowId history.accepted
  served : ∀ call ∈ history.calls, call.before.flowWeights = flowWeights ∧
    ∃ rounds, call.before.Served call.batch call.after rounds

variable {flowWeights : FlowId → Option Nat} {history next : WrrHistory capacity}

theorem enqueue_items {queue later : WrrQueue capacity} {packet : Packet}
    (enqueued : queue.enqueue packet = some later) (flowId : FlowId) :
    (later.flowQueues flowId).items =
      (queue.flowQueues flowId).items ++ ofFlowId flowId [packet] := by
  rcases Option.map_eq_some_iff.mp enqueued with ⟨longer, pushed, rfl⟩
  simp only [WrrQueue.setFlow]
  by_cases own : packet.flowId = flowId
  · rw [← own, Function.update_self, ArrayQueue.push_items pushed]
    simp [ofFlowId]
  · rw [Function.update_of_ne (Ne.symm own)]
    simp [ofFlowId, own]

theorem enqueue_weights {queue later : WrrQueue capacity} {packet : Packet}
    (enqueued : queue.enqueue packet = some later) : later.flowWeights = queue.flowWeights := by
  rcases Option.map_eq_some_iff.mp enqueued with ⟨longer, pushed, rfl⟩
  rfl

theorem wrr_ordered_step {event : WrrEvent} (ordered : WrrOrdered flowWeights history)
    (step : WrrStep history event next) : WrrOrdered flowWeights next := by
  cases step with
  | enqueued packet later enqueued =>
    refine ⟨?_, (enqueue_weights enqueued).trans ordered.weights, ?_, ordered.served⟩
    · have whole : (SchedulerQueue.wrr history.queue).enqueue packet = some (.wrr later) := by
        rw [SchedulerQueue.enqueue, enqueued]
        rfl
      have sorted : (SchedulerQueue.wrr history.queue).Sorted := ordered.sorted
      exact SchedulerQueue.sorted_enqueue sorted whole
    · intro flowId
      change ofFlowId flowId history.collected ++ (later.flowQueues flowId).items = _
      rw [enqueue_items enqueued, ← List.append_assoc, ordered.conserved, of_flow_id_append]
  | refused packet refused => exact ordered
  | collected flowIds batch later scanned collected =>
    obtain ⟨rounds, served⟩ := WrrQueue.collect_served ordered.sorted scanned collected
    refine ⟨?_, served.weights.trans ordered.weights, ?_, ?_⟩
    · intro flowId packet member
      rw [served.rest] at member
      exact ordered.sorted flowId packet (List.mem_of_mem_drop member)
    · intro flowId
      rw [← ordered.conserved, ← served.conserved flowId]
      simp only [WrrHistory.collected, List.map_append, List.flatten_append, of_flow_id_append,
        List.append_assoc, List.map_cons, List.map_nil, List.flatten_cons, List.flatten_nil,
        List.append_nil]
    · intro call member
      rcases List.mem_append.mp member with earlier | last
      · exact ordered.served call earlier
      · rw [List.mem_singleton.mp last]
        exact ⟨ordered.weights, rounds, served⟩

theorem wrr_ordered_reachable (reachable : (wrrRuns capacity flowWeights).Reachable history) :
    WrrOrdered flowWeights history := by
  apply TransitionSystem.invariant_of_reachable _ _ reachable
  · rintro _ rfl
    exact ⟨nofun, rfl, fun _ => rfl, nofun⟩
  · intro state event later ordered step
    exact wrr_ordered_step ordered step

/-- The rounds of the calls add up to the same number for all flows that give their whole share. -/
theorem calls_whole_shares {calls : List (WrrCall capacity)}
    (served : ∀ call ∈ calls, call.before.flowWeights = flowWeights ∧
      ∃ rounds, call.before.Served call.batch call.after rounds) :
    ∃ total, ∀ flowId,
      (∀ call ∈ calls, flowWeight flowWeights flowId ≤ call.before.queueLen flowId) →
        (ofFlowId flowId (calls.map WrrCall.batch).flatten).length =
          flowWeight flowWeights flowId * total := by
  induction calls with
  | nil => exact ⟨0, fun _ _ => rfl⟩
  | cons call calls induction =>
    obtain ⟨total, shares⟩ := induction fun other member =>
      served other (List.mem_cons_of_mem _ member)
    obtain ⟨weights, rounds, first⟩ := served call List.mem_cons_self
    refine ⟨rounds + total, ?_⟩
    intro flowId enough
    have own : call.before.weight flowId = flowWeight flowWeights flowId := by
      rw [WrrQueue.weight, weights, flowWeight]
    have share : (ofFlowId flowId call.batch).length = call.before.weight flowId * rounds := by
      apply first.whole_share
      rw [own]
      exact enough call List.mem_cons_self
    have rest := shares flowId fun other member => enough other (List.mem_cons_of_mem _ member)
    rw [List.map_cons, List.flatten_cons, of_flow_id_append, List.length_append, rest, share, own,
      Nat.mul_add]

theorem fairly_collected (ordered : WrrOrdered flowWeights history) :
    FairlyCollected flowWeights history where
  conserved := ordered.conserved
  served call member := (ordered.served call member).2
  unskipped call member flowId waiting := by
    obtain ⟨rounds, served⟩ := (ordered.served call member).2
    exact served.unskipped waiting
  proportional first second enough := by
    obtain ⟨total, shares⟩ := calls_whole_shares ordered.served
    have one := shares first fun call member => (enough call member).1
    have other := shares second fun call member => (enough call member).2
    rw [WrrHistory.collected, one, other]
    ring

/-- Each further collection takes at least one packet of a flow, as long as there are any. -/
theorem collected_by_calls (reachable : (wrrRuns capacity flowWeights).Reachable history)
    {events : List WrrEvent} (run : (wrrRuns capacity flowWeights).Run history events next)
    (flowId : FlowId) :
    (ofFlowId flowId history.accepted).length ≤ (ofFlowId flowId next.accepted).length ∧
      min (ofFlowId flowId history.accepted).length
          ((ofFlowId flowId history.collected).length + events.countP WrrEvent.isCollection) ≤
        (ofFlowId flowId next.collected).length := by
  induction run with
  | nil => exact ⟨Nat.le_refl _, Nat.min_le_right _ _⟩
  | @snoc events middle finish event run step induction =>
    obtain ⟨grown, taken⟩ := induction
    have ordered := wrr_ordered_reachable (reachable.run run)
    rw [List.countP_append]
    cases step with
    | enqueued packet later enqueued =>
      refine ⟨?_, taken⟩
      rw [of_flow_id_append, List.length_append]
      omega
    | refused packet refused => exact ⟨grown, taken⟩
    | collected flowIds batch later scanned collected =>
      refine ⟨grown, ?_⟩
      obtain ⟨rounds, served⟩ := WrrQueue.collect_served ordered.sorted scanned collected
      have account := congrArg List.length (ordered.conserved flowId)
      simp only [WrrHistory.collected, List.map_append, List.flatten_append, of_flow_id_append,
        List.length_append, List.map_cons, List.map_nil, List.flatten_cons, List.flatten_nil,
        List.append_nil] at account taken ⊢
      cases waiting : (middle.queue.flowQueues flowId).isEmpty with
      | true =>
        have none := List.isEmpty_iff.mp waiting
        rw [none, List.length_nil] at account
        omega
      | false =>
        have some := List.length_pos_iff.mpr (served.unskipped waiting)
        have one : List.countP WrrEvent.isCollection [.collected flowIds] = 1 := rfl
        omega

/-! ## The writer task -/

section Writer

variable {schedulerType : SchedulingDiscipline} {channelBackpressure : Bool}
  {state : Scheduler capacity}

theorem visits_run (visits : List FlowId) (queue : WrrQueue capacity) (batch : List Packet)
    (found : state.queue = .wrr queue) (visiting : state.writer = .visiting visits batch) :
    ∃ labels, (scheduler capacity schedulerType channelBackpressure).Run state labels
      { state with
        queue := .wrr (queue.serve visits).2
        writer := .collected (batch ++ (queue.serve visits).1) } := by
  induction visits generalizing state queue batch with
  | nil =>
    have step : SchedulerStep state .roundsDone { state with writer := .collected batch } :=
      .roundsDone batch visiting
    rw [WrrQueue.serve, List.append_nil, ← found]
    exact ⟨_, .single step⟩
  | cons flowId visits induction =>
    obtain ⟨labels, rest⟩ := @induction
      { state with
        queue := .wrr (queue.visit flowId).2
        writer := .visiting visits (batch ++ (queue.visit flowId).1) }
      (queue.visit flowId).2 (batch ++ (queue.visit flowId).1) rfl rfl
    rw [List.append_assoc] at rest
    exact ⟨_, .cons (.visited queue flowId visits batch visiting found) rest⟩

/-- When nobody else is at the queue, the writer's steps from the scan on are one collection. -/
theorem collection_run {queue later : WrrQueue capacity} {flowIds : List FlowId}
    {batch : List Packet} (found : state.queue = .wrr queue) (scanning : state.writer = .scanning)
    (scanned : Scanned queue flowIds)
    (collected : queue.collectPackets flowIds = some (batch, later)) :
    ∃ labels, (scheduler capacity schedulerType channelBackpressure).Run state labels
      { state with
        queue := .wrr later
        writer := .collected batch } := by
  obtain ⟨rounds, least, served⟩ := Option.map_eq_some_iff.mp collected
  have planned : queue.plan flowIds = .visiting (List.replicate rounds flowIds).flatten [] := by
    rw [WrrQueue.plan, least]
  have scan : SchedulerStep state .scanned { state with writer := queue.plan flowIds } :=
    .scanned queue flowIds scanning found scanned
  obtain ⟨labels, rest⟩ := @visits_run capacity schedulerType channelBackpressure
    { state with writer := queue.plan flowIds } _ queue [] found planned
  rw [served, List.nil_append] at rest
  exact ⟨_, .cons scan rest⟩

end Writer

/-- One collection takes the shares of the least number of rounds, front first; over any history of
enqueues and collections the packets of a flow are collected once and in order, each collection
serves every flow with packets, and full shares are in proportion to the weights. -/
theorem weighted_rounds_collect_fairly :
    (∀ (queue : WrrQueue capacity) (flowIds : List FlowId), queue.Sorted →
      Scanned queue flowIds → queue.isEmpty = false →
      ∃ batch later rounds, queue.collectPackets flowIds = some (batch, later) ∧
        queue.Served batch later rounds) ∧
    ∀ (flowWeights : FlowId → Option Nat) (history : WrrHistory capacity),
      (wrrRuns capacity flowWeights).Reachable history →
      FairlyCollected flowWeights history ∧
        ∀ events next, (wrrRuns capacity flowWeights).Run history events next → ∀ flowId,
          min (ofFlowId flowId history.accepted).length
              ((ofFlowId flowId history.collected).length +
                events.countP WrrEvent.isCollection) ≤
            (ofFlowId flowId next.collected).length := by
  constructor
  · intro queue flowIds sorted scanned waiting
    obtain ⟨batch, later, collected⟩ := WrrQueue.collect_some scanned waiting
    obtain ⟨rounds, served⟩ := WrrQueue.collect_served sorted scanned collected
    exact ⟨batch, later, rounds, collected, served⟩
  · intro flowWeights history reachable
    refine ⟨fairly_collected (wrr_ordered_reachable reachable), ?_⟩
    intro events next run flowId
    exact (collected_by_calls reachable run flowId).2

def firstWeighted : FlowId → Option Nat := Function.update (fun _ => none) 1 (some 2)

/-- Three packets of a flow of weight 2 and two of a flow without a weight. -/
theorem two_flows_enqueued : ∃ history : WrrHistory 6, (wrrRuns 6 firstWeighted).Reachable history ∧
    history.calls = [] ∧ Scanned history.queue [1, 2] ∧ history.queue.isEmpty = false ∧ ∃ later,
      history.queue.collectPackets [1, 2] = some ([⟨1, true⟩, ⟨1, true⟩, ⟨2, true⟩], later) := by
  have started : (wrrRuns 6 firstWeighted).Reachable _ := TransitionSystem.reachable_of_initial rfl
  have first := started.step (show WrrStep _ (.enqueued ⟨1, true⟩) _ from .enqueued _ _ rfl)
  have second := first.step (show WrrStep _ (.enqueued ⟨2, true⟩) _ from .enqueued _ _ rfl)
  have third := second.step (show WrrStep _ (.enqueued ⟨1, true⟩) _ from .enqueued _ _ rfl)
  have fourth := third.step (show WrrStep _ (.enqueued ⟨2, true⟩) _ from .enqueued _ _ rfl)
  have fifth := fourth.step (show WrrStep _ (.enqueued ⟨1, true⟩) _ from .enqueued _ _ rfl)
  refine ⟨_, fifth, rfl, ⟨by decide, ?_⟩, ?_, _, rfl⟩
  · intro flowId
    constructor
    · intro member
      simp only [List.mem_cons, List.not_mem_nil, or_false] at member
      rcases member with rfl | rfl
      · exact ⟨by decide, by decide⟩
      · exact ⟨by decide, by decide⟩
    · rintro ⟨member, -⟩
      simp only [WrrQueue.setFlow, WrrQueue.new, Finset.mem_insert, Finset.notMem_empty,
        or_false] at member
      have both : flowId = 1 ∨ flowId = 2 := by tauto
      rcases both with rfl | rfl
      · decide
      · decide
  · apply decide_eq_false
    intro all
    cases all 1 (by decide)

theorem two_flows_collected :
    (∃ (queue : WrrQueue 6) (batch : List Packet) (later : WrrQueue 6) (rounds : Nat),
      queue.collectPackets [1, 2] = some (batch, later) ∧ queue.Served batch later rounds) ∧
    ∃ history : WrrHistory 6, (wrrRuns 6 firstWeighted).Reachable history ∧
      history.collected = [⟨1, true⟩, ⟨1, true⟩, ⟨2, true⟩] ∧ FairlyCollected firstWeighted history := by
  rcases two_flows_enqueued with ⟨history, reachable, fresh, scanned, waiting, later, collects⟩
  have sorted := (wrr_ordered_reachable reachable).sorted
  refine ⟨⟨_, weighted_rounds_collect_fairly.1 _ _ sorted scanned waiting⟩, ?_⟩
  have collected := reachable.step (show WrrStep _ (.collected [1, 2]) _ from
    .collected _ _ _ scanned collects)
  exact ⟨_, collected, by simp [WrrHistory.collected, fresh],
    (weighted_rounds_collect_fairly.2 _ _ collected).1⟩

end Nextmini.Node
