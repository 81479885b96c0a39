import Mathlib.Algebra.Order.BigOperators.Group.List
import Mathlib.Algebra.Order.Group.Nat
import Mathlib.Data.Int.Cast.Lemmas
import Nextmini.Library.NarrowCasts
import Nextmini.Library.TransitionSystem
import Nextmini.Routing.RoutingTable

/-!
# Traffic metrics

The bytes that the links of a node report, on their way to the controller's table. A link adds up each
batch of packets by flow; the node's reporter adds those sums up by flow until its next tick, and the
controller stores one row for each flow of a batch. Probe results travel apart and are left out, and
so are the time stamps. A batch of packets counts as sent when it was written.
-/

namespace Nextmini.Node

open Nextmini.Library Nextmini.Routing

set_option autoImplicit false

def probeFlowId : FlowId := 0x7F0000017F0000020000000000000000#128

def wordAdd (first second : Nat) : Nat := (first + second) % 2 ^ 64

structure SentPacket where
  flowId : FlowId
  packetSize : Nat
  deriving DecidableEq

structure FlowMetric where
  flowId : FlowId
  localNodeId : NodeId
  remoteNodeId : NodeId
  bytes : Nat
  deriving DecidableEq

/-- The entry of a map under a key, inserted where there is none, is changed. -/
def changeEntry {Entry : Type} (key : Entry → FlowId) (flowId : FlowId) (fresh : Entry)
    (change : Entry → Entry) : List Entry → List Entry
  | [] => [change fresh]
  | entry :: rest =>
      if key entry = flowId then change entry :: rest
      else entry :: changeEntry key flowId fresh change rest

/-! ## Links -/

/-- One packet of a batch; a probe belongs to no flow. -/
def aggregate (aggregates : List (FlowId × Nat)) (packet : SentPacket) : List (FlowId × Nat) :=
  if packet.flowId = probeFlowId then aggregates
  else changeEntry Prod.fst packet.flowId (packet.flowId, 0)
    (fun entry => (entry.1, wordAdd entry.2 packet.packetSize)) aggregates

def flowMetrics (localId remoteNodeId : NodeId) (packets : List SentPacket) : List FlowMetric :=
  (packets.foldl aggregate []).map fun (flowId, bytes) => ⟨flowId, localId, remoteNodeId, bytes⟩

/-! ## Reporters and the table -/

/-- The channel of a reporter, its map, and the batches that the controller has not stored yet. -/
structure ControllerReporter where
  channel : List FlowMetric
  flowMetrics : List FlowMetric
  handedOver : List (List FlowMetric)

namespace ControllerReporter

def empty : ControllerReporter := ⟨[], [], []⟩

def add (metrics : List FlowMetric) (metric : FlowMetric) : List FlowMetric :=
  changeEntry FlowMetric.flowId metric.flowId { metric with bytes := 0 }
    (fun entry => { entry with bytes := wordAdd entry.bytes metric.bytes }) metrics

def receive (reporter : ControllerReporter) : Option ControllerReporter :=
  match reporter.channel with
  | [] => none
  | metric :: rest =>
      some { reporter with channel := rest, flowMetrics := add reporter.flowMetrics metric }

def tick (reporter : ControllerReporter) : ControllerReporter :=
  if reporter.flowMetrics.isEmpty then reporter
  else
    { reporter with
      flowMetrics := []
      handedOver := reporter.handedOver ++ [reporter.flowMetrics] }

end ControllerReporter

/-- A row of the table, whose columns are signed 32-bit numbers. -/
structure MetricRow where
  flowId : FlowId
  localNodeId : Int
  remoteNodeId : Int
  bytes : Int
  deriving DecidableEq

/-- Metrics without bytes are not stored. -/
def metricRow (metric : FlowMetric) : Option MetricRow :=
  if metric.bytes = 0 then none
  else some ⟨metric.flowId, asI32 metric.localNodeId, asI32 metric.remoteNodeId, asI32 metric.bytes⟩

/-- The reporters of all nodes, the table, and the bytes sent so far by flow and link. -/
structure MetricState where
  reporters : NodeId → ControllerReporter
  rows : List MetricRow
  sent : FlowId → NodeId → NodeId → Nat

inductive MetricLabel where
  | send (localId remoteNodeId : NodeId) (packets : List SentPacket)
  | receive (localId : NodeId)
  | tick (localId : NodeId)
  | store (localId : NodeId)

def bytesOf (flowId : FlowId) (packets : List SentPacket) : Nat :=
  (packets.map fun packet => if packet.flowId = flowId then packet.packetSize else 0).sum

namespace MetricState

def withReporter (state : MetricState) (localId : NodeId) (reporter : ControllerReporter) :
    MetricState :=
  { state with reporters := Function.update state.reporters localId reporter }

def send (state : MetricState) (localId remoteNodeId : NodeId) (packets : List SentPacket) :
    MetricState :=
  let reporter := state.reporters localId
  { state.withReporter localId
      { reporter with
        channel := reporter.channel ++ flowMetrics localId remoteNodeId packets } with
    sent := fun flowId nodeId remote =>
      if nodeId = localId ∧ remote = remoteNodeId then
        state.sent flowId nodeId remote + bytesOf flowId packets
      else state.sent flowId nodeId remote }

def store (state : MetricState) (localId : NodeId) : Option MetricState :=
  let reporter := state.reporters localId
  match reporter.handedOver with
  | [] => none
  | batch :: rest =>
      some
        { state.withReporter localId { reporter with handedOver := rest } with
          rows := state.rows ++ batch.filterMap metricRow }

/-- Registered nodes that send and report, and a controller whose inserts go through. -/
def system : TransitionSystem MetricState MetricLabel where
  initial state := state = ⟨fun _ => .empty, [], fun _ _ _ => 0⟩
  step state label later :=
    match label with
    | .send localId remoteNodeId packets => later = state.send localId remoteNodeId packets
    | .receive localId => ∃ reporter, (state.reporters localId).receive = some reporter ∧
        later = state.withReporter localId reporter
    | .tick localId => later = state.withReporter localId (state.reporters localId).tick
    | .store localId => state.store localId = some later

end MetricState

/-! ## Accounts -/

/-- What a metric adds to the account of a flow on a link. -/
def FlowMetric.share (flowId : FlowId) (localId remoteNodeId : NodeId) (metric : FlowMetric) : Nat :=
  if metric.flowId = flowId ∧ metric.localNodeId = localId ∧ metric.remoteNodeId = remoteNodeId then
    metric.bytes
  else 0

def amount (flowId : FlowId) (localId remoteNodeId : NodeId) (metrics : List FlowMetric) : Nat :=
  (metrics.map (FlowMetric.share flowId localId remoteNodeId)).sum

def MetricRow.share (flowId : FlowId) (localId remoteNodeId : NodeId) (row : MetricRow) : Int :=
  if row.flowId = flowId ∧ row.localNodeId = localId ∧ row.remoteNodeId = remoteNodeId then row.bytes
  else 0

namespace MetricState

def stored (state : MetricState) (flowId : FlowId) (localId remoteNodeId : NodeId) : Int :=
  (state.rows.map (MetricRow.share flowId localId remoteNodeId)).sum

/-- The bytes still in the reporter of a node, in its channel, its map or a batch on the way. -/
def pending (state : MetricState) (flowId : FlowId) (localId remoteNodeId : NodeId) : Nat :=
  let reporter := state.reporters localId
  amount flowId localId remoteNodeId reporter.channel +
    amount flowId localId remoteNodeId reporter.flowMetrics +
      amount flowId localId remoteNodeId reporter.handedOver.flatten

/-- For every flow and link, what is stored and what is pending make up what was sent. -/
def Conserved (state : MetricState) : Prop :=
  ∀ flowId localId remoteNodeId, flowId ≠ probeFlowId →
    state.stored flowId localId remoteNodeId + state.pending flowId localId remoteNodeId =
      state.sent flowId localId remoteNodeId

/-- No sum runs over its word, a metric meets no entry of another link in the map, and what is stored
fits its columns. -/
def Fits (state : MetricState) (label : MetricLabel) : Prop :=
  match label with
  | .send _ _ packets => ∀ flowId ≠ probeFlowId, bytesOf flowId packets < 2 ^ 64
  | .receive localId => ∀ metric ∈ (state.reporters localId).channel.head?,
      ∀ entry ∈ (state.reporters localId).flowMetrics, entry.flowId = metric.flowId →
        (metric.bytes = 0 ∨ entry.remoteNodeId = metric.remoteNodeId) ∧
          entry.bytes + metric.bytes < 2 ^ 64
  | .tick _ => True
  | .store localId => ∀ batch ∈ (state.reporters localId).handedOver.head?, ∀ metric ∈ batch,
      metric.bytes ≠ 0 → metric.localNodeId < 2 ^ 31 ∧ metric.remoteNodeId < 2 ^ 31 ∧
        metric.bytes < 2 ^ 31

end MetricState

/-! ## Sums -/

/-- A change that adds as much to every entry under the key as to a fresh one adds it to the sum. -/
theorem change_entry_sum {Entry : Type} {key : Entry → FlowId} {flowId : FlowId} {fresh : Entry}
    {change : Entry → Entry} {share : Entry → Nat} {added : Nat} (new : share (change fresh) = added)
    {entries : List Entry}
    (each : ∀ entry ∈ entries, key entry = flowId → share (change entry) = share entry + added) :
    ((changeEntry key flowId fresh change entries).map share).sum =
      (entries.map share).sum + added := by
  induction entries with
  | nil => simp [changeEntry, new]
  | cons entry rest induction =>
    rw [changeEntry]
    split_ifs with found
    · rw [List.map_cons, List.map_cons, List.sum_cons, List.sum_cons,
        each entry List.mem_cons_self found]
      omega
    · rw [List.map_cons, List.map_cons, List.sum_cons, List.sum_cons,
        induction fun other member => each other (List.mem_cons_of_mem _ member)]
      omega

theorem mem_change_entry {Entry : Type} {key : Entry → FlowId} {flowId : FlowId}
    {fresh entry : Entry} {change : Entry → Entry} {entries : List Entry}
    (member : entry ∈ changeEntry key flowId fresh change entries) :
    entry ∈ entries ∨ entry = change fresh ∨ ∃ old ∈ entries, entry = change old := by
  induction entries with
  | nil => exact .inr (.inl (List.mem_singleton.mp member))
  | cons first rest induction =>
    rw [changeEntry] at member
    split_ifs at member
    · rcases List.mem_cons.mp member with same | later
      · exact .inr (.inr ⟨first, List.mem_cons_self, same⟩)
      · exact .inl (List.mem_cons_of_mem _ later)
    · rcases List.mem_cons.mp member with same | later
      · exact .inl (same ▸ List.mem_cons_self)
      · rcases induction later with earlier | new | ⟨old, listed, changed⟩
        · exact .inl (List.mem_cons_of_mem _ earlier)
        · exact .inr (.inl new)
        · exact .inr (.inr ⟨old, List.mem_cons_of_mem _ listed, changed⟩)

theorem share_le_amount {Entry : Type} {share : Entry → Nat} {entries : List Entry} {entry : Entry}
    (member : entry ∈ entries) : share entry ≤ (entries.map share).sum :=
  List.le_sum_of_mem (List.mem_map_of_mem member)

theorem amount_append (flowId : FlowId) (localId remoteNodeId : NodeId)
    (first second : List FlowMetric) : amount flowId localId remoteNodeId (first ++ second) =
      amount flowId localId remoteNodeId first + amount flowId localId remoteNodeId second := by
  rw [amount, amount, amount, List.map_append, List.sum_append]

def aggregated (flowId : FlowId) (aggregates : List (FlowId × Nat)) : Nat :=
  (aggregates.map fun entry => if entry.1 = flowId then entry.2 else 0).sum

theorem aggregate_sum {flowId : FlowId} (flow : flowId ≠ probeFlowId) (packets : List SentPacket)
    (aggregates : List (FlowId × Nat))
    (fits : aggregated flowId aggregates + bytesOf flowId packets < 2 ^ 64) :
    aggregated flowId (packets.foldl aggregate aggregates) =
      aggregated flowId aggregates + bytesOf flowId packets := by
  induction packets generalizing aggregates with
  | nil => rfl
  | cons packet rest induction =>
    have split : bytesOf flowId (packet :: rest) =
        (if packet.flowId = flowId then packet.packetSize else 0) + bytesOf flowId rest := by
      rw [bytesOf, List.map_cons, List.sum_cons, bytesOf]
    have step : aggregated flowId (aggregate aggregates packet) = aggregated flowId aggregates +
        if packet.flowId = flowId then packet.packetSize else 0 := by
      rw [aggregate]
      by_cases probe : packet.flowId = probeFlowId
      · have apart : packet.flowId ≠ flowId := fun same => flow (same.symm.trans probe)
        rw [if_pos probe, if_neg apart, Nat.add_zero]
      · rw [if_neg probe]
        by_cases same : packet.flowId = flowId
        · rw [if_pos same] at split ⊢
          apply change_entry_sum
          · simp only [same, if_true, wordAdd, Nat.zero_add]
            exact Nat.mod_eq_of_lt (by omega)
          · intro entry member found
            have below := @share_le_amount (FlowId × Nat)
              (fun entry => if entry.1 = flowId then entry.2 else 0) _ _ member
            rw [← aggregated, if_pos (found.trans same)] at below
            simp only [found.trans same, if_true, wordAdd]
            exact Nat.mod_eq_of_lt (by omega)
        · rw [if_neg same]
          apply change_entry_sum
          · simp only [if_neg same]
          · intro entry _ found
            simp only [found, if_neg same]
    rw [List.foldl_cons, induction _ (by omega), step, split]
    omega

/-- A link reports what its batch holds of a flow, and nothing for other links. -/
theorem flow_metrics_amount {flowId : FlowId} (flow : flowId ≠ probeFlowId)
    {packets : List SentPacket} (fits : bytesOf flowId packets < 2 ^ 64)
    (localId remoteNodeId otherRemote : NodeId) :
    amount flowId localId otherRemote (flowMetrics localId remoteNodeId packets) =
      if otherRemote = remoteNodeId then bytesOf flowId packets else 0 := by
  have whole : aggregated flowId (packets.foldl aggregate []) = bytesOf flowId packets := by
    have sum := aggregate_sum flow packets [] (by simpa [aggregated] using fits)
    simpa [aggregated] using sum
  rw [amount, flowMetrics, List.map_map]
  split_ifs with same
  · rw [← whole, aggregated]
    congr 1
    apply List.map_congr_left
    intro entry _
    simp only [Function.comp_apply, FlowMetric.share, same, and_self, and_true]
  · rw [List.sum_eq_zero]
    intro share member
    rcases List.mem_map.mp member with ⟨entry, _, rfl⟩
    simp only [Function.comp_apply, FlowMetric.share]
    rw [if_neg fun both => same both.2.2.symm]

/-- A metric that meets no entry of another link is added to its own account only. -/
theorem add_amount {metrics : List FlowMetric} {metric : FlowMetric} {localId : NodeId}
    (fits : ∀ entry ∈ metrics, entry.flowId = metric.flowId →
      (metric.bytes = 0 ∨ entry.remoteNodeId = metric.remoteNodeId) ∧
        entry.bytes + metric.bytes < 2 ^ 64)
    (word : metric.bytes < 2 ^ 64) (localMetric : metric.localNodeId = localId)
    (localEntries : ∀ entry ∈ metrics, entry.localNodeId = localId) (flowId : FlowId)
    (remoteNodeId : NodeId) :
    amount flowId localId remoteNodeId (ControllerReporter.add metrics metric) =
      amount flowId localId remoteNodeId metrics +
        metric.share flowId localId remoteNodeId := by
  apply change_entry_sum
  · simp only [FlowMetric.share, wordAdd, Nat.zero_add, Nat.mod_eq_of_lt word]
  · intro entry member found
    rcases fits entry member found with ⟨link, small⟩
    simp only [FlowMetric.share, wordAdd, Nat.mod_eq_of_lt small, found, localMetric,
      localEntries entry member, true_and]
    rcases link with empty | link
    · simp [empty]
    · rw [link]
      split_ifs
      · rfl
      · rfl

theorem rows_sum {batch : List FlowMetric}
    (fits : ∀ metric ∈ batch, metric.bytes ≠ 0 → metric.localNodeId < 2 ^ 31 ∧
      metric.remoteNodeId < 2 ^ 31 ∧ metric.bytes < 2 ^ 31)
    (flowId : FlowId) (localId remoteNodeId : NodeId) :
    ((batch.filterMap metricRow).map (MetricRow.share flowId localId remoteNodeId)).sum =
      (amount flowId localId remoteNodeId batch : Int) := by
  induction batch with
  | nil => rfl
  | cons metric rest induction =>
    have sum := induction fun other member => fits other (List.mem_cons_of_mem _ member)
    have split : amount flowId localId remoteNodeId (metric :: rest) =
        metric.share flowId localId remoteNodeId + amount flowId localId remoteNodeId rest := by
      rw [amount, List.map_cons, List.sum_cons, amount]
    rw [split, Nat.cast_add, ← sum, List.filterMap_cons]
    by_cases empty : metric.bytes = 0
    · have nothing : metric.share flowId localId remoteNodeId = 0 := by simp [FlowMetric.share, empty]
      rw [metricRow, if_pos empty, nothing]
      simp
    · rcases fits metric List.mem_cons_self empty with ⟨smallLocal, smallRemote, small⟩
      have row : MetricRow.share flowId localId remoteNodeId ⟨metric.flowId,
          asI32 metric.localNodeId, asI32 metric.remoteNodeId, asI32 metric.bytes⟩ =
            (metric.share flowId localId remoteNodeId : Int) := by
        simp only [MetricRow.share, FlowMetric.share, as_i32_of_lt smallLocal,
          as_i32_of_lt smallRemote, as_i32_of_lt small, Nat.cast_inj]
        split_ifs
        · rfl
        · rfl
      rw [metricRow, if_neg empty]
      simp only [List.map_cons, List.sum_cons, row]

structure FlowMetric.Of (localId : NodeId) (metric : FlowMetric) : Prop where
  sender : metric.localNodeId = localId
  word : metric.bytes < 2 ^ 64

theorem word_add_lt (first second : Nat) : wordAdd first second < 2 ^ 64 :=
  Nat.mod_lt _ (Nat.two_pow_pos 64)

theorem aggregates_lt (packets : List SentPacket) (aggregates : List (FlowId × Nat))
    (bounded : ∀ entry ∈ aggregates, entry.2 < 2 ^ 64) :
    ∀ entry ∈ packets.foldl aggregate aggregates, entry.2 < 2 ^ 64 := by
  induction packets generalizing aggregates with
  | nil => exact bounded
  | cons packet rest induction =>
    apply induction
    intro entry member
    rw [aggregate] at member
    split_ifs at member
    · exact bounded entry member
    · rcases mem_change_entry member with earlier | new | ⟨old, _, changed⟩
      · exact bounded entry earlier
      · rw [new]
        exact word_add_lt _ _
      · rw [changed]
        exact word_add_lt _ _

theorem flow_metrics_of {localId remoteNodeId : NodeId} {packets : List SentPacket}
    {metric : FlowMetric} (member : metric ∈ flowMetrics localId remoteNodeId packets) :
    metric.Of localId := by
  rcases List.mem_map.mp member with ⟨entry, listed, rfl⟩
  exact ⟨rfl, aggregates_lt packets [] nofun entry listed⟩

theorem add_of {localId : NodeId} {metrics : List FlowMetric} {metric entry : FlowMetric}
    (each : ∀ entry ∈ metrics, entry.Of localId) (own : metric.Of localId)
    (member : entry ∈ ControllerReporter.add metrics metric) : entry.Of localId := by
  rcases mem_change_entry member with earlier | new | ⟨old, listed, changed⟩
  · exact each entry earlier
  · rw [new]
    exact ⟨own.sender, word_add_lt _ _⟩
  · rw [changed]
    exact ⟨(each old listed).sender, word_add_lt _ _⟩

structure ControllerReporter.Of (localId : NodeId) (reporter : ControllerReporter) : Prop where
  channel : ∀ metric ∈ reporter.channel, metric.Of localId
  map : ∀ metric ∈ reporter.flowMetrics, metric.Of localId
  batches : ∀ metric ∈ reporter.handedOver.flatten, metric.Of localId

namespace MetricState

variable {state later : MetricState} {localId remoteNodeId : NodeId}

structure Accounted (state : MetricState) : Prop where
  conserved : state.Conserved
  own : ∀ localId, (state.reporters localId).Of localId

theorem own_update (own : ∀ localId, (state.reporters localId).Of localId)
    {reporter : ControllerReporter} (changed : reporter.Of localId) (other : NodeId) :
    ((state.withReporter localId reporter).reporters other).Of other := by
  by_cases here : other = localId
  · subst here
    simpa [withReporter] using changed
  · simpa [withReporter, here] using own other

/-- The metrics of a node count for its own links only. -/
theorem amount_of_other {metrics : List FlowMetric} (own : ∀ metric ∈ metrics, metric.Of localId)
    {nodeId : NodeId} (other : nodeId ≠ localId) (flowId : FlowId) :
    amount flowId nodeId remoteNodeId metrics = 0 := by
  rw [amount, List.sum_eq_zero]
  intro share member
  rcases List.mem_map.mp member with ⟨metric, listed, rfl⟩
  rw [FlowMetric.share, if_neg fun both => other (both.2.1.symm.trans (own metric listed).sender)]

theorem send_accounted (accounted : state.Accounted) (packets : List SentPacket)
    (fits : ∀ flowId ≠ probeFlowId, bytesOf flowId packets < 2 ^ 64) :
    (state.send localId remoteNodeId packets).Accounted := by
  have own := accounted.own localId
  constructor
  · intro flowId nodeId otherRemote flow
    have before := accounted.conserved flowId nodeId otherRemote flow
    have reported := flow_metrics_amount flow (fits flowId flow) localId remoteNodeId otherRemote
    by_cases here : nodeId = localId
    · subst here
      simp only [stored, pending, send, withReporter, Function.update_self, amount_append, reported,
        true_and] at before ⊢
      split_ifs
      · push_cast at before ⊢
        omega
      · push_cast at before ⊢
        omega
    · simpa [stored, pending, send, withReporter, here] using before
  · apply own_update accounted.own
    refine ⟨fun metric member => ?_, own.map, own.batches⟩
    rcases List.mem_append.mp member with earlier | new
    · exact own.channel metric earlier
    · exact flow_metrics_of new

theorem receive_accounted {reporter : ControllerReporter} (accounted : state.Accounted)
    (fits : state.Fits (.receive localId))
    (received : (state.reporters localId).receive = some reporter) :
    (state.withReporter localId reporter).Accounted := by
  have own := accounted.own localId
  rw [ControllerReporter.receive] at received
  split at received
  · cases received
  · rename_i metric rest queued
    cases received
    have head : metric ∈ (state.reporters localId).channel.head? := by rw [queued]; rfl
    have listed : metric ∈ (state.reporters localId).channel := by rw [queued]; exact List.mem_cons_self
    have mine := own.channel metric listed
    constructor
    · intro flowId nodeId otherRemote flow
      have before := accounted.conserved flowId nodeId otherRemote flow
      by_cases here : nodeId = localId
      · subst here
        have added := add_amount (fits metric head) mine.word mine.sender
          (fun entry member => (own.map entry member).sender) flowId otherRemote
        have moved : amount flowId nodeId otherRemote (metric :: rest) =
            metric.share flowId nodeId otherRemote + amount flowId nodeId otherRemote rest := by
          rw [amount, List.map_cons, List.sum_cons, amount]
        simp only [stored, pending, withReporter, Function.update_self, queued, moved, added]
          at before ⊢
        push_cast at before ⊢
        omega
      · simpa [stored, pending, withReporter, here] using before
    · apply own_update accounted.own
      refine ⟨fun other member => ?_, fun other member => ?_, own.batches⟩
      · apply own.channel
        rw [queued]
        exact List.mem_cons_of_mem _ member
      · exact add_of own.map mine member

theorem tick_accounted (accounted : state.Accounted) :
    (state.withReporter localId (state.reporters localId).tick).Accounted := by
  have own := accounted.own localId
  have kept : (state.reporters localId).tick.channel = (state.reporters localId).channel := by
    rw [ControllerReporter.tick]
    split_ifs <;> rfl
  have moved (flowId : FlowId) (otherRemote : NodeId) :
      amount flowId localId otherRemote (state.reporters localId).tick.flowMetrics +
          amount flowId localId otherRemote (state.reporters localId).tick.handedOver.flatten =
        amount flowId localId otherRemote (state.reporters localId).flowMetrics +
          amount flowId localId otherRemote (state.reporters localId).handedOver.flatten := by
    rw [ControllerReporter.tick]
    split_ifs
    · rfl
    · have nothing : amount flowId localId otherRemote [] = 0 := rfl
      simp only [List.flatten_append, List.flatten_singleton, amount_append, nothing]
      omega
  constructor
  · intro flowId nodeId otherRemote flow
    have before := accounted.conserved flowId nodeId otherRemote flow
    by_cases here : nodeId = localId
    · subst here
      have same := moved flowId otherRemote
      simp only [stored, pending, withReporter, Function.update_self, kept] at before ⊢
      push_cast at before ⊢
      omega
    · simpa [stored, pending, withReporter, here] using before
  · apply own_update accounted.own
    rw [ControllerReporter.tick]
    split_ifs
    · exact own
    · refine ⟨own.channel, nofun, fun metric member => ?_⟩
      simp only [List.flatten_append, List.flatten_singleton, List.mem_append] at member
      rcases member with earlier | new
      · exact own.batches metric earlier
      · exact own.map metric new

theorem store_accounted (accounted : state.Accounted) (fits : state.Fits (.store localId))
    (inserted : state.store localId = some later) : later.Accounted := by
  have own := accounted.own localId
  simp only [store] at inserted
  split at inserted
  · cases inserted
  · rename_i batch rest queued
    cases inserted
    have head : batch ∈ (state.reporters localId).handedOver.head? := by rw [queued]; rfl
    have booked := rows_sum (fits batch head)
    constructor
    · intro flowId nodeId otherRemote flow
      have before := accounted.conserved flowId nodeId otherRemote flow
      simp only [stored, List.map_append, List.sum_append, booked] at before ⊢
      by_cases here : nodeId = localId
      · subst here
        simp only [pending, withReporter, Function.update_self, queued, List.flatten_cons,
          amount_append] at before ⊢
        push_cast at before ⊢
        omega
      · have batchOwn : ∀ metric ∈ batch, metric.Of localId := by
          intro metric member
          apply own.batches
          rw [queued, List.flatten_cons]
          exact List.mem_append_left _ member
        rw [amount_of_other batchOwn here]
        simpa [pending, withReporter, here] using before
    · apply own_update accounted.own
      refine ⟨own.channel, own.map, fun metric member => own.batches metric ?_⟩
      rw [queued, List.flatten_cons]
      exact List.mem_append_right _ member

theorem accounted_step {label : MetricLabel} (accounted : state.Accounted)
    (fits : state.Fits label) (step : system.step state label later) : later.Accounted := by
  cases label with
  | send localId remoteNodeId packets =>
    have sent : later = state.send localId remoteNodeId packets := step
    rw [sent]
    exact send_accounted accounted packets fits
  | receive localId =>
    rcases step with ⟨reporter, received, changed⟩
    rw [changed]
    exact receive_accounted accounted fits received
  | tick localId =>
    have ticked : later = state.withReporter localId (state.reporters localId).tick := step
    rw [ticked]
    exact tick_accounted accounted
  | store localId => exact store_accounted accounted fits step

/-- Over any sends, ticks and inserts that fit, no byte is lost, made up or booked elsewhere. -/
theorem metrics_conserved (reachable : (system.restrict Fits).Reachable state) :
    state.Conserved := by
  have accounted : state.Accounted := by
    apply TransitionSystem.invariant_of_reachable (motive := Accounted) _ _ reachable
    · rintro _ rfl
      exact ⟨fun _ _ _ _ => rfl, fun _ => ⟨nofun, nofun, nofun⟩⟩
    · rintro _ label _ accounted ⟨fits, step⟩
      exact accounted_step accounted fits step
  exact accounted.conserved

def start : MetricState := ⟨fun _ => .empty, [], fun _ _ _ => 0⟩

theorem bytes_of_one_le (flowId : FlowId) (packet : SentPacket) :
    bytesOf flowId [packet] ≤ packet.packetSize := by
  simp only [bytesOf, List.map_cons, List.map_nil, List.sum_singleton]
  split_ifs
  · exact Nat.le_refl _
  · exact Nat.zero_le _

/-- A hundred bytes go from node one to node two and are stored at the next tick. -/
theorem hundred_bytes_conserved :
    ∃ state, (system.restrict Fits).Reachable state ∧ state.rows = [⟨7, 1, 2, 100⟩] ∧
      state.sent 7 1 2 = 100 ∧ state.Conserved := by
  have initial : (system.restrict Fits).Reachable start := TransitionSystem.reachable_of_initial rfl
  have small : ∀ flowId ≠ probeFlowId, bytesOf flowId [⟨7, 100⟩] < 2 ^ 64 :=
    fun flowId _ => Nat.lt_of_le_of_lt (bytes_of_one_le flowId _) (by decide)
  let sent := start.send 1 2 [⟨7, 100⟩]
  let received := sent.withReporter 1 ⟨[], [⟨7, 1, 2, 100⟩], []⟩
  let ticked := received.withReporter 1 ⟨[], [], [[⟨7, 1, 2, 100⟩]]⟩
  let stored := { ticked.withReporter 1 .empty with rows := [⟨7, 1, 2, 100⟩] }
  have send : (system.restrict Fits).step start (.send 1 2 [⟨7, 100⟩]) sent := ⟨small, rfl⟩
  have receive : (system.restrict Fits).step sent (.receive 1) received := ⟨nofun, _, rfl, rfl⟩
  have tick : (system.restrict Fits).step received (.tick 1) ticked := ⟨trivial, rfl⟩
  have store : (system.restrict Fits).step ticked (.store 1) stored := by
    refine ⟨?_, rfl⟩
    rintro batch ⟨⟩ metric listed _
    rw [List.mem_singleton.mp listed]
    decide
  have reached := (((initial.step send).step receive).step tick).step store
  exact ⟨stored, reached, rfl, rfl, metrics_conserved reached⟩

/-- The same flow goes to two nodes within one interval: the bytes for the second are stored for the
first. -/
theorem second_remote_booked_on_first :
    ∃ state, system.Reachable state ∧ state.rows = [⟨7, 1, 2, 200⟩] ∧
      state.sent 7 1 2 = 100 ∧ state.sent 7 1 3 = 100 ∧ state.pending 7 1 3 = 0 ∧
        ¬state.Conserved := by
  have initial : system.Reachable start := TransitionSystem.reachable_of_initial rfl
  let sent := (start.send 1 2 [⟨7, 100⟩]).send 1 3 [⟨7, 100⟩]
  let received := (sent.withReporter 1 ⟨[⟨7, 1, 3, 100⟩], [⟨7, 1, 2, 100⟩], []⟩).withReporter 1
    ⟨[], [⟨7, 1, 2, 200⟩], []⟩
  let ticked := received.withReporter 1 ⟨[], [], [[⟨7, 1, 2, 200⟩]]⟩
  let stored := { ticked.withReporter 1 .empty with rows := [⟨7, 1, 2, 200⟩] }
  have first : system.step start (.send 1 2 [⟨7, 100⟩]) (start.send 1 2 [⟨7, 100⟩]) := rfl
  have second : system.step (start.send 1 2 [⟨7, 100⟩]) (.send 1 3 [⟨7, 100⟩]) sent := rfl
  have receive : system.step sent (.receive 1)
      (sent.withReporter 1 ⟨[⟨7, 1, 3, 100⟩], [⟨7, 1, 2, 100⟩], []⟩) := ⟨_, rfl, rfl⟩
  have again : system.step (sent.withReporter 1 ⟨[⟨7, 1, 3, 100⟩], [⟨7, 1, 2, 100⟩], []⟩)
      (.receive 1) received := ⟨_, rfl, rfl⟩
  have tick : system.step received (.tick 1) ticked := rfl
  have store : system.step ticked (.store 1) stored := rfl
  have reached := (((((initial.step first).step second).step receive).step again).step tick).step store
  refine ⟨stored, reached, rfl, rfl, rfl, rfl, fun conserved => ?_⟩
  have account := conserved 7 1 3 (by decide)
  exact absurd account (by decide)

end MetricState

end Nextmini.Node
