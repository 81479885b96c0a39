import Mathlib.Data.List.Nodup
import Nextmini.Node.FlowLedger

/-!
# Flow reports

What a flush reports against what the ledger holds, and over whole runs: every incarnation is
reported once as long as flow ids are not used again too soon.
-/

namespace Nextmini.Node

open Nextmini.Library Nextmini.Routing

set_option autoImplicit false

/-! ## Flushes -/

/-- Of values that name where they come from, each comes as often as it is found there. -/
theorem count_filter_map {Place Value : Type*} [DecidableEq Value] {found : Place → Option Value}
    {place : Value → Place} (named : ∀ at_it value, found at_it = some value → place value = at_it)
    {places : List Place} (distinct : places.Nodup)
    (covers : ∀ at_it, found at_it ≠ none → at_it ∈ places) (value : Value) :
    (places.filterMap found).count value = (found (place value)).toList.count value := by
  have once : (places.filterMap found).Nodup := by
    apply distinct.filterMap
    intro first second value atFirst atSecond
    rw [← named first value atFirst, ← named second value atSecond]
  have member : value ∈ places.filterMap found ↔ value ∈ (found (place value)).toList := by
    rw [List.mem_filterMap, Option.mem_toList]
    constructor
    · rintro ⟨at_it, _, present⟩
      rw [named at_it value present]
      exact present
    · intro present
      refine ⟨place value, covers _ ?_, present⟩
      rw [present]
      exact Option.some_ne_none value
  have single : (found (place value)).toList.Nodup := by
    cases found (place value) <;> simp
  rw [once.count, single.count]
  simp only [member]

theorem kept_reported {nowMs : Int} {entry left : FlowEntry} (kept : entry.kept nowMs = some left) :
    left.Reported := by
  cases entry with
  | pending route =>
    cases kept
    exact ⟨rfl, rfl⟩
  | app entry =>
    rcases FlowEntry.kept_app nowMs entry with sent | ⟨_, gone⟩
    · rw [sent] at kept
      cases kept
      exact ⟨rfl, rfl⟩
    · rw [gone] at kept
      cases kept
  | user entry =>
    rw [FlowEntry.kept_user] at kept
    split_ifs at kept
    cases kept
    exact ⟨rfl, rfl⟩

theorem kept_routes {nowMs : Int} {entry left : FlowEntry} (kept : entry.kept nowMs = some left) :
    left.routes ⊆ entry.routes := by
  cases entry with
  | pending route =>
    cases kept
    exact subset_rfl
  | app entry =>
    rcases FlowEntry.kept_app nowMs entry with sent | ⟨_, gone⟩
    · rw [sent] at kept
      cases kept
      intro routeId member
      exact absurd member (Finset.notMem_empty routeId)
    · rw [gone] at kept
      cases kept
  | user entry =>
    rw [FlowEntry.kept_user] at kept
    split_ifs at kept
    cases kept
    exact subset_rfl

theorem kept_tracks {flowId : FlowId} {life : Option Life} {entry : Option FlowEntry}
    (nowMs : Int) (tracks : Tracks flowId life entry) :
    Tracks flowId life (entry.bind (FlowEntry.kept nowMs)) := by
  cases tracks with
  | unknown => exact .unknown
  | assigned route => exact .assigned route
  | gone => exact .gone
  | reassigned route => exact .reassigned route
  | appRunning entry own active unsent =>
    rcases FlowEntry.kept_app nowMs entry with sent | ⟨finished, _⟩
    · rw [Option.bind_some, sent]
      exact .appRunning { entry with pending := ⟨false, ∅, false⟩ } own active rfl
    · rw [active] at finished
      cases finished
  | appFinished entry own finished =>
    rcases FlowEntry.kept_app nowMs entry with sent | ⟨_, gone⟩
    · rw [Option.bind_some, sent]
      exact .appFinished _ own finished
    · rw [Option.bind_some, gone]
      exact .gone
  | userRunning entry own active unsent =>
    have ongoing : entry.stage ≠ .finished := by
      rw [active]
      decide
    rw [Option.bind_some, FlowEntry.kept_user, if_neg ongoing]
    exact .userRunning { entry with pendingStart := false, pendingFinish := none } own active rfl
  | userFinished entry own finished waiting =>
    rw [Option.bind_some, FlowEntry.kept_user, if_pos finished]
    exact .gone

theorem owed_start_own {state : FlowReporting} (before : Accounted state) (flowId : FlowId)
    (start : StartReport) (owed : state.store.owedStart flowId = some start) :
    start.flowId = flowId := by
  have tracked := before.tracks flowId
  rcases Option.bind_eq_some_iff.mp owed with ⟨entry, found, owed⟩
  rw [found] at tracked
  generalize state.ledger.current flowId = life at tracked
  cases tracked with
  | assigned route | reassigned route => cases owed
  | appRunning entry own active unsent | appFinished entry own finished
  | userRunning entry own active unsent | userFinished entry own finished waiting =>
    simp only [FlowEntry.owedStart] at owed
    split_ifs at owed
    cases owed
    exact own

theorem owed_finish_own {state : FlowReporting} (before : Accounted state) (flowId : FlowId)
    (info : FlowFinishedInfo) (owed : state.store.owedFinish flowId = some info) :
    info.flowId = flowId := by
  have tracked := before.tracks flowId
  rcases Option.bind_eq_some_iff.mp owed with ⟨entry, found, owed⟩
  rw [found] at tracked
  generalize state.ledger.current flowId = life at tracked
  cases tracked with
  | assigned route | reassigned route => cases owed
  | appRunning entry own active unsent | appFinished entry own finished =>
    simp only [FlowEntry.owedFinish] at owed
    split_ifs at owed
    rcases Option.map_eq_some_iff.mp owed with ⟨finishTime, _, rfl⟩
    exact own
  | userRunning entry own active unsent =>
    simp only [FlowEntry.owedFinish, unsent] at owed
    cases owed
  | userFinished entry own finished waiting =>
    rcases waiting info owed with ⟨finishTime, rfl⟩
    exact own

variable {nowMs : Int} {order : List FlowId} {drained : FlowId → List Nat}

theorem flush_reports_starts {state : FlowReporting} (visits : state.store.Visits order) :
    (state.flush nowMs order drained).reports.starts.Perm
      (state.reports.starts ++ order.filterMap state.store.owedStart) := by
  have output : (FlowStore.flush nowMs drained order .empty state.store).1.starts.Perm
      (order.filterMap state.store.owedStart) :=
    FlowStore.flush_starts order visits.1 .empty state.store
  have joined : ∀ first second : FlushOutput,
      (first.append second).starts.Perm (first.starts ++ second.starts) := by
    intro first second
    simp only [FlushOutput.append, FlushOutput.starts, List.map_append, List.append_assoc]
    apply List.Perm.append_left
    rw [← List.append_assoc, ← List.append_assoc]
    exact List.perm_append_comm.append_right _
  apply (joined _ _).trans
  exact output.append_left _

theorem flush_reports_finishes {state : FlowReporting} (visits : state.store.Visits order) :
    (state.flush nowMs order drained).reports.finishes =
      state.reports.finishes ++ order.filterMap state.store.owedFinish := by
  have output : (FlowStore.flush nowMs drained order .empty state.store).1.finishes =
      order.filterMap state.store.owedFinish :=
    FlowStore.flush_finishes order visits.1 .empty state.store
  rw [← output]
  rfl

theorem flush_reports_routes {state : FlowReporting} (before : Accounted state)
    (visits : state.store.Visits order) (drains : state.store.Drains drained)
    {assignment : RouteAssignment}
    (member : assignment ∈ (state.flush nowMs order drained).reports.assignments) :
    (assignment.flowId, assignment.routeId) ∈ state.ledger.routes := by
  have output : (FlowStore.flush nowMs drained order .empty state.store).1.assignments =
      order.flatMap (FlowStore.drainedOf drained state.store) :=
    FlowStore.flush_assignments order visits.1 .empty state.store
  rcases List.mem_append.mp member with earlier | flushed
  · exact before.assigned assignment earlier
  · rw [output] at flushed
    rcases List.mem_flatMap.mp flushed with ⟨flowId, _, flushed⟩
    unfold FlowStore.drainedOf at flushed
    have tracked := before.tracks flowId
    cases found : state.store.entries flowId with
    | none =>
      rw [found] at flushed
      cases flushed
    | some entry =>
      rw [found] at flushed tracked
      cases entry with
      | pending route => cases flushed
      | user entry => cases flushed
      | app entry =>
        rcases List.mem_map.mp flushed with ⟨routeId, drawn, rfl⟩
        have own : entry.flowId = flowId := by
          generalize state.ledger.current flowId = life at tracked
          cases tracked with
          | appRunning _ own _ _ => exact own
          | appFinished _ own _ => exact own
        rw [← List.mem_toFinset, (drains flowId entry found).2] at drawn
        rw [own]
        exact before.waiting flowId _ found routeId drawn

theorem flush_owes_nothing {state : FlowReporting} (visits : state.store.Visits order)
    (flowId : FlowId) :
    (state.flush nowMs order drained).store.owedStart flowId = none ∧
      (state.flush nowMs order drained).store.owedFinish flowId = none := by
  apply owed_of_reported
  intro entry found
  have left : (state.flush nowMs order drained).store.entries flowId =
      (state.store.entries flowId).bind (FlowEntry.kept nowMs) :=
    FlowStore.flush_visits visits .empty flowId
  rw [left] at found
  rcases Option.bind_eq_some_iff.mp found with ⟨earlier, _, kept⟩
  exact kept_reported kept

theorem flush_counts {state : FlowReporting} (before : Accounted state)
    (visits : state.store.Visits order) :
    (state.flush nowMs order drained).reports.starts.Perm state.ledger.starts ∧
      (state.flush nowMs order drained).reports.finishes.Perm
        (state.ledger.finishes.map AcceptedFinish.info) := by
  have covered : ∀ {Value : Type} {owed : FlowEntry → Option Value} (flowId : FlowId),
      (state.store.entries flowId).bind owed ≠ none → flowId ∈ order := by
    intro Value owed flowId owing
    apply visits.2
    intro absent
    rw [absent] at owing
    exact owing rfl
  constructor
  · apply (flush_reports_starts visits).trans
    rw [List.perm_iff_count]
    intro start
    rw [before.starts start, List.count_append, List.count_append,
      count_filter_map (owed_start_own before) visits.1 covered start]
  · rw [flush_reports_finishes visits, List.perm_iff_count]
    intro info
    rw [before.finishes info, List.count_append, List.count_append,
      count_filter_map (owed_finish_own before) visits.1 covered info]

theorem flush_accounted {state : FlowReporting} (before : Accounted state)
    (visits : state.store.Visits order) (drains : state.store.Drains drained) :
    Accounted (state.flush nowMs order drained) := by
  have left : ∀ flowId, (state.flush nowMs order drained).store.entries flowId =
      (state.store.entries flowId).bind (FlowEntry.kept nowMs) :=
    FlowStore.flush_visits visits .empty
  constructor
  · intro flowId
    rw [left]
    exact kept_tracks nowMs (before.tracks flowId)
  · intro start
    rw [(flush_owes_nothing visits start.flowId).1, Option.toList_none, List.append_nil]
    exact ((flush_counts before visits).1.count_eq start).symm
  · intro info
    rw [(flush_owes_nothing visits info.flowId).2, Option.toList_none, List.append_nil]
    exact ((flush_counts before visits).2.count_eq info).symm
  · exact before.running
  · exact before.linked
  · intro flowId entry found routeId member
    rw [left] at found
    rcases Option.bind_eq_some_iff.mp found with ⟨earlier, present, kept⟩
    exact before.waiting flowId earlier present routeId (kept_routes kept member)
  · intro assignment member
    exact flush_reports_routes before visits drains member

/-! ## Whole runs -/

theorem accounted_step {state next : FlowReporting} {event : FlowStatsEvent}
    (before : Accounted state) (timely : state.Timely event)
    (step : flowReporting.step state event next) : Accounted next := by
  cases event with
  | message message =>
    cases step
    cases message with
    | appFlowStart start => exact app_flow_start_accounted before timely
    | userFlowStart start => exact user_flow_start_accounted before timely
    | routeAssigned route => exact route_assigned_accounted before
    | flowFinished finished => exact flow_finished_accounted before timely
  | flush nowMs order drained =>
    rcases step with ⟨visits, drains, rfl⟩
    exact flush_accounted before visits drains

namespace FlowReporting

def startAt (startTime : Int) : FlowStatsMessage := .appFlowStart ⟨42, 1, 2, startTime⟩

def drainsNothing : FlowId → List Nat := fun _ => []

/-- A flush of a store with no other flow id and without route updates. -/
theorem flush_step {state : FlowReporting} (nowMs : Int)
    (only : ∀ flowId, flowId ≠ 42 → state.store.entries flowId = none)
    (unrouted : ∀ entry, state.store.entries 42 = some (.app entry) →
      entry.pending.routeUpdates = ∅) :
    flowReporting.step state (.flush nowMs [42] drainsNothing)
      (state.flush nowMs [42] drainsNothing) := by
  refine ⟨⟨List.nodup_singleton _, ?_⟩, ?_, rfl⟩
  · intro flowId present
    by_contra other
    exact present (only flowId fun same => other (List.mem_singleton.mpr same))
  · intro flowId entry found
    refine ⟨List.nodup_nil, ?_⟩
    by_cases same : flowId = 42
    · rw [same] at found
      rw [unrouted entry found]
      rfl
    · rw [only flowId same] at found
      cases found

/-- The flow that starts at 0, is flushed at 5, finishes at 10 and is flushed again. -/
def flushedTwice : FlowReporting :=
  (((start.handle (startAt 0)).flush 5 [42] drainsNothing).handle
    (.flowFinished ⟨42, 10, none⟩)).flush 1000 [42] drainsNothing

/-- The flow that starts at 0, finishes at 10 and starts again at 20 before the flush. -/
def reusedBeforeFlush : FlowReporting :=
  ((start.handle (startAt 0)).handle (.flowFinished ⟨42, 10, none⟩)).handle (startAt 20)

end FlowReporting

end Nextmini.Node
