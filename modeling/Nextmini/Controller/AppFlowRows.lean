import Mathlib.Data.Finset.Basic
import Mathlib.Data.Finset.Lattice.Lemmas
import Mathlib.Data.List.OfFn
import Nextmini.Library.NarrowCasts
import Nextmini.Node.FlowLedger

/-!
# Rows of application flows

What the controller makes of the flushes of a node: it inserts a row at a start that it does not know,
and updates the row of a flow id and a start time at a route assignment and at a finish. User-space
flows have a table of their own, and what is reported of them changes no row here.
-/

namespace Nextmini.Controller

open Nextmini.Library Nextmini.Routing Nextmini.Node

set_option autoImplicit false

structure AppFlowRow where
  srcNodeId : Int
  dstNodeId : Int
  isFinished : Bool
  finishTime : Option Int
  routeId : Option Int

/-- The rows by flow id and start time, which are unique together. -/
abbrev AppFlowTable := FlowId × Int → Option AppFlowRow

inductive FlowReport where
  | appFlowStart (appflows : List AppFlow)
  | userFlowStart (flows : List UserFlowStart)
  | routeAssigned (assignments : List RouteAssignment)
  | flowFinished (flows : List FlowFinishedInfo)

def flushMessages (output : FlushOutput) : List FlowReport :=
  (if output.appFlows = [] then [] else [.appFlowStart output.appFlows]) ++
    (if output.userStarts = [] then [] else [.userFlowStart output.userStarts]) ++
    (if output.assignments = [] then [] else [.routeAssigned output.assignments]) ++
    (if output.finishes = [] then [] else [.flowFinished output.finishes])

namespace AppFlowTable

def insertAppFlow (rows : AppFlowTable) (appflow : AppFlow) : AppFlowTable :=
  match rows (appflow.flowId, appflow.startTime) with
  | some _ => rows
  | none =>
      Function.update rows (appflow.flowId, appflow.startTime)
        (some ⟨asI32 appflow.srcNodeId, asI32 appflow.dstNodeId, false, none, none⟩)

def updateRow (rows : AppFlowTable) (key : FlowId × Int) (change : AppFlowRow → AppFlowRow) :
    AppFlowTable :=
  Function.update rows key ((rows key).map change)

def assignRoute (rows : AppFlowTable) (assignment : RouteAssignment) : AppFlowTable :=
  rows.updateRow (assignment.flowId, assignment.time) fun row =>
    { row with routeId := some (asI32 assignment.routeId) }

def finishFlow (rows : AppFlowTable) (finished : FlowFinishedInfo) : AppFlowTable :=
  match finished.controllerId with
  | some _ => rows
  | none =>
      rows.updateRow (finished.flowId, finished.startTime) fun row =>
        { row with isFinished := true, finishTime := some finished.finishTime }

def handleReport (rows : AppFlowTable) : FlowReport → AppFlowTable
  | .appFlowStart appflows => appflows.foldl insertAppFlow rows
  | .userFlowStart _ => rows
  | .routeAssigned assignments => assignments.foldl assignRoute rows
  | .flowFinished flows => flows.foldl finishFlow rows

def handleFlush (rows : AppFlowTable) (output : FlushOutput) : AppFlowTable :=
  (flushMessages output).foldl handleReport rows

def routeOf (rows : AppFlowTable) (key : FlowId × Int) : Option (Option Int) :=
  (rows key).map AppFlowRow.routeId

/-! ## What a flush leaves in a row -/

theorem handle_flush_phases (rows : AppFlowTable) (output : FlushOutput) :
    rows.handleFlush output = output.finishes.foldl finishFlow
      (output.assignments.foldl assignRoute (output.appFlows.foldl insertAppFlow rows)) := by
  have phase : ∀ {Item : Type} [DecidableEq Item] (items : List Item) (report : List Item → FlowReport)
      (earlier : AppFlowTable), earlier.handleReport (report []) = earlier →
        (if items = [] then [] else [report items]).foldl handleReport earlier =
          earlier.handleReport (report items) := by
    intro Item _ items report earlier unchanged
    split_ifs with empty
    · rw [empty, unchanged]
      rfl
    · rfl
  unfold handleFlush flushMessages
  rw [List.foldl_append, List.foldl_append, List.foldl_append]
  rw [phase output.appFlows .appFlowStart rows rfl]
  rw [phase output.userStarts .userFlowStart _ rfl]
  rw [phase output.assignments .routeAssigned _ rfl]
  rw [phase output.finishes .flowFinished _ rfl]
  rfl

theorem insert_route (rows : AppFlowTable) (appflows : List AppFlow) (key : FlowId × Int) :
    (appflows.foldl insertAppFlow rows).routeOf key =
      (rows.routeOf key).or
        (if ∃ appflow ∈ appflows, (appflow.flowId, appflow.startTime) = key then some none
        else none) := by
  induction appflows generalizing rows with
  | nil => simp
  | cons appflow rest induction =>
    rw [List.foldl_cons, induction]
    by_cases same : (appflow.flowId, appflow.startTime) = key
    · have placed : ((rows.insertAppFlow appflow).routeOf key) = (rows.routeOf key).or (some none) := by
        unfold insertAppFlow routeOf
        rw [same]
        cases present : rows key with
        | none => simp
        | some row => simp [present]
      have listed : ∃ other ∈ appflow :: rest, (other.flowId, other.startTime) = key :=
        ⟨appflow, List.mem_cons_self, same⟩
      rw [placed, if_pos listed, Option.or_assoc]
      rfl
    · have kept : (rows.insertAppFlow appflow).routeOf key = rows.routeOf key := by
        unfold insertAppFlow routeOf
        cases rows (appflow.flowId, appflow.startTime) with
        | some row => rfl
        | none => exact congrArg _ (Function.update_of_ne (Ne.symm same) _ _)
      simp [kept, same]

theorem assign_route (rows : AppFlowTable) (assignments : List RouteAssignment)
    (key : FlowId × Int) :
    (assignments.foldl assignRoute rows).routeOf key =
      (rows.routeOf key).map fun route =>
        (assignments.filter fun assignment => (assignment.flowId, assignment.time) = key).foldl
          (fun _ assignment => some (asI32 assignment.routeId)) route := by
  induction assignments generalizing rows with
  | nil => simp
  | cons assignment rest induction =>
    rw [List.foldl_cons, induction]
    by_cases same : (assignment.flowId, assignment.time) = key
    · have updated : (rows.assignRoute assignment).routeOf key =
          (rows.routeOf key).map fun _ => some (asI32 assignment.routeId) := by
        unfold assignRoute updateRow routeOf
        rw [same, Function.update_self, Option.map_map, Option.map_map]
        rfl
      simp only [updated, List.filter_cons, same, decide_true, if_true, Option.map_map,
        List.foldl_cons]
      rfl
    · have kept : (rows.assignRoute assignment).routeOf key = rows.routeOf key := by
        unfold assignRoute updateRow routeOf
        rw [Function.update_of_ne (Ne.symm same)]
      simp [kept, same]

theorem finish_route (rows : AppFlowTable) (finishes : List FlowFinishedInfo)
    (key : FlowId × Int) : (finishes.foldl finishFlow rows).routeOf key = rows.routeOf key := by
  induction finishes generalizing rows with
  | nil => rfl
  | cons finished rest induction =>
    rw [List.foldl_cons, induction]
    unfold finishFlow
    split
    · rfl
    · unfold updateRow routeOf
      by_cases same : key = (finished.flowId, finished.startTime)
      · rw [← same, Function.update_self, Option.map_map]
        rfl
      · rw [Function.update_of_ne same]

end AppFlowTable

/-! ## One application flow -/

structure AppFlowReporting where
  store : FlowStore
  rows : AppFlowTable

/-- What is said of an application flow once it has started: route assignments, and a finish. -/
def FollowsStart (flowId : FlowId) (message : FlowStatsMessage) : Prop :=
  message.flowId = flowId →
    (∃ route, message = .routeAssigned route) ∨ ∃ finished, message = .flowFinished finished

def appFlowReporting (start : AppFlowStart) : TransitionSystem AppFlowReporting FlowStatsEvent where
  initial state :=
    ∃ store : FlowStore, store.Keyed ∧
      (∀ entry, store.entries start.flowId = some entry → ¬entry.IsActiveApp) ∧
      state.store = store.handleAppFlowStart start ∧
      state.rows (start.flowId, start.startTime) = none
  step state event next :=
    match event with
    | .message message =>
        FollowsStart start.flowId message ∧ next = ⟨state.store.handleMessage message, state.rows⟩
    | .flush nowMs order drained =>
        state.store.Visits order ∧ state.store.Drains drained ∧
          next = ⟨(FlowStore.flush nowMs drained order .empty state.store).2,
            state.rows.handleFlush (FlowStore.flush nowMs drained order .empty state.store).1⟩

def RouteAgrees (start : AppFlowStart) (state : AppFlowReporting) : Prop :=
  ∀ entry, state.store.entries start.flowId = some (.app entry) →
    state.rows.routeOf (start.flowId, start.startTime) =
      some (entry.routeId.map fun routeId => (routeId : Int))

/-- Every route that waits for the flush is stored as the current route of the flow. -/
def OneRouteWaits (start : AppFlowStart) (state : AppFlowReporting) : Prop :=
  ∀ entry, state.store.entries start.flowId = some (.app entry) →
    ∀ routeId ∈ entry.pending.routeUpdates,
      entry.routeId.map (fun current => (current : Int)) = some (asI32 routeId)

def FlushesOneRoute (start : AppFlowStart) (state : AppFlowReporting) : FlowStatsEvent → Prop
  | .message _ => True
  | .flush _ _ _ => OneRouteWaits start state

/-! ## A flush and the row of one flow -/

section Flush

variable {store : FlowStore} {nowMs : Int} {order : List FlowId} {drained : FlowId → List Nat}
  {flowId : FlowId} {entry : AppFlowEntry}

theorem flushed_starts (keyed : store.Keyed) (visits : store.Visits order)
    (found : store.entries flowId = some (.app entry)) :
    (∃ appflow ∈ (FlowStore.flush nowMs drained order .empty store).1.appFlows,
      (appflow.flowId, appflow.startTime) = (flowId, entry.startTime)) ↔
        entry.pending.sendStart = true := by
  have listed : ∀ appflow, appflow ∈ (FlowStore.flush nowMs drained order .empty store).1.appFlows ↔
      ∃ visited ∈ order, (store.entries visited).bind FlowEntry.owedStart = some (.app appflow) := by
    intro appflow
    have starts : (FlowStore.flush nowMs drained order .empty store).1.starts.Perm
        (order.filterMap fun visited => (store.entries visited).bind FlowEntry.owedStart) :=
      FlowStore.flush_starts order visits.1 .empty store
    rw [← List.mem_filterMap, ← starts.mem_iff]
    simp [FlushOutput.starts]
  have own : entry.flowId = flowId := keyed _ _ found _ rfl
  constructor
  · rintro ⟨appflow, member, same⟩
    rcases (listed appflow).mp member with ⟨visited, _, owed⟩
    rcases Option.bind_eq_some_iff.mp owed with ⟨present, at_it, owed⟩
    cases present with
    | pending route => cases owed
    | user other =>
      simp only [FlowEntry.owedStart] at owed
      split_ifs at owed
      cases owed
    | app other =>
      simp only [FlowEntry.owedStart] at owed
      split_ifs at owed with send
      cases owed
      have theirs : other.flowId = visited := keyed _ _ at_it _ rfl
      have visitedIt : visited = flowId := theirs.symm.trans (Prod.mk.inj same).1
      rw [visitedIt, found] at at_it
      cases at_it
      exact send
  · intro send
    refine ⟨⟨entry.flowId, entry.srcNodeId, entry.dstNodeId, entry.startTime⟩, ?_, ?_⟩
    · refine (listed _).mpr ⟨flowId, visits.2 flowId ?_, ?_⟩
      · rw [found]
        exact Option.some_ne_none _
      · simp [found, FlowEntry.owedStart, send]
    · rw [own]

theorem flushed_assignments (keyed : store.Keyed) (visits : store.Visits order)
    (found : store.entries flowId = some (.app entry)) :
    (FlowStore.flush nowMs drained order .empty store).1.assignments.filter
        (fun assignment => (assignment.flowId, assignment.time) = (flowId, entry.startTime)) =
      (drained flowId).map fun routeId => ⟨flowId, routeId, entry.startTime⟩ := by
  have assignments : (FlowStore.flush nowMs drained order .empty store).1.assignments =
      order.flatMap (FlowStore.drainedOf drained store) :=
    FlowStore.flush_assignments order visits.1 .empty store
  have own : entry.flowId = flowId := keyed _ _ found _ rfl
  have mine : FlowStore.drainedOf drained store flowId =
      (drained flowId).map fun routeId => ⟨flowId, routeId, entry.startTime⟩ := by
    simp [FlowStore.drainedOf, found, FlowEntry.drainedAs, own]
  have foreign : ∀ other, other ≠ flowId → ∀ assignment ∈ FlowStore.drainedOf drained store other,
      (assignment.flowId, assignment.time) ≠ (flowId, entry.startTime) := by
    intro other different assignment member same
    unfold FlowStore.drainedOf at member
    cases at_it : store.entries other with
    | none =>
      rw [at_it] at member
      cases member
    | some present =>
      rw [at_it] at member
      cases present with
      | pending route => cases member
      | user _ => cases member
      | app present =>
        rcases List.mem_map.mp member with ⟨routeId, _, rfl⟩
        have theirs : present.flowId = other := keyed _ _ at_it _ rfl
        exact different (theirs.symm.trans (Prod.mk.inj same).1)
  have whole : ∀ places : List FlowId, places.Nodup →
      (places.flatMap (FlowStore.drainedOf drained store)).filter
          (fun assignment => (assignment.flowId, assignment.time) = (flowId, entry.startTime)) =
        if flowId ∈ places then FlowStore.drainedOf drained store flowId else [] := by
    intro places distinct
    induction places with
    | nil => rfl
    | cons place rest induction =>
      rcases List.nodup_cons.mp distinct with ⟨absent, distinct⟩
      rw [List.flatMap_cons, List.filter_append, induction distinct]
      by_cases same : flowId = place
      · have all : (FlowStore.drainedOf drained store place).filter
            (fun assignment => (assignment.flowId, assignment.time) = (flowId, entry.startTime)) =
            FlowStore.drainedOf drained store flowId := by
          rw [← same]
          apply List.filter_eq_self.mpr
          intro assignment member
          rw [mine] at member
          rcases List.mem_map.mp member with ⟨routeId, _, rfl⟩
          exact decide_eq_true rfl
        rw [all, if_neg (same ▸ absent), if_pos (same ▸ List.mem_cons_self), List.append_nil]
      · have none : (FlowStore.drainedOf drained store place).filter
            (fun assignment => (assignment.flowId, assignment.time) = (flowId, entry.startTime)) =
            [] := by
          apply List.filter_eq_nil_iff.mpr
          intro assignment member
          simpa using foreign place (Ne.symm same) assignment member
        rw [none, List.nil_append]
        simp [same]
  have visited : flowId ∈ order := by
    apply visits.2
    rw [found]
    exact Option.some_ne_none _
  rw [assignments, whole order visits.1, if_pos visited, mine]

/-- The row behind a flush: the row that was there or that the start inserts, with the routes of the
entry written into it in the order in which they were drained. -/
theorem flushed_route (rows : AppFlowTable) (keyed : store.Keyed) (visits : store.Visits order)
    (found : store.entries flowId = some (.app entry)) :
    (rows.handleFlush (FlowStore.flush nowMs drained order .empty store).1).routeOf
        (flowId, entry.startTime) =
      ((rows.routeOf (flowId, entry.startTime)).or
        (if entry.pending.sendStart then some none else none)).map fun route =>
          (drained flowId).foldl (fun _ routeId => some (asI32 routeId)) route := by
  rw [AppFlowTable.handle_flush_phases, AppFlowTable.finish_route, AppFlowTable.assign_route,
    AppFlowTable.insert_route, flushed_assignments keyed visits found]
  simp only [flushed_starts keyed visits found, List.foldl_map]

end Flush

/-! ## What holds between flushes -/

/-- Before its start is sent a flow has no row, and afterwards a row that only waits for the routes of
the entry. The current route of a flow is among those that wait, if any do. -/
structure RouteTracked (start : AppFlowStart) (state : AppFlowReporting) : Prop where
  keyed : state.store.Keyed
  time : ∀ entry, state.store.entries start.flowId = some (.app entry) →
    entry.startTime = start.startTime
  changed : ∀ entry, state.store.entries start.flowId = some (.app entry) →
    entry.pending.routeUpdates.Nonempty →
      ∃ current ∈ entry.pending.routeUpdates, entry.routeId = some current
  unsent : ∀ entry, state.store.entries start.flowId = some (.app entry) →
    entry.pending.sendStart = true →
      state.rows.routeOf (start.flowId, start.startTime) = none ∧
        (entry.pending.routeUpdates = ∅ → entry.routeId = none)
  sent : ∀ entry, state.store.entries start.flowId = some (.app entry) →
    entry.pending.sendStart = false →
      ∃ route, state.rows.routeOf (start.flowId, start.startTime) = some route ∧
        (entry.pending.routeUpdates = ∅ → route = entry.routeId.map fun routeId => (routeId : Int))

variable {start : AppFlowStart} {state next : AppFlowReporting}

theorem route_tracked_initial (initial : (appFlowReporting start).initial state) :
    RouteTracked start state := by
  rcases initial with ⟨store, keyed, inactive, started, absent⟩
  have entered : ∃ pendingRoute,
      state.store.entries start.flowId = some (.app (startedEntry start pendingRoute)) := by
    have inserted : ∀ pendingRoute,
        (store.insert start.flowId (.app (startedEntry start pendingRoute))).entries start.flowId =
          some (.app (startedEntry start pendingRoute)) := by
      intro pendingRoute
      rw [FlowStore.insert_entries, if_pos rfl]
    rw [started]
    simp only [FlowStore.handleAppFlowStart]
    split
    · rename_i entry found
      have idle : entry.stage ≠ .active := inactive _ found
      rw [if_neg idle]
      exact ⟨_, inserted _⟩
    · exact ⟨_, inserted _⟩
    · exact ⟨_, inserted _⟩
    · exact ⟨_, inserted _⟩
  rcases entered with ⟨pendingRoute, entered⟩
  have only : ∀ entry, state.store.entries start.flowId = some (.app entry) →
      entry = startedEntry start pendingRoute := by
    intro entry found
    rw [entered] at found
    cases found
    rfl
  constructor
  · rw [started]
    exact FlowStore.keyed_app_start keyed start
  · intro entry found
    rw [only entry found]
    rfl
  · intro entry found waiting
    rw [only entry found] at waiting ⊢
    cases pendingRoute with
    | none => exact absurd waiting Finset.not_nonempty_empty
    | some route => exact ⟨route, Finset.mem_singleton_self route, rfl⟩
  · intro entry found _
    rw [only entry found]
    refine ⟨by rw [AppFlowTable.routeOf, absent, Option.map_none], ?_⟩
    intro none
    cases pendingRoute with
    | none => rfl
    | some route => exact absurd none (Finset.singleton_ne_empty route)
  · intro entry found sent
    rw [only entry found] at sent
    cases sent

/-- An entry that is as before, so far as its start and its routes go. -/
def SameRoutes (earlier entry : AppFlowEntry) : Prop :=
  entry.startTime = earlier.startTime ∧ entry.routeId = earlier.routeId ∧
    entry.pending.routeUpdates = earlier.pending.routeUpdates ∧
    entry.pending.sendStart = earlier.pending.sendStart

/-- An entry that has taken in one more route. -/
def TakesRoute (earlier entry : AppFlowEntry) : Prop :=
  ∃ routeId, entry.startTime = earlier.startTime ∧ entry.routeId = some routeId ∧
    entry.pending.routeUpdates = insert routeId earlier.pending.routeUpdates ∧
    entry.pending.sendStart = earlier.pending.sendStart

theorem message_entry {message : FlowStatsMessage} {store : FlowStore} {entry : AppFlowEntry}
    (follows : FollowsStart start.flowId message)
    (found : (store.handleMessage message).entries start.flowId = some (.app entry)) :
    ∃ earlier, store.entries start.flowId = some (.app earlier) ∧
      (SameRoutes earlier entry ∨ TakesRoute earlier entry) := by
  by_cases own : message.flowId = start.flowId
  · rcases follows own with ⟨route, rfl⟩ | ⟨finished, rfl⟩
    · have same : route.flowId = start.flowId := own
      simp only [FlowStore.handleMessage, FlowStore.handleRouteAssigned, same] at found
      split at found
      · rename_i earlier present
        rw [FlowStore.insert_entries, if_pos rfl] at found
        cases found
        refine ⟨earlier, present, ?_⟩
        rcases earlier.route_assignment_cases route.routeId route.assignmentTime with
          ⟨unchanged, _⟩ | ⟨updated, _⟩
        · rw [unchanged]
          exact .inl ⟨rfl, rfl, rfl, rfl⟩
        · rw [updated]
          exact .inr ⟨route.routeId, rfl, rfl, rfl, rfl⟩
      · rw [FlowStore.insert_entries, if_pos rfl] at found
        cases found
      · rename_i present
        rw [present] at found
        cases found
      · rw [FlowStore.insert_entries, if_pos rfl] at found
        cases found
    · have same : finished.flowId = start.flowId := own
      simp only [FlowStore.handleMessage, FlowStore.handleFlowFinished, same] at found
      split at found
      · rename_i earlier present
        rw [FlowStore.insert_entries, if_pos rfl] at found
        cases found
        refine ⟨earlier, present, .inl ?_⟩
        unfold AppFlowEntry.markFinished
        split_ifs <;> exact ⟨rfl, rfl, rfl, rfl⟩
      · rename_i present
        split at found
        · rw [FlowStore.insert_entries, if_pos rfl] at found
          cases found
        · rw [present] at found
          cases found
      · split at found
        · rw [FlowStore.insert_entries, if_pos rfl] at found
          cases found
        · rw [FlowStore.remove_entries, if_pos rfl] at found
          cases found
      · rename_i absent
        split at found
        · rw [FlowStore.insert_entries, if_pos rfl] at found
          cases found
        · rw [absent] at found
          cases found
  · rw [store.handle_message_others (Ne.symm own)] at found
    exact ⟨entry, found, .inl ⟨rfl, rfl, rfl, rfl⟩⟩

theorem route_tracked_message {message : FlowStatsMessage} (before : RouteTracked start state)
    (follows : FollowsStart start.flowId message) :
    RouteTracked start ⟨state.store.handleMessage message, state.rows⟩ := by
  constructor
  · exact FlowStore.keyed_message before.keyed message
  · intro entry found
    rcases message_entry follows found with ⟨earlier, present, same | taken⟩
    · exact same.1.trans (before.time earlier present)
    · rcases taken with ⟨routeId, time, _⟩
      exact time.trans (before.time earlier present)
  · intro entry found waiting
    rcases message_entry follows found with ⟨earlier, present, same | taken⟩
    · rcases same with ⟨_, route, updates, _⟩
      rw [updates] at waiting ⊢
      rw [route]
      exact before.changed earlier present waiting
    · rcases taken with ⟨routeId, _, route, updates, _⟩
      rw [updates, route]
      exact ⟨routeId, Finset.mem_insert_self _ _, rfl⟩
  · intro entry found unsent
    rcases message_entry follows found with ⟨earlier, present, same | taken⟩
    · rcases same with ⟨_, route, updates, send⟩
      rw [send] at unsent
      rw [route, updates]
      exact before.unsent earlier present unsent
    · rcases taken with ⟨routeId, _, _, updates, send⟩
      rw [send] at unsent
      refine ⟨(before.unsent earlier present unsent).1, ?_⟩
      intro none
      rw [updates] at none
      exact absurd none (Finset.insert_ne_empty _ _)
  · intro entry found sent
    rcases message_entry follows found with ⟨earlier, present, same | taken⟩
    · rcases same with ⟨_, route, updates, send⟩
      rw [send] at sent
      rw [route, updates]
      exact before.sent earlier present sent
    · rcases taken with ⟨routeId, _, _, updates, send⟩
      rw [send] at sent
      rcases before.sent earlier present sent with ⟨row, stored, _⟩
      refine ⟨row, stored, ?_⟩
      intro none
      rw [updates] at none
      exact absurd none (Finset.insert_ne_empty _ _)

/-! ## Every flush -/

theorem fold_assigned (drained : List Nat) (route : Option Int) :
    drained.foldl (fun _ routeId => some (asI32 routeId)) route =
      (drained.getLast?.map asI32).or route := by
  induction drained generalizing route with
  | nil => rfl
  | cons routeId rest induction =>
    rw [List.foldl_cons, induction, List.getLast?_cons]
    cases rest.getLast? <;> rfl

theorem kept_entry {store : FlowStore} {nowMs : Int} {order : List FlowId}
    {drained : FlowId → List Nat} {flowId : FlowId} {entry : AppFlowEntry}
    (visits : store.Visits order)
    (found : (FlowStore.flush nowMs drained order .empty store).2.entries flowId =
      some (.app entry)) :
    ∃ earlier, store.entries flowId = some (.app earlier) ∧
      entry = { earlier with pending := ⟨false, ∅, false⟩ } := by
  rw [FlowStore.flush_visits visits] at found
  rcases Option.bind_eq_some_iff.mp found with ⟨earlier, present, kept⟩
  cases earlier with
  | pending route => cases kept
  | user earlier =>
    rw [FlowEntry.kept_user] at kept
    split_ifs at kept
    cases kept
  | app earlier =>
    rcases FlowEntry.kept_app nowMs earlier with sent | ⟨_, gone⟩
    · rw [sent] at kept
      cases kept
      exact ⟨earlier, present, rfl⟩
    · rw [gone] at kept
      cases kept

theorem tracked_row {nowMs : Int} {order : List FlowId} {drained : FlowId → List Nat}
    {entry : AppFlowEntry} (before : RouteTracked start state) (visits : state.store.Visits order)
    (found : state.store.entries start.flowId = some (.app entry)) :
    ∃ stored, (state.rows.handleFlush
        (FlowStore.flush nowMs drained order .empty state.store).1).routeOf
          (start.flowId, start.startTime) =
        some (((drained start.flowId).getLast?.map asI32).or stored) ∧
      (entry.pending.routeUpdates = ∅ → stored = entry.routeId.map fun routeId => (routeId : Int)) := by
  have row : (state.rows.handleFlush
      (FlowStore.flush nowMs drained order .empty state.store).1).routeOf
        (start.flowId, entry.startTime) = _ := flushed_route state.rows before.keyed visits found
  rw [before.time entry found] at row
  rw [row]
  cases send : entry.pending.sendStart with
  | true =>
    rcases before.unsent entry found send with ⟨absent, unrouted⟩
    refine ⟨none, ?_, ?_⟩
    · rw [absent]
      simp [fold_assigned]
    · intro none
      rw [unrouted none]
      rfl
  | false =>
    rcases before.sent entry found send with ⟨stored, present, current⟩
    refine ⟨stored, ?_, current⟩
    rw [present]
    simp [fold_assigned]

theorem one_route_agrees {nowMs : Int} {order : List FlowId} {drained : FlowId → List Nat}
    (before : RouteTracked start state) (one : OneRouteWaits start state)
    (visits : state.store.Visits order) (drains : state.store.Drains drained) :
    RouteAgrees start ⟨(FlowStore.flush nowMs drained order .empty state.store).2,
      state.rows.handleFlush (FlowStore.flush nowMs drained order .empty state.store).1⟩ := by
  intro entry found
  rcases kept_entry visits found with ⟨earlier, present, rfl⟩
  rcases tracked_row before visits present with ⟨stored, row, current⟩
  rw [row]
  have listed := (drains _ _ present).2
  cases last : (drained start.flowId).getLast? with
  | none =>
    have none : earlier.pending.routeUpdates = ∅ := by
      rw [← listed, List.getLast?_eq_none_iff.mp last]
      rfl
    rw [current none]
    rfl
  | some routeId =>
    have waits : routeId ∈ earlier.pending.routeUpdates := by
      rw [← listed, List.mem_toFinset]
      exact List.mem_of_getLast? last
    simp only [one earlier present routeId waits]
    rfl

theorem route_tracked_flush {nowMs : Int} {order : List FlowId} {drained : FlowId → List Nat}
    (before : RouteTracked start state) (one : OneRouteWaits start state)
    (visits : state.store.Visits order) (drains : state.store.Drains drained) :
    RouteTracked start ⟨(FlowStore.flush nowMs drained order .empty state.store).2,
      state.rows.handleFlush (FlowStore.flush nowMs drained order .empty state.store).1⟩ := by
  have agrees : RouteAgrees start ⟨(FlowStore.flush nowMs drained order .empty state.store).2,
      state.rows.handleFlush (FlowStore.flush nowMs drained order .empty state.store).1⟩ :=
    one_route_agrees before one visits drains
  constructor
  · exact FlowStore.keyed_flush before.keyed visits
  · intro entry found
    rcases kept_entry visits found with ⟨earlier, present, rfl⟩
    exact before.time earlier present
  · intro entry found waiting
    rcases kept_entry visits found with ⟨earlier, _, rfl⟩
    exact absurd waiting Finset.not_nonempty_empty
  · intro entry found unsent
    rcases kept_entry visits found with ⟨earlier, _, rfl⟩
    cases unsent
  · intro entry found _
    exact ⟨_, agrees entry found, fun _ => rfl⟩

theorem route_tracked_run {first : AppFlowReporting} {labels : List FlowStatsEvent}
    (initial : (appFlowReporting start).initial first)
    (run : ((appFlowReporting start).restrict (FlushesOneRoute start)).Run first labels state) :
    RouteTracked start state := by
  apply TransitionSystem.run_preserves (motive := RouteTracked start) _ run
    (route_tracked_initial initial)
  rintro before event next tracked ⟨one, step⟩
  cases event with
  | message message =>
    rcases step with ⟨follows, rfl⟩
    exact route_tracked_message tracked follows
  | flush nowMs order drained =>
    rcases step with ⟨visits, drains, rfl⟩
    exact route_tracked_flush tracked one visits drains

theorem every_flow_id_listed : ∃ order : List FlowId, order.Nodup ∧ ∀ flowId, flowId ∈ order := by
  refine ⟨(List.finRange (2 ^ 128)).map BitVec.ofFin, ?_, ?_⟩
  · apply (List.nodup_finRange _).map
    intro first second same
    exact BitVec.ofFin.inj same
  · intro flowId
    exact List.mem_map.mpr ⟨flowId.toFin, List.mem_finRange _, rfl⟩

/-- The time at which a flow finished is too early to drop its entry. -/
theorem kept_when_finished (entry : AppFlowEntry) :
    (FlowEntry.app entry).kept (entry.finishTime.getD 0) =
      some (.app { entry with pending := ⟨false, ∅, false⟩ }) := by
  simp only [FlowEntry.kept, FlowEntry.visit]
  split
  · rename_i finishTime _ finished
    have fresh : ¬entry.finishTime.getD 0 - finishTime > ttlMs := by
      rw [finished, Option.getD_some, Int.sub_self]
      decide
    rw [if_neg fresh]
  · rfl

/-- The routes that wait for each flow, the given route at the end. -/
noncomputable def drainedLast (store : FlowStore) (routeId : Nat) (flowId : FlowId) : List Nat :=
  match store.entries flowId with
  | some (.app entry) =>
      if routeId ∈ entry.pending.routeUpdates then
        (entry.pending.routeUpdates.erase routeId).toList ++ [routeId]
      else entry.pending.routeUpdates.toList
  | _ => []

theorem drained_last_waiting {store : FlowStore} {entry : AppFlowEntry} {routeId : Nat}
    {flowId : FlowId} (found : store.entries flowId = some (.app entry))
    (waits : routeId ∈ entry.pending.routeUpdates) :
    drainedLast store routeId flowId =
      (entry.pending.routeUpdates.erase routeId).toList ++ [routeId] := by
  simp only [drainedLast, found, if_pos waits]

theorem drains_last (store : FlowStore) (routeId : Nat) :
    store.Drains (drainedLast store routeId) := by
  intro flowId entry found
  by_cases waits : routeId ∈ entry.pending.routeUpdates
  · rw [drained_last_waiting found waits]
    constructor
    · rw [List.nodup_append]
      refine ⟨Finset.nodup_toList _, List.nodup_singleton _, ?_⟩
      rintro earlier member _ at_end rfl
      rw [List.mem_singleton.mp at_end, Finset.mem_toList] at member
      exact Finset.notMem_erase routeId _ member
    · rw [List.toFinset_append, Finset.toList_toFinset, List.toFinset_cons, List.toFinset_nil,
        Finset.union_insert, Finset.union_empty, Finset.insert_erase waits]
  · have drawn : drainedLast store routeId flowId = entry.pending.routeUpdates.toList := by
      simp only [drainedLast, found, if_neg waits]
    rw [drawn]
    exact ⟨Finset.nodup_toList _, Finset.toList_toFinset _⟩

/-- Where each earlier flush found one route at most, the next flush brings the row to the current
route in every order of draining exactly when it finds one route at most. -/
theorem flush_agrees_iff {first : AppFlowReporting} {labels : List FlowStatsEvent}
    (initial : (appFlowReporting start).initial first)
    (run : ((appFlowReporting start).restrict (FlushesOneRoute start)).Run first labels state) :
    (∀ nowMs order drained next,
      (appFlowReporting start).step state (.flush nowMs order drained) next →
        RouteAgrees start next) ↔ OneRouteWaits start state := by
  have tracked := route_tracked_run initial run
  constructor
  · intro agrees entry found routeId waits
    rcases every_flow_id_listed with ⟨order, distinct, every⟩
    have visits : state.store.Visits order := ⟨distinct, fun flowId _ => every flowId⟩
    have agreed := agrees (entry.finishTime.getD 0) order (drainedLast state.store routeId) _
      ⟨visits, drains_last state.store routeId, rfl⟩
    have kept : (FlowStore.flush (entry.finishTime.getD 0) (drainedLast state.store routeId) order
        .empty state.store).2.entries start.flowId =
          some (.app { entry with pending := ⟨false, ∅, false⟩ }) := by
      rw [FlowStore.flush_visits visits, found]
      exact kept_when_finished entry
    have current := agreed _ kept
    rcases tracked_row tracked visits found with ⟨stored, row, _⟩
    rw [row, drained_last_waiting found waits, List.getLast?_concat] at current
    exact (Option.some.inj current).symm
  · rintro one nowMs order drained _ ⟨visits, drains, rfl⟩
    exact one_route_agrees tracked one visits drains

/-! ## Routes that change between flushes -/

def oneFlow : AppFlowStart := ⟨42, 1, 2, 0⟩

def oneFlowStarted : AppFlowReporting := ⟨FlowStore.empty.handleAppFlowStart oneFlow, fun _ => none⟩

def assigned (state : AppFlowReporting) (routeId : Nat) : AppFlowReporting :=
  ⟨state.store.handleMessage (.routeAssigned ⟨42, 0, routeId⟩), state.rows⟩

theorem one_flow_started_initial : (appFlowReporting oneFlow).initial oneFlowStarted := by
  refine ⟨.empty, ?_, ?_, rfl, rfl⟩
  · intro flowId entry found
    cases found
  · intro entry found
    cases found

theorem assigned_step (state : AppFlowReporting) (routeId : Nat) :
    (appFlowReporting oneFlow).step state (.message (.routeAssigned ⟨42, 0, routeId⟩))
      (assigned state routeId) := by
  refine ⟨?_, rfl⟩
  intro _
  exact .inl ⟨_, rfl⟩

theorem started_others {flowId : FlowId} (other : flowId ≠ 42) :
    oneFlowStarted.store.entries flowId = none :=
  @FlowStore.handle_message_others .empty (.appFlowStart oneFlow) _ other

theorem assigned_others {state : AppFlowReporting} {flowId : FlowId} {routeId : Nat}
    (other : flowId ≠ 42) :
    (assigned state routeId).store.entries flowId = state.store.entries flowId :=
  @FlowStore.handle_message_others state.store (.routeAssigned ⟨42, 0, routeId⟩) _ other

theorem sole_flow_visits {store : FlowStore}
    (others : ∀ flowId, flowId ≠ 42 → store.entries flowId = none) : store.Visits [42] := by
  refine ⟨List.nodup_singleton _, ?_⟩
  intro flowId present
  by_contra other
  exact present (others flowId fun same => other (List.mem_singleton.mpr same))

theorem sole_flow_drains {store : FlowStore} {entry : AppFlowEntry} {drained : FlowId → List Nat}
    (others : ∀ flowId, flowId ≠ 42 → store.entries flowId = none)
    (sole : store.entries 42 = some (.app entry)) (distinct : (drained 42).Nodup)
    (all : (drained 42).toFinset = entry.pending.routeUpdates) : store.Drains drained := by
  intro flowId other found
  by_cases same : flowId = 42
  · subst same
    rw [sole] at found
    cases found
    exact ⟨distinct, all⟩
  · rw [others flowId same] at found
    cases found

/-- One assignment before the flush reaches the row. -/
theorem one_assignment_agrees : ∃ next,
    (appFlowReporting oneFlow).step (assigned oneFlowStarted 5)
        (.flush 1000 [42] fun flowId => if flowId = 42 then [5] else []) next ∧
      RouteAgrees oneFlow next := by
  have run : ((appFlowReporting oneFlow).restrict (FlushesOneRoute oneFlow)).Run oneFlowStarted
      [.message (.routeAssigned ⟨42, 0, 5⟩)] (assigned oneFlowStarted 5) :=
    .single ⟨trivial, assigned_step oneFlowStarted 5⟩
  have one : OneRouteWaits oneFlow (assigned oneFlowStarted 5) := by
    intro entry found routeId waits
    cases found
    have only : routeId ∈ ({5} : Finset Nat) := waits
    rw [Finset.mem_singleton.mp only]
    rfl
  have others : ∀ flowId, flowId ≠ 42 → (assigned oneFlowStarted 5).store.entries flowId = none :=
    fun _ other => (assigned_others other).trans (started_others other)
  have flushed : (appFlowReporting oneFlow).step (assigned oneFlowStarted 5)
      (.flush 1000 [42] fun flowId => if flowId = 42 then [5] else []) _ :=
    ⟨sole_flow_visits others, sole_flow_drains others rfl (by decide) (by decide), rfl⟩
  exact ⟨_, flushed, (flush_agrees_iff one_flow_started_initial run).mpr one _ _ _ _ flushed⟩

def laterFirst : FlowId → List Nat := fun flowId => if flowId = 42 then [6, 5] else []

/-- Two assignments before one flush, drained the other way round: the row ends with the first. -/
theorem two_assignments_disagree : ∃ labels next,
    (appFlowReporting oneFlow).Run oneFlowStarted (labels ++ [.flush 1000 [42] laterFirst]) next ∧
      next.rows.routeOf (42, 0) = some (some 5) ∧ ¬RouteAgrees oneFlow next := by
  have others : ∀ flowId, flowId ≠ 42 →
      (assigned (assigned oneFlowStarted 5) 6).store.entries flowId = none :=
    fun _ other => (assigned_others other).trans ((assigned_others other).trans (started_others other))
  have flushed : (appFlowReporting oneFlow).step (assigned (assigned oneFlowStarted 5) 6)
      (.flush 1000 [42] laterFirst) _ :=
    ⟨sole_flow_visits others, sole_flow_drains others rfl (by decide) (by decide), rfl⟩
  refine ⟨[.message (.routeAssigned ⟨42, 0, 5⟩), .message (.routeAssigned ⟨42, 0, 6⟩)], _,
    .cons (assigned_step oneFlowStarted 5) (.cons (assigned_step _ 6) (.single flushed)), ?_, ?_⟩
  · decide
  · intro agrees
    have current := agrees _ rfl
    exact absurd current (by decide)

end Nextmini.Controller
