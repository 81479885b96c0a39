import Nextmini.Library.TransitionSystem
import Nextmini.Node.FlowStats

/-!
# The ledger of flows

Beside the store stands a ledger of what it has been told: which incarnation of a flow id is running
or has finished, and which starts and finishes were accepted. A start of a flow that runs already is
a duplicate, as is a finish of an incarnation that has finished; a finish before the start of a
running application flow is late. After every flush the reports should be those of the ledger.
-/

namespace Nextmini.Node

open Nextmini.Library Nextmini.Routing

set_option autoImplicit false

/-! ## The ledger -/

inductive Life where
  | running (start : StartReport)
  | finished

/-- A finish with the report of the start that it belongs to; none for a user-space flow whose start
was never recorded. -/
structure AcceptedFinish where
  info : FlowFinishedInfo
  started : Option StartReport
  deriving DecidableEq

structure Ledger where
  current : FlowId → Option Life
  starts : List StartReport
  finishes : List AcceptedFinish
  routes : List (FlowId × Nat)

namespace Ledger

def empty : Ledger := ⟨fun _ => none, [], [], []⟩

def startLife (ledger : Ledger) (start : StartReport) : Ledger :=
  { ledger with
    current := Function.update ledger.current start.flowId (some (.running start))
    starts := ledger.starts ++ [start] }

def finishLife (ledger : Ledger) (finish : AcceptedFinish) : Ledger :=
  { ledger with
    current := Function.update ledger.current finish.info.flowId (some .finished)
    finishes := ledger.finishes ++ [finish] }

def recordAppFlowStart (ledger : Ledger) (start : AppFlowStart) : Ledger :=
  match ledger.current start.flowId with
  | some (.running (.app _)) => ledger
  | _ =>
      ledger.startLife
        (.app ⟨start.flowId, start.srcNodeId, start.dstNodeId, start.startTime⟩)

def recordFlowFinished (ledger : Ledger) (finished : FlowFinished) : Ledger :=
  let info (startTime : Int) : FlowFinishedInfo :=
    ⟨finished.flowId, finished.controllerId, startTime, finished.finishTime⟩
  match ledger.current finished.flowId with
  | some .finished => ledger
  | some (.running (.app flow)) =>
      if finished.finishTime < flow.startTime then ledger
      else ledger.finishLife ⟨info flow.startTime, some (.app flow)⟩
  | some (.running (.user flowId startTime)) =>
      if finished.controllerId = none then ledger
      else ledger.finishLife ⟨info startTime, some (.user flowId startTime)⟩
  | none =>
      if finished.controllerId = none then ledger
      else ledger.finishLife ⟨info finished.finishTime, none⟩

/-- Whether the store ignores a route assignment is for its entry to say. -/
def recordRouteAssigned (ledger : Ledger) (entry : Option FlowEntry) (route : RouteAssigned) :
    Ledger :=
  let accepted := { ledger with routes := ledger.routes ++ [(route.flowId, route.routeId)] }
  match entry with
  | some (.app entry) =>
      match (entry.applyRouteAssignment route.routeId route.assignmentTime).2 with
      | .ignoredLate | .unchanged => ledger
      | .appliedActive | .appliedFinished => accepted
  | some (.user _) => ledger
  | some (.pending _) | none => accepted

def record (ledger : Ledger) (store : FlowStore) : FlowStatsMessage → Ledger
  | .appFlowStart start => ledger.recordAppFlowStart start
  | .userFlowStart start => ledger.startLife (.user start.flowId start.startTime)
  | .routeAssigned route => ledger.recordRouteAssigned (store.entries route.flowId) route
  | .flowFinished finished => ledger.recordFlowFinished finished

end Ledger

/-! ## Runs -/

def FlushOutput.append (first second : FlushOutput) : FlushOutput where
  appFlows := first.appFlows ++ second.appFlows
  assignments := first.assignments ++ second.assignments
  finishes := first.finishes ++ second.finishes
  userStarts := first.userStarts ++ second.userStarts

/-- The store, all reports so far, and the ledger. -/
structure FlowReporting where
  store : FlowStore
  reports : FlushOutput
  ledger : Ledger

inductive FlowStatsEvent where
  | message (message : FlowStatsMessage)
  | flush (nowMs : Int) (order : List FlowId) (drained : FlowId → List Nat)

namespace FlowReporting

def start : FlowReporting := ⟨.empty, .empty, .empty⟩

def handle (state : FlowReporting) (message : FlowStatsMessage) : FlowReporting where
  store := state.store.handleMessage message
  reports := state.reports
  ledger := state.ledger.record state.store message

def flush (state : FlowReporting) (nowMs : Int) (order : List FlowId)
    (drained : FlowId → List Nat) : FlowReporting :=
  let (output, store) := FlowStore.flush nowMs drained order .empty state.store
  ⟨store, state.reports.append output, state.ledger⟩

end FlowReporting

def flowReporting : TransitionSystem FlowReporting FlowStatsEvent where
  initial state := state = .start
  step state event next :=
    match event with
    | .message message => next = state.handle message
    | .flush nowMs order drained =>
        state.store.Visits order ∧ state.store.Drains drained ∧
          next = state.flush nowMs order drained

/-- Every accepted start and every accepted finish has been reported once, the finish with the start
time of its incarnation and not before its start; and no route is reported that was not assigned. -/
structure ReportedOnce (state : FlowReporting) : Prop where
  starts : state.reports.starts.Perm state.ledger.starts
  finishes : state.reports.finishes.Perm (state.ledger.finishes.map AcceptedFinish.info)
  ordered : ∀ finish ∈ state.ledger.finishes, ∀ start, finish.started = some start →
    start ∈ state.reports.starts ∧ finish.info.flowId = start.flowId ∧
      finish.info.startTime = start.startTime
  routes : ∀ assignment ∈ state.reports.assignments,
    (assignment.flowId, assignment.routeId) ∈ state.ledger.routes

/-- Nothing of the entry waits for the next flush but route updates. -/
def FlowEntry.Reported (entry : FlowEntry) : Prop :=
  entry.owedStart = none ∧ entry.owedFinish = none

def FlowEntry.IsActiveApp : FlowEntry → Prop
  | .app entry => entry.stage = .active
  | _ => False

def FlowEntry.IsApp : FlowEntry → Prop
  | .app _ => True
  | _ => False

/-- The finish that waits in the entry is the one at hand. -/
def FlowEntry.Repeats (controllerId finishTime : Int) : FlowEntry → Prop
  | .user entry =>
      entry.pendingFinish = some ⟨entry.flowId, some controllerId, entry.startTime, finishTime⟩
  | _ => False

/-- A flow id is taken for a new incarnation only when the reports of the last one have been sent;
and a finish with a controller id comes once for an incarnation, unless the entry of an application
flow is still there to ignore it, or it repeats the finish that waits for the next flush. -/
def FlowReporting.Timely (state : FlowReporting) : FlowStatsEvent → Prop
  | .message (.appFlowStart start) =>
      ∀ entry, state.store.entries start.flowId = some entry → entry.IsActiveApp ∨ entry.Reported
  | .message (.userFlowStart start) =>
      ∀ entry, state.store.entries start.flowId = some entry → entry.Reported
  | .message (.flowFinished finished) =>
      ∀ controllerId, finished.controllerId = some controllerId →
        state.ledger.current finished.flowId = some .finished →
          ∃ entry, state.store.entries finished.flowId = some entry ∧
            (entry.IsApp ∨ entry.Repeats controllerId finished.finishTime)
  | .message (.routeAssigned _) => True
  | .flush _ _ _ => True

/-! ## What holds between flushes -/

/-- How the last incarnation of a flow id shows in its entry. -/
inductive Tracks (flowId : FlowId) : Option Life → Option FlowEntry → Prop
  | unknown : Tracks flowId none none
  | assigned (route : PendingRoute) : Tracks flowId none (some (.pending route))
  | gone : Tracks flowId (some .finished) none
  | reassigned (route : PendingRoute) : Tracks flowId (some .finished) (some (.pending route))
  | appRunning (entry : AppFlowEntry) (own : entry.flowId = flowId) (active : entry.stage = .active)
      (unsent : entry.pending.sendFinish = false) :
      Tracks flowId
        (some (.running (.app ⟨flowId, entry.srcNodeId, entry.dstNodeId, entry.startTime⟩)))
        (some (.app entry))
  | appFinished (entry : AppFlowEntry) (own : entry.flowId = flowId)
      (finished : entry.stage = .finished) : Tracks flowId (some .finished) (some (.app entry))
  | userRunning (entry : UserFlowEntry) (own : entry.flowId = flowId)
      (active : entry.stage = .active) (unsent : entry.pendingFinish = none) :
      Tracks flowId (some (.running (.user flowId entry.startTime))) (some (.user entry))
  | userFinished (entry : UserFlowEntry) (own : entry.flowId = flowId)
      (finished : entry.stage = .finished)
      (waiting : ∀ info, entry.pendingFinish = some info →
        ∃ finishTime, info = entry.finishedInfo finishTime) :
      Tracks flowId (some .finished) (some (.user entry))

namespace FlowStore

def owedStart (store : FlowStore) (flowId : FlowId) : Option StartReport :=
  (store.entries flowId).bind FlowEntry.owedStart

def owedFinish (store : FlowStore) (flowId : FlowId) : Option FlowFinishedInfo :=
  (store.entries flowId).bind FlowEntry.owedFinish

end FlowStore

/-- The routes that an entry may still report. -/
def FlowEntry.routes : FlowEntry → Set Nat
  | .pending route => fun routeId => route.routeId = some routeId
  | .app entry => fun routeId => routeId ∈ entry.pending.routeUpdates
  | .user _ => ∅

/-- An accepted start is either reported or owed by the entry of its flow id, and so is a finish. -/
structure Accounted (state : FlowReporting) : Prop where
  tracks : ∀ flowId, Tracks flowId (state.ledger.current flowId) (state.store.entries flowId)
  starts : ∀ start, state.ledger.starts.count start =
    (state.reports.starts ++ (state.store.owedStart start.flowId).toList).count start
  finishes : ∀ info, (state.ledger.finishes.map AcceptedFinish.info).count info =
    (state.reports.finishes ++ (state.store.owedFinish info.flowId).toList).count info
  running : ∀ flowId start, state.ledger.current flowId = some (.running start) →
    start ∈ state.ledger.starts
  linked : ∀ finish ∈ state.ledger.finishes, ∀ start, finish.started = some start →
    start ∈ state.ledger.starts ∧ finish.info.flowId = start.flowId ∧
      finish.info.startTime = start.startTime
  waiting : ∀ flowId entry, state.store.entries flowId = some entry →
    ∀ routeId ∈ entry.routes, (flowId, routeId) ∈ state.ledger.routes
  assigned : ∀ assignment ∈ state.reports.assignments,
    (assignment.flowId, assignment.routeId) ∈ state.ledger.routes

theorem accounted_start : Accounted FlowReporting.start where
  tracks flowId := .unknown
  starts start := rfl
  finishes info := rfl
  running flowId start running := by cases running
  linked finish member := by cases member
  waiting flowId entry found := by cases found
  assigned assignment member := by cases member

/-- A message changes the entry and the life of one flow id, and what the ledger takes in is what the
entry owes more than before. -/
structure FlowChange (flowId : FlowId) (state next : FlowReporting)
    (newStarts : List StartReport) (newFinishes : List AcceptedFinish) : Prop where
  reports : next.reports = state.reports
  entries : ∀ other, other ≠ flowId → next.store.entries other = state.store.entries other
  current : ∀ other, other ≠ flowId → next.ledger.current other = state.ledger.current other
  starts : next.ledger.starts = state.ledger.starts ++ newStarts
  finishes : next.ledger.finishes = state.ledger.finishes ++ newFinishes
  routes : state.ledger.routes ⊆ next.ledger.routes
  tracks : Tracks flowId (next.ledger.current flowId) (next.store.entries flowId)
  owedStarts : (next.store.owedStart flowId).toList =
    (state.store.owedStart flowId).toList ++ newStarts
  owedFinishes : (next.store.owedFinish flowId).toList =
    (state.store.owedFinish flowId).toList ++ newFinishes.map AcceptedFinish.info
  ownStarts : ∀ start ∈ newStarts, start.flowId = flowId
  ownFinishes : ∀ finish ∈ newFinishes, finish.info.flowId = flowId
  running : ∀ start, next.ledger.current flowId = some (.running start) →
    start ∈ next.ledger.starts
  linked : ∀ finish ∈ newFinishes, ∀ start, finish.started = some start →
    start ∈ next.ledger.starts ∧ finish.info.flowId = start.flowId ∧
      finish.info.startTime = start.startTime
  waiting : ∀ entry, next.store.entries flowId = some entry →
    ∀ routeId ∈ entry.routes, (flowId, routeId) ∈ next.ledger.routes

theorem FlowChange.accounted {flowId : FlowId} {state next : FlowReporting}
    {newStarts : List StartReport} {newFinishes : List AcceptedFinish}
    (change : FlowChange flowId state next newStarts newFinishes) (before : Accounted state) :
    Accounted next where
  tracks other := by
    by_cases same : other = flowId
    · rw [same]
      exact change.tracks
    · rw [change.current other same, change.entries other same]
      exact before.tracks other
  starts start := by
    rw [change.reports, change.starts, List.count_append, before.starts start]
    by_cases same : start.flowId = flowId
    · simp only [same, change.owedStarts, List.count_append]
      omega
    · have foreign : newStarts.count start = 0 :=
        List.count_eq_zero.mpr fun member => same (change.ownStarts start member)
      simp only [FlowStore.owedStart, change.entries _ same, foreign, Nat.add_zero]
  finishes info := by
    rw [change.reports, change.finishes, List.map_append, List.count_append, before.finishes info]
    by_cases same : info.flowId = flowId
    · simp only [same, change.owedFinishes, List.count_append]
      omega
    · have foreign : (newFinishes.map AcceptedFinish.info).count info = 0 := by
        apply List.count_eq_zero.mpr
        intro member
        rcases List.mem_map.mp member with ⟨finish, listed, rfl⟩
        exact same (change.ownFinishes finish listed)
      simp only [FlowStore.owedFinish, change.entries _ same, foreign, Nat.add_zero]
  running other start running := by
    by_cases same : other = flowId
    · rw [same] at running
      exact change.running start running
    · rw [change.current other same] at running
      rw [change.starts]
      exact List.mem_append_left _ (before.running other start running)
  linked finish member start started := by
    rw [change.finishes] at member
    rcases List.mem_append.mp member with member | member
    · rcases before.linked finish member start started with ⟨listed, own, time⟩
      rw [change.starts]
      exact ⟨List.mem_append_left _ listed, own, time⟩
    · exact change.linked finish member start started
  waiting other entry found := by
    by_cases same : other = flowId
    · rw [same] at found ⊢
      exact change.waiting entry found
    · rw [change.entries other same] at found
      intro routeId member
      exact change.routes (before.waiting other entry found routeId member)
  assigned assignment member := by
    rw [change.reports] at member
    exact change.routes (before.assigned assignment member)

/-! ## Messages -/

theorem owed_of_reported {store : FlowStore} {flowId : FlowId}
    (reported : ∀ entry, store.entries flowId = some entry → entry.Reported) :
    store.owedStart flowId = none ∧ store.owedFinish flowId = none := by
  unfold FlowStore.owedStart FlowStore.owedFinish
  cases found : store.entries flowId with
  | none => exact ⟨rfl, rfl⟩
  | some entry => exact reported entry found

/-- A new incarnation in the place of one whose reports have been sent. -/
theorem start_life_change {state : FlowReporting} (next : FlowReporting) {entry : FlowEntry}
    (start : StartReport)
    (reported : ∀ entry, state.store.entries start.flowId = some entry → entry.Reported)
    (store : next.store = state.store.insert start.flowId entry)
    (reports : next.reports = state.reports) (ledger : next.ledger = state.ledger.startLife start)
    (tracks : Tracks start.flowId (some (.running start)) (some entry))
    (owed : entry.owedStart = some start) (unfinished : entry.owedFinish = none)
    (waiting : ∀ routeId ∈ entry.routes, (start.flowId, routeId) ∈ state.ledger.routes) :
    FlowChange start.flowId state next [start] [] where
  reports := reports
  entries other different := by
    rw [store]
    exact Function.update_of_ne different _ _
  current other different := by
    rw [ledger]
    exact Function.update_of_ne different _ _
  starts := by
    rw [ledger]
    rfl
  finishes := by
    rw [ledger]
    exact (List.append_nil _).symm
  routes := by
    rw [ledger]
    exact List.Subset.refl _
  tracks := by
    simpa [store, ledger, FlowStore.insert, Ledger.startLife] using tracks
  owedStarts := by
    rw [(owed_of_reported reported).1]
    simp [FlowStore.owedStart, store, FlowStore.insert, owed]
  owedFinishes := by
    rw [(owed_of_reported reported).2]
    simp [FlowStore.owedFinish, store, FlowStore.insert, unfinished]
  ownStarts other member := by rw [List.mem_singleton.mp member]
  ownFinishes finish member := by cases member
  running other running := by
    simp only [ledger, Ledger.startLife, Function.update_self, Option.some.injEq,
      Life.running.injEq] at running
    simp [ledger, Ledger.startLife, running]
  linked finish member := by cases member
  waiting other found := by
    simp only [store, FlowStore.insert, Function.update_self, Option.some.injEq] at found
    rw [ledger, ← found]
    exact waiting

theorem user_flow_start_accounted {state : FlowReporting} {start : UserSpaceFlowStart}
    (before : Accounted state) (timely : state.Timely (.message (.userFlowStart start))) :
    Accounted (state.handle (.userFlowStart start)) := by
  have tracks : Tracks start.flowId (some (.running (.user start.flowId start.startTime)))
      (some (.user (.new start))) := .userRunning (.new start) rfl rfl rfl
  have change : FlowChange start.flowId state (state.handle (.userFlowStart start))
      [.user start.flowId start.startTime] [] := by
    apply start_life_change (state.handle (.userFlowStart start))
      (.user start.flowId start.startTime) timely rfl rfl rfl tracks rfl rfl
    rintro routeId ⟨⟩
  exact change.accounted before

def startedEntry (start : AppFlowStart) (pendingRoute : Option Nat) : AppFlowEntry :=
  let entry := AppFlowEntry.new start pendingRoute
  { entry with pending := { entry.pending with sendStart := true } }

def startReport (start : AppFlowStart) : StartReport :=
  .app ⟨start.flowId, start.srcNodeId, start.dstNodeId, start.startTime⟩

theorem started_entry_change {state next : FlowReporting} {start : AppFlowStart}
    {pendingRoute : Option Nat}
    (reported : ∀ entry, state.store.entries start.flowId = some entry → entry.Reported)
    (store : next.store = state.store.insert start.flowId (.app (startedEntry start pendingRoute)))
    (reports : next.reports = state.reports)
    (ledger : next.ledger = state.ledger.startLife (startReport start))
    (assigned : ∀ routeId, pendingRoute = some routeId →
      (start.flowId, routeId) ∈ state.ledger.routes) :
    FlowChange start.flowId state next [startReport start] [] := by
  have tracks : Tracks start.flowId (some (.running (startReport start)))
      (some (.app (startedEntry start pendingRoute))) := by
    apply Tracks.appRunning (startedEntry start pendingRoute) rfl rfl
    cases pendingRoute <;> rfl
  have unfinished : (FlowEntry.app (startedEntry start pendingRoute)).owedFinish = none := by
    cases pendingRoute <;> rfl
  apply start_life_change next (startReport start) reported store reports ledger tracks rfl unfinished
  intro routeId member
  cases pendingRoute with
  | none => cases member
  | some route =>
    rw [Finset.mem_singleton.mp member]
    exact assigned route rfl

theorem app_flow_start_accounted {state : FlowReporting} {start : AppFlowStart}
    (before : Accounted state) (timely : state.Timely (.message (.appFlowStart start))) :
    Accounted (state.handle (.appFlowStart start)) := by
  have tracked := before.tracks start.flowId
  generalize life : state.ledger.current start.flowId = current at tracked
  generalize found : state.store.entries start.flowId = present at tracked
  have ledger : (∀ flow, current ≠ some (.running (.app flow))) →
      (state.handle (.appFlowStart start)).ledger =
        state.ledger.startLife (startReport start) := by
    intro idle
    simp only [FlowReporting.handle, Ledger.record, Ledger.recordAppFlowStart, life]
    rfl
  have accepted : ∀ pendingRoute,
      (∀ entry, state.store.entries start.flowId = some entry → ¬entry.IsActiveApp) →
      (∀ flow, current ≠ some (.running (.app flow))) →
      (state.handle (.appFlowStart start)).store =
        state.store.insert start.flowId (.app (startedEntry start pendingRoute)) →
      (∀ routeId, pendingRoute = some routeId →
        (start.flowId, routeId) ∈ state.ledger.routes) →
      Accounted (state.handle (.appFlowStart start)) := by
    intro pendingRoute inactive idle store assigned
    have reported : ∀ entry, state.store.entries start.flowId = some entry → entry.Reported := by
      intro entry found
      rcases timely entry found with active | reported
      · exact absurd active (inactive entry found)
      · exact reported
    exact (started_entry_change reported store rfl (ledger idle) assigned).accounted before
  cases tracked with
  | unknown | gone =>
    apply accepted none
    · simp [found]
    · rintro flow ⟨⟩
    · simp [FlowReporting.handle, FlowStore.handleMessage, FlowStore.handleAppFlowStart, found,
        startedEntry]
    · rintro routeId ⟨⟩
  | assigned route | reassigned route =>
    apply accepted route.routeId
    · simp [found, FlowEntry.IsActiveApp]
    · rintro flow ⟨⟩
    · simp [FlowReporting.handle, FlowStore.handleMessage, FlowStore.handleAppFlowStart, found,
        startedEntry]
    · intro routeId assigned
      exact before.waiting _ _ found routeId assigned
  | appRunning entry own active unsent =>
    have same : state.handle (.appFlowStart start) = state := by
      simp [FlowReporting.handle, FlowStore.handleMessage, FlowStore.handleAppFlowStart, found,
        active, Ledger.record, Ledger.recordAppFlowStart, life]
    rw [same]
    exact before
  | appFinished entry own finished =>
    apply accepted none
    · simp [found, FlowEntry.IsActiveApp, finished]
    · rintro flow ⟨⟩
    · simp [FlowReporting.handle, FlowStore.handleMessage, FlowStore.handleAppFlowStart, found,
        startedEntry, finished]
    · rintro routeId ⟨⟩
  | userRunning entry own active unsent =>
    apply accepted none
    · simp [found, FlowEntry.IsActiveApp]
    · rintro flow ⟨⟩
    · simp [FlowReporting.handle, FlowStore.handleMessage, FlowStore.handleAppFlowStart, found,
        startedEntry]
    · rintro routeId ⟨⟩
  | userFinished entry own finished waiting =>
    apply accepted none
    · simp [found, FlowEntry.IsActiveApp]
    · rintro flow ⟨⟩
    · simp [FlowReporting.handle, FlowStore.handleMessage, FlowStore.handleAppFlowStart, found,
        startedEntry]
    · rintro routeId ⟨⟩

/-- A change of an entry that leaves what it owes, and is no news of the incarnation. -/
theorem silent_change {state : FlowReporting} (next : FlowReporting) (flowId : FlowId)
    (before : Accounted state) (reports : next.reports = state.reports)
    (entries : ∀ other, other ≠ flowId → next.store.entries other = state.store.entries other)
    (current : next.ledger.current = state.ledger.current)
    (starts : next.ledger.starts = state.ledger.starts)
    (finishes : next.ledger.finishes = state.ledger.finishes)
    (routes : state.ledger.routes ⊆ next.ledger.routes)
    (tracks : Tracks flowId (state.ledger.current flowId) (next.store.entries flowId))
    (owedStart : next.store.owedStart flowId = state.store.owedStart flowId)
    (owedFinish : next.store.owedFinish flowId = state.store.owedFinish flowId)
    (waiting : ∀ entry, next.store.entries flowId = some entry →
      ∀ routeId ∈ entry.routes, (flowId, routeId) ∈ next.ledger.routes) :
    FlowChange flowId state next [] [] where
  reports := reports
  entries := entries
  current other _ := by rw [current]
  starts := by rw [starts, List.append_nil]
  finishes := by rw [finishes, List.append_nil]
  routes := routes
  tracks := by
    rw [current]
    exact tracks
  owedStarts := by rw [owedStart, List.append_nil]
  owedFinishes := by rw [owedFinish, List.map_nil, List.append_nil]
  ownStarts start member := by cases member
  ownFinishes finish member := by cases member
  running start running := by
    rw [starts]
    rw [current] at running
    exact before.running flowId start running
  linked finish member := by cases member
  waiting := waiting

theorem accepted_route_accounted {state next : FlowReporting} {route : RouteAssigned}
    {entry : FlowEntry} (before : Accounted state)
    (store : next.store = state.store.insert route.flowId entry)
    (reports : next.reports = state.reports)
    (ledger : next.ledger =
      { state.ledger with routes := state.ledger.routes ++ [(route.flowId, route.routeId)] })
    (tracks : Tracks route.flowId (state.ledger.current route.flowId) (some entry))
    (owedStart : entry.owedStart = state.store.owedStart route.flowId)
    (owedFinish : entry.owedFinish = state.store.owedFinish route.flowId)
    (routes : ∀ routeId ∈ entry.routes, routeId = route.routeId ∨
      ∃ earlier, state.store.entries route.flowId = some earlier ∧ routeId ∈ earlier.routes) :
    Accounted next := by
  have placed : next.store.entries route.flowId = some entry := by
    rw [store]
    exact Function.update_self _ _ _
  have change : FlowChange route.flowId state next [] [] := by
    apply silent_change next route.flowId before reports
    · intro other different
      rw [store]
      exact Function.update_of_ne different _ _
    · rw [ledger]
    · rw [ledger]
    · rw [ledger]
    · rw [ledger]
      exact List.subset_append_left _ _
    · rw [placed]
      exact tracks
    · rw [FlowStore.owedStart, placed]
      exact owedStart
    · rw [FlowStore.owedFinish, placed]
      exact owedFinish
    · intro kept found routeId member
      rw [placed] at found
      cases found
      rw [ledger]
      rcases routes routeId member with rfl | ⟨earlier, found, waiting⟩
      · exact List.mem_append_right _ (List.mem_singleton.mpr rfl)
      · exact List.mem_append_left _ (before.waiting _ _ found routeId waiting)
  exact change.accounted before

theorem app_route_accounted {state : FlowReporting} {route : RouteAssigned} {entry : AppFlowEntry}
    (before : Accounted state) (found : state.store.entries route.flowId = some (.app entry))
    (tracks : ∀ updated : AppFlowEntry, updated.flowId = entry.flowId →
      updated.srcNodeId = entry.srcNodeId → updated.dstNodeId = entry.dstNodeId →
      updated.startTime = entry.startTime → updated.stage = entry.stage →
      updated.pending.sendFinish = entry.pending.sendFinish →
        Tracks route.flowId (state.ledger.current route.flowId) (some (.app updated))) :
    Accounted (state.handle (.routeAssigned route)) := by
  rcases entry.route_assignment_cases route.routeId route.assignmentTime with
    ⟨kept, ignored⟩ | ⟨updated, applied⟩
  · have same : state.handle (.routeAssigned route) = state := by
      have store : state.store.handleRouteAssigned route = state.store := by
        simp only [FlowStore.handleRouteAssigned, found, kept]
        exact FlowStore.insert_present found
      have ledger : state.ledger.record state.store (.routeAssigned route) = state.ledger := by
        simp only [Ledger.record, Ledger.recordRouteAssigned, found]
        rcases ignored with late | unchanged
        · rw [late]
        · rw [unchanged]
      simp only [FlowReporting.handle, FlowStore.handleMessage, store, ledger]
    rw [same]
    exact before
  · have ledger : (state.handle (.routeAssigned route)).ledger =
        { state.ledger with routes := state.ledger.routes ++ [(route.flowId, route.routeId)] } := by
      simp only [FlowReporting.handle, Ledger.record, Ledger.recordRouteAssigned, found]
      rcases applied with active | finished
      · rw [active]
      · rw [finished]
    have store : (state.handle (.routeAssigned route)).store =
        state.store.insert route.flowId
          (.app (entry.applyRouteAssignment route.routeId route.assignmentTime).1) := by
      simp only [FlowReporting.handle, FlowStore.handleMessage, FlowStore.handleRouteAssigned, found]
    rw [updated] at store
    apply accepted_route_accounted before store rfl ledger
    · exact tracks _ rfl rfl rfl rfl rfl rfl
    · simp [FlowStore.owedStart, found, FlowEntry.owedStart]
    · simp [FlowStore.owedFinish, found, FlowEntry.owedFinish, AppFlowEntry.finishedSnapshot]
    · intro routeId member
      rcases Finset.mem_insert.mp member with same | waiting
      · exact .inl same
      · exact .inr ⟨.app entry, found, waiting⟩

/-- A route that is assigned before the flow starts waits for the start. -/
theorem buffered_route_accounted {state : FlowReporting} {route : RouteAssigned}
    (before : Accounted state)
    (idle : state.store.entries route.flowId = none ∨
      ∃ earlier, state.store.entries route.flowId = some (.pending earlier))
    (tracks : Tracks route.flowId (state.ledger.current route.flowId)
      (some (.pending ⟨some route.routeId⟩))) :
    Accounted (state.handle (.routeAssigned route)) := by
  have store : (state.handle (.routeAssigned route)).store =
      state.store.insert route.flowId (.pending ⟨some route.routeId⟩) := by
    simp only [FlowReporting.handle, FlowStore.handleMessage, FlowStore.handleRouteAssigned]
    rcases idle with found | ⟨earlier, found⟩
    · rw [found]
    · rw [found]
  have ledger : (state.handle (.routeAssigned route)).ledger =
      { state.ledger with routes := state.ledger.routes ++ [(route.flowId, route.routeId)] } := by
    simp only [FlowReporting.handle, Ledger.record, Ledger.recordRouteAssigned]
    rcases idle with found | ⟨earlier, found⟩
    · rw [found]
    · rw [found]
  have owes : state.store.owedStart route.flowId = none ∧
      state.store.owedFinish route.flowId = none := by
    apply owed_of_reported
    intro entry present
    rcases idle with found | ⟨earlier, found⟩
    · rw [found] at present
      cases present
    · rw [found] at present
      cases present
      exact ⟨rfl, rfl⟩
  apply accepted_route_accounted before store rfl ledger tracks owes.1.symm owes.2.symm
  intro routeId member
  exact .inl (Option.some.inj member).symm

theorem route_assigned_accounted {state : FlowReporting} {route : RouteAssigned}
    (before : Accounted state) : Accounted (state.handle (.routeAssigned route)) := by
  have tracked := before.tracks route.flowId
  generalize life : state.ledger.current route.flowId = current at tracked
  generalize found : state.store.entries route.flowId = present at tracked
  cases tracked with
  | unknown | gone =>
    apply buffered_route_accounted before (.inl found)
    rw [life]
    constructor
  | assigned earlier | reassigned earlier =>
    apply buffered_route_accounted before (.inr ⟨earlier, found⟩)
    rw [life]
    constructor
  | appRunning entry own active unsent =>
    apply app_route_accounted before found
    intro updated flowId src dst start stage sendFinish
    rw [life, ← src, ← dst, ← start]
    exact .appRunning updated (flowId.trans own) (stage.trans active) (sendFinish.trans unsent)
  | appFinished entry own finished =>
    apply app_route_accounted before found
    intro updated flowId src dst start stage sendFinish
    rw [life]
    exact .appFinished updated (flowId.trans own) (stage.trans finished)
  | userRunning entry own active unsent =>
    have same : state.handle (.routeAssigned route) = state := by
      simp [FlowReporting.handle, FlowStore.handleMessage, FlowStore.handleRouteAssigned, found,
        Ledger.record, Ledger.recordRouteAssigned]
    rw [same]
    exact before
  | userFinished entry own finished waiting =>
    have same : state.handle (.routeAssigned route) = state := by
      simp [FlowReporting.handle, FlowStore.handleMessage, FlowStore.handleRouteAssigned, found,
        Ledger.record, Ledger.recordRouteAssigned]
    rw [same]
    exact before

/-- The end of an incarnation: its entry owes the finish from now on. -/
theorem finish_life_accounted {state : FlowReporting} (next : FlowReporting) (entry : FlowEntry)
    (finish : AcceptedFinish) (before : Accounted state)
    (store : next.store = state.store.insert finish.info.flowId entry)
    (reports : next.reports = state.reports)
    (ledger : next.ledger = state.ledger.finishLife finish)
    (tracks : Tracks finish.info.flowId (some .finished) (some entry))
    (owedStart : entry.owedStart = state.store.owedStart finish.info.flowId)
    (unfinished : state.store.owedFinish finish.info.flowId = none)
    (owedFinish : entry.owedFinish = some finish.info)
    (linked : ∀ start, finish.started = some start →
      start ∈ state.ledger.starts ∧ finish.info.flowId = start.flowId ∧
        finish.info.startTime = start.startTime)
    (routes : ∀ routeId ∈ entry.routes, ∃ earlier,
      state.store.entries finish.info.flowId = some earlier ∧ routeId ∈ earlier.routes) :
    Accounted next := by
  have placed : next.store.entries finish.info.flowId = some entry := by
    rw [store]
    exact Function.update_self _ _ _
  have ended : next.ledger.current finish.info.flowId = some .finished := by
    rw [ledger]
    exact Function.update_self _ _ _
  have change : FlowChange finish.info.flowId state next [] [finish] := by
    constructor
    · exact reports
    · intro other different
      rw [store]
      exact Function.update_of_ne different _ _
    · intro other different
      rw [ledger]
      exact Function.update_of_ne different _ _
    · rw [ledger, List.append_nil]
      rfl
    · rw [ledger]
      rfl
    · rw [ledger]
      exact List.Subset.refl _
    · rw [ended, placed]
      exact tracks
    · rw [FlowStore.owedStart, placed, List.append_nil]
      exact congrArg Option.toList owedStart
    · rw [unfinished, FlowStore.owedFinish, placed]
      exact congrArg Option.toList owedFinish
    · intro start member
      cases member
    · intro other member
      rw [List.mem_singleton.mp member]
    · intro start running
      rw [ended] at running
      cases running
    · intro other member start started
      rw [List.mem_singleton.mp member] at started ⊢
      rw [ledger]
      exact linked start started
    · intro kept found routeId member
      rw [placed] at found
      cases found
      rcases routes routeId member with ⟨earlier, found, waiting⟩
      rw [ledger]
      exact before.waiting _ _ found routeId waiting
  exact change.accounted before

theorem ignored_finish_accounted {state : FlowReporting} {finished : FlowFinished}
    (before : Accounted state)
    (store : state.store.handleFlowFinished finished = state.store)
    (ledger : state.ledger.recordFlowFinished finished = state.ledger) :
    Accounted (state.handle (.flowFinished finished)) := by
  have same : state.handle (.flowFinished finished) = state := by
    simp only [FlowReporting.handle, FlowStore.handleMessage, Ledger.record, store, ledger]
  rw [same]
  exact before

/-- A route that was assigned and never taken over goes with the finish of another flow. -/
theorem dropped_route_accounted {state : FlowReporting} {finished : FlowFinished}
    {route : PendingRoute} (before : Accounted state)
    (found : state.store.entries finished.flowId = some (.pending route))
    (anonymous : finished.controllerId = none)
    (ledger : state.ledger.recordFlowFinished finished = state.ledger)
    (tracks : Tracks finished.flowId (state.ledger.current finished.flowId) none) :
    Accounted (state.handle (.flowFinished finished)) := by
  have store : (state.handle (.flowFinished finished)).store =
      state.store.remove finished.flowId := by
    simp only [FlowReporting.handle, FlowStore.handleMessage, FlowStore.handleFlowFinished, found,
      anonymous]
  have removed : (state.handle (.flowFinished finished)).store.entries finished.flowId = none := by
    rw [store]
    exact Function.update_self _ _ _
  have kept : (state.handle (.flowFinished finished)).ledger = state.ledger := ledger
  have change : FlowChange finished.flowId state (state.handle (.flowFinished finished)) [] [] := by
    apply silent_change (state.handle (.flowFinished finished)) finished.flowId before rfl
    · intro other different
      rw [store]
      exact Function.update_of_ne different _ _
    · rw [kept]
    · rw [kept]
    · rw [kept]
    · rw [kept]
      exact List.Subset.refl _
    · rw [removed]
      exact tracks
    · simp [FlowStore.owedStart, removed, found, FlowEntry.owedStart]
    · simp [FlowStore.owedFinish, removed, found, FlowEntry.owedFinish]
    · intro entry present
      rw [removed] at present
      cases present
  exact change.accounted before

theorem unstarted_finish_accounted {state : FlowReporting} {finished : FlowFinished}
    {controllerId : Int} (before : Accounted state)
    (named : finished.controllerId = some controllerId)
    (unknown : state.ledger.current finished.flowId = none)
    (idle : state.store.entries finished.flowId = none ∨
      ∃ route, state.store.entries finished.flowId = some (.pending route)) :
    Accounted (state.handle (.flowFinished finished)) := by
  have owes : state.store.owedStart finished.flowId = none ∧
      state.store.owedFinish finished.flowId = none := by
    apply owed_of_reported
    intro entry present
    rcases idle with found | ⟨route, found⟩
    · rw [found] at present
      cases present
    · rw [found] at present
      cases present
      exact ⟨rfl, rfl⟩
  have tracks : Tracks finished.flowId (some .finished) (some (.user
      (.finishedWithoutStart finished.flowId controllerId finished.finishTime))) := by
    apply Tracks.userFinished
      (.finishedWithoutStart finished.flowId controllerId finished.finishTime) rfl rfl
    intro info waiting
    exact ⟨finished.finishTime, (Option.some.inj waiting).symm⟩
  apply finish_life_accounted (state.handle (.flowFinished finished)) _
    ⟨⟨finished.flowId, some controllerId, finished.finishTime, finished.finishTime⟩, none⟩ before
    _ rfl _ tracks owes.1.symm owes.2 rfl
  · rintro start ⟨⟩
  · rintro routeId ⟨⟩
  · simp only [FlowReporting.handle, FlowStore.handleMessage, FlowStore.handleFlowFinished]
    rcases idle with found | ⟨route, found⟩
    · simp only [found, named]
    · simp only [found, named]
      simp only [FlowStore.remove, FlowStore.insert, Function.update_idem]
  · simp [FlowReporting.handle, Ledger.record, Ledger.recordFlowFinished, unknown, named]

theorem app_finish_accounted {state : FlowReporting} {finished : FlowFinished}
    {entry : AppFlowEntry} (before : Accounted state)
    (found : state.store.entries finished.flowId = some (.app entry))
    (life : state.ledger.current finished.flowId = some (.running
      (.app ⟨finished.flowId, entry.srcNodeId, entry.dstNodeId, entry.startTime⟩)))
    (own : entry.flowId = finished.flowId) (active : entry.stage = .active)
    (unsent : entry.pending.sendFinish = false) :
    Accounted (state.handle (.flowFinished finished)) := by
  by_cases late : finished.finishTime < entry.startTime
  · apply ignored_finish_accounted before
    · simp only [FlowStore.handleFlowFinished, found, AppFlowEntry.markFinished, late, if_true]
      exact FlowStore.insert_present found
    · simp [Ledger.recordFlowFinished, life, late]
  · have accepted : entry.markFinished finished.finishTime finished.controllerId =
        ({ entry with
            finishTime := some finished.finishTime
            controllerId := finished.controllerId
            stage := .finished
            pending := { entry.pending with sendFinish := true } }, .accepted) := by
      simp [AppFlowEntry.markFinished, late, active]
    apply finish_life_accounted (state.handle (.flowFinished finished))
      (.app (entry.markFinished finished.finishTime finished.controllerId).1)
      ⟨⟨finished.flowId, finished.controllerId, entry.startTime, finished.finishTime⟩,
        some (.app ⟨finished.flowId, entry.srcNodeId, entry.dstNodeId, entry.startTime⟩)⟩ before
    · simp only [FlowReporting.handle, FlowStore.handleMessage, FlowStore.handleFlowFinished, found]
    · rfl
    · simp [FlowReporting.handle, Ledger.record, Ledger.recordFlowFinished, life, late]
    · rw [accepted]
      exact .appFinished _ own rfl
    · simp [FlowStore.owedStart, found, FlowEntry.owedStart, accepted]
    · simp [FlowStore.owedFinish, found, FlowEntry.owedFinish, unsent]
    · simp [accepted, FlowEntry.owedFinish, AppFlowEntry.finishedSnapshot, own]
    · intro start started
      cases started
      exact ⟨before.running _ _ life, rfl, rfl⟩
    · intro routeId member
      rw [accepted] at member
      exact ⟨.app entry, found, member⟩

theorem user_finish_accounted {state : FlowReporting} {finished : FlowFinished}
    {entry : UserFlowEntry} (before : Accounted state)
    (found : state.store.entries finished.flowId = some (.user entry))
    (life : state.ledger.current finished.flowId = some (.running
      (.user finished.flowId entry.startTime)))
    (own : entry.flowId = finished.flowId) (unsent : entry.pendingFinish = none) :
    Accounted (state.handle (.flowFinished finished)) := by
  cases named : finished.controllerId with
  | none =>
    apply ignored_finish_accounted before
    · simp only [FlowStore.handleFlowFinished, found, named]
    · simp [Ledger.recordFlowFinished, life, named]
  | some controllerId =>
    have accepted := entry.finish_entry finished.finishTime controllerId
    apply finish_life_accounted (state.handle (.flowFinished finished))
      (.user (entry.finish finished.finishTime controllerId).1)
      ⟨⟨finished.flowId, some controllerId, entry.startTime, finished.finishTime⟩,
        some (.user finished.flowId entry.startTime)⟩ before
    · simp only [FlowReporting.handle, FlowStore.handleMessage, FlowStore.handleFlowFinished, found,
        named]
    · rfl
    · simp [FlowReporting.handle, Ledger.record, Ledger.recordFlowFinished, life, named]
    · rw [accepted]
      refine .userFinished _ own rfl ?_
      intro info waiting
      exact ⟨finished.finishTime, (Option.some.inj waiting).symm⟩
    · simp [FlowStore.owedStart, found, FlowEntry.owedStart, accepted]
    · simp [FlowStore.owedFinish, found, FlowEntry.owedFinish, unsent]
    · simp [accepted, FlowEntry.owedFinish, own]
    · intro start started
      cases started
      exact ⟨before.running _ _ life, rfl, rfl⟩
    · rintro routeId ⟨⟩

/-- A finish that repeats the one that waits leaves the entry as it is. -/
theorem repeated_finish {entry : UserFlowEntry} {controllerId finishTime : Int}
    (finished : entry.stage = .finished)
    (waiting : ∀ info, entry.pendingFinish = some info → ∃ time, info = entry.finishedInfo time)
    (repeats : (FlowEntry.user entry).Repeats controllerId finishTime) :
    (entry.finish finishTime controllerId).1 = entry := by
  have pending : entry.pendingFinish =
      some ⟨entry.flowId, some controllerId, entry.startTime, finishTime⟩ := repeats
  rcases waiting _ pending with ⟨time, same⟩
  have named : entry.controllerId = controllerId := by
    have ids := congrArg FlowFinishedInfo.controllerId same
    exact (Option.some.inj ids).symm
  rcases entry with ⟨flowId, id, startTime, stage, pendingStart, pendingFinish⟩
  simp only at finished named pending
  rw [UserFlowEntry.finish_entry, finished, named, pending]

theorem flow_finished_accounted {state : FlowReporting} {finished : FlowFinished}
    (before : Accounted state) (timely : state.Timely (.message (.flowFinished finished))) :
    Accounted (state.handle (.flowFinished finished)) := by
  have tracked := before.tracks finished.flowId
  generalize life : state.ledger.current finished.flowId = current at tracked
  generalize found : state.store.entries finished.flowId = present at tracked
  cases tracked with
  | unknown =>
    cases named : finished.controllerId with
    | none =>
      apply ignored_finish_accounted before
      · simp only [FlowStore.handleFlowFinished, found, named]
      · simp [Ledger.recordFlowFinished, life, named]
    | some controllerId => exact unstarted_finish_accounted before named life (.inl found)
  | assigned route =>
    cases named : finished.controllerId with
    | none =>
      apply dropped_route_accounted before found named
      · simp [Ledger.recordFlowFinished, life, named]
      · rw [life]
        exact .unknown
    | some controllerId => exact unstarted_finish_accounted before named life (.inr ⟨route, found⟩)
  | gone =>
    cases named : finished.controllerId with
    | none =>
      apply ignored_finish_accounted before
      · simp only [FlowStore.handleFlowFinished, found, named]
      · simp [Ledger.recordFlowFinished, life]
    | some controllerId =>
      rcases timely controllerId named life with ⟨entry, present, _⟩
      rw [found] at present
      cases present
  | reassigned route =>
    cases named : finished.controllerId with
    | none =>
      apply dropped_route_accounted before found named
      · simp [Ledger.recordFlowFinished, life]
      · rw [life]
        exact .gone
    | some controllerId =>
      rcases timely controllerId named life with ⟨entry, present, again⟩
      rw [found] at present
      cases present
      rcases again with again | again
      · cases again
      · cases again
  | appRunning entry own active unsent =>
    exact app_finish_accounted before found life own active unsent
  | appFinished entry own ended =>
    apply ignored_finish_accounted before
    · have kept : (entry.markFinished finished.finishTime finished.controllerId).1 = entry := by
        unfold AppFlowEntry.markFinished
        split_ifs <;> rfl
      simp only [FlowStore.handleFlowFinished, found, kept]
      exact FlowStore.insert_present found
    · simp [Ledger.recordFlowFinished, life]
  | userRunning entry own active unsent =>
    exact user_finish_accounted before found life own unsent
  | userFinished entry own ended waiting =>
    apply ignored_finish_accounted before
    · cases named : finished.controllerId with
      | none => simp only [FlowStore.handleFlowFinished, found, named]
      | some controllerId =>
        rcases timely controllerId named life with ⟨other, present, again⟩
        rw [found] at present
        cases present
        rcases again with again | again
        · cases again
        · simp only [FlowStore.handleFlowFinished, found, named,
            repeated_finish ended waiting again]
          exact FlowStore.insert_present found
    · simp [Ledger.recordFlowFinished, life]

end Nextmini.Node
