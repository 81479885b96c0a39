import Mathlib.Data.Finset.Insert
import Mathlib.Data.List.Perm.Basic
import Mathlib.Logic.Function.Basic
import Nextmini.Routing.RoutingTable

/-!
# Flow statistics

The store in which a node collects the starts, route assignments and finishes of its flows until the
next flush. The entries are a hash map: a flush goes through them in any order, and drains the set of
route updates of an entry in any order. The sixteen bytes of a flow id stand in a report as the flow
id, and times are milliseconds. The text that is logged is left out.
-/

namespace Nextmini.Node

open Nextmini.Routing

set_option autoImplicit false

/-! ## Messages and reports -/

structure AppFlowStart where
  flowId : FlowId
  srcNodeId : NodeId
  dstNodeId : NodeId
  startTime : Int

structure RouteAssigned where
  flowId : FlowId
  assignmentTime : Int
  routeId : Nat

structure FlowFinished where
  flowId : FlowId
  finishTime : Int
  controllerId : Option Int

structure UserSpaceFlowStart where
  flowId : FlowId
  controllerId : Int
  startTime : Int

inductive FlowStatsMessage where
  | appFlowStart (start : AppFlowStart)
  | userFlowStart (start : UserSpaceFlowStart)
  | routeAssigned (route : RouteAssigned)
  | flowFinished (finished : FlowFinished)

def FlowStatsMessage.flowId : FlowStatsMessage → FlowId
  | .appFlowStart start => start.flowId
  | .userFlowStart start => start.flowId
  | .routeAssigned route => route.flowId
  | .flowFinished finished => finished.flowId

structure AppFlow where
  flowId : FlowId
  srcNodeId : NodeId
  dstNodeId : NodeId
  startTime : Int
  deriving DecidableEq

structure FlowFinishedInfo where
  flowId : FlowId
  controllerId : Option Int
  startTime : Int
  finishTime : Int
  deriving DecidableEq

structure UserFlowStart where
  controllerId : Int
  flowId : FlowId
  startTime : Int
  deriving DecidableEq

structure RouteAssignment where
  flowId : FlowId
  routeId : Nat
  time : Int
  deriving DecidableEq

structure FlushOutput where
  appFlows : List AppFlow
  assignments : List RouteAssignment
  finishes : List FlowFinishedInfo
  userStarts : List UserFlowStart
  deriving DecidableEq

def FlushOutput.empty : FlushOutput := ⟨[], [], [], []⟩

/-! ## Entries -/

structure PendingRoute where
  routeId : Option Nat

inductive FlowStage where
  | active
  | finished
  deriving DecidableEq

structure AppPending where
  sendStart : Bool
  routeUpdates : Finset Nat
  sendFinish : Bool

structure AppFlowEntry where
  flowId : FlowId
  startTime : Int
  finishTime : Option Int
  srcNodeId : NodeId
  dstNodeId : NodeId
  routeId : Option Nat
  controllerId : Option Int
  stage : FlowStage
  pending : AppPending

structure UserFlowEntry where
  flowId : FlowId
  controllerId : Int
  startTime : Int
  stage : FlowStage
  pendingStart : Bool
  pendingFinish : Option FlowFinishedInfo

inductive FlowEntry where
  | pending (route : PendingRoute)
  | app (entry : AppFlowEntry)
  | user (entry : UserFlowEntry)

inductive RouteUpdateResult where
  | appliedActive
  | appliedFinished
  | ignoredLate
  | unchanged
  deriving DecidableEq

inductive FlowFinishStatus where
  | accepted
  | late
  | duplicate
  deriving DecidableEq

inductive UserFinishStatus where
  | ok
  | controllerMismatch
  deriving DecidableEq

namespace AppFlowEntry

def new (start : AppFlowStart) (pendingRoute : Option Nat) : AppFlowEntry where
  flowId := start.flowId
  startTime := start.startTime
  finishTime := none
  srcNodeId := start.srcNodeId
  dstNodeId := start.dstNodeId
  routeId := pendingRoute
  controllerId := none
  stage := .active
  pending :=
    match pendingRoute with
    | some routeId => ⟨false, {routeId}, false⟩
    | none => ⟨false, ∅, false⟩

def applyRouteAssignment (entry : AppFlowEntry) (routeId : Nat) (assignmentTime : Int) :
    AppFlowEntry × RouteUpdateResult :=
  if assignmentTime < entry.startTime then (entry, .ignoredLate)
  else if entry.routeId = some routeId then (entry, .unchanged)
  else
    let updated :=
      { entry with
        routeId := some routeId
        pending := { entry.pending with routeUpdates := insert routeId entry.pending.routeUpdates } }
    match entry.stage with
    | .active => (updated, .appliedActive)
    | .finished => (updated, .appliedFinished)

def markFinished (entry : AppFlowEntry) (finishTime : Int) (controllerId : Option Int) :
    AppFlowEntry × FlowFinishStatus :=
  if finishTime < entry.startTime then (entry, .late)
  else if entry.stage = .finished then (entry, .duplicate)
  else
    ({ entry with
        finishTime := some finishTime
        controllerId := controllerId
        stage := .finished
        pending := { entry.pending with sendFinish := true } }, .accepted)

def finishedSnapshot (entry : AppFlowEntry) : Option FlowFinishedInfo :=
  entry.finishTime.map fun finishTime =>
    ⟨entry.flowId, entry.controllerId, entry.startTime, finishTime⟩

/-- An assignment that changes an application flow's entry adds its route and nothing else. -/
theorem route_assignment_cases (entry : AppFlowEntry) (routeId : Nat) (assignmentTime : Int) :
    ((entry.applyRouteAssignment routeId assignmentTime).1 = entry ∧
      ((entry.applyRouteAssignment routeId assignmentTime).2 = .ignoredLate ∨
        (entry.applyRouteAssignment routeId assignmentTime).2 = .unchanged)) ∨
    ((entry.applyRouteAssignment routeId assignmentTime).1 =
        { entry with
          routeId := some routeId
          pending :=
            { entry.pending with routeUpdates := insert routeId entry.pending.routeUpdates } } ∧
      ((entry.applyRouteAssignment routeId assignmentTime).2 = .appliedActive ∨
        (entry.applyRouteAssignment routeId assignmentTime).2 = .appliedFinished)) := by
  unfold applyRouteAssignment
  split_ifs
  · exact .inl ⟨rfl, .inl rfl⟩
  · exact .inl ⟨rfl, .inr rfl⟩
  · cases entry.stage with
    | active => exact .inr ⟨rfl, .inl rfl⟩
    | finished => exact .inr ⟨rfl, .inr rfl⟩

end AppFlowEntry

namespace UserFlowEntry

def new (start : UserSpaceFlowStart) : UserFlowEntry where
  flowId := start.flowId
  controllerId := start.controllerId
  startTime := start.startTime
  stage := .active
  pendingStart := true
  pendingFinish := none

def finishedInfo (entry : UserFlowEntry) (finishTime : Int) : FlowFinishedInfo where
  flowId := entry.flowId
  controllerId := some entry.controllerId
  startTime := entry.startTime
  finishTime := finishTime

def finish (entry : UserFlowEntry) (finishTime controllerId : Int) :
    UserFlowEntry × UserFinishStatus :=
  if entry.controllerId ≠ controllerId then
    let entry := { entry with controllerId := controllerId }
    ({ entry with pendingFinish := some (entry.finishedInfo finishTime), stage := .finished },
      .controllerMismatch)
  else
    ({ entry with pendingFinish := some (entry.finishedInfo finishTime), stage := .finished }, .ok)

def finishedWithoutStart (flowId : FlowId) (controllerId finishTime : Int) : UserFlowEntry :=
  let entry : UserFlowEntry :=
    { flowId := flowId
      controllerId := controllerId
      startTime := finishTime
      stage := .finished
      pendingStart := false
      pendingFinish := none }
  { entry with pendingFinish := some (entry.finishedInfo finishTime) }

theorem finish_entry (entry : UserFlowEntry) (finishTime controllerId : Int) :
    (entry.finish finishTime controllerId).1 =
      { entry with
        controllerId := controllerId
        stage := .finished
        pendingFinish := some ⟨entry.flowId, some controllerId, entry.startTime, finishTime⟩ } := by
  unfold finish
  split_ifs with mismatch
  · rfl
  · rw [← not_not.mp mismatch]
    rfl

end UserFlowEntry

/-! ## The store -/

structure FlowStore where
  entries : FlowId → Option FlowEntry

namespace FlowStore

def empty : FlowStore := ⟨fun _ => none⟩

def insert (store : FlowStore) (flowId : FlowId) (entry : FlowEntry) : FlowStore :=
  ⟨Function.update store.entries flowId (some entry)⟩

def remove (store : FlowStore) (flowId : FlowId) : FlowStore :=
  ⟨Function.update store.entries flowId none⟩

theorem insert_entries (store : FlowStore) (flowId : FlowId) (entry : FlowEntry) (other : FlowId) :
    (store.insert flowId entry).entries other =
      if other = flowId then some entry else store.entries other :=
  Function.update_apply _ _ _ _

theorem remove_entries (store : FlowStore) (flowId other : FlowId) :
    (store.remove flowId).entries other = if other = flowId then none else store.entries other :=
  Function.update_apply _ _ _ _

theorem insert_present {store : FlowStore} {flowId : FlowId} {entry : FlowEntry}
    (present : store.entries flowId = some entry) : store.insert flowId entry = store := by
  unfold FlowStore.insert
  rw [← present, Function.update_eq_self]

/-- An active flow has started already; a route that was assigned before the start is taken over. -/
def handleAppFlowStart (store : FlowStore) (appFlow : AppFlowStart) : FlowStore :=
  let started (pendingRoute : Option Nat) : FlowStore :=
    let entry := AppFlowEntry.new appFlow pendingRoute
    store.insert appFlow.flowId
      (.app { entry with pending := { entry.pending with sendStart := true } })
  match store.entries appFlow.flowId with
  | some (.app entry) => if entry.stage = .active then store else started none
  | some (.pending pending) => started pending.routeId
  | some (.user _) => started none
  | none => started none

def handleRouteAssigned (store : FlowStore) (route : RouteAssigned) : FlowStore :=
  match store.entries route.flowId with
  | some (.app entry) =>
      store.insert route.flowId
        (.app (entry.applyRouteAssignment route.routeId route.assignmentTime).1)
  | some (.pending _) => store.insert route.flowId (.pending ⟨some route.routeId⟩)
  | some (.user _) => store
  | none => store.insert route.flowId (.pending ⟨some route.routeId⟩)

def handleFlowFinished (store : FlowStore) (finished : FlowFinished) : FlowStore :=
  match store.entries finished.flowId with
  | some (.app entry) =>
      store.insert finished.flowId
        (.app (entry.markFinished finished.finishTime finished.controllerId).1)
  | some (.user entry) =>
      match finished.controllerId with
      | some controllerId =>
          store.insert finished.flowId (.user (entry.finish finished.finishTime controllerId).1)
      | none => store
  | some (.pending _) =>
      match finished.controllerId with
      | some controllerId =>
          (store.remove finished.flowId).insert finished.flowId
            (.user (.finishedWithoutStart finished.flowId controllerId finished.finishTime))
      | none => store.remove finished.flowId
  | none =>
      match finished.controllerId with
      | some controllerId =>
          store.insert finished.flowId
            (.user (.finishedWithoutStart finished.flowId controllerId finished.finishTime))
      | none => store

def handleUserFlowStart (store : FlowStore) (start : UserSpaceFlowStart) : FlowStore :=
  store.insert start.flowId (.user (.new start))

def handleMessage (store : FlowStore) : FlowStatsMessage → FlowStore
  | .appFlowStart appFlow => store.handleAppFlowStart appFlow
  | .userFlowStart start => store.handleUserFlowStart start
  | .routeAssigned route => store.handleRouteAssigned route
  | .flowFinished finished => store.handleFlowFinished finished

theorem handle_message_others (store : FlowStore) {message : FlowStatsMessage} {other : FlowId}
    (different : other ≠ message.flowId) :
    (store.handleMessage message).entries other = store.entries other := by
  have inserted : ∀ entry, (store.insert message.flowId entry).entries other =
      store.entries other := fun entry => Function.update_of_ne different _ _
  have removed : (store.remove message.flowId).entries other = store.entries other :=
    Function.update_of_ne different _ _
  cases message with
  | appFlowStart start =>
    simp only [handleMessage, handleAppFlowStart]
    split
    · split_ifs
      · rfl
      · exact inserted _
    · exact inserted _
    · exact inserted _
    · exact inserted _
  | userFlowStart start => exact inserted _
  | routeAssigned route =>
    simp only [handleMessage, handleRouteAssigned]
    split
    · exact inserted _
    · exact inserted _
    · rfl
    · exact inserted _
  | flowFinished finished =>
    simp only [handleMessage, handleFlowFinished]
    split
    · exact inserted _
    · split
      · exact inserted _
      · rfl
    · split
      · exact (Function.update_of_ne different _ _).trans removed
      · exact removed
    · split
      · exact inserted _
      · rfl

end FlowStore

/-! ## Flushing -/

def ttlMs : Int := 30000

/-- What a flush does with one entry: what it adds to the output, and the entry if it is retained. -/
def FlowEntry.visit (nowMs : Int) (drained : List Nat) (output : FlushOutput) :
    FlowEntry → FlushOutput × Option FlowEntry
  | .pending route => (output, some (.pending route))
  | .app entry =>
      let output :=
        if entry.pending.sendStart then
          { output with
            appFlows := output.appFlows ++
              [⟨entry.flowId, entry.srcNodeId, entry.dstNodeId, entry.startTime⟩] }
        else output
      let output :=
        { output with
          assignments := output.assignments ++
            drained.map fun routeId => ⟨entry.flowId, routeId, entry.startTime⟩ }
      let output :=
        if entry.pending.sendFinish then
          match entry.finishedSnapshot with
          | some finished => { output with finishes := output.finishes ++ [finished] }
          | none => output
        else output
      let sent := { entry with pending := ⟨false, ∅, false⟩ }
      match entry.stage, entry.finishTime with
      | .finished, some finishTime =>
          if nowMs - finishTime > ttlMs then (output, none) else (output, some (.app sent))
      | _, _ => (output, some (.app sent))
  | .user entry =>
      let output :=
        if entry.pendingStart then
          { output with
            userStarts := output.userStarts ++ [⟨entry.controllerId, entry.flowId, entry.startTime⟩] }
        else output
      let output :=
        match entry.pendingFinish with
        | some info => { output with finishes := output.finishes ++ [info] }
        | none => output
      if entry.stage = .finished then (output, none)
      else (output, some (.user { entry with pendingStart := false, pendingFinish := none }))

namespace FlowStore

/-- The entries are visited in the given order, and the updates of each are drained as given. -/
def flush (nowMs : Int) (drained : FlowId → List Nat) :
    List FlowId → FlushOutput → FlowStore → FlushOutput × FlowStore
  | [], output, store => (output, store)
  | flowId :: rest, output, store =>
      match store.entries flowId with
      | none => flush nowMs drained rest output store
      | some entry =>
          let (output, kept) := entry.visit nowMs (drained flowId) output
          flush nowMs drained rest output ⟨Function.update store.entries flowId kept⟩

/-- An order in which a flush can visit the entries: each of them once. -/
def Visits (store : FlowStore) (order : List FlowId) : Prop :=
  order.Nodup ∧ ∀ flowId, store.entries flowId ≠ none → flowId ∈ order

/-- An order in which the updates of each entry can be drained. -/
def Drains (store : FlowStore) (drained : FlowId → List Nat) : Prop :=
  ∀ flowId entry, store.entries flowId = some (.app entry) →
    (drained flowId).Nodup ∧ (drained flowId).toFinset = entry.pending.routeUpdates

end FlowStore

/-! ## What a flush reports -/

/-- The report of a start. A user-space flow is known by its flow id and its start time. -/
inductive StartReport where
  | app (flow : AppFlow)
  | user (flowId : FlowId) (startTime : Int)
  deriving DecidableEq

def StartReport.flowId : StartReport → FlowId
  | .app flow => flow.flowId
  | .user flowId _ => flowId

def StartReport.startTime : StartReport → Int
  | .app flow => flow.startTime
  | .user _ startTime => startTime

def FlushOutput.starts (output : FlushOutput) : List StartReport :=
  output.appFlows.map .app ++
    output.userStarts.map fun start => .user start.flowId start.startTime

namespace FlowEntry

def owedStart : FlowEntry → Option StartReport
  | .pending _ => none
  | .app entry =>
      if entry.pending.sendStart then
        some (.app ⟨entry.flowId, entry.srcNodeId, entry.dstNodeId, entry.startTime⟩)
      else none
  | .user entry => if entry.pendingStart then some (.user entry.flowId entry.startTime) else none

def owedFinish : FlowEntry → Option FlowFinishedInfo
  | .pending _ => none
  | .app entry => if entry.pending.sendFinish then entry.finishedSnapshot else none
  | .user entry => entry.pendingFinish

def drainedAs (drained : List Nat) : FlowEntry → List RouteAssignment
  | .app entry => drained.map fun routeId => ⟨entry.flowId, routeId, entry.startTime⟩
  | _ => []

/-- The entry behind a flush, if it is retained. -/
def kept (nowMs : Int) (entry : FlowEntry) : Option FlowEntry := (entry.visit nowMs [] .empty).2

theorem visit_kept (nowMs : Int) (drained : List Nat) (output : FlushOutput) (entry : FlowEntry) :
    (entry.visit nowMs drained output).2 = entry.kept nowMs := by
  unfold kept
  cases entry with
  | pending route => rfl
  | app entry =>
    simp only [visit]
    split
    · split_ifs <;> rfl
    · rfl
  | user entry =>
    simp only [visit]
    split_ifs <;> rfl

theorem kept_app (nowMs : Int) (entry : AppFlowEntry) :
    (FlowEntry.app entry).kept nowMs = some (.app { entry with pending := ⟨false, ∅, false⟩ }) ∨
      entry.stage = .finished ∧ (FlowEntry.app entry).kept nowMs = none := by
  simp only [kept, visit]
  split
  · rename_i finishTime finished _
    by_cases expired : nowMs - finishTime > ttlMs
    · exact .inr ⟨finished, by rw [if_pos expired]⟩
    · exact .inl (by rw [if_neg expired])
  · exact .inl rfl

theorem kept_user (nowMs : Int) (entry : UserFlowEntry) :
    (FlowEntry.user entry).kept nowMs =
      if entry.stage = .finished then none
      else some (.user { entry with pendingStart := false, pendingFinish := none }) := by
  simp only [kept, visit]
  split_ifs <;> rfl

theorem visit_starts (nowMs : Int) (drained : List Nat) (output : FlushOutput) (entry : FlowEntry) :
    (entry.visit nowMs drained output).1.starts.Perm
      (output.starts ++ entry.owedStart.toList) := by
  cases entry with
  | pending route => simp [visit, owedStart]
  | app entry =>
    have shape : (visit nowMs drained output (.app entry)).1.starts =
        (if entry.pending.sendStart then
          { output with
            appFlows := output.appFlows ++
              [⟨entry.flowId, entry.srcNodeId, entry.dstNodeId, entry.startTime⟩] }
        else output).starts := by
      simp only [visit, FlushOutput.starts]
      split <;> split_ifs <;> first | rfl | (split <;> rfl)
    rw [shape]
    by_cases send : entry.pending.sendStart = true
    · simp only [send, if_true, owedStart, FlushOutput.starts, List.map_append, List.map_cons,
        List.map_nil, Option.toList_some, List.append_assoc]
      exact List.Perm.append_left _ List.perm_append_comm
    · simp [send, owedStart]
  | user entry =>
    have shape : (visit nowMs drained output (.user entry)).1.starts =
        output.starts ++ (owedStart (.user entry)).toList := by
      simp only [visit, owedStart, FlushOutput.starts]
      split_ifs <;> split <;> simp
    rw [shape]

theorem visit_finishes (nowMs : Int) (drained : List Nat) (output : FlushOutput)
    (entry : FlowEntry) :
    (entry.visit nowMs drained output).1.finishes = output.finishes ++ entry.owedFinish.toList := by
  cases entry with
  | pending route => simp [visit, owedFinish]
  | app entry =>
    cases snapshot : entry.finishedSnapshot with
    | none =>
      simp only [visit, owedFinish, snapshot]
      split <;> split_ifs <;> simp
    | some finished =>
      simp only [visit, owedFinish, snapshot]
      split <;> split_ifs <;> simp
  | user entry =>
    cases info : entry.pendingFinish with
    | none =>
      simp only [visit, owedFinish, info]
      split_ifs <;> simp
    | some info =>
      simp only [visit, owedFinish, info]
      split_ifs <;> simp

theorem visit_assignments (nowMs : Int) (drained : List Nat) (output : FlushOutput)
    (entry : FlowEntry) :
    (entry.visit nowMs drained output).1.assignments =
      output.assignments ++ entry.drainedAs drained := by
  cases entry with
  | pending route => simp [visit, drainedAs]
  | app entry =>
    simp only [visit, drainedAs]
    cases entry.finishedSnapshot <;> split <;> split_ifs <;> rfl
  | user entry =>
    simp only [visit, drainedAs, List.append_nil]
    split_ifs <;> split <;> rfl

end FlowEntry

namespace FlowStore

variable {nowMs : Int} {drained : FlowId → List Nat}

theorem unvisited {flowId : FlowId} {rest : List FlowId} (absent : flowId ∉ rest)
    (store : FlowStore) (kept : Option FlowEntry) :
    ∀ other ∈ rest, Function.update store.entries flowId kept other = store.entries other := by
  intro other member
  have different : other ≠ flowId := fun same => absent (same ▸ member)
  rw [Function.update_of_ne different]

/-- What is reported of entries that are visited once each: of every entry what it owes. -/
theorem flush_starts (order : List FlowId) (distinct : order.Nodup) (output : FlushOutput)
    (store : FlowStore) :
    (flush nowMs drained order output store).1.starts.Perm
      (output.starts ++ order.filterMap fun flowId =>
        (store.entries flowId).bind FlowEntry.owedStart) := by
  induction order generalizing output store with
  | nil => simp [flush]
  | cons flowId rest induction =>
    rcases List.nodup_cons.mp distinct with ⟨absent, distinct⟩
    rw [flush]
    cases found : store.entries flowId with
    | none => simpa [found] using induction distinct output store
    | some entry =>
      have later := induction distinct (entry.visit nowMs (drained flowId) output).1
        ⟨Function.update store.entries flowId (entry.visit nowMs (drained flowId) output).2⟩
      rw [List.filterMap_congr fun other member =>
        congrArg (Option.bind · FlowEntry.owedStart) (unvisited absent store _ other member)]
        at later
      have first := entry.visit_starts nowMs (drained flowId) output
      apply (later.trans (first.append_right _)).trans
      cases owed : entry.owedStart <;> simp [found, owed]

theorem flush_finishes (order : List FlowId) (distinct : order.Nodup) (output : FlushOutput)
    (store : FlowStore) :
    (flush nowMs drained order output store).1.finishes =
      output.finishes ++ order.filterMap fun flowId =>
        (store.entries flowId).bind FlowEntry.owedFinish := by
  induction order generalizing output store with
  | nil => simp [flush]
  | cons flowId rest induction =>
    rcases List.nodup_cons.mp distinct with ⟨absent, distinct⟩
    rw [flush]
    cases found : store.entries flowId with
    | none => simpa [found] using induction distinct output store
    | some entry =>
      simp only [induction distinct, FlowEntry.visit_finishes, List.append_assoc]
      rw [List.filterMap_congr fun other member =>
        congrArg (Option.bind · FlowEntry.owedFinish) (unvisited absent store _ other member)]
      cases owed : entry.owedFinish <;> simp [found, owed]

def drainedOf (drained : FlowId → List Nat) (store : FlowStore) (flowId : FlowId) :
    List RouteAssignment :=
  match store.entries flowId with
  | some entry => entry.drainedAs (drained flowId)
  | none => []

theorem flush_assignments (order : List FlowId) (distinct : order.Nodup) (output : FlushOutput)
    (store : FlowStore) :
    (flush nowMs drained order output store).1.assignments =
      output.assignments ++ order.flatMap (drainedOf drained store) := by
  induction order generalizing output store with
  | nil => simp [flush]
  | cons flowId rest induction =>
    rcases List.nodup_cons.mp distinct with ⟨absent, distinct⟩
    rw [flush]
    cases found : store.entries flowId with
    | none => simpa [found, drainedOf] using induction distinct output store
    | some entry =>
      have unchanged : ∀ kept, ∀ other ∈ rest,
          drainedOf drained ⟨Function.update store.entries flowId kept⟩ other =
            drainedOf drained store other := by
        intro kept other member
        simp only [drainedOf, unvisited absent store kept other member]
      simp only [induction distinct, FlowEntry.visit_assignments, List.append_assoc,
        List.flatMap_congr (unchanged _)]
      simp [drainedOf, found]

theorem flush_entries (order : List FlowId) (distinct : order.Nodup) (output : FlushOutput)
    (store : FlowStore) (flowId : FlowId) :
    (flush nowMs drained order output store).2.entries flowId =
      if flowId ∈ order then (store.entries flowId).bind (FlowEntry.kept nowMs)
      else store.entries flowId := by
  induction order generalizing output store with
  | nil => simp [flush]
  | cons visited rest induction =>
    rcases List.nodup_cons.mp distinct with ⟨absent, others⟩
    rw [flush]
    by_cases same : flowId = visited
    · subst same
      cases found : store.entries flowId with
      | none => simp [induction others, found]
      | some entry => simp [induction others, absent, FlowEntry.visit_kept]
    · cases found : store.entries visited with
      | none => simp [induction others, same]
      | some entry => simp [induction others, same]

theorem flush_visits {order : List FlowId} {store : FlowStore} (visits : store.Visits order)
    (output : FlushOutput) (flowId : FlowId) :
    (flush nowMs drained order output store).2.entries flowId =
      (store.entries flowId).bind (FlowEntry.kept nowMs) := by
  rw [flush_entries order visits.1]
  split_ifs with visited
  · rfl
  · have absent : store.entries flowId = none := by
      by_contra present
      exact visited (visits.2 flowId present)
    simp [absent]

end FlowStore

/-! ## Entries keep their flow ids -/

def FlowEntry.ownFlowId : FlowEntry → Option FlowId
  | .pending _ => none
  | .app entry => some entry.flowId
  | .user entry => some entry.flowId

namespace FlowStore

def Keyed (store : FlowStore) : Prop :=
  ∀ flowId entry, store.entries flowId = some entry →
    ∀ own, entry.ownFlowId = some own → own = flowId

theorem keyed_insert {store : FlowStore} (keyed : store.Keyed) {flowId : FlowId}
    {entry : FlowEntry} (own : ∀ own, entry.ownFlowId = some own → own = flowId) :
    (store.insert flowId entry).Keyed := by
  intro other present found
  rw [insert_entries] at found
  split_ifs at found with same
  · cases found
    rw [same]
    exact own
  · exact keyed other present found

theorem keyed_remove {store : FlowStore} (keyed : store.Keyed) (flowId : FlowId) :
    (store.remove flowId).Keyed := by
  intro other present found
  rw [remove_entries] at found
  split_ifs at found
  exact keyed other present found

theorem keyed_app_start {store : FlowStore} (keyed : store.Keyed) (start : AppFlowStart) :
    (store.handleAppFlowStart start).Keyed := by
  have started : ∀ entry : AppFlowEntry, entry.flowId = start.flowId →
      (store.insert start.flowId (.app entry)).Keyed := by
    intro entry own
    apply keyed_insert keyed
    intro other named
    cases named
    exact own
  simp only [handleAppFlowStart]
  split
  · split_ifs
    · exact keyed
    · exact started _ rfl
  · exact started _ rfl
  · exact started _ rfl
  · exact started _ rfl

theorem keyed_message {store : FlowStore} (keyed : store.Keyed) (message : FlowStatsMessage) :
    (store.handleMessage message).Keyed := by
  cases message with
  | appFlowStart start => exact keyed_app_start keyed start
  | userFlowStart start =>
    apply keyed_insert keyed
    intro own named
    exact (Option.some.inj named).symm
  | routeAssigned route =>
    simp only [handleMessage, handleRouteAssigned]
    split
    · rename_i entry found
      apply keyed_insert keyed
      intro own named
      apply keyed _ _ found
      rcases entry.route_assignment_cases route.routeId route.assignmentTime with
        ⟨same, _⟩ | ⟨same, _⟩
      · rw [same] at named
        exact named
      · rw [same] at named
        exact named
    · apply keyed_insert keyed
      intro own named
      cases named
    · exact keyed
    · apply keyed_insert keyed
      intro own named
      cases named
  | flowFinished finished =>
    have unstarted : ∀ {store : FlowStore} (controllerId : Int), store.Keyed →
        (store.insert finished.flowId (.user
          (.finishedWithoutStart finished.flowId controllerId finished.finishTime))).Keyed := by
      intro store controllerId keyed
      apply keyed_insert keyed
      intro own named
      exact (Option.some.inj named).symm
    simp only [handleMessage, handleFlowFinished]
    split
    · rename_i entry found
      apply keyed_insert keyed
      intro own named
      apply keyed _ _ found
      rw [← named]
      unfold AppFlowEntry.markFinished
      split_ifs <;> rfl
    · rename_i entry found
      split
      · apply keyed_insert keyed
        intro own named
        rw [UserFlowEntry.finish_entry] at named
        exact keyed _ _ found own named
      · exact keyed
    · split
      · exact unstarted _ (keyed_remove keyed finished.flowId)
      · exact keyed_remove keyed finished.flowId
    · split
      · exact unstarted _ keyed
      · exact keyed

theorem keyed_flush {store : FlowStore} {nowMs : Int} {order : List FlowId}
    {drained : FlowId → List Nat} (keyed : store.Keyed) (visits : store.Visits order) :
    (flush nowMs drained order .empty store).2.Keyed := by
  intro flowId entry found own named
  rw [flush_visits visits] at found
  rcases Option.bind_eq_some_iff.mp found with ⟨earlier, present, kept⟩
  apply keyed flowId earlier present
  rw [← named]
  cases earlier with
  | pending route =>
    cases kept
    rfl
  | app earlier =>
    rcases FlowEntry.kept_app nowMs earlier with sent | ⟨_, gone⟩
    · rw [sent] at kept
      cases kept
      rfl
    · rw [gone] at kept
      cases kept
  | user earlier =>
    rw [FlowEntry.kept_user] at kept
    split_ifs at kept
    cases kept
    rfl

end FlowStore

end Nextmini.Node
