import Mathlib.Data.Finset.Basic
import Nextmini.Controller.UnicastDelivery

/-!
# Route synchronisation

The controller keeps the unicast tables of connected nodes beside the rows of the route table. A row
that is inserted or updated raises a notification, a deleted one does not. A notification is worked
off by reading the rows and sending each node its routes, and a node without any is sent nothing;
rows may change while this goes on. The nodes are those connected throughout: start-ups, at which a node
is sent its routes in every case, are outside. Queries and sends do not fail here, and the rows keep
their order until they change.
-/

namespace Nextmini.Controller

open Nextmini.Library Nextmini.Routing

set_option autoImplicit false

/-! ## Rows and notifications -/

inductive RouteChange where
  | insert (route : Route)
  | update (route : Route)
  | delete (routeId : Nat)

def RouteChange.apply (change : RouteChange) (rows : List Route) : List Route :=
  match change with
  | .insert route => rows ++ [route]
  | .update route => rows.map fun row => if row.routeId = route.routeId then route else row
  | .delete routeId => rows.filter fun row => row.routeId ≠ routeId

/-- The trigger fires after an insert or an update of a row. -/
def RouteChange.notifies : RouteChange → Bool
  | .insert _ => true
  | .update _ => true
  | .delete _ => false

/-- A synchronisation under way: the rows it has read and the nodes it has not sent to yet. -/
structure RouteSync where
  routes : List Route
  targets : List UInt32

/-- The rows, the notifications not worked off, and the routes last installed at each node. -/
structure SyncState where
  rows : List Route
  notifications : Nat
  syncing : Option RouteSync
  held : UInt32 → List RoutingTableEntry

inductive SyncLabel where
  | changed (change : RouteChange) (rows : List Route)
  | syncStarted (targets : List UInt32)
  | routesSent
  | syncFinished

def SyncLabel.isChange : SyncLabel → Bool
  | .changed _ _ => true
  | _ => false

/-- A node with routes is sent them; for a node without any there is only a warning. -/
def sendRoutes (routes : List Route) (nodeId : UInt32) (held : UInt32 → List RoutingTableEntry) :
    UInt32 → List RoutingTableEntry :=
  match buildRoutesForNode routes nodeId with
  | none => held
  | some entries => Function.update held nodeId (entries.map RouteEntry.toRoutingTableEntry)

section Sync

variable (connected : Finset UInt32)

inductive SyncStep : SyncState → SyncLabel → SyncState → Prop
  | changed (state : SyncState) (change : RouteChange) (rows : List Route) :
      rows.Perm (change.apply state.rows) →
        SyncStep state (.changed change rows)
          { state with
            rows := rows
            notifications := state.notifications + if change.notifies then 1 else 0 }
  | syncStarted (state : SyncState) (targets : List UInt32) :
      0 < state.notifications → state.syncing = none →
        (∀ node, node ∈ targets ↔ node ∈ connected) →
          SyncStep state (.syncStarted targets)
            { state with
              notifications := state.notifications - 1
              syncing := some ⟨state.rows, targets⟩ }
  | routesSent (state : SyncState) (routes : List Route) (node : UInt32) (rest : List UInt32) :
      state.syncing = some ⟨routes, node :: rest⟩ →
        SyncStep state .routesSent
          { state with
            syncing := some ⟨routes, rest⟩
            held := sendRoutes routes node state.held }
  | syncFinished (state : SyncState) (routes : List Route) :
      state.syncing = some ⟨routes, []⟩ →
        SyncStep state .syncFinished { state with syncing := none }

/-- A unicast table as lookups see it: the route ids under a pair of nodes and the hops of an id. -/
def unicastTable (entries : List RoutingTableEntry) :
    (NodeId → NodeId → List Nat) × (Nat → Option (List NodeId)) :=
  let installed := InstalledRoutes.empty.installRoutes entries
  (fun srcNodeId dstNodeId => installed.availableRoutes.getD (.unicast srcNodeId dstNodeId) [],
    fun routeId => installed.routeNextHop[routeId]?)

/-- An install leaves the unicast part of any table as it leaves that of an empty one. -/
theorem installed_unicast_table (installed : InstalledRoutes) (entries : List RoutingTableEntry) :
    (∀ srcNodeId dstNodeId,
      (installed.installRoutes entries).availableRoutes.getD (.unicast srcNodeId dstNodeId) [] =
        (unicastTable entries).1 srcNodeId dstNodeId) ∧
    ∀ routeId ∈ entries.map RoutingTableEntry.routeId,
      (installed.installRoutes entries).routeNextHop[routeId]? = (unicastTable entries).2 routeId := by
  have added (start other : InstalledRoutes) : ∀ routeId ∈ entries.map RoutingTableEntry.routeId,
      (entries.foldl InstalledRoutes.addRoute start).routeNextHop[routeId]? =
        (entries.foldl InstalledRoutes.addRoute other).routeNextHop[routeId]? := by
    induction entries using List.reverseRecOn with
    | nil =>
      intro routeId member
      cases member
    | append_singleton earlier last induction =>
      intro routeId member
      simp only [List.foldl_append, List.foldl_cons, List.foldl_nil, InstalledRoutes.addRoute,
        Std.HashMap.getElem?_insert]
      split_ifs with own
      · rfl
      · apply induction routeId
        rw [List.map_append, List.mem_append, List.map_singleton, List.mem_singleton] at member
        rcases member with before | last
        · exact before
        · exact absurd (beq_iff_eq.mpr last.symm) own
  constructor
  · intro srcNodeId dstNodeId
    simp only [unicastTable, installed_unicast_ids]
  · exact added _ _

/-- Each connected node holds the table that it would be given on start-up. -/
def InSync (state : SyncState) : Prop :=
  ∀ node ∈ connected, unicastTable (state.held node) = unicastTable (startUpRoutes state.rows node)

def SyncState.Quiet (state : SyncState) : Prop :=
  state.notifications = 0 ∧ state.syncing = none

/-- Runs start with nodes that have started up on the rows there are. -/
def routeSync : TransitionSystem SyncState SyncLabel where
  initial state := state.Quiet ∧ ∀ node ∈ connected, state.held node = startUpRoutes state.rows node
  step := SyncStep connected

/-! ## What the synchronisation settles -/

/-- What a node holds once the synchronisation under way has sent to it. -/
def SyncState.upcoming (state : SyncState) (node : UInt32) : List RoutingTableEntry :=
  match state.syncing with
  | none => state.held node
  | some sync =>
      if node ∈ sync.targets ∧ startUpRoutes sync.routes node ≠ [] then
        startUpRoutes sync.routes node
      else state.held node

/-- Each connected node is about to hold its table, or has routes and a notification to bring it. -/
def Settles (state : SyncState) : Prop :=
  ∀ node ∈ connected,
    unicastTable (state.upcoming node) = unicastTable (startUpRoutes state.rows node) ∨
      0 < state.notifications ∧ startUpRoutes state.rows node ≠ []

variable {connected}

theorem sent_routes (routes : List Route) (nodeId node : UInt32)
    (held : UInt32 → List RoutingTableEntry) :
    sendRoutes routes nodeId held node =
      if node = nodeId ∧ startUpRoutes routes node ≠ [] then startUpRoutes routes node
      else held node := by
  rw [sendRoutes, startUpRoutes]
  by_cases same : node = nodeId
  · subst same
    cases built : buildRoutesForNode routes node with
    | none => simp
    | some entries =>
      have present : entries ≠ [] := by
        rw [buildRoutesForNode] at built
        split_ifs at built with empty
        cases built
        exact empty
      simp [present]
  · cases buildRoutesForNode routes nodeId with
    | none => simp [same]
    | some entries => simp [same]

theorem settles_step {state next : SyncState} {label : SyncLabel}
    (step : SyncStep connected state label next) (unchanged : label.isChange = false) :
    Settles connected next ↔ Settles connected state := by
  cases step with
  | changed change rows perm => cases unchanged
  | syncStarted targets pending idle all =>
    apply forall₂_congr
    intro node member
    simp only [SyncState.upcoming, idle, (all node).mpr member, true_and]
    by_cases routed : startUpRoutes state.rows node = []
    · simp [routed]
    · simp [routed, pending]
  | routesSent routes target rest underway =>
    apply forall₂_congr
    intro node member
    have same : SyncState.upcoming
        { state with
          syncing := some ⟨routes, rest⟩
          held := sendRoutes routes target state.held } node = state.upcoming node := by
      simp only [SyncState.upcoming, underway, sent_routes, List.mem_cons]
      by_cases routed : startUpRoutes routes node = []
      · simp [routed]
      · by_cases now : node = target
        · subst now
          simp [routed]
        · simp [routed, now]
    rw [same]
  | syncFinished routes underway =>
    apply forall₂_congr
    intro node member
    simp [SyncState.upcoming, underway]

theorem settles_run {state finish : SyncState} {labels : List SyncLabel}
    (run : (routeSync connected).Run state labels finish)
    (unchanged : ∀ label ∈ labels, label.isChange = false) :
    Settles connected finish ↔ Settles connected state := by
  induction run with
  | nil => rfl
  | snoc _ step induction =>
    rw [settles_step step (unchanged _ (by simp))]
    apply induction
    intro label member
    exact unchanged label (List.mem_append_left _ member)

theorem quiet_settles_iff {state : SyncState} (quiet : state.Quiet) :
    Settles connected state ↔ InSync connected state := by
  rcases quiet with ⟨none, idle⟩
  simp [Settles, InSync, SyncState.upcoming, none, idle]

theorem settles_change {state next : SyncState} {change : RouteChange} {rows : List Route}
    (step : SyncStep connected state (.changed change rows) next) :
    Settles connected next ↔ ∀ node ∈ connected,
      unicastTable (state.upcoming node) = unicastTable (startUpRoutes rows node) ∨
        (change.notifies = true ∨ 0 < state.notifications) ∧ startUpRoutes rows node ≠ [] := by
  cases step with
  | changed _ _ perm =>
    apply forall₂_congr
    intro node member
    have pending : 0 < state.notifications + (if change.notifies then 1 else 0) ↔
        change.notifies = true ∨ 0 < state.notifications := by
      cases change.notifies <;> simp
    simp only [SyncState.upcoming, pending]

/-- A run ends with a change and what follows it without another. -/
inductive LastChange (connected : Finset UInt32) (start : SyncState) (labels : List SyncLabel)
    (finish : SyncState) : SyncState → RouteChange → List Route → Prop
  | intro {before after : List SyncLabel} {state next : SyncState} {change : RouteChange}
      {rows : List Route} :
      labels = before ++ .changed change rows :: after →
        (routeSync connected).Run start before state →
          SyncStep connected state (.changed change rows) next →
            (routeSync connected).Run next after finish →
              (∀ label ∈ after, label.isChange = false) →
                LastChange connected start labels finish state change rows

theorem last_change_or_none {start finish : SyncState} {labels : List SyncLabel}
    (run : (routeSync connected).Run start labels finish) :
    (∀ label ∈ labels, label.isChange = false) ∨
      ∃ state change rows, LastChange connected start labels finish state change rows := by
  induction run with
  | nil =>
    left
    intro label member
    cases member
  | @snoc labels middle finish label before step induction =>
    by_cases unchanged : label.isChange = false
    · have extended {after : List SyncLabel} (earlier : ∀ other ∈ after, other.isChange = false) :
          ∀ other ∈ after ++ [label], other.isChange = false := by
        intro other member
        rcases List.mem_append.mp member with known | last
        · exact earlier other known
        · rw [List.mem_singleton.mp last]
          exact unchanged
      rcases induction with none | ⟨state, change, rows, last⟩
      · exact .inl (extended none)
      · rcases last with ⟨rfl, reached, changed, later, quiet⟩
        refine .inr ⟨state, change, rows, .intro ?_ reached changed (.snoc later step)
          (extended quiet)⟩
        rw [List.append_assoc, List.cons_append]
    · cases label with
      | changed change rows =>
        refine .inr ⟨middle, change, rows, .intro rfl before step .nil ?_⟩
        intro label member
        cases member
      | syncStarted targets => exact absurd rfl unchanged
      | routesSent => exact absurd rfl unchanged
      | syncFinished => exact absurd rfl unchanged

/-- Once all notifications have been processed, each connected node holds the table it would start
up with exactly when the last change left it one of two ways: it was already to hold that table, or
it has routes in the new rows and a notification of the change, or of an earlier one, was to come. -/
theorem routes_converge_iff (connected : Finset UInt32) {start finish : SyncState}
    {labels : List SyncLabel} (initial : (routeSync connected).initial start)
    (run : (routeSync connected).Run start labels finish) (quiet : finish.Quiet) :
    InSync connected finish ↔
      ∀ state change rows, LastChange connected start labels finish state change rows →
        ∀ node ∈ connected,
          unicastTable (state.upcoming node) = unicastTable (startUpRoutes rows node) ∨
            (change.notifies = true ∨ 0 < state.notifications) ∧ startUpRoutes rows node ≠ [] := by
  rw [← quiet_settles_iff quiet]
  constructor
  · rintro settles state change rows ⟨_, _, step, later, unchanged⟩
    rw [← settles_change step]
    exact (settles_run later unchanged).mp settles
  · intro covered
    rcases last_change_or_none run with unchanged | ⟨state, change, rows, last⟩
    · rw [settles_run run unchanged, quiet_settles_iff initial.1]
      intro node member
      rw [initial.2 node member]
    · have settled := covered state change rows last
      rcases last with ⟨_, _, step, later, unchanged⟩
      rw [settles_run later unchanged, settles_change step]
      exact settled

variable (connected)

theorem sends_finish (routes : List Route) (targets : List UInt32) {state : SyncState}
    (underway : state.syncing = some ⟨routes, targets⟩) :
    ∃ labels finish, (routeSync connected).Run state labels finish ∧
      (∀ label ∈ labels, label.isChange = false) ∧ finish.syncing = none ∧
        finish.notifications = state.notifications := by
  induction targets generalizing state with
  | nil =>
    refine ⟨[.syncFinished], { state with syncing := none },
      .single (.syncFinished state routes underway), ?_, rfl, rfl⟩
    intro label member
    rw [List.mem_singleton.mp member]
    rfl
  | cons node rest induction =>
    let later : SyncState :=
      { state with
        syncing := some ⟨routes, rest⟩
        held := sendRoutes routes node state.held }
    have sent : (routeSync connected).step state .routesSent later :=
      .routesSent state routes node rest underway
    have begun : later.syncing = some ⟨routes, rest⟩ := rfl
    rcases induction begun with ⟨labels, finish, run, unchanged, idle, same⟩
    refine ⟨.routesSent :: labels, finish, .cons sent run, ?_, idle, same⟩
    intro label member
    rcases List.mem_cons.mp member with rfl | after
    · rfl
    · exact unchanged label after

theorem notification_processed {state : SyncState} (idle : state.syncing = none)
    (one : state.notifications = 1) :
    ∃ labels finish, (routeSync connected).Run state labels finish ∧
      (∀ label ∈ labels, label.isChange = false) ∧ finish.Quiet := by
  let later : SyncState :=
    { state with
      notifications := state.notifications - 1
      syncing := some ⟨state.rows, connected.toList⟩ }
  have pending : 0 < state.notifications := Nat.lt_of_lt_of_eq Nat.zero_lt_one one.symm
  have started : (routeSync connected).step state (.syncStarted connected.toList) later :=
    .syncStarted state connected.toList pending idle fun _ => Finset.mem_toList
  have begun : later.syncing = some ⟨state.rows, connected.toList⟩ := rfl
  rcases sends_finish connected state.rows connected.toList begun with
    ⟨labels, finish, run, unchanged, finished, same⟩
  refine ⟨.syncStarted connected.toList :: labels, finish, .cons started run, ?_, ?_, finished⟩
  · intro label member
    rcases List.mem_cons.mp member with rfl | after
    · rfl
    · exact unchanged label after
  · rw [same]
    simp [later, one]

end Sync

/-! ## A new route, a deleted one, and a node left behind -/

def startedOn (rows : List Route) : SyncState where
  rows := rows
  notifications := 0
  syncing := none
  held := startUpRoutes rows

theorem started_on_initial (connected : Finset UInt32) (rows : List Route) :
    (routeSync connected).initial (startedOn rows) :=
  ⟨⟨rfl, rfl⟩, fun _ _ => rfl⟩

theorem first_change_only {labels before after : List SyncLabel} {first change : RouteChange}
    {firstRows rows : List Route} (unchanged : ∀ label ∈ labels, label.isChange = false)
    (same : .changed first firstRows :: labels = before ++ .changed change rows :: after) :
    change = first ∧ rows = firstRows := by
  cases before with
  | nil =>
    cases same
    exact ⟨rfl, rfl⟩
  | cons label rest =>
    rw [List.cons_append, List.cons.injEq] at same
    have member : .changed change rows ∈ labels := by
      rw [same.2]
      exact List.mem_append_right _ List.mem_cons_self
    nomatch unchanged _ member

theorem change_then_quiet (connected : Finset UInt32) {rows changed : List Route}
    {change : RouteChange} (applied : changed.Perm (change.apply rows))
    (notifies : change.notifies = true) :
    ∃ next labels finish, (routeSync connected).step (startedOn rows) (.changed change changed) next ∧
      (routeSync connected).Run next labels finish ∧
        (∀ label ∈ labels, label.isChange = false) ∧ finish.Quiet := by
  let next : SyncState := { startedOn rows with rows := changed, notifications := 1 }
  have step : SyncStep connected (startedOn rows) (.changed change changed) _ :=
    .changed (startedOn rows) change changed applied
  rw [if_pos notifies] at step
  have idle : next.syncing = none := rfl
  have one : next.notifications = 1 := rfl
  rcases notification_processed connected idle one with ⟨labels, finish, later, unchanged, quiet⟩
  exact ⟨next, labels, finish, step, later, unchanged, quiet⟩

/-- A route that is inserted reaches its two nodes. -/
theorem inserted_route_converges :
    ∃ labels finish, (routeSync {1, 2}).Run (startedOn [])
      (.changed (.insert edgeRoute) [edgeRoute] :: labels) finish ∧
        finish.Quiet ∧ InSync {1, 2} finish := by
  have applied : [edgeRoute].Perm ((RouteChange.insert edgeRoute).apply []) := .refl _
  rcases change_then_quiet {1, 2} applied rfl with
    ⟨next, labels, finish, step, later, unchanged, quiet⟩
  have run := TransitionSystem.Run.cons step later
  refine ⟨labels, finish, run, quiet, ?_⟩
  apply (routes_converge_iff {1, 2} (started_on_initial _ _) run quiet).mpr
  rintro state change rows ⟨listed, _, _, _, _⟩ node member
  rcases first_change_only unchanged listed with ⟨rfl, rfl⟩
  refine .inr ⟨.inl rfl, ?_⟩
  rcases Finset.mem_insert.mp member with rfl | member
  · exact List.ne_nil_of_length_pos (by decide)
  · rw [Finset.mem_singleton.mp member]
    exact List.ne_nil_of_length_pos (by decide)

def movedRoute : Route where
  routeId := 1
  srcNodeId := 1
  dstNodeId := 3
  edges := [(1, 3)]

/-- A deleted route stays at its nodes, and so does a route that is moved away from a node. -/
theorem left_routes_stay :
    (∃ finish, (routeSync {1, 2}).Run (startedOn [edgeRoute]) [.changed (.delete 1) []] finish ∧
      finish.Quiet ∧ ¬InSync {1, 2} finish) ∧
    ∃ labels finish, (routeSync {1, 2}).Run (startedOn [edgeRoute])
      (.changed (.update movedRoute) [movedRoute] :: labels) finish ∧
        finish.Quiet ∧ ¬InSync {1, 2} finish := by
  have stale : unicastTable (startUpRoutes [edgeRoute] 2) ≠ unicastTable [] := by
    intro same
    have ids := congrFun (congrFun (congrArg Prod.fst same) 1) 2
    simp only [unicastTable, installed_unicast_ids] at ids
    exact absurd ids (by decide)
  constructor
  · have deleted : (routeSync {1, 2}).step (startedOn [edgeRoute]) (.changed (.delete 1) [])
        { startedOn [edgeRoute] with rows := [] } :=
      .changed (startedOn [edgeRoute]) (.delete 1) [] (.refl _)
    refine ⟨_, .single deleted, ⟨rfl, rfl⟩, ?_⟩
    intro inSync
    exact stale (inSync 2 (by decide))
  · have applied : [movedRoute].Perm ((RouteChange.update movedRoute).apply [edgeRoute]) := .refl _
    rcases change_then_quiet {1, 2} applied rfl with
      ⟨next, labels, finish, step, later, unchanged, quiet⟩
    refine ⟨labels, finish, .cons step later, quiet, ?_⟩
    rw [← quiet_settles_iff quiet, settles_run later unchanged, settles_change step]
    intro settled
    rcases settled 2 (by decide) with same | ⟨_, routed⟩
    · exact stale same
    · exact routed rfl

end Nextmini.Controller
