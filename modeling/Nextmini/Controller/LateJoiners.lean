import Mathlib.Data.List.Pairwise
import Nextmini.Controller.GroupTables
import Nextmini.Library.TransitionSystem

/-!
# Late joiners

The group directory and the group routes that a node is sent as it starts up. A flag that is read from
the tables when the controller starts decides between the snapshot of the tables and an empty
directory. The queries of one start-up are answered from one state of the tables, and encoding and
sending do not fail.
-/

namespace Nextmini.Controller

open Nextmini.Library Nextmini.Routing

set_option autoImplicit false

/-! ## The snapshot -/

def loadGroupDirectoryEntries (tables : GroupTables) : List GroupDirectoryEntry :=
  tables.loadGroupDirectory.map fun group => ⟨asUsize group.id, group.groupIp⟩

/-- The source and the trees of each group. -/
abbrev SnapshotTrees := List (Int × Int × List GroupRouteTree)

/-- A row adds its tree to those of its group, if there is one. -/
def pushTree (byGroup : SnapshotTrees) (row : DbGroupRoute) : SnapshotTrees :=
  byGroup.map fun group =>
    (group.1, group.2.1, if group.1 = row.groupId then group.2.2 ++ [row.tree] else group.2.2)

def buildGroupRoutesSnapshotTrees (groups : List Group) (storedRoutes : List DbGroupRoute) :
    SnapshotTrees :=
  storedRoutes.foldl pushTree (groups.map fun group => (group.id, group.srcNodeId, []))

def storedRoutes (tables : GroupTables) : List DbGroupRoute :=
  tables.routes.mergeSort fun left right =>
    left.groupId < right.groupId ∨ (left.groupId = right.groupId ∧ left.treeId ≤ right.treeId)

def encodeGroupRoutesSnapshotPayload (groupId srcNodeId : Int) (trees : List GroupRouteTree)
    (nodeId : NodeId) (memberSet : Finset UInt32) : Except String RoutingOp :=
  if groupId < 0 then
    .error s!"group_routes.group_id must be non-negative (group_id={groupId})"
  else if srcNodeId < 0 then
    .error (s!"group_routes.src_node_id must be non-negative (group_id={groupId}, " ++
      s!"src_node_id={srcNodeId})")
  else do
    let routes ← buildGroupRoutesForNodeMultitree groupId.toNat trees (UInt32.ofNat nodeId) memberSet
    .ok (.installGroupRoutes groupId.toNat srcNodeId.toNat routes)

def memberSet (tables : GroupTables) (groupId : Int) : Finset UInt32 :=
  (tables.loadGroupMembers groupId).toFinset

/-- A group whose routes cannot be encoded is skipped with a warning. -/
def sendGroupRoutesSnapshotToNode (tables : GroupTables) (nodeId : NodeId) : List RoutingOp :=
  if tables.loadGroupDirectory.isEmpty then []
  else
    (buildGroupRoutesSnapshotTrees tables.loadGroupDirectory (storedRoutes tables)).filterMap
      fun group => (encodeGroupRoutesSnapshotPayload group.1 group.2.1 group.2.2 nodeId
        (memberSet tables group.1)).toOption

def sendMulticastStateToNode (tables : GroupTables) (nodeId : NodeId) : List RoutingOp :=
  .installGroupDirectory (loadGroupDirectoryEntries tables) ::
    sendGroupRoutesSnapshotToNode tables nodeId

/-- The flag that is read as the controller starts. -/
def multicastSnapshotNeeded (tables : GroupTables) : Bool :=
  !tables.groups.isEmpty || !tables.routes.isEmpty

def startUpMulticast (snapshotNeeded : Bool) (tables : GroupTables) (nodeId : NodeId) :
    List RoutingOp :=
  if snapshotNeeded then sendMulticastStateToNode tables nodeId else [.installGroupDirectory []]

/-! ## What a node holds -/

def isGroupUpdate : RoutingOp → Bool
  | .installGroupDirectory _ => true
  | .installGroupRoutes _ _ _ => true
  | _ => false

def directoryAfter (groupDir : Std.HashMap Ipv4Addr GroupId) : RoutingOp →
    Std.HashMap Ipv4Addr GroupId
  | .installGroupDirectory groups => directory groups
  | _ => groupDir

def lastDirectory (ops : List RoutingOp) : Std.HashMap Ipv4Addr GroupId := ops.foldl directoryAfter ∅

/-- The node holds the directory and, for every group and its source, the routes of the tables. -/
structure HoldsGroups (tables : GroupTables) (nodeId : NodeId) (ops : List RoutingOp) : Prop where
  directory : lastDirectory ops = directory (loadGroupDirectoryEntries tables)
  routes : ∀ group ∈ tables.groups, 0 ≤ group.srcNodeId →
    ∃ routes, buildGroupRoutesForNodeMultitree group.id.toNat (tables.loadGroupTrees group.id)
      (UInt32.ofNat nodeId) (memberSet tables group.id) = .ok routes ∧
        ∀ treeId, SourceTrees.lastInstalled ops group.srcNodeId.toNat group.id.toNat treeId =
          treeHops group.id.toNat routes treeId

theorem last_directory_append (ops later : List RoutingOp) :
    lastDirectory (ops ++ later) = later.foldl directoryAfter (lastDirectory ops) :=
  List.foldl_append

theorem reference_directory {slot : JumpSlot} {reference next : ReferenceTable} {op : RoutingOp}
    {answer : RoutingAnswer} (applied : reference.apply slot op = some (next, answer)) :
    next.groupDir = directoryAfter reference.groupDir op := by
  cases ReferenceTable.apply_cases applied <;> rfl

/-- The directory of a routing table is the one its operations leave. -/
theorem table_directory {slot : JumpSlot} {config : LocalConfig}
    {labels : List (RoutingOp × RoutingAnswer)} {table : RoutingTable}
    (run : (routing slot config).Run (.new config) labels table) :
    table.groupDir = lastDirectory (labels.map Prod.fst) := by
  have followed : ∃ reference, CachesAgree slot table reference ∧
      reference.groupDir = lastDirectory (labels.map Prod.fst) := by
    apply TransitionSystem.history_of_run (motive := fun labels table =>
      ∃ reference, CachesAgree slot table reference ∧
        reference.groupDir = lastDirectory (labels.map Prod.fst)) run
    · exact ⟨.new config, new_tables_agree slot config, rfl⟩
    · rintro before state label next _ ⟨reference, agree, same⟩ step
      rcases reference_follows agree step with ⟨later, expected, agreeNext⟩
      refine ⟨later, agreeNext, ?_⟩
      rw [reference_directory expected, same, List.map_append, last_directory_append]
      rfl
  rcases followed with ⟨reference, agree, same⟩
  rw [agree.groupDir, same]

/-! ## Trees of the snapshot -/

theorem fold_push_trees (stored : List DbGroupRoute) (byGroup : SnapshotTrees) :
    stored.foldl pushTree byGroup = byGroup.map fun group =>
      (group.1, group.2.1,
        group.2.2 ++ (stored.filter fun row => row.groupId = group.1).map DbGroupRoute.tree) := by
  induction stored generalizing byGroup with
  | nil => simp
  | cons row rest induction =>
    rw [List.foldl_cons, induction, pushTree, List.map_map]
    apply List.map_congr_left
    intro group _
    by_cases own : row.groupId = group.1
    · simp [own]
    · simp [own, Ne.symm own]

theorem distinct_tree_ids {trees : List GroupRouteTree}
    (ascending : trees.Pairwise fun left right => left.treeId < right.treeId)
    {first second : GroupRouteTree} (firstOf : first ∈ trees) (secondOf : second ∈ trees)
    (different : first ≠ second) : first.treeId ≠ second.treeId := by
  have apart : trees.Pairwise fun left right => left.treeId ≠ right.treeId :=
    ascending.imp Nat.ne_of_lt
  have symmetric : Std.Symm fun left right : GroupRouteTree => left.treeId ≠ right.treeId :=
    ⟨fun _ _ => Ne.symm⟩
  exact apart.forall firstOf secondOf different

/-- The trees that the snapshot gathers for a group are those that a query for the group finds. -/
theorem stored_of_group {tables : GroupTables} (consistent : Consistent tables) (groupId : Nat) :
    ((storedRoutes tables).filter fun row => row.groupId = (groupId : Int)).map DbGroupRoute.tree =
      tables.loadGroupTrees groupId := by
  have ascending := (consistent.canonical groupId).ascending
  have permuted : (((storedRoutes tables).filter fun row => row.groupId = (groupId : Int)).map
      DbGroupRoute.tree).Perm (tables.loadGroupTrees groupId) := by
    apply List.Perm.map
    apply ((List.mergeSort_perm tables.routes _).filter _).trans
    exact (List.mergeSort_perm _ _).symm
  have sorted : (((storedRoutes tables).filter fun row => row.groupId = (groupId : Int)).map
      DbGroupRoute.tree).Pairwise fun left right => left.treeId ≤ right.treeId := by
    have whole : (storedRoutes tables).Pairwise fun left right =>
        decide (left.groupId < right.groupId ∨
          (left.groupId = right.groupId ∧ left.treeId ≤ right.treeId)) = true := by
      apply List.pairwise_mergeSort
      · intro first second third
        simp only [decide_eq_true_eq]
        omega
      · intro first second
        simp only [Bool.or_eq_true, decide_eq_true_eq]
        omega
    rw [List.pairwise_map]
    apply (whole.filter _).imp_of_mem
    intro left right leftOf rightOf ordered
    have leftGroup := of_decide_eq_true (List.mem_filter.mp leftOf).2
    have rightGroup := of_decide_eq_true (List.mem_filter.mp rightOf).2
    have before := of_decide_eq_true ordered
    change left.treeId ≤ right.treeId
    omega
  apply List.Perm.eq_of_pairwise _ sorted (ascending.imp Nat.le_of_lt) permuted
  intro left right leftOf rightOf below above
  by_contra different
  have apart := distinct_tree_ids ascending (permuted.mem_iff.mp leftOf) rightOf different
  exact apart (Nat.le_antisymm below above)

theorem snapshot_trees {tables : GroupTables} (consistent : Consistent tables) :
    buildGroupRoutesSnapshotTrees tables.loadGroupDirectory (storedRoutes tables) =
      tables.loadGroupDirectory.map fun group =>
        (group.id, group.srcNodeId, tables.loadGroupTrees group.id) := by
  rw [buildGroupRoutesSnapshotTrees, fold_push_trees, List.map_map]
  apply List.map_congr_left
  intro group member
  rw [GroupTables.loadGroupDirectory, List.mem_mergeSort] at member
  rcases consistent.identified group member with ⟨groupId, same, _⟩
  have stored := stored_of_group consistent groupId
  rw [← same] at stored
  simp only [Function.comp_apply, List.nil_append, stored]

/-! ## What a list of operations installs -/

/-- What a source installs for a group stays if whatever else it installs there is the same. -/
theorem installed_last {ops : List RoutingOp} {groupId : GroupId} {srcNodeId : NodeId}
    {routes : List GroupRoutingTableEntry} (trees : SourceTrees)
    (installed : .installGroupRoutes groupId srcNodeId routes ∈ ops)
    (only : ∀ other, .installGroupRoutes groupId srcNodeId other ∈ ops → other = routes)
    (treeId : UInt16) :
    ops.foldl SourceTrees.after trees srcNodeId groupId treeId = treeHops groupId routes treeId := by
  induction ops using List.reverseRecOn with
  | nil => cases installed
  | append_singleton earlier last induction =>
    rw [List.foldl_append]
    change SourceTrees.after _ last srcNodeId groupId treeId = _
    have before (other : RoutingOp) (different : .installGroupRoutes groupId srcNodeId routes ≠ other)
        (same : last = other) : earlier.foldl SourceTrees.after trees srcNodeId groupId treeId =
          treeHops groupId routes treeId := by
      apply induction
      · rcases List.mem_append.mp installed with known | now
        · exact known
        · exact absurd ((List.mem_singleton.mp now).trans same) different
      · intro other member
        exact only other (List.mem_append_left _ member)
    cases last with
    | installGroupRoutes group source entries =>
      simp only [SourceTrees.after, SourceTrees.install]
      split_ifs with own
      · rcases own with ⟨rfl, rfl⟩
        rw [only entries (List.mem_append_right _ List.mem_cons_self)]
      · apply before _ _ rfl
        intro same
        cases same
        exact own ⟨rfl, rfl⟩
    | installRoutes entries => exact before _ (by simp) rfl
    | installGroupDirectory groups => exact before _ (by simp) rfl
    | pinRouteForFlow flowId routeId => exact before _ (by simp) rfl
    | nextHops flowId tree => exact before _ (by simp) rfl
    | nextHop flowId => exact before _ (by simp) rfl

theorem directory_kept {ops : List RoutingOp} (groupDir : Std.HashMap Ipv4Addr GroupId)
    (others : ∀ groups, .installGroupDirectory groups ∉ ops) :
    ops.foldl directoryAfter groupDir = groupDir := by
  induction ops with
  | nil => rfl
  | cons op rest induction =>
    have later : ∀ groups, .installGroupDirectory groups ∉ rest := by
      intro groups member
      exact others groups (List.mem_cons_of_mem _ member)
    rw [List.foldl_cons]
    cases op with
    | installGroupDirectory groups => exact absurd List.mem_cons_self (others groups)
    | _ => exact induction later

theorem directory_nonempty {groups : List GroupDirectoryEntry} (entries : groups ≠ []) :
    directory groups ≠ directory [] := by
  rcases List.eq_nil_or_concat groups with none | ⟨earlier, last, rfl⟩
  · exact absurd none entries
  · intro same
    have found := congrArg (fun groupDir => groupDir[last.groupIp]?) same
    simp [directory] at found

/-! ## What a start-up installs -/

theorem encode_payload_ok {groupId srcNodeId : Int} {trees : List GroupRouteTree} {nodeId : NodeId}
    {members : Finset UInt32} {op : RoutingOp} :
    encodeGroupRoutesSnapshotPayload groupId srcNodeId trees nodeId members = .ok op ↔
      0 ≤ groupId ∧ 0 ≤ srcNodeId ∧ ∃ routes, buildGroupRoutesForNodeMultitree groupId.toNat trees
        (UInt32.ofNat nodeId) members = .ok routes ∧
          .installGroupRoutes groupId.toNat srcNodeId.toNat routes = op := by
  simp only [encodeGroupRoutesSnapshotPayload]
  split_ifs with group source
  · simp [Int.not_le.mpr group]
  · simp [Int.not_le.mpr source]
  · cases buildGroupRoutesForNodeMultitree groupId.toNat trees (UInt32.ofNat nodeId) members with
    | error reason => simp [bind, Except.bind]
    | ok routes => simp [bind, Except.bind, Int.not_lt.mp group, Int.not_lt.mp source]

section StartUp

variable {tables : GroupTables} (consistent : Consistent tables)

include consistent

theorem mem_snapshot (nodeId : NodeId) (op : RoutingOp) :
    op ∈ sendGroupRoutesSnapshotToNode tables nodeId ↔ ∃ group ∈ tables.groups,
      encodeGroupRoutesSnapshotPayload group.id group.srcNodeId (tables.loadGroupTrees group.id)
        nodeId (memberSet tables group.id) = .ok op := by
  have listed (group : Group) : group ∈ tables.loadGroupDirectory ↔ group ∈ tables.groups := by
    rw [GroupTables.loadGroupDirectory, List.mem_mergeSort]
  rw [sendGroupRoutesSnapshotToNode, snapshot_trees consistent]
  split_ifs with none
  · rw [List.isEmpty_iff] at none
    simp only [List.not_mem_nil, false_iff, not_exists, not_and]
    intro group member
    rw [← listed, none] at member
    cases member
  · simp only [List.mem_filterMap, List.mem_map, exists_exists_and_eq_and, listed]
    apply exists_congr
    intro group
    apply and_congr_right
    intro _
    cases encodeGroupRoutesSnapshotPayload group.id group.srcNodeId (tables.loadGroupTrees group.id)
      nodeId (memberSet tables group.id) <;> simp [Except.toOption]

theorem group_routes_built {group : Group} (member : group ∈ tables.groups) (nodeId : UInt32)
    (members : Finset UInt32) :
    0 ≤ group.id ∧ ∃ routes, buildGroupRoutesForNodeMultitree group.id.toNat
      (tables.loadGroupTrees group.id) nodeId members = .ok routes := by
  rcases consistent.identified group member with ⟨groupId, same, _⟩
  rw [same]
  exact ⟨Int.natCast_nonneg groupId,
    accepted_update_built nodeId members (canonical_accepted (consistent.canonical groupId))⟩

theorem snapshot_holds (nodeId : NodeId) :
    HoldsGroups tables nodeId (sendMulticastStateToNode tables nodeId) where
  directory := by
    have others : ∀ groups,
        .installGroupDirectory groups ∉ sendGroupRoutesSnapshotToNode tables nodeId := by
      intro groups member
      rcases (mem_snapshot consistent nodeId _).mp member with ⟨group, _, encoded⟩
      rcases encode_payload_ok.mp encoded with ⟨_, _, _, _, same⟩
      cases same
    exact directory_kept _ others
  routes := by
    intro group member source
    rcases group_routes_built consistent member (UInt32.ofNat nodeId) (memberSet tables group.id) with
      ⟨positive, routes, built⟩
    refine ⟨routes, built, installed_last _ ?_ ?_⟩
    · apply List.mem_cons_of_mem
      rw [mem_snapshot consistent]
      exact ⟨group, member, encode_payload_ok.mpr ⟨positive, source, routes, built, rfl⟩⟩
    · intro other sent
      rcases List.mem_cons.mp sent with impossible | sent
      · cases impossible
      · rcases (mem_snapshot consistent nodeId _).mp sent with ⟨sender, _, encoded⟩
        rcases encode_payload_ok.mp encoded with ⟨sent, _, entries, rebuilt, same⟩
        rw [RoutingOp.installGroupRoutes.injEq] at same
        have sameWord : sender.id.toNat = group.id.toNat := same.1
        have sameGroup : sender.id = group.id := by omega
        rw [sameGroup, built] at rebuilt
        cases rebuilt
        exact same.2.2.symm

theorem start_up_holds_iff (snapshotNeeded : Bool) (nodeId : NodeId) :
    HoldsGroups tables nodeId (startUpMulticast snapshotNeeded tables nodeId) ↔
      snapshotNeeded = true ∨ tables.groups = [] := by
  cases snapshotNeeded with
  | true => simp [startUpMulticast, snapshot_holds consistent]
  | false =>
    constructor
    · intro holds
      right
      by_contra groups
      apply directory_nonempty _ holds.directory.symm
      intro none
      rw [loadGroupDirectoryEntries, List.map_eq_nil_iff] at none
      apply groups
      rw [← List.length_eq_zero_iff, ← List.length_mergeSort, ← GroupTables.loadGroupDirectory, none]
      rfl
    · rintro (impossible | none)
      · cases impossible
      · refine ⟨?_, ?_⟩
        · simp [loadGroupDirectoryEntries, GroupTables.loadGroupDirectory, none, startUpMulticast,
            lastDirectory, directoryAfter]
        · simp [none]

end StartUp

/-! ## Histories -/

/-- The tables, the flag of the controller that runs, and the operations of each node's process. -/
structure GroupState where
  tables : GroupTables
  snapshotNeeded : Option Bool
  received : NodeId → List RoutingOp

/-- A controller can reset the tables as it starts. A node sends StartUp once, as its process starts;
what its routing table does later, because of a notification or a packet, is left open. -/
inductive GroupLabel where
  | groupCreated (label : String) (srcNodeId : NodeId)
  | joined (groupId : GroupId) (nodeId : NodeId)
  | left (groupId : GroupId) (nodeId : NodeId)
  | routesSet (requesterNodeId : NodeId) (groupId : GroupId) (trees : List GroupRouteTree)
  | controllerStarted (reset : Bool)
  | startedUp (nodeId : NodeId)
  | applied (nodeId : NodeId) (op : RoutingOp)

/-- A start-up of the node, or a later update of its groups. -/
def GroupLabel.notifies (nodeId : NodeId) : GroupLabel → Bool
  | .startedUp other => other = nodeId
  | .applied other op => other = nodeId && isGroupUpdate op
  | _ => false

section Histories

variable (baseAddr mask : Ipv4Addr)

inductive GroupStep : GroupState → GroupLabel → GroupState → Prop
  | groupCreated (state : GroupState) (label : String) (srcNodeId : NodeId) :
      GroupStep state (.groupCreated label srcNodeId)
        { state with tables := state.tables.createGroup baseAddr mask label srcNodeId }
  | joined (state : GroupState) (groupId : GroupId) (nodeId : NodeId) :
      GroupStep state (.joined groupId nodeId)
        { state with tables := state.tables.addGroupMember groupId nodeId }
  | left (state : GroupState) (groupId : GroupId) (nodeId : NodeId) :
      GroupStep state (.left groupId nodeId)
        { state with tables := state.tables.removeGroupMember groupId nodeId }
  | routesSet (state : GroupState) (requesterNodeId : NodeId) (groupId : GroupId)
      (trees : List GroupRouteTree) :
      GroupStep state (.routesSet requesterNodeId groupId trees)
        { state with
          tables := state.tables.handleSetGroupRoutesUpdate requesterNodeId groupId trees }
  | controllerStarted (state : GroupState) (reset : Bool) (tables : GroupTables) :
      tables = (if reset then .empty else state.tables) →
        GroupStep state (.controllerStarted reset)
          { state with tables := tables, snapshotNeeded := some (multicastSnapshotNeeded tables) }
  | startedUp (state : GroupState) (nodeId : NodeId) (snapshotNeeded : Bool) :
      state.snapshotNeeded = some snapshotNeeded →
        GroupStep state (.startedUp nodeId)
          { state with
            received := Function.update state.received nodeId
              (startUpMulticast snapshotNeeded state.tables nodeId) }
  | applied (state : GroupState) (nodeId : NodeId) (op : RoutingOp) :
      GroupStep state (.applied nodeId op)
        { state with
          received := Function.update state.received nodeId (state.received nodeId ++ [op]) }

def groupHistory : TransitionSystem GroupState GroupLabel where
  initial state := state.tables = .empty ∧ state.snapshotNeeded = none ∧ ∀ node, state.received node = []
  step := GroupStep baseAddr mask

variable {baseAddr mask}

theorem consistent_step {state next : GroupState} {label : GroupLabel}
    (consistent : Consistent state.tables) (step : GroupStep baseAddr mask state label next) :
    Consistent next.tables := by
  cases step with
  | groupCreated label srcNodeId => exact consistent.create_group baseAddr mask label srcNodeId
  | joined groupId nodeId => exact consistent.add_group_member groupId nodeId
  | left groupId nodeId => exact consistent.remove_group_member groupId nodeId
  | routesSet requesterNodeId groupId trees =>
    exact consistent.handle_set_group_routes_update requesterNodeId groupId trees
  | controllerStarted reset tables started =>
    cases reset with
    | true =>
      rw [if_pos rfl] at started
      subst started
      exact empty_consistent
    | false =>
      rw [if_neg Bool.false_ne_true] at started
      subst started
      exact consistent
  | startedUp nodeId snapshotNeeded flag => exact consistent
  | applied nodeId op => exact consistent

theorem consistent_run {start finish : GroupState} {labels : List GroupLabel}
    (initial : (groupHistory baseAddr mask).initial start)
    (run : (groupHistory baseAddr mask).Run start labels finish) : Consistent finish.tables := by
  apply TransitionSystem.run_preserves (motive := fun state => Consistent state.tables) _ run
  · rw [initial.1]
    exact empty_consistent
  · intro state label next consistent step
    exact consistent_step consistent step

/-- What a node holds stays until it is notified. -/
theorem holds_later {tables : GroupTables} {nodeId : NodeId} {start finish : GroupState}
    {labels : List GroupLabel} (run : (groupHistory baseAddr mask).Run start labels finish)
    (unnotified : ∀ label ∈ labels, label.notifies nodeId = false) :
    HoldsGroups tables nodeId (finish.received nodeId) ↔
      HoldsGroups tables nodeId (start.received nodeId) := by
  have kept : lastDirectory (finish.received nodeId) = lastDirectory (start.received nodeId) ∧
      SourceTrees.lastInstalled (finish.received nodeId) =
        SourceTrees.lastInstalled (start.received nodeId) := by
    induction run with
    | nil => exact ⟨rfl, rfl⟩
    | @snoc labels middle finish label _ step induction =>
      have earlier := induction fun label member => unnotified label (List.mem_append_left _ member)
      have unreached := unnotified label (List.mem_append_right _ List.mem_cons_self)
      rw [← earlier.1, ← earlier.2]
      cases step with
      | startedUp other snapshotNeeded flag =>
        have foreign : nodeId ≠ other := by
          rintro rfl
          simp [GroupLabel.notifies] at unreached
        simp [Function.update_of_ne foreign]
      | applied other op =>
        by_cases own : nodeId = other
        · subst own
          simp only [Function.update_self, last_directory_append, last_installed_snoc]
          simp only [GroupLabel.notifies, decide_true, Bool.true_and] at unreached
          cases op with
          | installGroupDirectory groups => cases unreached
          | installGroupRoutes groupId srcNodeId routes => cases unreached
          | _ => exact ⟨rfl, rfl⟩
        · simp [Function.update_of_ne own]
      | _ => exact ⟨rfl, rfl⟩
  constructor
  · rintro ⟨directory, routes⟩
    rw [kept.1] at directory
    rw [kept.2] at routes
    exact ⟨directory, routes⟩
  · rintro ⟨directory, routes⟩
    rw [← kept.1] at directory
    rw [← kept.2] at routes
    exact ⟨directory, routes⟩

/-- In every history, a node that starts up and is not notified after that holds the groups of the
tables as they were at its start-up exactly when the controller found groups or routes in the tables
as it started, or when there were still no groups as the node started up. -/
theorem late_joiner_holds_iff {start state next finish : GroupState} {labels later : List GroupLabel}
    {nodeId : NodeId} (initial : (groupHistory baseAddr mask).initial start)
    (run : (groupHistory baseAddr mask).Run start labels state)
    (startUp : (groupHistory baseAddr mask).step state (.startedUp nodeId) next)
    (rest : (groupHistory baseAddr mask).Run next later finish)
    (unnotified : ∀ label ∈ later, label.notifies nodeId = false) :
    HoldsGroups state.tables nodeId (finish.received nodeId) ↔
      state.snapshotNeeded = some true ∨ state.tables.groups = [] := by
  rw [holds_later rest unnotified]
  cases startUp with
  | startedUp _ snapshotNeeded flag =>
    simp only [Function.update_self, flag, Option.some.injEq]
    exact start_up_holds_iff (consistent_run initial run) snapshotNeeded nodeId

end Histories

/-! ## A group before the controller's start and one after it -/

def noGroups : GroupState where
  tables := .empty
  snapshotNeeded := none
  received _ := []

theorem no_groups_initial (baseAddr mask : Ipv4Addr) :
    (groupHistory baseAddr mask).initial noGroups := ⟨rfl, rfl, fun _ => rfl⟩

def oneGroup : GroupTables := GroupTables.empty.createGroup 0xefff0000 0xffff0000 "video" 1

theorem one_group_listed : oneGroup.groups = [⟨1, "video", 1, 0xefff0000⟩] := rfl

/-- A group that an earlier controller left in the tables is sent to a node that starts up. -/
theorem kept_group_reaches_node :
    ∃ state next labels, (groupHistory 0xefff0000 0xffff0000).Run noGroups labels state ∧
      (groupHistory 0xefff0000 0xffff0000).step state (.startedUp 2) next ∧
        state.tables.groups ≠ [] ∧ HoldsGroups state.tables 2 (next.received 2) := by
  have created : GroupStep 0xefff0000 0xffff0000 noGroups (.groupCreated "video" 1)
      { noGroups with tables := oneGroup } := .groupCreated noGroups "video" 1
  have flagged : GroupStep 0xefff0000 0xffff0000 { noGroups with tables := oneGroup }
      (.controllerStarted false)
      { noGroups with tables := oneGroup, snapshotNeeded := some (multicastSnapshotNeeded oneGroup) } :=
    .controllerStarted _ false oneGroup rfl
  have needed : multicastSnapshotNeeded oneGroup = true := by decide
  rw [needed] at flagged
  have startUp : GroupStep 0xefff0000 0xffff0000 _ (.startedUp 2) _ :=
    .startedUp { noGroups with tables := oneGroup, snapshotNeeded := some true } 2 true rfl
  have run : (groupHistory 0xefff0000 0xffff0000).Run noGroups _ _ := .cons created (.single flagged)
  refine ⟨_, _, _, run, startUp, ?_, ?_⟩
  · simp [one_group_listed]
  · exact (late_joiner_holds_iff (no_groups_initial _ _) run startUp .nil (by simp)).mpr (.inl rfl)

/-- A controller starts on empty tables, node 1 creates a group, and node 2, which starts up after
that, holds an empty directory. -/
theorem new_group_misses_node :
    ∃ state next labels, (groupHistory 0xefff0000 0xffff0000).Run noGroups labels state ∧
      (groupHistory 0xefff0000 0xffff0000).step state (.startedUp 2) next ∧
        ¬HoldsGroups state.tables 2 (next.received 2) := by
  have flagged : GroupStep 0xefff0000 0xffff0000 noGroups (.controllerStarted true)
      { noGroups with snapshotNeeded := some false } :=
    .controllerStarted noGroups true .empty rfl
  have created : GroupStep 0xefff0000 0xffff0000 { noGroups with snapshotNeeded := some false }
      (.groupCreated "video" 1)
      { noGroups with snapshotNeeded := some false, tables := oneGroup } := .groupCreated _ "video" 1
  have startUp : GroupStep 0xefff0000 0xffff0000 _ (.startedUp 2) _ :=
    .startedUp { noGroups with snapshotNeeded := some false, tables := oneGroup } 2 false rfl
  have run : (groupHistory 0xefff0000 0xffff0000).Run noGroups _ _ := .cons flagged (.single created)
  refine ⟨_, _, _, run, startUp, ?_⟩
  have consistent : Consistent oneGroup := empty_consistent.create_group _ _ _ _
  simp only [Function.update_self]
  rw [start_up_holds_iff consistent false 2]
  simp [one_group_listed]

end Nextmini.Controller
