import Nextmini.Controller.InstalledTrees
import Nextmini.Library.NarrowCasts

/-!
# Group tables

The tables of groups, members and group routes, and the requests that change them. Ids are drawn from
a sequence that never goes back, a group is never deleted, and the trees of a group are replaced as a
whole by what the validation accepts. Addresses and edge lists are kept as the values that are written
to the tables and read back. Tree ids are never negative, which the table checks.
-/

namespace Nextmini.Controller

open Nextmini.Library Nextmini.Routing

set_option autoImplicit false

/-! ## Rows -/

structure Group where
  id : Int
  label : String
  srcNodeId : Int
  groupIp : Ipv4Addr

structure DbGroupRoute where
  groupId : Int
  treeId : Nat
  edges : List Edge

def DbGroupRoute.tree (row : DbGroupRoute) : GroupRouteTree := ⟨row.treeId, row.edges⟩

/-- The rows, and the next value of the sequence of group ids. Members are pairs of a group and a
node. -/
structure GroupTables where
  nextGroupId : Nat
  groups : List Group
  members : List (Int × Int)
  routes : List DbGroupRoute

namespace GroupTables

def empty : GroupTables := ⟨1, [], [], []⟩

/-! ## Requests -/

def allocateMulticastIp (baseAddr mask : Ipv4Addr) (ordinal : UInt32) : Ipv4Addr :=
  if ~~~mask = 0 then baseAddr
  else (baseAddr &&& mask) ||| ((if ordinal = 0 then 0 else ordinal - 1) &&& ~~~mask)

def maxGroupId : Nat := multicastRouteFlag / multitreeStride - 1

/-- A label or an address in use fails the insert; the value of the sequence is spent all the same. -/
def createGroup (baseAddr mask : Ipv4Addr) (tables : GroupTables) (label : String)
    (srcNodeId : NodeId) : GroupTables :=
  let groupId := tables.nextGroupId
  let groupIp := allocateMulticastIp baseAddr mask (UInt32.ofNat groupId)
  let spent := { tables with nextGroupId := groupId + 1 }
  if maxGroupId < groupId then spent
  else if tables.groups.any fun group => group.label = label || group.groupIp = groupIp then spent
  else { spent with groups := tables.groups ++ [⟨groupId, label, asI32 srcNodeId, groupIp⟩] }

/-- A member refers to a group that exists, and stands in the table once. -/
def addGroupMember (tables : GroupTables) (groupId : GroupId) (nodeId : NodeId) : GroupTables :=
  if !tables.groups.any fun group => group.id = asI32 groupId then tables
  else if (asI32 groupId, asI32 nodeId) ∈ tables.members then tables
  else { tables with members := tables.members ++ [(asI32 groupId, asI32 nodeId)] }

def removeGroupMember (tables : GroupTables) (groupId : GroupId) (nodeId : NodeId) : GroupTables :=
  { tables with
    members := tables.members.filter fun member => member ≠ (asI32 groupId, asI32 nodeId) }

def replaceGroupRouteTrees (tables : GroupTables) (groupId : Int) (trees : List GroupRouteTree) :
    GroupTables :=
  { tables with
    routes := tables.routes.filter (fun row => row.groupId ≠ groupId) ++
      trees.map fun tree => ⟨groupId, tree.treeId, tree.edges⟩ }

/-- What an update writes: the trees in canonical form, if the group is the requester's. -/
def handleSetGroupRoutesUpdate (tables : GroupTables) (requesterNodeId : NodeId) (groupId : GroupId)
    (trees : List GroupRouteTree) : GroupTables :=
  match tables.groups.find? fun group => group.id = asI32 groupId with
  | none => tables
  | some group =>
      if asUsize group.srcNodeId ≠ requesterNodeId then tables
      else
        match canonicalizeGroupRouteTrees groupId trees with
        | .error _ => tables
        | .ok trees => tables.replaceGroupRouteTrees (asI32 groupId) trees

/-! ## Queries -/

def loadGroupTrees (tables : GroupTables) (groupId : Int) : List GroupRouteTree :=
  (((tables.routes.filter fun row => row.groupId = groupId).mergeSort
    fun left right => left.treeId ≤ right.treeId)).map DbGroupRoute.tree

/-- The members of a group as nodes: `as u32` -/
def loadGroupMembers (tables : GroupTables) (groupId : Int) : List UInt32 :=
  (tables.members.filter fun member => member.1 = groupId).map fun member =>
    UInt32.ofNat (asUsize member.2)

def loadGroupDirectory (tables : GroupTables) : List Group :=
  tables.groups.mergeSort fun left right => left.id ≤ right.id

end GroupTables

/-! ## Consistency -/

/-- What every request leaves as it is: group ids are words below the sequence and ascend, and the
trees of a group are in canonical form. -/
structure Consistent (tables : GroupTables) : Prop where
  identified : ∀ group ∈ tables.groups, ∃ groupId : Nat, group.id = groupId ∧
    groupId < tables.nextGroupId
  ascending : tables.groups.Pairwise fun left right => left.id < right.id
  canonical : ∀ groupId : Nat, Canonical groupId (tables.loadGroupTrees groupId)

theorem canonical_nil (groupId : GroupId) : Canonical groupId [] :=
  ⟨List.Pairwise.nil, by simp⟩

theorem empty_consistent : Consistent .empty where
  identified := by simp [GroupTables.empty]
  ascending := List.Pairwise.nil
  canonical groupId := by
    simpa [GroupTables.loadGroupTrees, GroupTables.empty] using canonical_nil groupId

theorem check_trees_pass {groupId : GroupId} {trees : List GroupRouteTree} {previous : Option Nat}
    (canonical : Canonical groupId trees)
    (after : ∀ treeId ∈ previous, ∀ tree ∈ trees, treeId < tree.treeId) :
    checkTrees groupId previous trees = .ok () := by
  induction trees generalizing previous with
  | nil => rfl
  | cons tree rest induction =>
    rcases List.pairwise_cons.mp canonical.ascending with ⟨below, ascending⟩
    rcases canonical.identified tree List.mem_cons_self with ⟨routeId, computed⟩
    have different : previous ≠ some tree.treeId := by
      intro same
      exact Nat.lt_irrefl _ (after tree.treeId same tree List.mem_cons_self)
    have others : Canonical groupId rest :=
      ⟨ascending, fun other member => canonical.identified other (List.mem_cons_of_mem _ member)⟩
    have passed : checkTrees groupId (some tree.treeId) rest = .ok () := by
      apply induction others
      rintro _ ⟨⟩ other member
      exact below other member
    rw [checkTrees, if_neg different, computed]
    exact passed

theorem canonical_accepted {groupId : GroupId} {trees : List GroupRouteTree}
    (canonical : Canonical groupId trees) : canonicalizeGroupRouteTrees groupId trees = .ok trees := by
  have sorted : trees.mergeSort (fun left right => left.treeId ≤ right.treeId) = trees := by
    apply List.mergeSort_of_pairwise
    apply canonical.ascending.imp
    intro left right below
    exact decide_eq_true (Nat.le_of_lt below)
  have passed : checkTrees groupId none trees = .ok () := by
    apply check_trees_pass canonical
    intro treeId impossible
    cases impossible
  simp only [canonicalizeGroupRouteTrees, sorted, passed]
  rfl

theorem load_replaced (tables : GroupTables) (groupId : Int) {trees : List GroupRouteTree}
    (ascending : trees.Pairwise fun left right => left.treeId < right.treeId) :
    (tables.replaceGroupRouteTrees groupId trees).loadGroupTrees groupId = trees := by
  have old : (tables.routes.filter fun row => row.groupId ≠ groupId).filter
      (fun row => row.groupId = groupId) = [] := by
    simp
  have new : (trees.map fun tree => (⟨groupId, tree.treeId, tree.edges⟩ : DbGroupRoute)).filter
      (fun row => row.groupId = groupId) =
      trees.map fun tree => ⟨groupId, tree.treeId, tree.edges⟩ := by
    simp [List.filter_eq_self]
  have sorted : (trees.map fun tree => (⟨groupId, tree.treeId, tree.edges⟩ : DbGroupRoute)).mergeSort
      (fun left right => left.treeId ≤ right.treeId) =
      trees.map fun tree => ⟨groupId, tree.treeId, tree.edges⟩ := by
    apply List.mergeSort_of_pairwise
    rw [List.pairwise_map]
    apply ascending.imp
    intro left right below
    exact decide_eq_true (Nat.le_of_lt below)
  simp only [GroupTables.loadGroupTrees, GroupTables.replaceGroupRouteTrees, List.filter_append, old,
    new, List.nil_append, sorted, List.map_map]
  exact List.map_id _

theorem load_replaced_other (tables : GroupTables) {groupId other : Int} (different : other ≠ groupId)
    (trees : List GroupRouteTree) :
    (tables.replaceGroupRouteTrees groupId trees).loadGroupTrees other =
      tables.loadGroupTrees other := by
  have kept : (tables.routes.filter fun row => row.groupId ≠ groupId).filter
      (fun row => row.groupId = other) = tables.routes.filter fun row => row.groupId = other := by
    rw [List.filter_filter]
    apply List.filter_congr
    intro row _
    by_cases own : row.groupId = other
    · simp [own, different]
    · simp [own]
  have none : (trees.map fun tree => (⟨groupId, tree.treeId, tree.edges⟩ : DbGroupRoute)).filter
      (fun row => row.groupId = other) = [] := by
    simp [List.filter_eq_nil_iff, different.symm]
  simp only [GroupTables.loadGroupTrees, GroupTables.replaceGroupRouteTrees, List.filter_append, kept,
    none, List.append_nil]

section Requests

variable {tables : GroupTables} (consistent : Consistent tables)

include consistent

theorem Consistent.create_group (baseAddr mask : Ipv4Addr) (label : String) (srcNodeId : NodeId) :
    Consistent (tables.createGroup baseAddr mask label srcNodeId) := by
  have spent : Consistent { tables with nextGroupId := tables.nextGroupId + 1 } := by
    refine ⟨?_, consistent.ascending, consistent.canonical⟩
    intro group member
    rcases consistent.identified group member with ⟨groupId, same, below⟩
    exact ⟨groupId, same, Nat.lt_succ_of_lt below⟩
  simp only [GroupTables.createGroup]
  split_ifs with full used
  · exact spent
  · exact spent
  · refine ⟨?_, ?_, consistent.canonical⟩
    · intro group member
      rcases List.mem_append.mp member with old | new
      · exact spent.identified group old
      · rw [List.mem_singleton.mp new]
        exact ⟨tables.nextGroupId, rfl, Nat.lt_succ_self _⟩
    · rw [List.pairwise_append]
      refine ⟨consistent.ascending, List.pairwise_singleton _ _, ?_⟩
      intro group member new created
      rcases consistent.identified group member with ⟨groupId, same, below⟩
      rw [List.mem_singleton.mp created, same]
      exact Int.ofNat_lt.mpr below

theorem Consistent.add_group_member (groupId : GroupId) (nodeId : NodeId) :
    Consistent (tables.addGroupMember groupId nodeId) := by
  unfold GroupTables.addGroupMember
  split_ifs
  · exact consistent
  · exact consistent
  · exact ⟨consistent.identified, consistent.ascending, consistent.canonical⟩

theorem Consistent.remove_group_member (groupId : GroupId) (nodeId : NodeId) :
    Consistent (tables.removeGroupMember groupId nodeId) :=
  ⟨consistent.identified, consistent.ascending, consistent.canonical⟩

theorem Consistent.replace_trees {groupId : GroupId} {trees : List GroupRouteTree}
    (accepted : Canonical groupId trees) :
    Consistent (tables.replaceGroupRouteTrees (asI32 groupId) trees) := by
  refine ⟨consistent.identified, consistent.ascending, ?_⟩
  intro other
  by_cases own : (other : Int) = asI32 groupId
  · rw [own, load_replaced tables _ accepted.ascending]
    -- a tree has its route id below the flag, so its group id is the same word in the table
    cases trees with
    | nil => exact canonical_nil other
    | cons tree rest =>
      rcases accepted.identified tree List.mem_cons_self with ⟨routeId, computed⟩
      rcases computed_route_ok.mp computed with ⟨_, sum, below⟩
      have bounded : groupId * 2 ^ 16 < 2 ^ 14 * 2 ^ 16 :=
        Nat.lt_of_le_of_lt (Nat.le_add_right _ _) (sum.trans_lt below)
      have small : groupId < 2 ^ 31 :=
        (Nat.lt_of_mul_lt_mul_right bounded).trans (by decide)
      rw [as_i32_of_lt small] at own
      rw [Int.ofNat_inj.mp own]
      exact accepted
  · rw [load_replaced_other tables own]
    exact consistent.canonical other

theorem Consistent.handle_set_group_routes_update (requesterNodeId : NodeId) (groupId : GroupId)
    (trees : List GroupRouteTree) :
    Consistent (tables.handleSetGroupRoutesUpdate requesterNodeId groupId trees) := by
  unfold GroupTables.handleSetGroupRoutesUpdate
  split
  · exact consistent
  · split_ifs
    · exact consistent
    · split
      · exact consistent
      · rename_i accepted
        exact consistent.replace_trees (canonicalize_ok accepted).1

end Requests

end Nextmini.Controller
