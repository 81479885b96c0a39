import Mathlib.Data.Finset.Basic
import Nextmini.Routing.GroupRoutes

/-!
# Group trees

The controller's side of group routes: the route ids it computes for the trees of a group, the
canonical form of a tree update, and the entries it builds for a node. The graph of an edge list
keeps repeated edges, and lists the neighbours of a node from the newest edge to the oldest. The
weights of trees and the source and group of an entry are read by no one and left out.
-/

namespace Nextmini.Controller

open Nextmini.Routing

set_option autoImplicit false

/-! ## Edge lists -/

abbrev Edge := UInt32 × UInt32

/-- The outgoing neighbours of a node in the graph of an edge list, one for each edge. -/
def outgoingNeighbors (edges : List Edge) (nodeId : UInt32) : List UInt32 :=
  ((edges.filter fun edge => edge.1 = nodeId).map Prod.snd).reverse

def incomingNeighbors (edges : List Edge) (nodeId : UInt32) : List UInt32 :=
  ((edges.filter fun edge => edge.2 = nodeId).map Prod.fst).reverse

/-- The nodes of the graph are the ends of its edges. -/
def isEndpoint (edges : List Edge) (nodeId : UInt32) : Bool :=
  edges.any fun edge => edge.1 = nodeId || edge.2 = nodeId

theorem mem_outgoing {edges : List Edge} {nodeId neighbor : UInt32} :
    neighbor ∈ outgoingNeighbors edges nodeId ↔ (nodeId, neighbor) ∈ edges := by
  simp [outgoingNeighbors]

theorem valid_node (node : UInt32) : node.toNat ≠ invalidNode := by
  have small := node.toNat_lt
  have wide : 2 ^ 32 ≤ invalidNode := by decide
  exact Nat.ne_of_lt (Nat.lt_of_lt_of_le small wide)

/-! ## Trees of a group -/

structure GroupRouteTree where
  treeId : Nat
  edges : List Edge

def computeMultitreeRouteId (groupId : GroupId) (treeId : Nat) : Except String Nat :=
  if multitreeStride ≤ treeId then .error s!"tree_id {treeId} exceeds stride {multitreeStride}"
  else if 2 ^ 64 ≤ groupId * multitreeStride then
    .error s!"group_id {groupId} overflows route-id computation"
  else if 2 ^ 64 ≤ groupId * multitreeStride + treeId then .error "route-id addition overflowed"
  else if multicastRouteFlag ≤ groupId * multitreeStride + treeId then
    .error s!"route_id {groupId * multitreeStride + treeId} must stay below {multicastRouteFlag}"
  else .ok (groupId * multitreeStride + treeId)

/-- The pass over the sorted trees: no tree id twice in a row, and a route id for each. -/
def checkTrees (groupId : GroupId) : Option Nat → List GroupRouteTree → Except String Unit
  | _, [] => .ok ()
  | previousTreeId, tree :: rest =>
      if previousTreeId = some tree.treeId then
        .error s!"duplicate tree_id {tree.treeId} for group {groupId}"
      else do
        let _ ← computeMultitreeRouteId groupId tree.treeId
        checkTrees groupId (some tree.treeId) rest

def canonicalizeGroupRouteTrees (groupId : GroupId) (trees : List GroupRouteTree) :
    Except String (List GroupRouteTree) := do
  let ordered := trees.mergeSort fun left right => left.treeId ≤ right.treeId
  checkTrees groupId none ordered
  .ok ordered

/-- The next hops of a node in a tree: its neighbours, and itself if it is a member. -/
def treeNextHops (edges : List Edge) (nodeId : UInt32) (memberNodeIds : Finset UInt32) :
    List NodeId :=
  (outgoingNeighbors edges nodeId).map UInt32.toNat ++
    if nodeId ∈ memberNodeIds then [nodeId.toNat] else []

def buildGroupRoutesForNodeWithRouteId (routeId : Nat) (dagEdges : List Edge) (nodeId : UInt32)
    (memberNodeIds : Finset UInt32) : Option GroupRoutingTableEntry :=
  if dagEdges = [] ∧ nodeId ∉ memberNodeIds then none
  else
    let nextHops := treeNextHops dagEdges nodeId memberNodeIds
    if nextHops = [] then none else some { routeId := routeId, nextHops := nextHops }

def buildTreeEntries (groupId : GroupId) (nodeId : UInt32) (memberNodeIds : Finset UInt32) :
    List GroupRouteTree → Except String (List GroupRoutingTableEntry)
  | [] => .ok []
  | tree :: rest => do
      let routeId ← computeMultitreeRouteId groupId tree.treeId
      let routes ← buildTreeEntries groupId nodeId memberNodeIds rest
      .ok ((buildGroupRoutesForNodeWithRouteId routeId tree.edges nodeId memberNodeIds).toList ++
        routes)

def buildGroupRoutesForNodeMultitree (groupId : GroupId) (trees : List GroupRouteTree)
    (nodeId : UInt32) (memberNodeIds : Finset UInt32) :
    Except String (List GroupRoutingTableEntry) := do
  let trees ← canonicalizeGroupRouteTrees groupId trees
  buildTreeEntries groupId nodeId memberNodeIds trees

/-! ## Route ids -/

theorem computed_route_ok {groupId : GroupId} {treeId routeId : Nat} :
    computeMultitreeRouteId groupId treeId = .ok routeId ↔
      treeId < multitreeStride ∧ groupId * multitreeStride + treeId = routeId ∧
        routeId < multicastRouteFlag := by
  have narrow : multicastRouteFlag ≤ 2 ^ 64 := by decide
  constructor
  · intro computed
    simp only [computeMultitreeRouteId] at computed
    split_ifs at computed with stride base sum flag
    cases computed
    exact ⟨Nat.not_le.mp stride, rfl, Nat.not_le.mp flag⟩
  · rintro ⟨stride, rfl, below⟩
    have sumFits := Nat.lt_of_lt_of_le below narrow
    have baseFits := Nat.lt_of_le_of_lt (Nat.le_add_right (groupId * multitreeStride) treeId) sumFits
    rw [computeMultitreeRouteId, if_neg (Nat.not_le.mpr stride), if_neg (Nat.not_le.mpr baseFits),
      if_neg (Nat.not_le.mpr sumFits), if_neg (Nat.not_le.mpr below)]

/-- The route id the controller computes is the one the dataplane derives. -/
theorem computed_route_deterministic {groupId : GroupId} {treeId : UInt16} {routeId : Nat} :
    computeMultitreeRouteId groupId treeId.toNat = .ok routeId ↔
      deterministicMulticastRouteId groupId treeId = some routeId := by
  have inside : treeId.toNat < multitreeStride := treeId.toNat_lt
  rw [computed_route_ok, deterministic_route_some]
  simp only [inside, true_and]

theorem computed_tree_in_range {groupId : GroupId} {treeId routeId : Nat}
    (computed : computeMultitreeRouteId groupId treeId = .ok routeId) :
    ∃ index : UInt16, index.toNat = treeId := by
  have inside := (computed_route_ok.mp computed).1
  exact ⟨UInt16.ofNat treeId, UInt16.toNat_ofNat_of_lt' inside⟩

/-! ## Canonical updates -/

/-- Trees in canonical form: ascending tree ids, each with a route id. -/
structure Canonical (groupId : GroupId) (trees : List GroupRouteTree) : Prop where
  ascending : trees.Pairwise fun left right => left.treeId < right.treeId
  identified : ∀ tree ∈ trees, ∃ routeId, computeMultitreeRouteId groupId tree.treeId = .ok routeId

theorem check_trees_ok {groupId : GroupId} {trees : List GroupRouteTree} {previous : Option Nat}
    (sorted : trees.Pairwise fun left right => left.treeId ≤ right.treeId)
    (after : ∀ treeId ∈ previous, ∀ tree ∈ trees, treeId ≤ tree.treeId)
    (checked : checkTrees groupId previous trees = .ok ()) :
    Canonical groupId trees ∧ ∀ treeId ∈ previous, ∀ tree ∈ trees, treeId < tree.treeId := by
  induction trees generalizing previous with
  | nil =>
    refine ⟨⟨List.Pairwise.nil, ?_⟩, ?_⟩
    · intro tree member
      cases member
    · intro treeId _ tree member
      cases member
  | cons tree rest induction =>
    rw [checkTrees] at checked
    split_ifs at checked with duplicate
    cases computed : computeMultitreeRouteId groupId tree.treeId with
    | error reason =>
      rw [computed] at checked
      cases checked
    | ok routeId =>
      rw [computed] at checked
      rcases List.pairwise_cons.mp sorted with ⟨first, restSorted⟩
      have restAfter : ∀ treeId ∈ some tree.treeId, ∀ later ∈ rest, treeId ≤ later.treeId := by
        rintro _ ⟨⟩ later member
        exact first later member
      rcases induction restSorted restAfter checked with ⟨canonical, above⟩
      refine ⟨⟨?_, ?_⟩, ?_⟩
      · exact List.pairwise_cons.mpr ⟨above tree.treeId rfl, canonical.ascending⟩
      · intro other member
        rcases List.mem_cons.mp member with rfl | later
        · exact ⟨routeId, computed⟩
        · exact canonical.identified other later
      · intro treeId known other member
        have headAfter := after treeId known tree List.mem_cons_self
        have headOther : treeId ≠ tree.treeId := by
          rintro rfl
          exact duplicate known
        have strict : treeId < tree.treeId := by omega
        rcases List.mem_cons.mp member with rfl | later
        · exact strict
        · exact Nat.lt_trans strict (above tree.treeId rfl other later)

/-- What the validation accepts is the update in canonical form. -/
theorem canonicalize_ok {groupId : GroupId} {trees ordered : List GroupRouteTree}
    (accepted : canonicalizeGroupRouteTrees groupId trees = .ok ordered) :
    Canonical groupId ordered ∧ ordered.Perm trees := by
  have sorted : (trees.mergeSort fun left right => left.treeId ≤ right.treeId).Pairwise
      fun left right => left.treeId ≤ right.treeId := by
    have pairs : (trees.mergeSort fun left right => left.treeId ≤ right.treeId).Pairwise
        fun left right => decide (left.treeId ≤ right.treeId) = true := by
      apply List.pairwise_mergeSort
      · intro first second third
        simp only [decide_eq_true_eq]
        exact Nat.le_trans
      · intro first second
        simp only [Bool.or_eq_true, decide_eq_true_eq]
        exact Nat.le_total _ _
    simpa only [decide_eq_true_eq] using pairs
  simp only [canonicalizeGroupRouteTrees] at accepted
  cases checked : checkTrees groupId none
      (trees.mergeSort fun left right => left.treeId ≤ right.treeId) with
  | error reason =>
    rw [checked] at accepted
    cases accepted
  | ok done =>
    rw [checked] at accepted
    cases accepted
    refine ⟨(check_trees_ok sorted ?_ checked).1, List.mergeSort_perm _ _⟩
    intro treeId impossible
    cases impossible

end Nextmini.Controller
