import Nextmini.Routing.RoutingTable

/-!
# Multicast route ids

A tree of a group has one route id, the group's block of ids plus the index of the tree. The flag
that is put on an id in the hop map keeps ids apart and leaves the ids below it to unicast routes.
An entry that is installed is accepted exactly when its id is that of a tree of the group.
-/

namespace Nextmini.Routing

set_option autoImplicit false

theorem deterministic_route_some {groupId : GroupId} {treeId : UInt16} {routeId : Nat} :
    deterministicMulticastRouteId groupId treeId = some routeId ↔
      groupId * multitreeStride + treeId.toNat = routeId ∧ routeId < multicastRouteFlag := by
  simp only [deterministicMulticastRouteId]
  split_ifs with bound
  · rw [Option.some.injEq]
    constructor
    · rintro rfl
      exact ⟨rfl, bound.2⟩
    · rintro ⟨same, _⟩
      exact same
  · simp only [false_iff, not_and]
    rintro rfl below
    have narrow : multicastRouteFlag ≤ 2 ^ 64 := by decide
    exact bound ⟨Nat.lt_of_lt_of_le below narrow, below⟩

theorem encode_route_id {routeId : Nat} (below : routeId < multicastRouteFlag) :
    encodeMulticastRouteId routeId = multicastRouteFlag + routeId := by
  have flagged := Nat.two_pow_add_eq_or_of_lt below 1
  simp only [Nat.mul_one] at flagged
  exact flagged.symm

theorem encoded_above_flag {routeId : Nat} (below : routeId < multicastRouteFlag) :
    multicastRouteFlag ≤ encodeMulticastRouteId routeId := by
  rw [encode_route_id below]
  omega

theorem encode_route_id_injective {first second : Nat} (firstBelow : first < multicastRouteFlag)
    (secondBelow : second < multicastRouteFlag)
    (same : encodeMulticastRouteId first = encodeMulticastRouteId second) : first = second := by
  rw [encode_route_id firstBelow, encode_route_id secondBelow] at same
  omega

theorem block_index_injective {groupId otherGroup : GroupId} {treeId otherTree : UInt16}
    (same : groupId * multitreeStride + treeId.toNat =
      otherGroup * multitreeStride + otherTree.toNat) :
    groupId = otherGroup ∧ treeId = otherTree := by
  have inside := treeId.toNat_lt
  have otherInside := otherTree.toNat_lt
  have blocks : @HAdd.hAdd Nat Nat Nat _ (groupId * 2 ^ 16) treeId.toNat =
      otherGroup * 2 ^ 16 + otherTree.toNat := same
  have sameGroup : @Eq Nat groupId otherGroup := by omega
  refine ⟨sameGroup, UInt16.toNat_inj.mp ?_⟩
  omega

theorem deterministic_route_injective {groupId otherGroup : GroupId} {treeId otherTree : UInt16}
    {routeId : Nat} (first : deterministicMulticastRouteId groupId treeId = some routeId)
    (second : deterministicMulticastRouteId otherGroup otherTree = some routeId) :
    groupId = otherGroup ∧ treeId = otherTree := by
  have firstId := (deterministic_route_some.mp first).1
  have secondId := (deterministic_route_some.mp second).1
  exact block_index_injective (firstId.trans secondId.symm)

theorem encoded_trees_injective {groupId otherGroup : GroupId} {treeId otherTree : UInt16}
    {routeId otherRoute : Nat} (first : deterministicMulticastRouteId groupId treeId = some routeId)
    (second : deterministicMulticastRouteId otherGroup otherTree = some otherRoute)
    (same : encodeMulticastRouteId routeId = encodeMulticastRouteId otherRoute) :
    groupId = otherGroup ∧ treeId = otherTree := by
  have firstBelow := (deterministic_route_some.mp first).2
  have secondBelow := (deterministic_route_some.mp second).2
  cases encode_route_id_injective firstBelow secondBelow same
  exact deterministic_route_injective first second

theorem tree_of_deterministic_route {groupId : GroupId} {treeId : UInt16} {routeId : Nat}
    (known : deterministicMulticastRouteId groupId treeId = some routeId) :
    treeIdFromRouteId groupId routeId = some treeId := by
  rcases deterministic_route_some.mp known with ⟨rfl, below⟩
  have inside := treeId.toNat_lt
  have narrow : multicastRouteFlag ≤ 2 ^ 64 := by decide
  have noOverflow : ¬2 ^ 64 ≤ groupId * multitreeStride :=
    Nat.not_le.mpr (Nat.lt_of_le_of_lt (Nat.le_add_right _ _) (Nat.lt_of_lt_of_le below narrow))
  have notBefore : ¬groupId * multitreeStride + treeId.toNat < groupId * multitreeStride :=
    Nat.not_lt.mpr (Nat.le_add_right _ _)
  have notBeyond : ¬multitreeStride ≤
      groupId * multitreeStride + treeId.toNat - groupId * multitreeStride := by
    rw [Nat.add_sub_cancel_left]
    exact Nat.not_le.mpr inside
  simp only [treeIdFromRouteId]
  rw [if_neg noOverflow, if_neg notBefore, if_neg notBeyond, Nat.add_sub_cancel_left,
    UInt16.ofNat_toNat]

namespace InstalledRoutes

/-- An entry is skipped, or its id is the one of its tree and it is installed under that tree. -/
theorem add_group_route_cases (groupId : GroupId) (srcNodeId : NodeId)
    (installed : InstalledRoutes) (route : GroupRoutingTableEntry) :
    (∃ treeId, treeIdFromRouteId groupId route.routeId = some treeId ∧
      deterministicMulticastRouteId groupId treeId = some route.routeId ∧
      addGroupRoute groupId srcNodeId installed route =
        { availableRoutes := installed.availableRoutes.insert
            (.multicast srcNodeId groupId treeId) [encodeMulticastRouteId route.routeId]
          routeNextHop := installed.routeNextHop.insert (encodeMulticastRouteId route.routeId)
            route.nextHops }) ∨
    (∀ treeId, treeIdFromRouteId groupId route.routeId = some treeId →
      deterministicMulticastRouteId groupId treeId ≠ some route.routeId) ∧
      addGroupRoute groupId srcNodeId installed route = installed := by
  rw [addGroupRoute]
  cases tree : treeIdFromRouteId groupId route.routeId with
  | none => exact .inr ⟨nofun, rfl⟩
  | some treeId =>
    cases expected : deterministicMulticastRouteId groupId treeId with
    | none =>
      refine .inr ⟨?_, ?_⟩
      · rintro _ ⟨⟩
        rw [expected]
        nofun
      · simp only [expected]
    | some expectedRouteId =>
      by_cases same : expectedRouteId = route.routeId
      · subst same
        refine .inl ⟨treeId, rfl, expected, ?_⟩
        simp [expected]
      · refine .inr ⟨?_, ?_⟩
        · rintro _ ⟨⟩ found
          rw [expected] at found
          exact same (Option.some.inj found)
        · simp [expected, same]

theorem add_group_route_known {installed : InstalledRoutes} {groupId : GroupId}
    {srcNodeId : NodeId} {treeId : UInt16} {route : GroupRoutingTableEntry}
    (known : deterministicMulticastRouteId groupId treeId = some route.routeId) :
    addGroupRoute groupId srcNodeId installed route =
      { availableRoutes := installed.availableRoutes.insert (.multicast srcNodeId groupId treeId)
          [encodeMulticastRouteId route.routeId]
        routeNextHop :=
          installed.routeNextHop.insert (encodeMulticastRouteId route.routeId) route.nextHops } := by
  have own := tree_of_deterministic_route known
  rcases add_group_route_cases groupId srcNodeId installed route with
    ⟨other, tree, _, added⟩ | ⟨unknown, _⟩
  · rw [own] at tree
    cases tree
    exact added
  · exact absurd known (unknown treeId own)

theorem add_group_route_unknown {installed : InstalledRoutes} {groupId : GroupId}
    {srcNodeId : NodeId} {route : GroupRoutingTableEntry}
    (unknown : ∀ treeId, deterministicMulticastRouteId groupId treeId ≠ some route.routeId) :
    addGroupRoute groupId srcNodeId installed route = installed := by
  rcases add_group_route_cases groupId srcNodeId installed route with
    ⟨treeId, _, known, _⟩ | ⟨_, skipped⟩
  · exact absurd known (unknown treeId)
  · exact skipped

end InstalledRoutes

end Nextmini.Routing
