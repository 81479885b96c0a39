import Nextmini.Controller.GroupTrees
import Nextmini.Routing.SourceLookups

/-!
# Group entries in the dataplane

Every entry the controller builds for a node carries the route id that the dataplane derives from
the group and the tree, so the node's table accepts it, and a lookup of its source, group and tree
finds the same next hops.
-/

namespace Nextmini.Controller

open Nextmini.Routing

set_option autoImplicit false

/-! ## Entries of canonical trees -/

theorem build_entry_some {routeId : Nat} {edges : List Edge} {nodeId : UInt32}
    {memberNodeIds : Finset UInt32} {entry : GroupRoutingTableEntry}
    (built : buildGroupRoutesForNodeWithRouteId routeId edges nodeId memberNodeIds = some entry) :
    entry.routeId = routeId ∧ entry.nextHops = treeNextHops edges nodeId memberNodeIds := by
  simp only [buildGroupRoutesForNodeWithRouteId] at built
  split_ifs at built
  cases built
  exact ⟨rfl, rfl⟩

theorem build_entry_of_hops (routeId : Nat) {edges : List Edge} {nodeId : UInt32}
    {memberNodeIds : Finset UInt32} (hops : treeNextHops edges nodeId memberNodeIds ≠ []) :
    buildGroupRoutesForNodeWithRouteId routeId edges nodeId memberNodeIds =
      some { routeId := routeId, nextHops := treeNextHops edges nodeId memberNodeIds } := by
  have involved : ¬(edges = [] ∧ nodeId ∉ memberNodeIds) := by
    rintro ⟨rfl, outside⟩
    apply hops
    simp [treeNextHops, outgoingNeighbors, outside]
  simp only [buildGroupRoutesForNodeWithRouteId]
  rw [if_neg involved, if_neg hops]

theorem build_entry_none (routeId : Nat) {edges : List Edge} {nodeId : UInt32}
    {memberNodeIds : Finset UInt32} (hopless : treeNextHops edges nodeId memberNodeIds = []) :
    buildGroupRoutesForNodeWithRouteId routeId edges nodeId memberNodeIds = none := by
  cases built : buildGroupRoutesForNodeWithRouteId routeId edges nodeId memberNodeIds with
  | none => rfl
  | some entry =>
    simp only [buildGroupRoutesForNodeWithRouteId] at built
    split_ifs at built

/-- The hops that the entries of canonical trees give a tree id: those of the tree with that id, if
the node has any there. -/
def hopsOfTree (trees : List GroupRouteTree) (nodeId : UInt32) (memberNodeIds : Finset UInt32)
    (treeId : Nat) : Option (List NodeId) :=
  match trees.find? (fun tree => tree.treeId = treeId) with
  | none => none
  | some tree =>
      if treeNextHops tree.edges nodeId memberNodeIds = [] then none
      else some (treeNextHops tree.edges nodeId memberNodeIds)

theorem hops_of_tree_single {trees : List GroupRouteTree} {groupId : GroupId}
    (canonical : Canonical groupId trees) {tree : GroupRouteTree} (member : tree ∈ trees)
    (nodeId : UInt32) (memberNodeIds : Finset UInt32) :
    hopsOfTree trees nodeId memberNodeIds tree.treeId =
      if treeNextHops tree.edges nodeId memberNodeIds = [] then none
      else some (treeNextHops tree.edges nodeId memberNodeIds) := by
  have found : trees.find? (fun other => other.treeId = tree.treeId) = some tree := by
    have ascending := canonical.ascending
    clear canonical
    induction trees with
    | nil => cases member
    | cons first rest induction =>
      rcases List.pairwise_cons.mp ascending with ⟨below, restAscending⟩
      rcases List.mem_cons.mp member with rfl | later
      · simp
      · have different : first.treeId ≠ tree.treeId := Nat.ne_of_lt (below tree later)
        rw [List.find?_cons_of_neg (by simpa using different)]
        exact induction later restAscending
  rw [hopsOfTree, found]

theorem build_tree_entries_ok {groupId : GroupId} {trees : List GroupRouteTree} (nodeId : UInt32)
    (memberNodeIds : Finset UInt32) (canonical : Canonical groupId trees) :
    ∃ routes, buildTreeEntries groupId nodeId memberNodeIds trees = .ok routes ∧
      ∀ treeId : UInt16, treeHops groupId routes treeId =
        hopsOfTree trees nodeId memberNodeIds treeId.toNat := by
  induction trees with
  | nil => exact ⟨[], rfl, fun _ => rfl⟩
  | cons tree rest induction =>
    rcases List.pairwise_cons.mp canonical.ascending with ⟨below, restAscending⟩
    have restCanonical : Canonical groupId rest :=
      ⟨restAscending, fun later member => canonical.identified later (List.mem_cons_of_mem _ member)⟩
    rcases induction restCanonical with ⟨routes, built, hops⟩
    rcases canonical.identified tree List.mem_cons_self with ⟨routeId, computed⟩
    refine ⟨(buildGroupRoutesForNodeWithRouteId routeId tree.edges nodeId memberNodeIds).toList ++
      routes, ?_, ?_⟩
    · rw [buildTreeEntries, computed, built]
      rfl
    · intro treeId
      rw [tree_hops_append, hops]
      by_cases own : tree.treeId = treeId.toNat
      · have later : hopsOfTree rest nodeId memberNodeIds treeId.toNat = none := by
          have missing : rest.find? (fun other => other.treeId = treeId.toNat) = none := by
            rw [List.find?_eq_none]
            intro other member same
            have ordered := below other member
            rw [decide_eq_true_eq] at same
            omega
          rw [hopsOfTree, missing]
        have known : deterministicMulticastRouteId groupId treeId = some routeId := by
          rw [← computed_route_deterministic, ← own]
          exact computed
        rw [later, ← own, hops_of_tree_single canonical List.mem_cons_self, Option.none_or]
        split_ifs with hopless
        · rw [build_entry_none routeId hopless]
          rfl
        · rw [build_entry_of_hops routeId hopless, Option.toList_some, tree_hops_single,
            if_pos known]
      · have skipped : hopsOfTree (tree :: rest) nodeId memberNodeIds treeId.toNat =
            hopsOfTree rest nodeId memberNodeIds treeId.toNat := by
          rw [hopsOfTree, hopsOfTree, List.find?_cons_of_neg (by simpa using own)]
        have unknown : treeHops groupId
            (buildGroupRoutesForNodeWithRouteId routeId tree.edges nodeId memberNodeIds).toList
              treeId = none := by
          cases entry : buildGroupRoutesForNodeWithRouteId routeId tree.edges nodeId
              memberNodeIds with
          | none => rfl
          | some built =>
            have sameId := (build_entry_some entry).1
            rw [Option.toList_some, tree_hops_single, sameId, if_neg]
            intro known
            have identified := (computed_route_ok.mp computed).2.1
            have derived := (deterministic_route_some.mp known).1
            exact own (Nat.add_left_cancel (identified.trans derived.symm))
        rw [unknown, skipped, Option.or_none]

theorem accepted_update_built {groupId : GroupId} {trees ordered : List GroupRouteTree}
    (nodeId : UInt32) (memberNodeIds : Finset UInt32)
    (accepted : canonicalizeGroupRouteTrees groupId trees = .ok ordered) :
    ∃ routes, buildGroupRoutesForNodeMultitree groupId trees nodeId memberNodeIds = .ok routes := by
  rcases build_tree_entries_ok nodeId memberNodeIds (canonicalize_ok accepted).1 with
    ⟨routes, built, _⟩
  refine ⟨routes, ?_⟩
  rw [buildGroupRoutesForNodeMultitree, accepted]
  exact built

/-- The entries built for a node give every tree of an accepted update its next hops, and nothing to
any other tree id. -/
theorem built_entries_hops {groupId : GroupId} {trees : List GroupRouteTree} {nodeId : UInt32}
    {memberNodeIds : Finset UInt32} {routes : List GroupRoutingTableEntry}
    (built : buildGroupRoutesForNodeMultitree groupId trees nodeId memberNodeIds = .ok routes) :
    ∃ ordered, Canonical groupId ordered ∧ ordered.Perm trees ∧
      buildTreeEntries groupId nodeId memberNodeIds ordered = .ok routes ∧
      ∀ treeId : UInt16, treeHops groupId routes treeId =
        hopsOfTree ordered nodeId memberNodeIds treeId.toNat := by
  cases accepted : canonicalizeGroupRouteTrees groupId trees with
  | error reason =>
    rw [buildGroupRoutesForNodeMultitree, accepted] at built
    cases built
  | ok ordered =>
    rw [buildGroupRoutesForNodeMultitree, accepted] at built
    rcases canonicalize_ok accepted with ⟨canonical, permuted⟩
    rcases build_tree_entries_ok nodeId memberNodeIds canonical with ⟨entries, same, hops⟩
    have rebuilt : buildTreeEntries groupId nodeId memberNodeIds ordered = .ok routes := built
    rw [same] at rebuilt
    cases rebuilt
    exact ⟨ordered, canonical, permuted, same, hops⟩

/-- An entry that is built is that of a tree, under the tree's route id and with its next hops. -/
theorem mem_tree_entries {groupId : GroupId} {nodeId : UInt32} {memberNodeIds : Finset UInt32}
    {trees : List GroupRouteTree} {routes : List GroupRoutingTableEntry}
    {entry : GroupRoutingTableEntry}
    (built : buildTreeEntries groupId nodeId memberNodeIds trees = .ok routes)
    (member : entry ∈ routes) :
    ∃ tree ∈ trees, computeMultitreeRouteId groupId tree.treeId = .ok entry.routeId ∧
      entry.nextHops = treeNextHops tree.edges nodeId memberNodeIds := by
  induction trees generalizing routes with
  | nil =>
    cases built
    cases member
  | cons tree rest induction =>
    rw [buildTreeEntries] at built
    cases computed : computeMultitreeRouteId groupId tree.treeId with
    | error reason =>
      rw [computed] at built
      cases built
    | ok routeId =>
      cases later : buildTreeEntries groupId nodeId memberNodeIds rest with
      | error reason =>
        rw [computed, later] at built
        cases built
      | ok restRoutes =>
        rw [computed, later] at built
        cases built
        rcases List.mem_append.mp member with first | inRest
        · rw [Option.mem_toList] at first
          rcases build_entry_some first with ⟨sameId, sameHops⟩
          exact ⟨tree, List.mem_cons_self, by rw [sameId]; exact computed, sameHops⟩
        · rcases induction later inRest with ⟨found, foundMember, identified⟩
          exact ⟨found, List.mem_cons_of_mem _ foundMember, identified⟩

theorem tree_next_hops_usable (edges : List Edge) (nodeId : UInt32)
    (memberNodeIds : Finset UInt32) :
    invalidNode ∉ treeNextHops edges nodeId memberNodeIds := by
  rw [treeNextHops, List.mem_append, List.mem_map]
  rintro (⟨neighbor, _, same⟩ | self)
  · exact valid_node neighbor same
  · split_ifs at self
    · exact valid_node nodeId (List.mem_singleton.mp self).symm
    · cases self

theorem copy_usable_hops {hops : List NodeId} (routeId : Nat) (usable : invalidNode ∉ hops) :
    copyNextHops routeId hops = .ok hops := by
  rw [copyNextHops, if_neg usable]

/-- An entry built for a node is accepted by the node's table, whatever the table holds, and a
lookup on its source, group and tree finds its next hops. -/
theorem built_entry_installed {groupId : GroupId} {trees : List GroupRouteTree} {nodeId : UInt32}
    {memberNodeIds : Finset UInt32} {routes : List GroupRoutingTableEntry}
    {entry : GroupRoutingTableEntry}
    (built : buildGroupRoutesForNodeMultitree groupId trees nodeId memberNodeIds = .ok routes)
    (member : entry ∈ routes) (srcNodeId : NodeId) (table : RoutingTable) :
    ∃ tree ∈ trees, ∃ treeId : UInt16, treeId.toNat = tree.treeId ∧
      computeMultitreeRouteId groupId tree.treeId = .ok entry.routeId ∧
      (table.installGroupRoutes groupId srcNodeId routes).installed.availableRoutes[
        RouteKey.multicast srcNodeId groupId treeId]? =
          some [encodeMulticastRouteId entry.routeId] ∧
      ∀ slot flowId, keyForFlow table.config table.groupDir flowId (some treeId) =
          some (.multicast srcNodeId groupId treeId) →
        ((table.installGroupRoutes groupId srcNodeId routes).getNextHopsByFlowAndTree slot flowId
          (some treeId)).map Prod.snd = some (.ok entry.nextHops) := by
  rcases built_entries_hops built with ⟨ordered, canonical, permuted, entries, hops⟩
  rcases mem_tree_entries entries member with ⟨tree, treeMember, computed, sameHops⟩
  rcases computed_tree_in_range computed with ⟨treeId, index⟩
  have known : deterministicMulticastRouteId groupId treeId = some entry.routeId := by
    rw [← computed_route_deterministic, index]
    exact computed
  have given : treeHops groupId routes treeId = some entry.nextHops := by
    rcases Option.ne_none_iff_exists'.mp (tree_hops_of_entry member known) with ⟨found, present⟩
    have single := hops_of_tree_single canonical treeMember nodeId memberNodeIds
    rw [hops, index, single] at present
    split_ifs at present
    rw [hops, index, single, if_neg ‹_›, sameHops]
  rcases table.installed.install_tree_found srcNodeId known given with ⟨hopsFound, keyFound⟩
  refine ⟨tree, permuted.mem_iff.mp treeMember, treeId, index, computed, keyFound, ?_⟩
  intro slot flowId keyed
  have usable : invalidNode ∉ entry.nextHops := by
    rw [sameHops]
    exact tree_next_hops_usable tree.edges nodeId memberNodeIds
  rw [installed_tree_lookup slot table routes keyed, tree_lookup_found srcNodeId known hopsFound,
    copy_usable_hops _ usable]

/-- The two sides compute the same route ids. The ids are injective over groups and trees and lie
apart from the unicast ids, and what the controller builds the dataplane installs and finds. -/
theorem route_ids_agree :
    (∀ (groupId : GroupId) (treeId : UInt16) (routeId : Nat),
      computeMultitreeRouteId groupId treeId.toNat = .ok routeId ↔
        deterministicMulticastRouteId groupId treeId = some routeId) ∧
    (∀ (groupId : GroupId) (treeId : UInt16) (routeId : Nat),
      computeMultitreeRouteId groupId treeId.toNat = .ok routeId →
        treeIdFromRouteId groupId routeId = some treeId) ∧
    (∀ (groupId otherGroup : GroupId) (treeId otherTree routeId otherRoute : Nat),
      computeMultitreeRouteId groupId treeId = .ok routeId →
        computeMultitreeRouteId otherGroup otherTree = .ok otherRoute →
          encodeMulticastRouteId routeId = encodeMulticastRouteId otherRoute →
            groupId = otherGroup ∧ treeId = otherTree) ∧
    (∀ (groupId : GroupId) (treeId routeId unicastId : Nat),
      computeMultitreeRouteId groupId treeId = .ok routeId → unicastId < multicastRouteFlag →
        encodeMulticastRouteId routeId ≠ unicastId) ∧
    ∀ (groupId : GroupId) (trees ordered : List GroupRouteTree) (nodeId : UInt32)
      (memberNodeIds : Finset UInt32),
      canonicalizeGroupRouteTrees groupId trees = .ok ordered →
        ∃ routes, buildGroupRoutesForNodeMultitree groupId trees nodeId memberNodeIds = .ok routes ∧
          ∀ entry ∈ routes, ∀ (srcNodeId : NodeId) (table : RoutingTable),
            ∃ tree ∈ trees, ∃ treeId : UInt16, treeId.toNat = tree.treeId ∧
              computeMultitreeRouteId groupId tree.treeId = .ok entry.routeId ∧
              (table.installGroupRoutes groupId srcNodeId routes).installed.availableRoutes[
                RouteKey.multicast srcNodeId groupId treeId]? =
                  some [encodeMulticastRouteId entry.routeId] ∧
              ∀ slot flowId, keyForFlow table.config table.groupDir flowId (some treeId) =
                  some (.multicast srcNodeId groupId treeId) →
                ((table.installGroupRoutes groupId srcNodeId routes).getNextHopsByFlowAndTree slot
                  flowId (some treeId)).map Prod.snd = some (.ok entry.nextHops) := by
  refine ⟨?_, ?_, ?_, ?_, ?_⟩
  · intro groupId treeId routeId
    exact computed_route_deterministic
  · intro groupId treeId routeId computed
    exact tree_of_deterministic_route (computed_route_deterministic.mp computed)
  · intro groupId otherGroup treeId otherTree routeId otherRoute first second same
    rcases computed_tree_in_range first with ⟨index, rfl⟩
    rcases computed_tree_in_range second with ⟨otherIndex, rfl⟩
    rw [computed_route_deterministic] at first second
    rcases encoded_trees_injective first second same with ⟨sameGroup, rfl⟩
    exact ⟨sameGroup, rfl⟩
  · intro groupId treeId routeId unicastId computed below
    have above := encoded_above_flag (computed_route_ok.mp computed).2.2
    exact Nat.ne_of_gt (Nat.lt_of_lt_of_le below above)
  · intro groupId trees ordered nodeId memberNodeIds accepted
    rcases accepted_update_built nodeId memberNodeIds accepted with ⟨routes, built⟩
    refine ⟨routes, built, ?_⟩
    intro entry member srcNodeId table
    exact built_entry_installed built member srcNodeId table

theorem one_tree_accepted (groupId : GroupId) (tree : GroupRouteTree) (routeId : Nat)
    (computed : computeMultitreeRouteId groupId tree.treeId = .ok routeId) :
    canonicalizeGroupRouteTrees groupId [tree] = .ok [tree] := by
  rw [canonicalizeGroupRouteTrees, List.mergeSort_singleton, checkTrees,
    if_neg (Option.some_ne_none _).symm, computed]
  rfl

/-- A tree of two edges from node 1, as node 1 has it. -/
theorem one_tree_found :
    ∃ routes, buildGroupRoutesForNodeMultitree 7 [⟨3, [(1, 2), (1, 4)]⟩] 1 ∅ = .ok routes ∧
      ∀ entry ∈ routes,
        ((firstSourceTable.installGroupRoutes 7 1 routes).getNextHopsByFlowAndTree (fun _ _ => 0)
          groupFlow (some 3)).map Prod.snd = some (.ok entry.nextHops) := by
  have computed : computeMultitreeRouteId 7 3 = .ok 458755 := by decide
  have accepted := one_tree_accepted 7 ⟨3, [(1, 2), (1, 4)]⟩ 458755 computed
  rcases route_ids_agree.2.2.2.2 7 _ _ 1 ∅ accepted with ⟨routes, built, found⟩
  refine ⟨routes, built, ?_⟩
  intro entry member
  rcases found entry member 1 firstSourceTable with ⟨tree, only, treeId, index, _, _, looked⟩
  rw [List.mem_singleton.mp only] at index
  have third : treeId = 3 := UInt16.toNat_inj.mp index
  rw [third] at looked
  exact looked (fun _ _ => 0) groupFlow (group_flow_key 3)

end Nextmini.Controller
