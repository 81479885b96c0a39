import Nextmini.Controller.InstalledTrees
import Nextmini.Routing.Forwarding

/-!
# Delivery along a tree

A packet of a group on one of its trees, in a network whose nodes hold the entries the controller
built for them. The validation of an update looks at tree ids only, so the edges may repeat, meet
again or close a cycle; the packet is delivered once exactly where they do not.
-/

namespace Nextmini.Controller

open Nextmini.Library Nextmini.Routing

set_option autoImplicit false

/-! ## Tables after an update -/

/-- A node's table once it has been sent its entries of an update; an update that does not validate
sends none. -/
def updatedTable (groupId : GroupId) (srcNodeId : UInt32) (trees : List GroupRouteTree)
    (memberNodeIds : Finset UInt32) (nodeId : UInt32) (table : RoutingTable) : RoutingTable :=
  match buildGroupRoutesForNodeMultitree groupId trees nodeId memberNodeIds with
  | .ok routes => table.installGroupRoutes groupId srcNodeId.toNat routes
  | .error _ => table

/-- A table that knows the flow as one of the source to the group, after any operations that keep the
sources of the groups apart and leave the group to the source. -/
structure ServesSource (slot : JumpSlot) (config : LocalConfig) (flowId : FlowId)
    (groupId : GroupId) (srcNodeId : NodeId) (treeId : UInt16) (table : RoutingTable) : Prop where
  reached : ∃ labels, ((routing slot config).restrict fun table label =>
    KeepsSourcesApart table label.1).Run (.new config) labels table
  alone : ∀ otherTree, SoleSource table srcNodeId groupId otherTree
  keyed : keyForFlow table.config table.groupDir flowId (some treeId) =
    some (.multicast srcNodeId groupId treeId)

theorem resolved_tree_answer {srcNodeId : NodeId} {groupId : GroupId} {treeId : UInt16}
    {hops : List NodeId} (usable : invalidNode ∉ hops) :
    resolvedHops (treeAnswer srcNodeId groupId treeId (if hops = [] then none else some hops)) =
      hops := by
  split_ifs with none
  · rw [tree_answer_none, none]
    rfl
  · rw [tree_answer_some, copy_usable_hops _ usable]
    rfl

/-- After the update a node's table gives the packet the next hops of the node in the tree. -/
theorem updated_table_answers {slot : JumpSlot} {config : LocalConfig} {flowId : FlowId}
    {groupId : GroupId} {srcNodeId : UInt32} {trees ordered : List GroupRouteTree}
    (memberNodeIds : Finset UInt32) {tree : GroupRouteTree} {treeId : UInt16} {table : RoutingTable}
    (accepted : canonicalizeGroupRouteTrees groupId trees = .ok ordered) (member : tree ∈ trees)
    (index : treeId.toNat = tree.treeId) (nodeId : UInt32)
    (serves : ServesSource slot config flowId groupId srcNodeId.toNat treeId table) :
    ∃ reference answer,
      CachesAgree slot (updatedTable groupId srcNodeId trees memberNodeIds nodeId table) reference ∧
      reference.nextHops slot flowId (some treeId) = some answer ∧
      resolvedHops answer = treeNextHops tree.edges nodeId memberNodeIds := by
  rcases accepted_update_built nodeId memberNodeIds accepted with ⟨routes, built⟩
  rcases built_entries_hops built with ⟨canonicalTrees, canonical, permuted, _, hops⟩
  rcases serves.reached with ⟨labels, run⟩
  rcases tracks_of_run run with ⟨reference, tracks⟩
  have agree := install_group_routes_agree tracks.caches groupId srcNodeId.toNat routes
  have free : ∀ otherTree other, other ≠ srcNodeId.toNat →
      SourceTrees.lastInstalled (labels.map Prod.fst) other groupId otherTree = none := by
    intro otherTree other different
    have absent := serves.alone otherTree other different
    rw [tracks.caches.installed, tracks.sources.key_present] at absent
    exact not_not.mp absent
  have sources : PerSource (reference.installed.installGroupRoutes groupId srcNodeId.toNat routes)
      ((SourceTrees.lastInstalled (labels.map Prod.fst)).install groupId srcNodeId.toNat routes) :=
    tracks.sources.install_group_routes fun otherTree _ => free otherTree
  have keyed := serves.keyed
  rw [tracks.caches.config, tracks.caches.groupDir] at keyed
  have answered := (tree_lookup_answer sources srcNodeId.toNat groupId treeId).mpr (by
    intro other different
    rw [SourceTrees.install, if_neg (fun same => different same.1)]
    exact free treeId other different)
  have own : SourceTrees.install (SourceTrees.lastInstalled (labels.map Prod.fst)) groupId
      srcNodeId.toNat routes srcNodeId.toNat groupId treeId = treeHops groupId routes treeId := by
    rw [SourceTrees.install, if_pos ⟨rfl, rfl⟩]
  rw [own, hops, index, hops_of_tree_single canonical (permuted.mem_iff.mpr member)] at answered
  refine ⟨{ reference with
      installed := reference.installed.installGroupRoutes groupId srcNodeId.toNat routes
      pins := ∅ },
    treeLookup (reference.installed.installGroupRoutes groupId srcNodeId.toNat routes) srcNodeId.toNat
      groupId treeId, ?_, reference_tree_lookup keyed, ?_⟩
  · rw [updatedTable, built]
    exact agree
  · rw [answered]
    exact resolved_tree_answer (tree_next_hops_usable tree.edges nodeId memberNodeIds)

/-! ## The graph of a tree -/

/-- Where a copy goes on a tree: along each edge to another node that has a scheduler here. A node
keeps one copy for each of its edges to itself, and one if it is a member. -/
def treeGraph (schedulers : UInt32 → Finset UInt32) (edges : List Edge)
    (memberNodeIds : Finset UInt32) : Flooding UInt32 where
  forward node := (outgoingNeighbors edges node).filter fun neighbor =>
    neighbor ≠ node ∧ neighbor ∈ schedulers node
  deliver node := edges.count (node, node) + if node ∈ memberNodeIds then 1 else 0

theorem tree_edge {schedulers : UInt32 → Finset UInt32} {edges : List Edge}
    {memberNodeIds : Finset UInt32} {first second : UInt32} :
    (treeGraph schedulers edges memberNodeIds).Edge first second ↔
      (first, second) ∈ edges ∧ second ≠ first ∧ second ∈ schedulers first := by
  rw [Flooding.Edge, treeGraph, List.mem_filter, mem_outgoing, decide_eq_true_eq]

theorem outgoing_count (edges : List Edge) (nodeId neighbor : UInt32) :
    (outgoingNeighbors edges nodeId).count neighbor = edges.count (nodeId, neighbor) := by
  rw [outgoingNeighbors, List.count_reverse]
  induction edges with
  | nil => rfl
  | cons edge rest induction =>
    rcases edge with ⟨first, second⟩
    rw [List.filter_cons, List.count_cons]
    by_cases own : first = nodeId
    · simp only [own, decide_true, if_true, List.map_cons, List.count_cons, induction,
        beq_iff_eq, Prod.mk.injEq, true_and]
    · simp only [own, decide_false, Bool.false_eq_true, if_false, induction, beq_iff_eq,
        Prod.mk.injEq, false_and, Nat.add_zero]

theorem hop_graph_of_tree (schedulers : UInt32 → Finset UInt32) (edges : List Edge)
    (memberNodeIds : Finset UInt32) :
    hopGraph schedulers (fun node => treeNextHops edges node memberNodeIds) =
      treeGraph schedulers edges memberNodeIds := by
  have own (node : UInt32) : sendPacket node (schedulers node) node.toNat = .local := if_pos rfl
  simp only [hopGraph, treeGraph, Flooding.mk.injEq]
  constructor
  · funext node
    rw [treeNextHops, List.map_append, List.filterMap_append, List.map_map, sent_neighbors]
    split_ifs with member
    · rw [List.map_singleton, own]
      exact List.append_nil _
    · exact List.append_nil _
  · funext node
    rw [treeNextHops, List.map_append, List.count_append, List.map_map, kept_copies,
      outgoing_count]
    split_ifs with member
    · rw [List.map_singleton, own]
      rfl
    · rfl

/-! ## Exactly one copy -/

def TreeReaches (edges : List Edge) : UInt32 → UInt32 → Prop :=
  Relation.ReflTransGen fun first second => (first, second) ∈ edges

theorem updated_tables_answering {slot : JumpSlot} {config : LocalConfig} {flowId : FlowId}
    {groupId : GroupId} {srcNodeId : UInt32} {trees ordered : List GroupRouteTree}
    (memberNodeIds : Finset UInt32) {tree : GroupRouteTree} {treeId : UInt16}
    {before : UInt32 → RoutingTable}
    (accepted : canonicalizeGroupRouteTrees groupId trees = .ok ordered) (member : tree ∈ trees)
    (index : treeId.toNat = tree.treeId)
    (serves : ∀ node, ServesSource slot config flowId groupId srcNodeId.toNat treeId (before node)) :
    ∃ references, Answering slot flowId (some treeId)
      (fun node => updatedTable groupId srcNodeId trees memberNodeIds node (before node)) references
      fun node => treeNextHops tree.edges node memberNodeIds := by
  have answers := fun node => updated_table_answers memberNodeIds accepted member index node
    (serves node)
  choose references answer caches answered resolved using answers
  exact ⟨references, caches, fun node => ⟨answer node, answered node, resolved node⟩⟩

theorem tree_delivery {slot : JumpSlot} (schedulers : UInt32 → Finset UInt32)
    {references : UInt32 → ReferenceTable} {flowId : FlowId} {treeId : UInt16} (srcNodeId : UInt32)
    {memberNodeIds : Finset UInt32} {edges : List Edge} {tables : UInt32 → RoutingTable}
    (answering : Answering slot flowId (some treeId) tables references
      fun node => treeNextHops edges node memberNodeIds) :
    Delivers slot schedulers flowId (some treeId) tables srcNodeId
        (fun count => (∀ node, count node ≤ 1) ∧
          ∀ node ∈ {node | node ∈ memberNodeIds ∧ TreeReaches edges srcNodeId node},
            count node = 1) ↔
      (treeGraph schedulers edges memberNodeIds).SinglePath srcNodeId ∧
        ∀ node ∈ memberNodeIds, TreeReaches edges srcNodeId node →
          (treeGraph schedulers edges memberNodeIds).Reaches srcNodeId node := by
  rw [delivers_once_iff_single_path answering, hop_graph_of_tree]
  apply and_congr_right
  intro _
  constructor
  · intro reached node member path
    exact (reached node ⟨member, path⟩).1
  · rintro reached node ⟨member, path⟩
    refine ⟨reached node member path, ?_⟩
    simp only [treeGraph, if_pos member]
    exact Nat.succ_pos _

/-- A packet from the source ends its way and reaches every member that the tree reaches once, and no
node twice, exactly when the tree has no cycle, no node delivers twice, and one edge leads into each
node on the way to a delivery, over links that are up. -/
theorem members_served_once_iff (slot : JumpSlot) (config : LocalConfig)
    (schedulers : UInt32 → Finset UInt32) {flowId : FlowId} {groupId : GroupId}
    {srcNodeId : UInt32} {trees ordered : List GroupRouteTree} (memberNodeIds : Finset UInt32)
    {tree : GroupRouteTree} {treeId : UInt16} {before : UInt32 → RoutingTable}
    (accepted : canonicalizeGroupRouteTrees groupId trees = .ok ordered) (member : tree ∈ trees)
    (index : treeId.toNat = tree.treeId)
    (serves : ∀ node, ServesSource slot config flowId groupId srcNodeId.toNat treeId (before node)) :
    Delivers slot schedulers flowId (some treeId)
        (fun node => updatedTable groupId srcNodeId trees memberNodeIds node (before node)) srcNodeId
        (fun count => (∀ node, count node ≤ 1) ∧
          ∀ node ∈ {node | node ∈ memberNodeIds ∧ TreeReaches tree.edges srcNodeId node},
            count node = 1) ↔
      (treeGraph schedulers tree.edges memberNodeIds).SinglePath srcNodeId ∧
        ∀ node ∈ memberNodeIds, TreeReaches tree.edges srcNodeId node →
          (treeGraph schedulers tree.edges memberNodeIds).Reaches srcNodeId node := by
  rcases updated_tables_answering memberNodeIds accepted member index serves with
    ⟨references, answering⟩
  exact tree_delivery schedulers srcNodeId answering

theorem directory_table_serves (treeId : UInt16) :
    ServesSource (fun _ _ => 0) defaultConfig groupFlow 7 (1 : UInt32).toNat treeId
      directoryTable where
  reached := by
    refine ⟨[directoryStep], ?_⟩
    apply TransitionSystem.Run.single
    exact ⟨trivial, rfl⟩
  alone _ other _ := directory_table_untreed other 7 _
  keyed := group_flow_key treeId

/-- One edge from the source to a member. -/
theorem one_edge_served :
    Delivers (fun _ _ => 0) (fun _ => {1, 2}) groupFlow (some 3)
      (fun node => updatedTable 7 1 [⟨3, [(1, 2)]⟩] {2} node directoryTable) 1
      (fun count => (∀ node, count node ≤ 1) ∧
        ∀ node ∈ {node | node ∈ ({2} : Finset UInt32) ∧ TreeReaches [(1, 2)] 1 node},
          count node = 1) := by
  have computed : computeMultitreeRouteId 7 3 = .ok 458755 := by decide
  have accepted := one_tree_accepted 7 ⟨3, [(1, 2)]⟩ 458755 computed
  have edge (first second : UInt32) :
      (treeGraph (fun _ => {1, 2}) [(1, 2)] {2}).Edge first second ↔ first = 1 ∧ second = 2 := by
    rw [tree_edge, List.mem_singleton, Prod.mk.injEq]
    constructor
    · rintro ⟨ends, _⟩
      exact ends
    · rintro ⟨rfl, rfl⟩
      decide
  have answered := members_served_once_iff (fun _ _ => 0) defaultConfig (fun _ => {1, 2}) {2} accepted
    List.mem_cons_self rfl (fun _ => directory_table_serves 3)
  apply answered.mpr
  refine ⟨Flooding.single_path_of_edge (by decide) edge (by decide) ?_, ?_⟩
  · intro node
    have noLoop : (node, node) ∉ [((1 : UInt32), (2 : UInt32))] := by
      rw [List.mem_singleton, Prod.mk.injEq]
      rintro ⟨rfl, impossible⟩
      exact absurd impossible (by decide)
    simp only [treeGraph, List.count_eq_zero_of_not_mem noLoop, Nat.zero_add]
    split_ifs <;> decide
  · intro node member _
    rw [Finset.mem_singleton.mp member]
    exact .single ((edge 1 2).mpr ⟨rfl, rfl⟩)

/-- A cycle of two nodes sends the packet round for ever, and two paths to one member deliver it
twice; the controller accepts both. -/
theorem cycle_and_second_path_accepted :
    (∃ ordered, canonicalizeGroupRouteTrees 7 [⟨3, [(1, 2), (2, 1)]⟩] = .ok ordered) ∧
    ¬(forwarding (fun _ _ => 0) (fun _ => {1, 2}) groupFlow (some 3)
      (fun node => updatedTable 7 1 [⟨3, [(1, 2), (2, 1)]⟩] {2} node directoryTable) 1).Terminates
        (.start (fun node => updatedTable 7 1 [⟨3, [(1, 2), (2, 1)]⟩] {2} node directoryTable) 1) ∧
    (∃ ordered,
      canonicalizeGroupRouteTrees 7 [⟨3, [(1, 2), (1, 3), (2, 4), (3, 4)]⟩] = .ok ordered) ∧
    ¬Delivers (fun _ _ => 0) (fun _ => {1, 2, 3, 4}) groupFlow (some 3)
      (fun node => updatedTable 7 1 [⟨3, [(1, 2), (1, 3), (2, 4), (3, 4)]⟩] {4} node directoryTable) 1
      (fun count => (∀ node, count node ≤ 1) ∧
        ∀ node ∈ {node | node ∈ ({4} : Finset UInt32) ∧
          TreeReaches [(1, 2), (1, 3), (2, 4), (3, 4)] 1 node}, count node = 1) := by
  have computed : computeMultitreeRouteId 7 3 = .ok 458755 := by decide
  have cycle := one_tree_accepted 7 ⟨3, [(1, 2), (2, 1)]⟩ 458755 computed
  have diamond := one_tree_accepted 7 ⟨3, [(1, 2), (1, 3), (2, 4), (3, 4)]⟩ 458755 computed
  refine ⟨⟨_, cycle⟩, ?_, ⟨_, diamond⟩, ?_⟩
  · rcases updated_tables_answering {2} cycle List.mem_cons_self rfl
      (fun _ => directory_table_serves 3) with ⟨references, answering⟩
    intro terminates
    have forwarded : Delivers (fun _ _ => 0) (fun _ => {1, 2}) groupFlow (some 3) _ 1
        fun _ => True := ⟨terminates, fun _ _ _ _ => trivial⟩
    have flooded := ((delivers_iff_flood answering 1 _).mp forwarded).1
    rw [hop_graph_of_tree, Flooding.terminates_iff_no_cycle (Set.toFinite _)] at flooded
    have edge : ∀ first second, (first, second) ∈ [((1 : UInt32), (2 : UInt32)), (2, 1)] ∧
        second ≠ first ∧ second ∈ ({1, 2} : Finset UInt32) →
          (treeGraph (fun _ => {1, 2}) [(1, 2), (2, 1)] {2}).Edge first second := by
      intro first second listed
      exact tree_edge.mpr listed
    exact flooded 1 .refl (.tail (.single (edge 1 2 (by decide))) (edge 2 1 (by decide)))
  · rcases updated_tables_answering {4} diamond List.mem_cons_self rfl
      (fun _ => directory_table_serves 3) with ⟨references, answering⟩
    rw [tree_delivery _ _ answering]
    rintro ⟨single, _⟩
    have edge : ∀ first second, (first, second) ∈
        [((1 : UInt32), (2 : UInt32)), (1, 3), (2, 4), (3, 4)] ∧ second ≠ first ∧
          second ∈ ({1, 2, 3, 4} : Finset UInt32) →
            (treeGraph (fun _ => {1, 2, 3, 4}) [(1, 2), (1, 3), (2, 4), (3, 4)] {4}).Edge
              first second := by
      intro first second listed
      exact tree_edge.mpr listed
    have toLeft := edge 1 2 (by decide)
    have toRight := edge 1 3 (by decide)
    have fromLeft := edge 2 4 (by decide)
    have fromRight := edge 3 4 (by decide)
    have same := (single.oneWayIn 4 4 (.tail (.single toLeft) fromLeft) .refl (by decide) 2
      (.single toLeft) fromLeft).2 3 (.single toRight) fromRight
    exact absurd same (by decide)

end Nextmini.Controller
