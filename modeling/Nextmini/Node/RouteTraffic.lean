import Nextmini.Controller.TopologyRoutes
import Nextmini.Controller.TreeDelivery
import Nextmini.Controller.UnicastDelivery
import Nextmini.Node.RouteDelivery

/-!
# Traffic on the controller's routes

Nodes whose tables hold what the controller built for them: the entries of a group's tree, or the
shortest routes of a topology. Their lookups follow a tree, so that what is known of delivery along
routes holds of the packets of such a flow.
-/

namespace Nextmini.Node

open Nextmini.Library Nextmini.Library.PipeChain Nextmini.Routing Nextmini.Controller

set_option autoImplicit false

/-! ## Answers of a table -/

/-- A table that answers as an installed one: the two differ in what their caches remember. -/
def AnswersAs (slot : JumpSlot) (installed table : RoutingTable) : Prop :=
  ∃ reference, CachesAgree slot installed reference ∧ CachesAgree slot table reference

theorem answer_of_installed {slot : JumpSlot} {installed table later : RoutingTable}
    {reference : ReferenceTable} {flowId : FlowId} {treeId : Option UInt16}
    {expected answer : Except String (List NodeId)} (same : AnswersAs slot installed table)
    (agree : CachesAgree slot installed reference)
    (answered : reference.nextHops slot flowId treeId = some expected)
    (found : table.getNextHopsByFlowAndTree slot flowId treeId = some (later, answer)) :
    answer = expected := by
  rcases same with ⟨common, installedAlike, tableAlike⟩
  have first := next_hops_alike agree flowId treeId
  have second := next_hops_alike installedAlike flowId treeId
  have third := next_hops_alike tableAlike flowId treeId
  rw [AnswersAlike, answered] at first
  rw [AnswersAlike] at second third
  rw [found] at third
  generalize installed.getNextHopsByFlowAndTree slot flowId treeId = asked at first second
  generalize common.nextHops slot flowId treeId = shared at second third
  cases third with
  | some told =>
    cases second with
    | some middle =>
      cases first with
      | some given => exact told.2.trans (middle.2.symm.trans given.2)

def nodeHops (hops : UInt32 → List NodeId) (id : NodeId) : List NodeId :=
  if id < 2 ^ 32 then hops (UInt32.ofNat id) else []

theorem node_hops (hops : UInt32 → List NodeId) (node : UInt32) :
    nodeHops hops node.toNat = hops node := by
  rw [nodeHops, if_pos node.toNat_lt, UInt32.ofNat_toNat]

section Guards

variable {config : NodeId → NodeConfig}

/-- Lookups of the flow and tree are made at nodes that hold their table, and its packets come into the
network at the source. -/
structure Installed (key : FlowTree) (source : NodeId) (holds : UInt32 → RoutingTable → Prop)
    (state : NodeNetwork config) (label : NetworkLabel) : Prop where
  looksUp : ∀ id index packet rest, label = .stepped id (.taken index) →
    ((state.node id).lane index).queued = packet :: rest → packet.flowTree = key →
      ∃ node : UInt32, node.toNat = id ∧
        holds node ((state.node id).lane index).processor.routingTable
  entered : ∀ id inner, label = .stepped id inner → id ≠ source → key.of inner.submitted = []

/-- Every answer of a held table gives the hops of its node. -/
def Answers (slot : JumpSlot) (key : FlowTree) (holds : UInt32 → RoutingTable → Prop)
    (hops : UInt32 → List NodeId) : Prop :=
  ∀ node table later answer, holds node table →
    table.getNextHopsByFlowAndTree slot key.flowId key.losslessFecTreeId = some (later, answer) →
      resolvedHops answer = hops node

theorem on_route_of_installed {slot : JumpSlot} {key : FlowTree} {source : NodeId}
    {holds : UInt32 → RoutingTable → Prop} {hops : UInt32 → List NodeId}
    {state : NodeNetwork config} {label : NetworkLabel} (answers : Answers slot key holds hops)
    (installed : Installed key source holds state label) :
    OnRoute slot key (nodeHops hops) source state label where
  looksUp id inner same := by
    intro index packet rest table answer taken queued own found
    subst taken
    rcases installed.looksUp id index packet rest same queued own with ⟨node, rfl, held⟩
    subst own
    rw [node_hops]
    exact answers node _ table answer held found
  entered := installed.entered

end Guards

/-! ## Trees of edges -/

/-- One edge at most leads into a node and none into the source. -/
structure EdgeTree (edges : List Edge) (source : UInt32) : Prop where
  single : (edges.map Prod.snd).Nodup
  rooted : ∀ edge ∈ edges, edge.2 ≠ source
  loopless : ∀ edge ∈ edges, edge.1 ≠ edge.2

section Trees

variable {edges : List Edge} {source : UInt32} {memberNodeIds : Finset UInt32}

abbrev edgeHops (edges : List Edge) (memberNodeIds : Finset UInt32) : NodeId → List NodeId :=
  nodeHops fun node => treeNextHops edges node memberNodeIds

/-- A hop leads along an edge, or stays at a member. -/
theorem mem_edge_hops {id neighbor : NodeId} :
    neighbor ∈ edgeHops edges memberNodeIds id ↔
      (∃ first second, first.toNat = id ∧ second.toNat = neighbor ∧ (first, second) ∈ edges) ∨
        ∃ node ∈ memberNodeIds, node.toNat = id ∧ neighbor = id := by
  constructor
  · intro led
    rw [edgeHops, nodeHops] at led
    split_ifs at led with small
    · have same : (UInt32.ofNat id).toNat = id := UInt32.toNat_ofNat_of_lt' small
      rw [treeNextHops, List.mem_append, List.mem_map] at led
      cases led with
      | inl along =>
        rcases along with ⟨second, leaves, rfl⟩
        exact .inl ⟨_, second, same, rfl, mem_outgoing.mp leaves⟩
      | inr stays =>
        split_ifs at stays with member
        · rw [List.mem_singleton, same] at stays
          exact .inr ⟨_, member, same, stays⟩
        · cases stays
    · cases led
  · intro either
    cases either with
    | inl along =>
      rcases along with ⟨first, second, rfl, rfl, edge⟩
      rw [edgeHops, node_hops, treeNextHops, List.mem_append]
      exact .inl (List.mem_map_of_mem (mem_outgoing.mpr edge))
    | inr stays =>
      rcases stays with ⟨node, member, rfl, rfl⟩
      rw [edgeHops, node_hops, treeNextHops, List.mem_append, if_pos member]
      exact .inr (List.mem_singleton_self _)

theorem edge_hop_away {id neighbor : NodeId}
    (led : neighbor ∈ edgeHops edges memberNodeIds id) (away : neighbor ≠ id) :
    ∃ first second, first.toNat = id ∧ second.toNat = neighbor ∧ (first, second) ∈ edges := by
  cases mem_edge_hops.mp led with
  | inl along => exact along
  | inr stays =>
    rcases stays with ⟨_, _, _, same⟩
    exact absurd same away

theorem edge_hops_nodup (tree : EdgeTree edges source) (id : NodeId) :
    (edgeHops edges memberNodeIds id).Nodup := by
  rw [edgeHops, nodeHops]
  split_ifs with small
  · have apart : (outgoingNeighbors edges (UInt32.ofNat id)).Nodup := by
      rw [outgoingNeighbors, List.nodup_reverse]
      exact tree.single.sublist (List.filter_sublist.map _)
    have distinct := apart.map (f := UInt32.toNat) fun _ _ => UInt32.toNat_inj.mp
    rw [treeNextHops]
    split_ifs with member
    · rw [List.nodup_append]
      refine ⟨distinct, List.nodup_singleton _, ?_⟩
      intro neighbor leaves other stays same
      rw [List.mem_singleton.mp stays] at same
      rcases List.mem_map.mp leaves with ⟨second, outgoing, rfl⟩
      rw [UInt32.toNat_inj.mp same] at outgoing
      exact tree.loopless _ (mem_outgoing.mp outgoing) rfl
    · rw [List.append_nil]
      exact distinct
  · exact List.nodup_nil

theorem edge_route_tree (tree : EdgeTree edges source) (memberNodeIds : Finset UInt32) :
    RouteTree (edgeHops edges memberNodeIds) source.toNat where
  apart id := edge_hops_nodup tree id
  oneWay id other neighbor led away alsoLed alsoAway := by
    rcases edge_hop_away led away with ⟨first, second, rfl, rfl, edge⟩
    rcases edge_hop_away alsoLed alsoAway with ⟨third, fourth, rfl, same, alsoEdge⟩
    rw [UInt32.toNat_inj] at same
    subst same
    have equal := List.inj_on_of_nodup_map tree.single edge alsoEdge rfl
    rw [Prod.mk.injEq] at equal
    rw [equal.1]
  rooted id led := by
    cases mem_edge_hops.mp led with
    | inl along =>
      rcases along with ⟨first, second, _, same, edge⟩
      exact absurd (UInt32.toNat_inj.mp same) (tree.rooted _ edge)
    | inr stays =>
      rcases stays with ⟨_, _, _, same⟩
      exact same.symm

theorem hops_of_edges (tree : EdgeTree edges source) {path : List UInt32}
    (chain : path.IsChain fun first second => (first, second) ∈ edges) :
    (path.map UInt32.toNat).IsChain fun node neighbor =>
      neighbor ∈ edgeHops edges memberNodeIds node ∧ neighbor ≠ node := by
  rw [List.isChain_map]
  apply chain.imp
  intro first second edge
  refine ⟨mem_edge_hops.mpr (.inl ⟨first, second, rfl, rfl, edge⟩), ?_⟩
  intro same
  exact tree.loopless _ edge (UInt32.toNat_inj.mp same).symm

/-- What a member on a path of edges has handed over, keeps or has waiting, and what is on the way to
it, is what came in at the source; who is no member hands over nothing. -/
theorem members_exact {slots : LaneSlots} {slot : JumpSlot} {key : FlowTree}
    {config : NodeId → NodeConfig} {holds : UInt32 → RoutingTable → Prop}
    {labels : List NetworkLabel} {state : NodeNetwork config}
    (named : ∀ id, (config id).nodeId = id) (waits : ∀ id, SequentialNode.Waits (config id))
    (tree : EdgeTree edges source)
    (answers : Answers slot key holds fun node => treeNextHops edges node memberNodeIds)
    (run : ((network slots slot config).restrict fun state label =>
      Installed key source.toNat holds state label ∧
        Served slots key (edgeHops edges memberNodeIds) state label).Run (.new config) labels state) :
    (∀ path node, (source :: path).IsChain (fun first second => (first, second) ∈ edges) →
      (source :: path).getLast? = some node → node ∈ memberNodeIds →
        key.of (state.delivered node.toNat) ++ ((state.node node.toNat).keeping slots key ++
          (state.node node.toNat).waiting slots key ++
            state.underwayAlong slots key ((source :: path).map UInt32.toNat)) =
              key.of (state.node source.toNat).submitted) ∧
      ∀ id, (∀ node ∈ memberNodeIds, node.toNat ≠ id) → key.of (state.delivered id) = [] := by
  have onRoute := run.restrict_mono fun state label both =>
    And.intro (on_route_of_installed answers both.1) both.2
  have traced := traced_of_run named waits (edge_route_tree tree memberNodeIds) onRoute
  refine ⟨?_, ?_⟩
  · intro path node chain ends member
    have hops := @hops_of_edges edges source memberNodeIds tree _ chain
    have last : ((source :: path).map UInt32.toNat).getLast? = some node.toNat := by
      rw [List.getLast?_map, ends, Option.map_some]
    have delivers : node.toNat ∈ edgeHops edges memberNodeIds node.toNat :=
      mem_edge_hops.mpr (.inr ⟨node, member, rfl, rfl⟩)
    exact delivered_exact traced hops last delivers
  · intro id outside
    apply (traced.keeping id ?_).2
    intro led
    cases mem_edge_hops.mp led with
    | inl along =>
      rcases along with ⟨first, second, rfl, same, edge⟩
      exact tree.loopless _ edge (UInt32.toNat_inj.mp same).symm
    | inr stays =>
      rcases stays with ⟨node, member, same, _⟩
      exact outside node member same

end Trees

/-! ## Traffic to a group -/

/-- A node's table after an update to its group. -/
def HoldsTree (slot : JumpSlot) (addresses : LocalConfig) (flowId : FlowId) (groupId : GroupId)
    (srcNodeId : UInt32) (trees : List GroupRouteTree) (memberNodeIds : Finset UInt32)
    (treeId : UInt16) (node : UInt32) (table : RoutingTable) : Prop :=
  ∃ before, ServesSource slot addresses flowId groupId srcNodeId.toNat treeId before ∧
    AnswersAs slot (updatedTable groupId srcNodeId trees memberNodeIds node before) table

theorem tree_answers {slot : JumpSlot} {addresses : LocalConfig} {flowId : FlowId}
    {groupId : GroupId} {srcNodeId : UInt32} {trees ordered : List GroupRouteTree}
    {memberNodeIds : Finset UInt32} {tree : GroupRouteTree} {treeId : UInt16}
    (accepted : canonicalizeGroupRouteTrees groupId trees = .ok ordered) (member : tree ∈ trees)
    (index : treeId.toNat = tree.treeId) :
    Answers slot ⟨flowId, some treeId⟩
      (HoldsTree slot addresses flowId groupId srcNodeId trees memberNodeIds treeId)
      fun node => treeNextHops tree.edges node memberNodeIds := by
  intro node table later answer held found
  rcases held with ⟨before, serves, same⟩
  rcases updated_table_answers memberNodeIds accepted member index node serves with
    ⟨reference, expected, agree, answered, resolved⟩
  rw [answer_of_installed same agree answered found]
  exact resolved

theorem admits_installed {packet : Packet} {table : RoutingTable}
    {holds : UInt32 → RoutingTable → Prop}
    (held : ∀ node : UInt32, node = 1 ∨ node = 2 → holds node table) :
    LetsThrough packet table (Installed packet.flowTree 1 holds) := by
  refine ⟨?_, ?_⟩
  · intro state label unlooked
    refine ⟨?_, ?_⟩
    · intro id index _ _ same
      exact absurd same (unlooked.unlooked id index)
    · intro id inner same outside
      rw [unlooked.entered id inner same outside, FlowTree.of_nil]
  · intro state id _ _ hop holding
    refine ⟨?_, ?_⟩
    · intro other index front rest same queued own
      cases same
      rw [holding.table]
      cases hop with
      | inl first => exact ⟨1, first.symm, held 1 (.inl rfl)⟩
      | inr second => exact ⟨2, second.symm, held 2 (.inr rfl)⟩
    · intro other inner same _
      cases same
      rfl

theorem admits_served {packet : Packet} {table : RoutingTable} {hops : NodeId → List NodeId}
    (led : ∀ id, id = 1 ∨ id = 2 → hops id = [2]) :
    LetsThrough packet table (Served firstLane packet.flowTree hops) := by
  refine ⟨?_, ?_⟩
  · intro state label unlooked
    refine ⟨?_, ?_, ?_⟩
    · intro id front rest same
      exact absurd same (unlooked.unlooked id _)
    · intro id front same
      exact absurd same (unlooked.untried id front)
    · intro first second front rest same
      exact absurd same (unlooked.kept first second)
  · intro state id _ _ hop holding
    refine ⟨?_, ?_, ?_⟩
    · intro other front rest same queued own handle onRoute away
      rw [pair_lane] at same
      rw [pair_lane]
      cases same
      rw [led id hop, List.mem_singleton] at onRoute
      subst onRoute
      have first : id = 1 := hop.resolve_right fun same => away same.symm
      subst first
      exact holding.scheduler rfl
    · intro other front same
      cases same
    · intro first second front rest same
      cases same

theorem pair_waits (id : NodeId) : SequentialNode.Waits (pair id) where
  normal := rfl
  backpressure := rfl
  room := Nat.zero_lt_succ 15

theorem one_edge_tree : EdgeTree [((1 : UInt32), (2 : UInt32))] 1 where
  single := List.nodup_singleton 2
  rooted edge member := by
    rw [List.mem_singleton.mp member]
    decide
  loopless edge member := by
    rw [List.mem_singleton.mp member]
    decide

theorem one_tree_held {node : UInt32} (known : node = 1 ∨ node = 2) :
    HoldsTree firstSlot defaultConfig groupFlow 7 1 [⟨0, [(1, 2)]⟩] {2} 0 node
      (treeProcessor [2]).routingTable := by
  have computed : computeMultitreeRouteId 7 0 = .ok 458752 := by decide
  have accepted := one_tree_accepted 7 ⟨0, [(1, 2)]⟩ 458752 computed
  have serves := directory_table_serves 0
  rcases updated_table_answers {2} accepted List.mem_cons_self rfl node serves with
    ⟨reference, _, agree, _, _⟩
  have same : updatedTable 7 1 [⟨0, [(1, 2)]⟩] {2} node directoryTable =
      (treeProcessor [2]).routingTable := by
    have built : buildGroupRoutesForNodeMultitree 7 [⟨0, [(1, 2)]⟩] node {2} =
        .ok [⟨458752, [2]⟩] := by
      rw [buildGroupRoutesForNodeMultitree, accepted]
      cases known with
      | inl first =>
        rw [first]
        rfl
      | inr second =>
        rw [second]
        rfl
    rw [updatedTable, built]
    rfl
  refine ⟨directoryTable, serves, reference, agree, ?_⟩
  rw [← same]
  exact agree

section Paths

variable {edges path : List Edge} {src dst : UInt32}

theorem path_edge_tree (walk : IsPath edges src dst path)
    (distinct : (src :: path.map Prod.snd).Nodup) : EdgeTree path src where
  single := (List.nodup_cons.mp distinct).2
  rooted edge member same := by
    have again := List.mem_map_of_mem (f := Prod.snd) member
    rw [same] at again
    exact (List.nodup_cons.mp distinct).1 again
  loopless _ member := (path_edges_apart walk distinct member).1

theorem distinct_neighbors_of_nodup {nodeId : UInt32}
    (distinct : (outgoingNeighbors edges nodeId).Nodup) :
    distinctNeighbors edges nodeId = outgoingNeighbors edges nodeId := by
  have kept : ∀ neighbors hops : List UInt32, (hops ++ neighbors).Nodup →
      neighbors.foldl (fun hops neighbor =>
        if neighbor ∈ hops then hops else hops ++ [neighbor]) hops = hops ++ neighbors := by
    intro neighbors
    induction neighbors with
    | nil =>
      intro hops _
      exact (List.append_nil hops).symm
    | cons first rest induction =>
      intro hops apart
      have outside : first ∉ hops := by
        intro known
        exact (List.nodup_append.mp apart).2.2 first known first List.mem_cons_self rfl
      have split : hops ++ first :: rest = (hops ++ [first]) ++ rest := by
        rw [List.append_assoc, List.singleton_append]
      rw [split] at apart ⊢
      rw [List.foldl_cons, if_neg outside]
      exact induction _ apart
  rw [distinctNeighbors, kept (outgoingNeighbors edges nodeId) [] distinct, List.nil_append]

/-- Along a path through distinct nodes a node sends to the next one, and the last one delivers. -/
theorem path_hops (walk : IsPath edges src dst path)
    (distinct : (src :: path.map Prod.snd).Nodup) (apart : src ≠ dst) (nodeId : UInt32) :
    (if routeNextHops path nodeId ≠ [invalidNode] then routeNextHops path nodeId else []) =
      treeNextHops path nodeId {dst} := by
  have tree := path_edge_tree walk distinct
  have leaves : (outgoingNeighbors path nodeId).Nodup := by
    rw [outgoingNeighbors, List.nodup_reverse]
    exact tree.single.sublist (List.filter_sublist.map _)
  simp only [treeNextHops, Finset.mem_singleton]
  by_cases onward : outgoingNeighbors path nodeId = []
  · by_cases last : nodeId = dst
    · subst last
      have arrives : ∃ edge ∈ path, edge.2 = nodeId := by
        have ends := List.mem_of_getLast? (path_last walk)
        rw [List.mem_cons] at ends
        cases ends with
        | inl same => exact absurd same.symm apart
        | inr later => exact List.mem_map.mp later
      rcases arrives with ⟨edge, member, same⟩
      have incoming : incomingNeighbors path nodeId ≠ [] := by
        rw [incomingNeighbors, Ne, List.reverse_eq_nil_iff, List.map_eq_nil_iff,
          List.filter_eq_nil_iff]
        intro none
        exact none edge member (decide_eq_true same)
      have touched : isEndpoint path nodeId = true := by
        rw [isEndpoint, List.any_eq_true]
        exact ⟨edge, member, by simp [same]⟩
      have sink : isSink path nodeId = true := decide_eq_true ⟨onward, incoming⟩
      have hops : routeNextHops path nodeId = [nodeId.toNat] := by
        simp only [routeNextHops, distinct_neighbors_of_nodup leaves, onward, List.map_nil, ne_eq,
          not_true_eq_false, if_false]
        rw [if_pos ⟨touched, sink⟩]
      have usable : [nodeId.toNat] ≠ [invalidNode] :=
        fun same => valid_node nodeId (List.singleton_inj.mp same)
      rw [hops, if_pos usable, onward, if_pos rfl]
      rfl
    · have unsunk : ¬isSink path nodeId = true := by
        intro sink
        have incoming := (of_decide_eq_true sink).2
        rcases List.exists_mem_of_ne_nil _ incoming with ⟨first, enters⟩
        simp only [incomingNeighbors, List.mem_reverse, List.mem_map, List.mem_filter,
          decide_eq_true_eq] at enters
        rcases enters with ⟨edge, ⟨member, same⟩, _⟩
        have continues := (path_edges_apart walk distinct member).2.2
        rw [same] at continues
        rcases continues last with ⟨next, following⟩
        have outgoing := mem_outgoing.mpr following
        rw [onward] at outgoing
        cases outgoing
      have hops : routeNextHops path nodeId = [invalidNode] := by
        simp only [routeNextHops, distinct_neighbors_of_nodup leaves, onward, List.map_nil, ne_eq,
          not_true_eq_false, if_false]
        rw [if_neg fun both => unsunk both.2]
      rw [hops, if_neg (not_not.mpr rfl), onward, if_neg last]
      rfl
  · have inner : nodeId ≠ dst := by
      rcases List.exists_mem_of_ne_nil _ onward with ⟨next, outgoing⟩
      exact (path_edges_apart walk distinct (mem_outgoing.mp outgoing)).2.1
    have some : (outgoingNeighbors path nodeId).map UInt32.toNat ≠ [] := by
      intro none
      exact onward (List.map_eq_nil_iff.mp none)
    have hops : routeNextHops path nodeId = (outgoingNeighbors path nodeId).map UInt32.toNat := by
      simp only [routeNextHops, distinct_neighbors_of_nodup leaves]
      rw [if_pos some]
    have usable : (outgoingNeighbors path nodeId).map UInt32.toNat ≠ [invalidNode] := by
      intro same
      have member : invalidNode ∈ (outgoingNeighbors path nodeId).map UInt32.toNat := by
        rw [same]
        exact List.mem_singleton_self _
      rcases List.mem_map.mp member with ⟨neighbor, _, wide⟩
      exact valid_node neighbor wide
    rw [hops, if_pos usable, if_neg inner, List.append_nil]

end Paths

theorem filter_unique {Entry Value : Type*} [BEq Value] [LawfulBEq Value] [DecidableEq Value]
    (field : Entry → Value) {entries : List Entry} {entry : Entry} (member : entry ∈ entries)
    (once : (entries.map field).count (field entry) = 1) :
    entries.filter (fun other => field other = field entry) = [entry] := by
  have found : entry ∈ entries.filter fun other => field other = field entry :=
    List.mem_filter.mpr ⟨member, decide_eq_true rfl⟩
  have single : (entries.filter fun other => field other = field entry).length = 1 := by
    rw [List.count, List.countP_map, List.countP_eq_length_filter] at once
    rw [← once]
    apply congrArg List.length
    apply List.filter_congr
    intro other _
    exact (beq_eq_decide _ _).symm
  rcases List.length_eq_one_iff.mp single with ⟨only, same⟩
  rw [same] at found ⊢
  rw [List.mem_singleton.mp found]

def routeCollection (routes : List Route) : RouteCollection :=
  routes.map fun route => (route.srcNodeId, route.dstNodeId, route.edges)

/-- The one route between its two nodes, along distinct nodes. -/
structure SolePath (routes : List Route) (route : Route) : Prop where
  only : routes.filter (fun other => (other.srcNodeId, other.dstNodeId) =
    (route.srcNodeId, route.dstNodeId)) = [route]
  path : ∃ edges, IsPath edges route.srcNodeId route.dstNodeId route.edges
  distinct : (route.srcNodeId :: route.edges.map Prod.snd).Nodup
  apart : route.srcNodeId ≠ route.dstNodeId

/-- A topology has one shortest route for each pair of nodes. -/
theorem sole_of_shortest {edges : List Edge} {routes : List Route}
    (shortest : ShortestRoutes edges (routeCollection routes)) {route : Route}
    (member : route ∈ routes) : SolePath routes route := by
  have listed : (route.srcNodeId, route.dstNodeId, route.edges) ∈ routeCollection routes :=
    List.mem_map_of_mem member
  have path : ShortestPath edges route.srcNodeId route.dstNodeId route.edges :=
    shortest.shortest _ _ _ listed
  have once : (routes.map fun route => (route.srcNodeId, route.dstNodeId)).Nodup := by
    have pairs := shortest.once
    rw [routeCollection, List.map_map] at pairs
    exact pairs
  have only := filter_unique (fun route : Route => (route.srcNodeId, route.dstNodeId)) member
    (List.count_eq_one_of_mem once (List.mem_map_of_mem member))
  exact ⟨only, ⟨edges, path.1⟩, shortest_nodes_nodup path,
    ((shortest.pairs _ _).mp ⟨_, listed⟩).1⟩

/-- With one route between two nodes a node has that one to choose. -/
theorem chosen_path_hops (slot : JumpSlot) {routes : List Route} {route : Route}
    (sole : SolePath routes route) (nodeId : UInt32) :
    chosenHops slot routes route.srcNodeId route.dstNodeId nodeId =
      treeNextHops route.edges nodeId {route.dstNodeId} := by
  rcases sole.path with ⟨edges, walk⟩
  have candidates : candidateRoutes routes route.srcNodeId route.dstNodeId nodeId =
      [route].filter fun route => routeNextHops route.edges nodeId ≠ [invalidNode] := by
    rw [← sole.only, List.filter_filter, candidateRoutes]
    apply List.filter_congr
    intro other _
    simp only [Prod.mk.injEq, Bool.decide_and]
    rw [Bool.and_comm (decide (routeNextHops other.edges nodeId ≠ [invalidNode])), Bool.and_assoc]
  have single : ([route].filter fun route => routeNextHops route.edges nodeId ≠ [invalidNode]) =
      if routeNextHops route.edges nodeId ≠ [invalidNode] then [route] else [] := by
    simp only [List.filter_cons, List.filter_nil, decide_eq_true_eq]
  rw [← path_hops walk sole.distinct sole.apart nodeId, chosenHops, chosenRoute, candidates, single]
  split_ifs
  · rfl
  · rfl

/-- A node's table after it was sent its routes. -/
def HoldsRoutes (slot : JumpSlot) (flowId : FlowId) (treeId : Option UInt16) (routes : List Route)
    (srcNodeId dstNodeId : UInt32) (node : UInt32) (table : RoutingTable) : Prop :=
  ∃ before reference, CachesAgree slot before reference ∧
    keyForFlow before.config before.groupDir flowId treeId =
      some (.unicast srcNodeId.toNat dstNodeId.toNat) ∧
    AnswersAs slot (before.installRoutes (startUpRoutes routes node)) table

theorem route_answers {slot : JumpSlot} (inRange : ∀ key count, 0 < count → slot key count < count)
    {flowId : FlowId} {treeId : Option UInt16} {routes : List Route}
    (distinct : (routes.map Route.routeId).Nodup) {route : Route} (sole : SolePath routes route) :
    Answers slot ⟨flowId, treeId⟩
      (HoldsRoutes slot flowId treeId routes route.srcNodeId route.dstNodeId)
      fun node => treeNextHops route.edges node {route.dstNodeId} := by
  intro node table later answer held found
  rcases held with ⟨before, start, agree, keyed, same⟩
  rcases installed_table_answers inRange distinct node agree keyed with
    ⟨reference, expected, installed, answered, resolved⟩
  rw [answer_of_installed same installed answered found, resolved]
  exact chosen_path_hops slot sole node

/-- Over every interleaving the packets between two nodes with one route arrive along it. -/
theorem path_traffic_exact (slots : LaneSlots) {slot : JumpSlot}
    (inRange : ∀ key count, 0 < count → slot key count < count) {config : NodeId → NodeConfig}
    (named : ∀ id, (config id).nodeId = id) (waits : ∀ id, SequentialNode.Waits (config id))
    {flowId : FlowId} {treeId : Option UInt16} {routes : List Route}
    (distinct : (routes.map Route.routeId).Nodup) {route : Route} (sole : SolePath routes route)
    {labels : List NetworkLabel} {state : NodeNetwork config}
    (run : ((network slots slot config).restrict fun state label =>
      Installed ⟨flowId, treeId⟩ route.srcNodeId.toNat
          (HoldsRoutes slot flowId treeId routes route.srcNodeId route.dstNodeId) state label ∧
        Served slots ⟨flowId, treeId⟩ (edgeHops route.edges {route.dstNodeId}) state label).Run
          (.new config) labels state) :
    let key : FlowTree := ⟨flowId, treeId⟩
    let node := route.dstNodeId.toNat
    key.of (state.delivered node) ++ ((state.node node).keeping slots key ++
        (state.node node).waiting slots key ++
          state.underwayAlong slots key
            ((route.srcNodeId :: route.edges.map Prod.snd).map UInt32.toNat)) =
              key.of (state.node route.srcNodeId.toNat).submitted ∧
      ∀ id, id ≠ node → key.of (state.delivered id) = [] := by
  rcases sole.path with ⟨edges, walk⟩
  have tree := path_edge_tree walk sole.distinct
  rcases members_exact named waits tree (route_answers inRange distinct sole) run with
    ⟨members, others⟩
  refine ⟨?_, ?_⟩
  · exact members (route.edges.map Prod.snd) route.dstNodeId (path_chain walk) (path_last walk)
      (Finset.mem_singleton_self _)
  · intro id outside
    apply others id
    intro node only same
    rw [Finset.mem_singleton.mp only] at same
    exact outside same.symm

def linkRoutes : List Route :=
  [edgeRoute, { edgeRoute with
    routeId := 2
    srcNodeId := 2
    dstNodeId := 1
    edges := [(2, 1)] }]

theorem link_routes_shortest : ShortestRoutes [(1, 2)] (routeCollection linkRoutes) := by
  have link : Adjacent [(1, 2)] 1 2 := .inl (List.mem_singleton_self _)
  have listed (src dst : UInt32) (path : List Edge) :
      (src, dst, path) ∈ routeCollection linkRoutes ↔
        (src = 1 ∧ dst = 2 ∧ path = [(1, 2)]) ∨ src = 2 ∧ dst = 1 ∧ path = [(2, 1)] := by
    simp [routeCollection, linkRoutes, edgeRoute]
  have longer {src dst : UInt32} (apart : src ≠ dst) (edge : Edge) (other : List Edge)
      (walk : IsPath [(1, 2)] src dst other) : [edge].length ≤ other.length := by
    cases other with
    | nil => exact absurd walk apart
    | cons first rest => exact Nat.succ_le_succ (Nat.zero_le _)
  have ends : ∀ src dst, TopologyReaches [(1, 2)] src dst → src = dst ∨
      (src = 1 ∨ src = 2) ∧ (dst = 1 ∨ dst = 2) := by
    intro src dst reaches
    induction reaches with
    | refl => exact .inl rfl
    | tail _ linked induction =>
      have endpoints := linked_endpoints linked
      simp only [isEndpoint, List.any_cons, List.any_nil, Bool.or_false, Bool.or_eq_true,
        decide_eq_true_eq] at endpoints
      rcases endpoints with ⟨before, after⟩
      rcases induction with rfl | ⟨start, _⟩
      · exact .inr ⟨before.imp Eq.symm Eq.symm, after.imp Eq.symm Eq.symm⟩
      · exact .inr ⟨start, after.imp Eq.symm Eq.symm⟩
  refine ⟨by decide, ?_, ?_⟩
  · intro src dst
    constructor
    · rintro ⟨path, member⟩
      rcases (listed src dst path).mp member with ⟨rfl, rfl, _⟩ | ⟨rfl, rfl, _⟩
      · exact ⟨by decide, .single link⟩
      · exact ⟨by decide, .single link.symm⟩
    · rintro ⟨apart, reaches⟩
      rcases ends src dst reaches with same | ⟨rfl | rfl, rfl | rfl⟩
      · exact absurd same apart
      · exact absurd rfl apart
      · exact ⟨[(1, 2)], (listed 1 2 _).mpr (.inl ⟨rfl, rfl, rfl⟩)⟩
      · exact ⟨[(2, 1)], (listed 2 1 _).mpr (.inr ⟨rfl, rfl, rfl⟩)⟩
      · exact absurd rfl apart
  · intro src dst path member
    rcases (listed src dst path).mp member with ⟨rfl, rfl, rfl⟩ | ⟨rfl, rfl, rfl⟩
    · exact ⟨⟨rfl, link, rfl⟩, longer (by decide) _⟩
    · exact ⟨⟨rfl, link.symm, rfl⟩, longer (by decide) _⟩

def linkPacket : Packet where
  flowId := nodeFlow 2
  isTcpData := false
  tag := ⟨none, 0⟩

def linkTable : RoutingTable := (RoutingTable.new defaultConfig).installRoutes
  (startUpRoutes linkRoutes 1)

theorem link_held {node : UInt32} (known : node = 1 ∨ node = 2) :
    HoldsRoutes firstSlot (nodeFlow 2) none linkRoutes 1 2 node linkTable := by
  have keyed : keyForFlow (RoutingTable.new defaultConfig).config
      (RoutingTable.new defaultConfig).groupDir (nodeFlow 2) none =
        some (.unicast (1 : UInt32).toNat (2 : UInt32).toNat) :=
    node_flow_key (by decide) (by decide)
  have fresh := new_tables_agree firstSlot defaultConfig
  have agree := install_routes_agree fresh (startUpRoutes linkRoutes 1)
  have same : startUpRoutes linkRoutes node = startUpRoutes linkRoutes 1 := by
    cases known with
    | inl first => rw [first]
    | inr second =>
      rw [second]
      rfl
  refine ⟨_, _, fresh, keyed, _, ?_, agree⟩
  rw [same]
  exact agree

theorem first_in_range : ∀ key count, 0 < count → firstSlot key count < count :=
  fun _ _ positive => positive

theorem link_leads : ∃ later, linkTable.getNextHopsByFlowAndTree firstSlot linkPacket.flowId
    linkPacket.tag.losslessFecTreeId = some (later, .ok [2]) := by
  have distinct : (linkRoutes.map Route.routeId).Nodup := by decide
  have keyed : keyForFlow (RoutingTable.new defaultConfig).config
      (RoutingTable.new defaultConfig).groupDir (nodeFlow 2) none =
        some (.unicast (1 : UInt32).toNat (2 : UInt32).toNat) :=
    node_flow_key (by decide) (by decide)
  rcases installed_table_answers first_in_range distinct 1 (new_tables_agree firstSlot defaultConfig)
    keyed with ⟨reference, answer, agree, answered, resolved⟩
  have alike := next_hops_alike agree (nodeFlow 2) none
  have chosen : chosenHops firstSlot linkRoutes 1 2 1 = [2] := rfl
  rw [chosen] at resolved
  rw [AnswersAlike, answered] at alike
  cases looked : ((RoutingTable.new defaultConfig).installRoutes
    (startUpRoutes linkRoutes 1)).getNextHopsByFlowAndTree firstSlot (nodeFlow 2) none with
  | none =>
    rw [looked] at alike
    cases alike
  | some told =>
    rw [looked] at alike
    cases alike with
    | some same =>
      refine ⟨told.1, looked.trans ?_⟩
      cases answer with
      | error message => cases resolved
      | ok hops =>
        have led : hops = [2] := resolved
        have told : told.2 = .ok [2] := by rw [same.2, led]
        rw [← told]

theorem link_traffic {guard : NodeNetwork pair → NetworkLabel → Prop}
    (admits : LetsThrough linkPacket linkTable guard) : PairTraffic linkPacket linkTable guard where
  toLetsThrough := admits
  equips id := by
    have alone : ∀ neighbor handle, ProcessorMessage.addNode neighbor handle ∉
        [.updateRoutingTable (startUpRoutes linkRoutes 1)] := by
      intro neighbor handle member
      simp at member
    exact equipped_by_messages alone id
  leads := link_leads

end Nextmini.Node
