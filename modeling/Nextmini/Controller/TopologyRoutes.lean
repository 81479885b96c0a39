import Mathlib.Data.List.Dedup
import Mathlib.Data.List.ProdSigma
import Mathlib.Data.List.Sort
import Mathlib.Data.UInt
import Mathlib.Logic.Relation
import Nextmini.Controller.GroupTrees

/-!
# Routes of a topology

The controller turns the edges of a topology into one route for every ordered pair of nodes. The
graph numbers the nodes by their sorted ids. The search for a path is a parameter: it answers with a
shortest walk, or with nothing where there is no walk. Nothing is a panic of the caller.
-/

namespace Nextmini.Controller

set_option autoImplicit false

inductive RoutingProtocol where
  | shortestPath
  deriving DecidableEq, Repr

abbrev RouteDescriptor := UInt32 × UInt32 × List Edge
abbrev RouteCollection := List RouteDescriptor

/-- A graph with its nodes by index, each with its id, and its edges between indices. -/
structure DiGraph where
  nodes : List UInt32
  edges : List (Nat × Nat)
  deriving DecidableEq, Repr

/-- The sorted ids of the nodes, the index of an id, and the graph. -/
def createGraphWithMapping (edges : List Edge) : List UInt32 × (UInt32 → Nat) × DiGraph :=
  let allNodes := (edges.flatMap fun edge => [edge.1, edge.2]).dedup
  let nodeIds := allNodes.insertionSort (· ≤ ·)
  let nodeMap := fun nodeId => nodeIds.idxOf nodeId
  (nodeIds, nodeMap, ⟨nodeIds, edges.map fun edge => (nodeMap edge.1, nodeMap edge.2)⟩)

/-- The cost and the nodes of a path, where the search finds one. -/
abbrev Astar := DiGraph → Nat → Nat → Option (Nat × List Nat)

/-- `none` is the panic for a missing path. -/
def computeRoute (astar : Astar) (graph : DiGraph) (start finish : Nat) : Option (List Nat) :=
  (astar graph start finish).map Prod.snd

def bidirectional (edges : List Edge) : List Edge :=
  edges.flatMap fun edge => [(edge.1, edge.2), (edge.2, edge.1)]

/-- The ids at the two ends of each step of a path; `none` is an index out of bounds. -/
def pathEdges (nodeIds : List UInt32) : List Nat → Option (List Edge)
  | first :: second :: rest => do
      let srcId ← nodeIds[first]?
      let dstId ← nodeIds[second]?
      let later ← pathEdges nodeIds (second :: rest)
      some ((srcId, dstId) :: later)
  | _ => some []

def routesBetween (astar : Astar) (nodeIds : List UInt32) (graph : DiGraph) (srcIdx dstIdx : Nat) :
    Option RouteCollection :=
  if srcIdx = dstIdx then some []
  else do
    let path ← computeRoute astar graph srcIdx dstIdx
    if 2 ≤ path.length then do
      let edges ← pathEdges nodeIds path
      let srcId ← nodeIds[srcIdx]?
      let dstId ← nodeIds[dstIdx]?
      some [(srcId, dstId, edges)]
    else some []

def collectRoutes (astar : Astar) (nodeIds : List UInt32) (graph : DiGraph) :
    List (Nat × Nat) → Option RouteCollection
  | [] => some []
  | (srcIdx, dstIdx) :: rest => do
      let routes ← routesBetween astar nodeIds graph srcIdx dstIdx
      let later ← collectRoutes astar nodeIds graph rest
      some (routes ++ later)

/-- The pairs of indices in the order of the two loops. -/
def indexPairs (count : Nat) : List (Nat × Nat) := List.range count ×ˢ List.range count

def buildRoutesFromTopology (astar : Astar) (edges : List Edge) (protocol : Option RoutingProtocol) :
    Option RouteCollection :=
  match protocol with
  | none => some []
  | some .shortestPath =>
      let (nodeIds, _, graph) := createGraphWithMapping (bidirectional edges)
      collectRoutes astar nodeIds graph (indexPairs graph.nodes.length)

/-! ## What the search is documented to answer -/

def IsWalk (graph : DiGraph) (start finish : Nat) : List Nat → Prop
  | [] => False
  | [only] => start = only ∧ only = finish
  | first :: second :: rest =>
      start = first ∧ (first, second) ∈ graph.edges ∧ IsWalk graph second finish (second :: rest)

/-- A shortest walk, or nothing where no walk leads from one node to the other. -/
def AnswersShortest (graph : DiGraph) (start finish : Nat) : Option (Nat × List Nat) → Prop
  | some (cost, path) => IsWalk graph start finish path ∧ cost + 1 = path.length ∧
      ∀ other, IsWalk graph start finish other → path.length ≤ other.length
  | none => ∀ path, ¬IsWalk graph start finish path

def ShortestOn (astar : Astar) (graph : DiGraph) : Prop :=
  ∀ start < graph.nodes.length, ∀ finish < graph.nodes.length,
    AnswersShortest graph start finish (astar graph start finish)

def topologyGraph (edges : List Edge) : DiGraph :=
  (createGraphWithMapping (bidirectional edges)).2.2

/-! ## Paths over listed edges -/

def Adjacent (edges : List Edge) (first second : UInt32) : Prop :=
  (first, second) ∈ edges ∨ (second, first) ∈ edges

/-- The edges of a path from one node to another, each listed in one of its two directions. -/
def IsPath (edges : List Edge) (src dst : UInt32) : List Edge → Prop
  | [] => src = dst
  | (first, second) :: rest => first = src ∧ Adjacent edges first second ∧ IsPath edges second dst rest

def TopologyReaches (edges : List Edge) : UInt32 → UInt32 → Prop :=
  Relation.ReflTransGen (Adjacent edges)

/-- One route for each ordered pair of distinct nodes with a path, a shortest one. -/
structure ShortestRoutes (edges : List Edge) (routes : RouteCollection) : Prop where
  once : (routes.map fun route => (route.1, route.2.1)).Nodup
  pairs : ∀ src dst, (∃ path, (src, dst, path) ∈ routes) ↔ src ≠ dst ∧ TopologyReaches edges src dst
  shortest : ∀ src dst path, (src, dst, path) ∈ routes → IsPath edges src dst path ∧
    ∀ other, IsPath edges src dst other → path.length ≤ other.length

/-- All nodes of the edges are connected with one another. -/
def ConnectedEdges (edges : List Edge) : Prop :=
  ∀ src dst, isEndpoint edges src → isEndpoint edges dst → TopologyReaches edges src dst

/-! ## The graph of the edges -/

section Graph

variable {edges : List Edge} {src dst : UInt32} {start finish : Nat}

theorem linked_iff_bidirectional {first second : UInt32} :
    (first, second) ∈ bidirectional edges ↔ Adjacent edges first second := by
  simp only [bidirectional, List.mem_flatMap, List.mem_cons, List.not_mem_nil, or_false,
    Prod.mk.injEq, Adjacent]
  constructor
  · rintro ⟨⟨a, b⟩, member, ⟨rfl, rfl⟩ | ⟨rfl, rfl⟩⟩
    · exact .inl member
    · exact .inr member
  · rintro (member | member)
    · exact ⟨_, member, .inl ⟨rfl, rfl⟩⟩
    · exact ⟨_, member, .inr ⟨rfl, rfl⟩⟩

theorem graph_nodes_nodup : (topologyGraph edges).nodes.Nodup :=
  (List.perm_insertionSort _ _).nodup_iff.mpr (List.nodup_dedup _)

theorem mem_graph_nodes {nodeId : UInt32} :
    nodeId ∈ (topologyGraph edges).nodes ↔ isEndpoint edges nodeId := by
  simp only [topologyGraph, createGraphWithMapping, List.mem_insertionSort, List.mem_dedup,
    List.mem_flatMap, List.mem_cons, List.not_mem_nil, or_false, isEndpoint, List.any_eq_true,
    Bool.or_eq_true, decide_eq_true_eq, bidirectional]
  constructor
  · rintro ⟨_, ⟨edge, member, rfl | rfl⟩, rfl | rfl⟩
    · exact ⟨edge, member, .inl rfl⟩
    · exact ⟨edge, member, .inr rfl⟩
    · exact ⟨edge, member, .inr rfl⟩
    · exact ⟨edge, member, .inl rfl⟩
  · rintro ⟨edge, member, same⟩
    exact ⟨edge, ⟨edge, member, .inl rfl⟩, same.imp Eq.symm Eq.symm⟩

theorem linked_endpoints {first second : UInt32} (linked : Adjacent edges first second) :
    isEndpoint edges first ∧ isEndpoint edges second := by
  simp only [isEndpoint, List.any_eq_true, Bool.or_eq_true, decide_eq_true_eq]
  rcases linked with member | member
  · exact ⟨⟨_, member, .inl rfl⟩, ⟨_, member, .inr rfl⟩⟩
  · exact ⟨⟨_, member, .inr rfl⟩, ⟨_, member, .inl rfl⟩⟩

theorem node_at_index {nodeId : UInt32} (endpoint : isEndpoint edges nodeId) :
    (topologyGraph edges).nodes[(topologyGraph edges).nodes.idxOf nodeId]? = some nodeId := by
  have member := mem_graph_nodes.mpr endpoint
  rw [List.getElem?_eq_getElem (List.idxOf_lt_length_of_mem member), List.getElem_idxOf]

theorem graph_edge_iff {first second : Nat} : (first, second) ∈ (topologyGraph edges).edges ↔
    ∃ srcId dstId, Adjacent edges srcId dstId ∧ first = (topologyGraph edges).nodes.idxOf srcId ∧
      second = (topologyGraph edges).nodes.idxOf dstId := by
  have mapped : (topologyGraph edges).edges = (bidirectional edges).map fun edge =>
      ((topologyGraph edges).nodes.idxOf edge.1, (topologyGraph edges).nodes.idxOf edge.2) := rfl
  rw [mapped, List.mem_map]
  constructor
  · rintro ⟨⟨srcId, dstId⟩, member, same⟩
    cases same
    exact ⟨srcId, dstId, linked_iff_bidirectional.mp member, rfl, rfl⟩
  · rintro ⟨srcId, dstId, linked, rfl, rfl⟩
    exact ⟨(srcId, dstId), linked_iff_bidirectional.mpr linked, rfl⟩

/-! ## Walks of the graph and paths of the edges -/

/-- A walk of the graph is a path over listed edges, one step shorter than its list of nodes. -/
theorem walk_path {path : List Nat} (walk : IsWalk (topologyGraph edges) start finish path)
    (srcAt : (topologyGraph edges).nodes[start]? = some src)
    (dstAt : (topologyGraph edges).nodes[finish]? = some dst) :
    ∃ route, pathEdges (topologyGraph edges).nodes path = some route ∧
      IsPath edges src dst route ∧ route.length + 1 = path.length := by
  induction path generalizing start src with
  | nil => exact walk.elim
  | cons first rest induction =>
    cases rest with
    | nil =>
      rcases walk with ⟨rfl, rfl⟩
      rw [srcAt, Option.some.injEq] at dstAt
      exact ⟨[], rfl, dstAt, rfl⟩
    | cons second rest =>
      rcases walk with ⟨rfl, edge, walk⟩
      rcases graph_edge_iff.mp edge with ⟨srcId, dstId, linked, rfl, rfl⟩
      rcases linked_endpoints linked with ⟨srcEnd, dstEnd⟩
      have here := node_at_index srcEnd
      have there := node_at_index dstEnd
      rw [here, Option.some.injEq] at srcAt
      subst srcAt
      rcases induction walk there with ⟨route, listed, isPath, length⟩
      refine ⟨(srcId, dstId) :: route, ?_, ⟨rfl, linked, isPath⟩, ?_⟩
      · simp only [pathEdges, here, there, listed, Option.bind_eq_bind, Option.bind_some]
      · rw [List.length_cons, List.length_cons, length]

theorem path_walk {route : List Edge} (isPath : IsPath edges src dst route) :
    ∃ rest, IsWalk (topologyGraph edges) ((topologyGraph edges).nodes.idxOf src)
        ((topologyGraph edges).nodes.idxOf dst) ((topologyGraph edges).nodes.idxOf src :: rest) ∧
      rest.length = route.length := by
  induction route generalizing src with
  | nil =>
    cases isPath
    exact ⟨[], ⟨rfl, rfl⟩, rfl⟩
  | cons edge route induction =>
    rcases edge with ⟨first, second⟩
    rcases isPath with ⟨rfl, linked, isPath⟩
    rcases induction isPath with ⟨rest, walk, length⟩
    have edge := graph_edge_iff.mpr ⟨first, second, linked, rfl, rfl⟩
    exact ⟨_ :: rest, ⟨rfl, edge, walk⟩, congrArg Nat.succ length⟩

theorem reaches_iff_path : TopologyReaches edges src dst ↔ ∃ route, IsPath edges src dst route := by
  constructor
  · intro reaches
    induction reaches using Relation.ReflTransGen.head_induction_on with
    | refl => exact ⟨[], rfl⟩
    | @head first second linked _ induction =>
      rcases induction with ⟨route, isPath⟩
      exact ⟨(first, second) :: route, rfl, linked, isPath⟩
  · rintro ⟨route, isPath⟩
    induction route generalizing src with
    | nil =>
      cases isPath
      exact .refl
    | cons edge route induction =>
      rcases edge with ⟨first, second⟩
      rcases isPath with ⟨rfl, linked, isPath⟩
      exact .head linked (induction isPath)

theorem reaches_endpoints (reaches : TopologyReaches edges src dst) (apart : src ≠ dst) :
    isEndpoint edges src ∧ isEndpoint edges dst := by
  constructor
  · rcases Relation.ReflTransGen.cases_head reaches with same | ⟨next, linked, _⟩
    · exact absurd same apart
    · exact (linked_endpoints linked).1
  · rcases Relation.ReflTransGen.cases_tail reaches with same | ⟨last, _, linked⟩
    · exact absurd same.symm apart
    · exact (linked_endpoints linked).2

end Graph

/-! ## The route of a pair -/

section Routes

variable {astar : Astar} {edges : List Edge} {srcIdx dstIdx : Nat} {src dst : UInt32}

def ShortestPath (edges : List Edge) (src dst : UInt32) (path : List Edge) : Prop :=
  IsPath edges src dst path ∧ ∀ other, IsPath edges src dst other → path.length ≤ other.length

theorem index_of_node (srcAt : (topologyGraph edges).nodes[srcIdx]? = some src) :
    (topologyGraph edges).nodes.idxOf src = srcIdx ∧ srcIdx < (topologyGraph edges).nodes.length := by
  rcases List.getElem?_eq_some_iff.mp srcAt with ⟨below, rfl⟩
  exact ⟨graph_nodes_nodup.idxOf_getElem srcIdx below, below⟩

theorem routes_between_reached (shortest : ShortestOn astar (topologyGraph edges))
    (srcAt : (topologyGraph edges).nodes[srcIdx]? = some src)
    (dstAt : (topologyGraph edges).nodes[dstIdx]? = some dst) (apart : srcIdx ≠ dstIdx)
    (reaches : TopologyReaches edges src dst) :
    ∃ path, routesBetween astar (topologyGraph edges).nodes (topologyGraph edges) srcIdx dstIdx =
        some [(src, dst, path)] ∧ ShortestPath edges src dst path := by
  rcases index_of_node srcAt with ⟨srcIndex, srcBelow⟩
  rcases index_of_node dstAt with ⟨dstIndex, dstBelow⟩
  have answer := shortest srcIdx srcBelow dstIdx dstBelow
  have bound {other : List Edge} (isPath : IsPath edges src dst other) :
      ∃ walk, IsWalk (topologyGraph edges) srcIdx dstIdx walk ∧ walk.length = other.length + 1 := by
    rcases path_walk isPath with ⟨rest, walk, length⟩
    rw [srcIndex, dstIndex] at walk
    exact ⟨_, walk, congrArg Nat.succ length⟩
  rcases reaches_iff_path.mp reaches with ⟨_, isPath⟩
  rcases bound isPath with ⟨walk, isWalk, _⟩
  cases found : astar (topologyGraph edges) srcIdx dstIdx with
  | none =>
    rw [found] at answer
    exact absurd isWalk (answer walk)
  | some result =>
    rcases result with ⟨cost, path⟩
    rw [found] at answer
    rcases answer with ⟨isWalk, _, least⟩
    rcases walk_path isWalk srcAt dstAt with ⟨route, listed, isRoute, length⟩
    have long : 2 ≤ path.length := by
      match path, isWalk with
      | [only], same => exact absurd (same.1.trans same.2) apart
      | _ :: _ :: _, _ => simp
    refine ⟨route, ?_, isRoute, fun other otherPath => ?_⟩
    · rw [routesBetween, if_neg apart, computeRoute, found]
      simp only [Option.map_some, Option.bind_eq_bind, Option.bind_some, if_pos long, listed,
        srcAt, dstAt]
    · rcases bound otherPath with ⟨walk, otherWalk, otherLength⟩
      have shorter := least walk otherWalk
      omega

theorem routes_between_unreached (shortest : ShortestOn astar (topologyGraph edges))
    (srcAt : (topologyGraph edges).nodes[srcIdx]? = some src)
    (dstAt : (topologyGraph edges).nodes[dstIdx]? = some dst)
    (unreached : ¬TopologyReaches edges src dst) :
    routesBetween astar (topologyGraph edges).nodes (topologyGraph edges) srcIdx dstIdx = none := by
  have apart : srcIdx ≠ dstIdx := by
    rintro rfl
    rw [srcAt, Option.some.injEq] at dstAt
    rw [dstAt] at unreached
    exact unreached .refl
  have answer := shortest srcIdx (index_of_node srcAt).2 dstIdx (index_of_node dstAt).2
  rw [routesBetween, if_neg apart, computeRoute]
  cases found : astar (topologyGraph edges) srcIdx dstIdx with
  | none => rfl
  | some result =>
    rcases result with ⟨cost, path⟩
    rw [found] at answer
    rcases walk_path answer.1 srcAt dstAt with ⟨route, _, isRoute, _⟩
    exact absurd (reaches_iff_path.mpr ⟨route, isRoute⟩) unreached

/-! ## All pairs -/

theorem collect_none {nodeIds : List UInt32} {graph : DiGraph} {pairs : List (Nat × Nat)}
    {pair : Nat × Nat} (member : pair ∈ pairs)
    (panics : routesBetween astar nodeIds graph pair.1 pair.2 = none) :
    collectRoutes astar nodeIds graph pairs = none := by
  induction pairs with
  | nil => cases member
  | cons first rest induction =>
    rcases first with ⟨srcIdx, dstIdx⟩
    simp only [collectRoutes, Option.bind_eq_bind]
    rcases List.mem_cons.mp member with same | later
    · subst same
      simp only [panics, Option.bind_none]
    · rw [induction later]
      cases routesBetween astar nodeIds graph srcIdx dstIdx with
      | none => rfl
      | some routes => rfl

theorem collect_some {nodeIds : List UInt32} {graph : DiGraph} {pairs : List (Nat × Nat)}
    {good : UInt32 → UInt32 → List Edge → Prop}
    (each : ∀ pair ∈ pairs, pair.1 ≠ pair.2 → ∃ path,
      routesBetween astar nodeIds graph pair.1 pair.2 =
        some [(nodeIds.getD pair.1 0, nodeIds.getD pair.2 0, path)] ∧
          good (nodeIds.getD pair.1 0) (nodeIds.getD pair.2 0) path) :
    ∃ routes, collectRoutes astar nodeIds graph pairs = some routes ∧
      (routes.map fun route => (route.1, route.2.1)) =
        (pairs.filter fun pair => pair.1 ≠ pair.2).map
          (fun pair => (nodeIds.getD pair.1 0, nodeIds.getD pair.2 0)) ∧
      ∀ route ∈ routes, good route.1 route.2.1 route.2.2 := by
  induction pairs with
  | nil => exact ⟨[], rfl, rfl, fun _ member => absurd member List.not_mem_nil⟩
  | cons first rest induction =>
    rcases first with ⟨srcIdx, dstIdx⟩
    rcases List.forall_mem_cons.mp each with ⟨here, others⟩
    rcases induction others with ⟨later, collected, named, allGood⟩
    by_cases same : srcIdx = dstIdx
    · refine ⟨later, ?_, ?_, allGood⟩
      · simp only [collectRoutes, routesBetween, if_pos same, Option.bind_eq_bind,
          Option.bind_some, collected, List.nil_append]
      · rw [named, List.filter_cons]
        simp [same]
    · rcases here same with ⟨path, between, isGood⟩
      refine ⟨(nodeIds.getD srcIdx 0, nodeIds.getD dstIdx 0, path) :: later, ?_, ?_, ?_⟩
      · simp only [collectRoutes, between, Option.bind_eq_bind, Option.bind_some, collected,
          List.singleton_append]
      · rw [List.map_cons, named, List.filter_cons]
        simp [same]
      · intro route member
        rcases List.mem_cons.mp member with rfl | earlier
        · exact isGood
        · exact allGood route earlier

end Routes

section Topology

variable {astar : Astar} {edges : List Edge}

theorem mem_index_pairs {count : Nat} (pair : Nat × Nat) :
    pair ∈ indexPairs count ↔ pair.1 < count ∧ pair.2 < count := by
  rcases pair with ⟨first, second⟩
  rw [indexPairs, List.mem_product, List.mem_range, List.mem_range]

theorem node_at (edges : List Edge) {index : Nat}
    (below : index < (topologyGraph edges).nodes.length) :
    (topologyGraph edges).nodes[index]? = some ((topologyGraph edges).nodes.getD index 0) := by
  rw [List.getD_eq_getElem?_getD, List.getElem?_eq_getElem below, Option.getD_some]

/-- The pairs of ids, in the order of the loops, are the ordered pairs of distinct nodes. -/
theorem named_pairs (edges : List Edge) :
    (((indexPairs (topologyGraph edges).nodes.length).filter fun pair => pair.1 ≠ pair.2).map
      fun pair => ((topologyGraph edges).nodes.getD pair.1 0,
        (topologyGraph edges).nodes.getD pair.2 0)).Nodup ∧
      ∀ src dst, (src, dst) ∈ ((indexPairs (topologyGraph edges).nodes.length).filter
          fun pair => pair.1 ≠ pair.2).map (fun pair =>
            ((topologyGraph edges).nodes.getD pair.1 0,
              (topologyGraph edges).nodes.getD pair.2 0)) ↔
        src ≠ dst ∧ isEndpoint edges src ∧ isEndpoint edges dst := by
  have injective {first second : Nat} (firstBelow : first < (topologyGraph edges).nodes.length)
      (secondBelow : second < (topologyGraph edges).nodes.length)
      (same : (topologyGraph edges).nodes.getD first 0 =
        (topologyGraph edges).nodes.getD second 0) : first = second := by
    have firstAt := (index_of_node (node_at edges firstBelow)).1
    have secondAt := (index_of_node (node_at edges secondBelow)).1
    rw [← firstAt, same, secondAt]
  constructor
  · apply List.Nodup.map_on
    · intro first firstMember second secondMember same
      have firstBelow := (mem_index_pairs _).mp (List.mem_filter.mp firstMember).1
      have secondBelow := (mem_index_pairs _).mp (List.mem_filter.mp secondMember).1
      rw [Prod.mk.injEq] at same
      exact Prod.ext (injective firstBelow.1 secondBelow.1 same.1)
        (injective firstBelow.2 secondBelow.2 same.2)
    · exact (List.nodup_range.product List.nodup_range).filter _
  · intro src dst
    simp only [List.mem_map, List.mem_filter, decide_eq_true_eq, mem_index_pairs, Prod.mk.injEq]
    constructor
    · rintro ⟨⟨srcIdx, dstIdx⟩, ⟨⟨srcBelow, dstBelow⟩, apart⟩, rfl, rfl⟩
      refine ⟨fun same => apart (injective srcBelow dstBelow same), ?_, ?_⟩
      · exact mem_graph_nodes.mp (List.mem_of_getElem? (node_at edges srcBelow))
      · exact mem_graph_nodes.mp (List.mem_of_getElem? (node_at edges dstBelow))
    · rintro ⟨apart, srcEnd, dstEnd⟩
      have srcAt := node_at_index srcEnd
      have dstAt := node_at_index dstEnd
      generalize (topologyGraph edges).nodes.idxOf src = srcIdx at srcAt
      generalize (topologyGraph edges).nodes.idxOf dst = dstIdx at dstAt
      refine ⟨(srcIdx, dstIdx), ⟨⟨(index_of_node srcAt).2, (index_of_node dstAt).2⟩, ?_⟩, ?_, ?_⟩
      · intro same
        have sameIdx : srcIdx = dstIdx := same
        rw [sameIdx, dstAt, Option.some.injEq] at srcAt
        exact apart srcAt.symm
      · rw [List.getD_eq_getElem?_getD, srcAt, Option.getD_some]
      · rw [List.getD_eq_getElem?_getD, dstAt, Option.getD_some]

/-- With the search right on the graph: the controller builds exactly one shortest route for each
reachable ordered pair if and only if the edges connect all their nodes. Otherwise it panics. -/
theorem topology_routes_iff_connected (edges : List Edge)
    (shortest : ShortestOn astar (topologyGraph edges)) :
    (∃ routes, buildRoutesFromTopology astar edges (some .shortestPath) = some routes ∧
        ShortestRoutes edges routes) ↔ ConnectedEdges edges := by
  have built : buildRoutesFromTopology astar edges (some .shortestPath) =
      collectRoutes astar (topologyGraph edges).nodes (topologyGraph edges)
        (indexPairs (topologyGraph edges).nodes.length) := rfl
  rw [built]
  constructor
  · rintro ⟨routes, collected, _⟩ src dst srcEnd dstEnd
    by_contra unreached
    have srcAt := node_at_index srcEnd
    have dstAt := node_at_index dstEnd
    have panics := collect_none
      (mem_index_pairs (_, _) |>.mpr ⟨(index_of_node srcAt).2, (index_of_node dstAt).2⟩)
      (routes_between_unreached shortest srcAt dstAt unreached)
    rw [panics] at collected
    cases collected
  · intro connected
    rcases named_pairs edges with ⟨distinct, pairs⟩
    have each : ∀ pair ∈ indexPairs (topologyGraph edges).nodes.length, pair.1 ≠ pair.2 → ∃ path,
        routesBetween astar (topologyGraph edges).nodes (topologyGraph edges) pair.1 pair.2 =
          some [((topologyGraph edges).nodes.getD pair.1 0,
            (topologyGraph edges).nodes.getD pair.2 0, path)] ∧
          ShortestPath edges ((topologyGraph edges).nodes.getD pair.1 0)
            ((topologyGraph edges).nodes.getD pair.2 0) path := by
      intro pair member apart
      rcases (mem_index_pairs _).mp member with ⟨srcBelow, dstBelow⟩
      have srcAt := node_at edges srcBelow
      have dstAt := node_at edges dstBelow
      apply routes_between_reached shortest srcAt dstAt apart
      exact connected _ _ (mem_graph_nodes.mp (List.mem_of_getElem? srcAt))
        (mem_graph_nodes.mp (List.mem_of_getElem? dstAt))
    rcases collect_some each with ⟨routes, collected, named, good⟩
    refine ⟨routes, collected, ?_, ?_, ?_⟩
    · rw [named]
      exact distinct
    · intro src dst
      have listed : (∃ path, (src, dst, path) ∈ routes) ↔
          (src, dst) ∈ routes.map fun route => (route.1, route.2.1) := by
        simp only [List.mem_map, Prod.mk.injEq]
        constructor
        · rintro ⟨path, member⟩
          exact ⟨_, member, rfl, rfl⟩
        · rintro ⟨⟨_, _, path⟩, member, rfl, rfl⟩
          exact ⟨path, member⟩
      rw [listed, named, pairs]
      constructor
      · rintro ⟨apart, srcEnd, dstEnd⟩
        exact ⟨apart, connected src dst srcEnd dstEnd⟩
      · rintro ⟨apart, reaches⟩
        exact ⟨apart, reaches_endpoints reaches apart⟩
    · intro src dst path member
      exact good _ member

theorem walk_length {graph : DiGraph} {start finish : Nat} {path : List Nat}
    (walk : IsWalk graph start finish path) :
    1 ≤ path.length ∧ (start ≠ finish → 2 ≤ path.length) := by
  match path, walk with
  | [_], same => exact ⟨le_rfl, fun apart => absurd (same.1.trans same.2) apart⟩
  | _ :: _ :: _, _ => simp

def pairAstar : Astar := fun _ start finish =>
  if start = finish then some (0, [start])
  else if start / 2 = finish / 2 then some (1, [start, finish])
  else none

theorem pair_astar_shortest {graph : DiGraph}
    (linked : ∀ start < graph.nodes.length, ∀ finish < graph.nodes.length,
      (start, finish) ∈ graph.edges ↔ start ≠ finish ∧ start / 2 = finish / 2)
    (inside : ∀ edge ∈ graph.edges, edge.1 < graph.nodes.length ∧ edge.2 < graph.nodes.length) :
    ShortestOn pairAstar graph := by
  intro start startBelow finish finishBelow
  simp only [pairAstar]
  split_ifs with same paired
  · refine ⟨⟨rfl, same⟩, rfl, fun other walk => ?_⟩
    exact (walk_length walk).1
  · have edge := (linked start startBelow finish finishBelow).mpr ⟨same, paired⟩
    refine ⟨⟨rfl, edge, rfl, rfl⟩, rfl, fun other walk => ?_⟩
    exact (walk_length walk).2 same
  · intro path walk
    apply paired
    clear startBelow finishBelow same paired
    induction path generalizing start with
    | nil => exact walk.elim
    | cons first rest induction =>
      cases rest with
      | nil => rw [walk.1.trans walk.2]
      | cons second rest =>
        rcases walk with ⟨rfl, edge, walk⟩
        rcases inside _ edge with ⟨firstBelow, secondBelow⟩
        exact ((linked _ firstBelow _ secondBelow).mp edge).2.trans (induction second walk)

/-- One link: a route in each direction. -/
theorem single_link_routes :
    ∃ routes, buildRoutesFromTopology pairAstar [(1, 2)] (some .shortestPath) = some routes ∧
      ShortestRoutes [(1, 2)] routes := by
  have shortest : ShortestOn pairAstar (topologyGraph [(1, 2)]) :=
    pair_astar_shortest (by decide) (by decide)
  apply (topology_routes_iff_connected [(1, 2)] shortest).mpr
  have link : Adjacent [(1, 2)] 1 2 := .inl (List.mem_singleton_self _)
  have ends : ∀ node, isEndpoint [(1, 2)] node → node = 1 ∨ node = 2 := by
    intro node endpoint
    rcases List.any_eq_true.mp endpoint with ⟨edge, member, same⟩
    rw [List.mem_singleton.mp member, Bool.or_eq_true, decide_eq_true_eq, decide_eq_true_eq] at same
    exact same.imp Eq.symm Eq.symm
  intro src dst srcEnd dstEnd
  rcases ends src srcEnd with rfl | rfl
  · rcases ends dst dstEnd with rfl | rfl
    · exact .refl
    · exact .single link
  · rcases ends dst dstEnd with rfl | rfl
    · exact .single link.symm
    · exact .refl

/-- Two links without a node in common: the controller panics, although nodes 1 and 2 are linked. -/
theorem two_links_panic :
    ShortestOn pairAstar (topologyGraph [(1, 2), (3, 4)]) ∧
      TopologyReaches [(1, 2), (3, 4)] 1 2 ∧
      ∀ astar, ShortestOn astar (topologyGraph [(1, 2), (3, 4)]) →
        buildRoutesFromTopology astar [(1, 2), (3, 4)] (some .shortestPath) = none := by
  have unreached : ¬TopologyReaches [(1, 2), (3, 4)] 1 3 := by
    intro reaches
    have side : ∀ node, TopologyReaches [(1, 2), (3, 4)] 1 node → node = 1 ∨ node = 2 := by
      intro node path
      induction path with
      | refl => exact .inl rfl
      | tail _ linked induction =>
        rcases induction with rfl | rfl
        · exact .inr (by simpa [Adjacent, eq_comm] using linked)
        · exact .inl (by simpa [Adjacent, eq_comm] using linked)
    rcases side 3 reaches with same | same
    · exact absurd same (by decide)
    · exact absurd same (by decide)
  refine ⟨pair_astar_shortest (by decide) (by decide), .single (.inl List.mem_cons_self), ?_⟩
  intro astar shortest
  have srcAt : (topologyGraph [(1, 2), (3, 4)]).nodes[0]? = some 1 := by decide
  have dstAt : (topologyGraph [(1, 2), (3, 4)]).nodes[2]? = some 3 := by decide
  exact collect_none (mem_index_pairs (0, 2) |>.mpr (by decide))
    (routes_between_unreached shortest srcAt dstAt unreached)

end Topology

/-! ## Nodes along a path -/

section Paths

variable {edges path : List Edge} {src dst : UInt32}

theorem path_suffix (walk : IsPath edges src dst path) {node : UInt32}
    (member : node ∈ path.map Prod.snd) :
    ∃ rest, IsPath edges node dst rest ∧ rest.length < path.length := by
  induction path generalizing src with
  | nil => cases member
  | cons edge rest induction =>
    rcases edge with ⟨first, second⟩
    rcases walk with ⟨_, _, onward⟩
    rw [List.map_cons, List.mem_cons] at member
    cases member with
    | inl here =>
      subst here
      exact ⟨rest, onward, Nat.lt_succ_self _⟩
    | inr later =>
      rcases induction onward later with ⟨suffix, walk, shorter⟩
      exact ⟨suffix, walk, Nat.lt_succ_of_lt shorter⟩

theorem shortest_nodes_nodup (shortest : ShortestPath edges src dst path) :
    (src :: path.map Prod.snd).Nodup := by
  induction path generalizing src with
  | nil => exact List.nodup_singleton src
  | cons edge rest induction =>
    rcases edge with ⟨first, second⟩
    rcases shortest with ⟨⟨start, linked, onward⟩, least⟩
    rw [List.nodup_cons]
    constructor
    · intro again
      have walk : IsPath edges src dst ((first, second) :: rest) := ⟨start, linked, onward⟩
      rcases path_suffix walk again with ⟨suffix, other, shorter⟩
      exact absurd (least suffix other) (Nat.not_le.mpr shorter)
    · apply induction
      refine ⟨onward, ?_⟩
      intro other walk
      exact Nat.le_of_succ_le_succ (least ((first, second) :: other) ⟨start, linked, walk⟩)

theorem path_last (walk : IsPath edges src dst path) :
    (src :: path.map Prod.snd).getLast? = some dst := by
  induction path generalizing src with
  | nil =>
    have same : src = dst := walk
    rw [same]
    rfl
  | cons edge rest induction =>
    rcases walk with ⟨_, _, onward⟩
    rw [List.map_cons, List.getLast?_cons_cons]
    exact induction onward

theorem path_chain (walk : IsPath edges src dst path) :
    (src :: path.map Prod.snd).IsChain fun first second => (first, second) ∈ path := by
  induction path generalizing src with
  | nil => exact List.IsChain.singleton src
  | cons edge rest induction =>
    rcases walk with ⟨rfl, _, onward⟩
    rw [List.map_cons, List.isChain_cons_cons]
    refine ⟨List.mem_cons_self, ?_⟩
    apply (induction onward).imp
    intro first second member
    exact List.mem_cons_of_mem _ member

/-- The edges of a path through distinct nodes lead away from its start and end at its end. -/
theorem path_edges_apart (walk : IsPath edges src dst path)
    (distinct : (src :: path.map Prod.snd).Nodup) {edge : Edge} (member : edge ∈ path) :
    edge.1 ≠ edge.2 ∧ edge.1 ≠ dst ∧ (edge.2 ≠ dst → ∃ next, (edge.2, next) ∈ path) := by
  induction path generalizing src with
  | nil => cases member
  | cons head rest induction =>
    have ends := path_last walk
    rcases walk with ⟨rfl, linked, onward⟩
    rw [List.nodup_cons] at distinct
    rw [List.map_cons, List.getLast?_cons_cons] at ends
    rw [List.mem_cons] at member
    cases member with
    | inl here =>
      subst here
      refine ⟨?_, ?_, ?_⟩
      · intro same
        exact distinct.1 (same ▸ List.mem_cons_self)
      · intro same
        exact distinct.1 (same ▸ List.mem_of_getLast? ends)
      · intro further
        cases rest with
        | nil => exact absurd onward further
        | cons next later =>
          rcases next with ⟨first, second⟩
          rcases onward with ⟨rfl, _, _⟩
          exact ⟨second, List.mem_cons_of_mem _ List.mem_cons_self⟩
    | inr later =>
      rcases induction onward distinct.2 later with ⟨apart, inner, continues⟩
      refine ⟨apart, inner, ?_⟩
      intro further
      rcases continues further with ⟨next, following⟩
      exact ⟨next, List.mem_cons_of_mem _ following⟩

end Paths

end Nextmini.Controller
