import Nextmini.Controller.TopologyRoutes
import Nextmini.Controller.UnicastDelivery

/-!
# Configured routes

The routes of the configuration file, in either notation, and the rows the controller starts with: the
configured routes, each between the first source and the first sink of its graph, and behind them those
of the topology. The graph is built by a library that numbers nodes by 32 bit words and has none for the
last one: a route with that id is a panic. The rows keep the edges as JSON and are read back as signed
numbers, so a route with an id beyond them is left without edges.
-/

namespace Nextmini.Controller

open Nextmini.Routing

set_option autoImplicit false

/-! ## The two notations -/

inductive RouteRepr where
  | nodeSequence (nodes : List UInt32)
  | edgePairs (edgePairs : List (List UInt32))

def edgeOfPair : List UInt32 → Except String Edge
  | [first, second] => .ok (first, second)
  | _ => .error "Each edge must have exactly two nodes."

def deserializeRouteEdges : RouteRepr → Except String (List Edge)
  | .edgePairs edgePairs => edgePairs.mapM edgeOfPair
  | .nodeSequence nodes =>
      if nodes.length < 2 then .error "Route must have at least two nodes."
      else .ok (nodes.zip nodes.tail)

/-- An entry without a route has no edges. -/
def readRoute : Option RouteRepr → Except String (List Edge)
  | none => .ok []
  | some route => deserializeRouteEdges route

/-! ## The rows -/

/-- The graph has a node for each index up to the largest id. -/
def nodeCount : List Edge → Nat
  | [] => 0
  | edge :: rest => max (max edge.1.toNat edge.2.toNat + 1) (nodeCount rest)

def nodeIndices (edges : List Edge) : List UInt32 :=
  (List.range (nodeCount edges)).map UInt32.ofNat

def dstNodes (edges : List Edge) : List UInt32 :=
  (nodeIndices edges).filter fun nodeId => isSink edges nodeId

def srcNodes (edges : List Edge) : List UInt32 :=
  (nodeIndices edges).filter fun nodeId =>
    incomingNeighbors edges nodeId = [] ∧ outgoingNeighbors edges nodeId ≠ []

/-- A configured route on a graph without a source or without a sink is left out. -/
def customRoute (edges : List Edge) : Option RouteDescriptor :=
  if edges = [] then none
  else do
    let src ← (srcNodes edges).head?
    let dst ← (dstNodes edges).head?
    some (src, dst, edges)

/-- A graph has no node for the last word. -/
def hasGraph (edges : List Edge) : Bool :=
  edges.all fun edge => edge.1.toNat + 1 < 2 ^ 32 && edge.2.toNat + 1 < 2 ^ 32

/-- `none` is the panic for a route without a graph, or for a missing path. -/
def mergeAllRoutes (astar : Astar) (routes : List (List Edge)) (topology : Option (List Edge))
    (protocol : Option RoutingProtocol) : Option RouteCollection :=
  if routes.all hasGraph then
    match topology with
    | none => some (routes.filterMap customRoute)
    | some edges => do
        let generated ← buildRoutesFromTopology astar edges protocol
        some (routes.filterMap customRoute ++ generated.filter fun route => route.2.2 ≠ [])
  else none

def storedEdges (edges : List Edge) : List Edge :=
  if edges.all fun edge => edge.1 < 2 ^ 31 && edge.2 < 2 ^ 31 then edges else []

/-- The rows have consecutive ids. -/
def seedRows (routeId : Nat) : RouteCollection → List Route
  | [] => []
  | (srcNodeId, dstNodeId, edges) :: rest =>
      { routeId, srcNodeId, dstNodeId, edges := storedEdges edges } :: seedRows (routeId + 1) rest

def seedRoutes (routes : RouteCollection) : List Route := seedRows 1 routes

theorem seed_rows_ids (routeId : Nat) (routes : RouteCollection) :
    (seedRows routeId routes).map Route.routeId = List.range' routeId routes.length := by
  induction routes generalizing routeId with
  | nil => rfl
  | cons route rest induction =>
    rw [seedRows, List.map_cons, induction, List.length_cons, List.range'_succ]

theorem seed_rows_pairs (routeId : Nat) (routes : RouteCollection) :
    (seedRows routeId routes).map (fun row => (row.srcNodeId, row.dstNodeId)) =
      routes.map fun route => (route.1, route.2.1) := by
  induction routes generalizing routeId with
  | nil => rfl
  | cons route rest induction =>
    rw [seedRows, List.map_cons, induction, List.map_cons]

theorem mem_seed_rows (routeId : Nat) {routes : RouteCollection} {src dst : UInt32}
    {edges : List Edge} (member : (src, dst, edges) ∈ routes) :
    ∃ row ∈ seedRows routeId routes, row.srcNodeId = src ∧ row.dstNodeId = dst ∧
      row.edges = storedEdges edges := by
  induction routes generalizing routeId with
  | nil => cases member
  | cons route rest induction =>
    rw [seedRows]
    rw [List.mem_cons] at member
    cases member with
    | inl here =>
      subst here
      exact ⟨_, List.mem_cons_self, rfl, rfl, rfl⟩
    | inr later =>
      rcases induction (routeId + 1) later with ⟨row, listed, same⟩
      exact ⟨row, List.mem_cons_of_mem _ listed, same⟩

theorem mem_of_read {Entry Value Failure : Type*} {read : Entry → Except Failure Value}
    {entries : List Entry} {values : List Value} (done : entries.mapM read = .ok values)
    {entry : Entry} (member : entry ∈ entries) : ∃ value ∈ values, read entry = .ok value := by
  induction entries generalizing values with
  | nil => cases member
  | cons first rest induction =>
    rw [List.mapM_cons] at done
    cases here : read first with
    | error failure =>
      rw [here] at done
      cases done
    | ok value =>
      cases there : rest.mapM read with
      | error failure =>
        rw [here, there] at done
        cases done
      | ok later =>
        rw [here, there] at done
        cases done
        rw [List.mem_cons] at member
        cases member with
        | inl same =>
          subst same
          exact ⟨value, List.mem_cons_self, here⟩
        | inr inside =>
          rcases induction there inside with ⟨found, listed, same⟩
          exact ⟨found, List.mem_cons_of_mem _ listed, same⟩

theorem mem_merged {astar : Astar} {routes : List (List Edge)} {topology : Option (List Edge)}
    {protocol : Option RoutingProtocol} {merged : RouteCollection}
    (merges : mergeAllRoutes astar routes topology protocol = some merged) {edges : List Edge}
    (listed : edges ∈ routes) {route : RouteDescriptor} (made : customRoute edges = some route) :
    route ∈ merged := by
  have custom : route ∈ routes.filterMap customRoute := List.mem_filterMap.mpr ⟨edges, listed, made⟩
  unfold mergeAllRoutes at merges
  split_ifs at merges
  cases topology with
  | none =>
    rw [Option.some.injEq] at merges
    exact merges ▸ custom
  | some graph =>
    rcases Option.bind_eq_some_iff.mp merges with ⟨generated, _, same⟩
    rw [← Option.some.inj same]
    exact List.mem_append_left _ custom

/-! ## Paths and sequences of nodes -/

theorem mem_node_indices {edges : List Edge} {nodeId : UInt32}
    (touched : isEndpoint edges nodeId = true) : nodeId ∈ nodeIndices edges := by
  have inside : nodeId.toNat < nodeCount edges := by
    induction edges with
    | nil => cases touched
    | cons edge rest induction =>
      rw [isEndpoint, List.any_cons, Bool.or_eq_true] at touched
      rw [nodeCount, lt_max_iff]
      cases touched with
      | inl here =>
        simp only [Bool.or_eq_true, decide_eq_true_eq] at here
        rcases here with rfl | rfl
        · exact .inl (Nat.lt_succ_of_le (Nat.le_max_left _ _))
        · exact .inl (Nat.lt_succ_of_le (Nat.le_max_right _ _))
      | inr later => exact .inr (induction later)
  exact List.mem_map.mpr ⟨nodeId.toNat, List.mem_range.mpr inside, UInt32.ofNat_toNat⟩

theorem no_incoming_iff {edges : List Edge} {nodeId : UInt32} :
    incomingNeighbors edges nodeId = [] ↔ nodeId ∉ edges.map Prod.snd := by
  simp only [incomingNeighbors, List.reverse_eq_nil_iff, List.map_eq_nil_iff,
    List.filter_eq_nil_iff, decide_eq_true_eq, List.mem_map, not_exists, not_and]

theorem no_outgoing_iff {edges : List Edge} {nodeId : UInt32} :
    outgoingNeighbors edges nodeId = [] ↔ nodeId ∉ edges.map Prod.fst := by
  simp only [outgoingNeighbors, List.reverse_eq_nil_iff, List.map_eq_nil_iff,
    List.filter_eq_nil_iff, decide_eq_true_eq, List.mem_map, not_exists, not_and]

theorem is_sink_iff {edges : List Edge} {nodeId : UInt32} :
    isSink edges nodeId = true ↔ nodeId ∉ edges.map Prod.fst ∧ nodeId ∈ edges.map Prod.snd := by
  rw [isSink, decide_eq_true_eq, no_outgoing_iff, Ne, no_incoming_iff, not_not]

theorem is_endpoint_iff {edges : List Edge} {nodeId : UInt32} :
    isEndpoint edges nodeId = true ↔
      nodeId ∈ edges.map Prod.fst ∨ nodeId ∈ edges.map Prod.snd := by
  simp only [isEndpoint, List.any_eq_true, Bool.or_eq_true, decide_eq_true_eq, List.mem_map,
    and_or_left, exists_or]

theorem mem_src_nodes {edges : List Edge} {nodeId : UInt32} :
    nodeId ∈ srcNodes edges ↔ nodeId ∉ edges.map Prod.snd ∧ nodeId ∈ edges.map Prod.fst := by
  rw [srcNodes, List.mem_filter, decide_eq_true_eq, no_incoming_iff, Ne, no_outgoing_iff, not_not]
  exact ⟨fun listed => listed.2,
    fun source => ⟨mem_node_indices (is_endpoint_iff.mpr (.inl source.2)), source⟩⟩

theorem mem_dst_nodes {edges : List Edge} {nodeId : UInt32} :
    nodeId ∈ dstNodes edges ↔ nodeId ∉ edges.map Prod.fst ∧ nodeId ∈ edges.map Prod.snd := by
  rw [dstNodes, List.mem_filter, is_sink_iff]
  exact ⟨fun listed => listed.2,
    fun sink => ⟨mem_node_indices (is_endpoint_iff.mpr (.inr sink.2)), sink⟩⟩

theorem head_of_only {Value : Type*} {values : List Value} {value : Value} (member : value ∈ values)
    (only : ∀ other ∈ values, other = value) : values.head? = some value := by
  cases values with
  | nil => cases member
  | cons first rest => rw [List.head?_cons, only first List.mem_cons_self]

section Paths

variable {edges path : List Edge} {src dst : UInt32}

theorem path_sources (walk : IsPath edges src dst path) {edge : Edge} (member : edge ∈ path) :
    edge.1 = src ∨ edge.1 ∈ path.map Prod.snd := by
  induction path generalizing src with
  | nil => cases member
  | cons head rest induction =>
    rcases walk with ⟨start, _, onward⟩
    rw [List.mem_cons] at member
    cases member with
    | inl here =>
      subst here
      exact .inl start
    | inr later =>
      rw [List.map_cons, List.mem_cons]
      exact .inr (induction onward later)

/-- A route along distinct nodes is one from the first to the last of them. -/
theorem custom_route_path (walk : IsPath edges src dst path)
    (distinct : (src :: path.map Prod.snd).Nodup) (several : path ≠ []) :
    customRoute path = some (src, dst, path) := by
  have sources : (srcNodes path).head? = some src := by
    apply head_of_only
    · rw [mem_src_nodes]
      refine ⟨(List.nodup_cons.mp distinct).1, ?_⟩
      cases path with
      | nil => exact absurd rfl several
      | cons edge rest => exact walk.1 ▸ List.mem_cons_self
    · intro other source
      rw [mem_src_nodes] at source
      rcases List.mem_map.mp source.2 with ⟨edge, member, rfl⟩
      exact (path_sources walk member).resolve_right source.1
  have sinks : (dstNodes path).head? = some dst := by
    apply head_of_only
    · rw [mem_dst_nodes]
      constructor
      · intro leaves
        rcases List.mem_map.mp leaves with ⟨edge, member, same⟩
        exact (path_edges_apart walk distinct member).2.1 same
      · have ends := path_last walk
        cases path with
        | nil => exact absurd rfl several
        | cons edge rest =>
          rw [List.map_cons, List.getLast?_cons_cons] at ends
          exact List.mem_of_getLast? ends
    · intro other sink
      rw [mem_dst_nodes] at sink
      rcases List.mem_map.mp sink.2 with ⟨edge, member, rfl⟩
      by_contra further
      rcases (path_edges_apart walk distinct member).2.2 further with ⟨next, following⟩
      exact sink.1 (List.mem_map_of_mem (f := Prod.fst) following)
  rw [customRoute, if_neg several, sources, sinks]
  rfl

/-- With several sources the first source and the first sink may lie apart. -/
example : customRoute [(1, 2), (3, 0)] = some (1, 0, [(1, 2), (3, 0)]) := rfl

end Paths

section Sequence

variable {first last : UInt32} {rest : List UInt32}

theorem sequence_path {edges : List Edge} (ends : (first :: rest).getLast? = some last)
    (within : (first :: rest).zip rest ⊆ edges) :
    IsPath edges first last ((first :: rest).zip rest) := by
  induction rest generalizing first with
  | nil => exact Option.some.inj ends
  | cons second rest induction =>
    rw [List.zip_cons_cons] at within ⊢
    rw [List.getLast?_cons_cons] at ends
    exact ⟨rfl, .inl (within List.mem_cons_self),
      induction ends fun _ member => within (List.mem_cons_of_mem _ member)⟩

theorem sequence_targets (first : UInt32) (rest : List UInt32) :
    ((first :: rest).zip rest).map Prod.snd = rest :=
  List.map_snd_zip (Nat.le_succ _)

theorem stored_sequence (small : ∀ node ∈ first :: rest, node < 2 ^ 31) :
    storedEdges ((first :: rest).zip rest) = (first :: rest).zip rest := by
  rw [storedEdges, if_pos]
  rw [List.all_eq_true]
  intro edge member
  have ends := List.of_mem_zip member
  rw [Bool.and_eq_true, decide_eq_true_eq, decide_eq_true_eq]
  exact ⟨small _ ends.1, small _ (List.mem_cons_of_mem _ ends.2)⟩

end Sequence

/-! ## Nodes that are sent a row -/

theorem usable_iff_endpoint {edges : List Edge} {nodeId : UInt32} :
    routeNextHops edges nodeId ≠ [invalidNode] ↔ isEndpoint edges nodeId = true := by
  have onward : (distinctNeighbors edges nodeId).map UInt32.toNat ≠ [] ↔
      nodeId ∈ edges.map Prod.fst := by
    rw [Ne, List.map_eq_nil_iff, List.eq_nil_iff_forall_not_mem, not_forall_not, List.mem_map]
    constructor
    · rintro ⟨neighbor, member⟩
      exact ⟨_, ((distinct_neighbors_spec edges nodeId).2 neighbor).mp member, rfl⟩
    · rintro ⟨⟨first, second⟩, member, rfl⟩
      exact ⟨second, ((distinct_neighbors_spec edges first).2 second).mpr member⟩
  rw [routeNextHops]
  split_ifs with hops sink
  · refine iff_of_true ?_ (is_endpoint_iff.mpr (.inl (onward.mp hops)))
    intro same
    have member : invalidNode ∈ (distinctNeighbors edges nodeId).map UInt32.toNat := by
      rw [same]
      exact List.mem_singleton_self _
    rcases List.mem_map.mp member with ⟨neighbor, _, invalid⟩
    exact valid_node neighbor invalid
  · exact iff_of_true (fun same => valid_node nodeId (List.singleton_inj.mp same)) sink.1
  · refine iff_of_false (not_not.mpr rfl) fun touched => sink ⟨touched, ?_⟩
    have stays : nodeId ∉ edges.map Prod.fst := mt onward.mpr hops
    exact is_sink_iff.mpr ⟨stays, (is_endpoint_iff.mp touched).resolve_left stays⟩

theorem stored_endpoint_iff {edges : List Edge} {nodeId : UInt32} :
    isEndpoint (storedEdges edges) nodeId = true ↔ isEndpoint edges nodeId = true ∧
      ∀ edge ∈ edges, edge.1 < 2 ^ 31 ∧ edge.2 < 2 ^ 31 := by
  have fits : (edges.all fun edge => edge.1 < 2 ^ 31 && edge.2 < 2 ^ 31) = true ↔
      ∀ edge ∈ edges, edge.1 < 2 ^ 31 ∧ edge.2 < 2 ^ 31 := by
    rw [List.all_eq_true]
    simp only [Bool.and_eq_true, decide_eq_true_eq]
  rw [storedEdges, ← fits]
  split_ifs with small
  · exact (and_iff_left small).symm
  · exact iff_of_false Bool.false_ne_true fun both => small both.2

/-- A configured route gets a row from the first source to the first sink of its graph. At start-up the
row is sent to the nodes that the route touches and to no others, and to none at all if the row cannot
hold one of the ids. -/
theorem configured_route_sent_iff {astar : Astar} {routes : List (List Edge)}
    {topology : Option (List Edge)} {protocol : Option RoutingProtocol} {merged : RouteCollection}
    (merges : mergeAllRoutes astar routes topology protocol = some merged) {edges : List Edge}
    (listed : edges ∈ routes) {src dst : UInt32} (source : (srcNodes edges).head? = some src)
    (sink : (dstNodes edges).head? = some dst) :
    ∃ row ∈ seedRoutes merged, row.srcNodeId = src ∧ row.dstNodeId = dst ∧ ∀ nodeId,
      (∃ entry ∈ startUpRoutes (seedRoutes merged) nodeId, entry.routeId = row.routeId) ↔
        isEndpoint edges nodeId = true ∧ ∀ edge ∈ edges, edge.1 < 2 ^ 31 ∧ edge.2 < 2 ^ 31 := by
  have made : customRoute edges = some (src, dst, edges) := by
    have nonempty : edges ≠ [] := by
      rintro rfl
      cases source
    rw [customRoute, if_neg nonempty, source, sink]
    rfl
  rcases mem_seed_rows 1 (mem_merged merges listed made) with ⟨row, member, first, last, stored⟩
  refine ⟨row, member, first, last, ?_⟩
  intro nodeId
  rw [← stored_endpoint_iff, ← stored, ← usable_iff_endpoint, start_up_routes_eq]
  have ids : ((seedRoutes merged).map Route.routeId).Nodup := by
    rw [seedRoutes, seed_rows_ids]
    exact List.nodup_range'
  constructor
  · rintro ⟨entry, sent, same⟩
    rcases List.mem_map.mp sent with ⟨other, usable, rfl⟩
    rw [List.mem_filter, decide_eq_true_eq] at usable
    rw [← List.inj_on_of_nodup_map ids usable.1 member same]
    exact usable.2
  · intro usable
    exact ⟨_, List.mem_map_of_mem (List.mem_filter.mpr ⟨member, decide_eq_true usable⟩), rfl⟩

/-- The row of a fork is sent to its three nodes. -/
theorem fork_sent : ∃ row ∈ seedRoutes [(1, 2, [(1, 2), (1, 3)])], row.srcNodeId = 1 ∧
    row.dstNodeId = 2 ∧ ∀ nodeId,
      (∃ entry ∈ startUpRoutes (seedRoutes [(1, 2, [(1, 2), (1, 3)])]) nodeId,
        entry.routeId = row.routeId) ↔
        isEndpoint [(1, 2), (1, 3)] nodeId = true ∧
          ∀ edge ∈ [((1 : UInt32), (2 : UInt32)), (1, 3)], edge.1 < 2 ^ 31 ∧ edge.2 < 2 ^ 31 := by
  have merges : mergeAllRoutes (fun _ _ _ => none) [[(1, 2), (1, 3)]] none none =
      some [(1, 2, [(1, 2), (1, 3)])] := rfl
  exact configured_route_sent_iff merges List.mem_cons_self rfl rfl

end Nextmini.Controller
