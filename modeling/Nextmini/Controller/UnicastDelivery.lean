import Nextmini.Controller.UnicastRoutes
import Nextmini.Routing.Forwarding
import Nextmini.Routing.SourceLookups

/-!
# Delivery along unicast routes

A packet between two nodes, in a network whose nodes hold the entries the controller built for them.
Each node chooses among its own entries for the pair, so the packet follows a graph put together from
several routes, and is copied wherever a node has several next hops.
-/

namespace Nextmini.Controller

open Nextmini.Library Nextmini.Routing

set_option autoImplicit false

/-! ## Installed unicast routes -/

/-- The ids under a unicast key after an install: those of the entries for the pair, in their order. -/
theorem installed_unicast_ids (installed : InstalledRoutes) (routes : List RoutingTableEntry)
    (srcNodeId dstNodeId : NodeId) :
    (installed.installRoutes routes).availableRoutes.getD (.unicast srcNodeId dstNodeId) [] =
      (routes.filter fun route => route.srcNodeId = srcNodeId ∧ route.dstNodeId = dstNodeId).map
        RoutingTableEntry.routeId := by
  rw [InstalledRoutes.installRoutes]
  have purged : (installed.purge InstalledRoutes.isUnicast).availableRoutes.getD
      (.unicast srcNodeId dstNodeId) [] = [] := by
    rw [Std.HashMap.getD_eq_getD_getElem?, InstalledRoutes.purge_matching rfl]
    rfl
  induction routes using List.reverseRecOn with
  | nil => exact purged
  | append_singleton earlier route induction =>
    rw [List.foldl_append, List.foldl_cons, List.foldl_nil, InstalledRoutes.addRoute,
      List.filter_append, List.map_append, ← induction, Std.HashMap.getD_insert]
    by_cases own : route.srcNodeId = srcNodeId ∧ route.dstNodeId = dstNodeId
    · rcases own with ⟨rfl, rfl⟩
      simp
    · have other : ¬(RouteKey.unicast route.srcNodeId route.dstNodeId ==
          RouteKey.unicast srcNodeId dstNodeId) = true := by
        rw [beq_iff_eq, RouteKey.unicast.injEq]
        exact own
      rw [if_neg other]
      simp [own]

theorem installed_hops (installed : InstalledRoutes) {routes : List RoutingTableEntry}
    (distinct : (routes.map RoutingTableEntry.routeId).Nodup) {route : RoutingTableEntry}
    (member : route ∈ routes) :
    (installed.installRoutes routes).routeNextHop[route.routeId]? = some route.nextHops := by
  rw [InstalledRoutes.installRoutes]
  induction routes using List.reverseRecOn with
  | nil => cases member
  | append_singleton earlier last induction =>
    rw [List.map_append, List.nodup_append] at distinct
    rw [List.foldl_append, List.foldl_cons, List.foldl_nil, InstalledRoutes.addRoute,
      Std.HashMap.getElem?_insert]
    rcases List.mem_append.mp member with before | own
    · have different : last.routeId ≠ route.routeId := by
        have apart := distinct.2.2 route.routeId (List.mem_map_of_mem before) last.routeId
          (List.mem_map_of_mem (List.mem_singleton_self last))
        exact apart.symm
      rw [if_neg (by simpa using different)]
      exact induction distinct.1 before
    · rw [List.mem_singleton.mp own]
      simp

def pickSlot {Entry : Type*} (slot : JumpSlot) (key : RouteKey) : List Entry → Option Entry
  | [] => none
  | [entry] => some entry
  | entries => entries[(slot key (UInt32.ofNat entries.length)).toNat]?

theorem pick_slot_map {Entry Image : Type*} (slot : JumpSlot) (key : RouteKey)
    (image : Entry → Image) (entries : List Entry) :
    pickSlot slot key (entries.map image) = (pickSlot slot key entries).map image := by
  rcases entries with _ | ⟨first, _ | ⟨second, rest⟩⟩
  · rfl
  · rfl
  · simp only [pickSlot, List.map_cons, List.length_cons, List.length_map]
    rw [← List.map_cons, ← List.map_cons, List.getElem?_map]

/-- A hash that stays below the number of slots picks an entry of every list. -/
theorem pick_slot_mem {Entry : Type*} {slot : JumpSlot}
    (inRange : ∀ key count, 0 < count → slot key count < count) (key : RouteKey)
    {entries : List Entry} (some : entries ≠ []) : ∃ entry ∈ entries, pickSlot slot key entries =
      .some entry := by
  have picked (index : Nat) (bound : index < entries.length) :
      ∃ entry ∈ entries, entries[index]? = .some entry :=
    ⟨entries[index], List.getElem_mem bound, List.getElem?_eq_getElem bound⟩
  have inside : (slot key (UInt32.ofNat entries.length)).toNat < entries.length := by
    by_cases wide : 2 ^ 32 ≤ entries.length
    · exact Nat.lt_of_lt_of_le (slot key (UInt32.ofNat entries.length)).toNat_lt wide
    · have count : (UInt32.ofNat entries.length).toNat = entries.length :=
        UInt32.toNat_ofNat_of_lt' (Nat.not_le.mp wide)
      have positive : 0 < UInt32.ofNat entries.length := by
        rw [UInt32.lt_iff_toNat_lt, count]
        exact List.length_pos_iff.mpr some
      have below := inRange key _ positive
      rw [UInt32.lt_iff_toNat_lt, count] at below
      exact below
  rcases entries with _ | ⟨first, _ | ⟨second, rest⟩⟩
  · exact absurd rfl some
  · exact ⟨first, List.mem_cons_self, rfl⟩
  · exact picked _ inside

theorem select_unicast_pick {slot : JumpSlot} {installed : InstalledRoutes}
    {srcNodeId dstNodeId : NodeId} {routeId : Nat}
    (picked : pickSlot slot (.unicast srcNodeId dstNodeId)
      (installed.availableRoutes.getD (.unicast srcNodeId dstNodeId) []) = some routeId) :
    selectUnicast slot installed (.unicast srcNodeId dstNodeId) = some (some routeId) := by
  rw [Std.HashMap.getD_eq_getD_getElem?] at picked
  rw [selectUnicast]
  cases listed : installed.availableRoutes[RouteKey.unicast srcNodeId dstNodeId]? with
  | none =>
    rw [listed] at picked
    cases picked
  | some routeIds =>
    rw [listed] at picked
    rcases routeIds with _ | ⟨first, _ | ⟨second, rest⟩⟩
    · cases picked
    · rw [Option.some.injEq, ← picked]
      rfl
    · rw [Option.map_eq_some_iff]
      exact ⟨routeId, picked, rfl⟩

theorem select_unicast_none {slot : JumpSlot} {installed : InstalledRoutes}
    {srcNodeId dstNodeId : NodeId}
    (unlisted : installed.availableRoutes.getD (.unicast srcNodeId dstNodeId) [] = []) :
    selectUnicast slot installed (.unicast srcNodeId dstNodeId) = some none := by
  rw [Std.HashMap.getD_eq_getD_getElem?] at unlisted
  rw [selectUnicast]
  cases listed : installed.availableRoutes[RouteKey.unicast srcNodeId dstNodeId]? with
  | none => rfl
  | some routeIds =>
    rw [listed] at unlisted
    have empty : routeIds = [] := unlisted
    rw [empty]

/-! ## The hops a node chooses -/

/-- The routes between two nodes that have an entry at a node. -/
def candidateRoutes (routes : List Route) (srcNodeId dstNodeId nodeId : UInt32) : List Route :=
  routes.filter fun route => route.srcNodeId = srcNodeId ∧ route.dstNodeId = dstNodeId ∧
    routeNextHops route.edges nodeId ≠ [invalidNode]

def chosenRoute (slot : JumpSlot) (routes : List Route) (srcNodeId dstNodeId nodeId : UInt32) :
    Option Route :=
  pickSlot slot (.unicast srcNodeId.toNat dstNodeId.toNat)
    (candidateRoutes routes srcNodeId dstNodeId nodeId)

def chosenHops (slot : JumpSlot) (routes : List Route) (srcNodeId dstNodeId nodeId : UInt32) :
    List NodeId :=
  match chosenRoute slot routes srcNodeId dstNodeId nodeId with
  | none => []
  | some route => routeNextHops route.edges nodeId

theorem built_entries (routes : List Route) (nodeId : UInt32) :
    (buildRoutesForNode routes nodeId).getD [] =
      routes.filterMap fun route => routeEntry route nodeId := by
  rw [buildRoutesForNode]
  split_ifs with empty
  · exact empty.symm
  · rfl

theorem start_up_routes_eq (routes : List Route) (nodeId : UInt32) :
    startUpRoutes routes nodeId =
      (routes.filter fun route => routeNextHops route.edges nodeId ≠ [invalidNode]).map fun route =>
        { routeId := route.routeId
          nextHops := routeNextHops route.edges nodeId
          srcNodeId := route.srcNodeId.toNat
          dstNodeId := route.dstNodeId.toNat } := by
  rw [startUpRoutes, built_entries]
  induction routes with
  | nil => rfl
  | cons route rest induction =>
    rw [List.filterMap_cons, List.filter_cons]
    by_cases unusable : routeNextHops route.edges nodeId = [invalidNode]
    · simpa [routeEntry, unusable] using induction
    · simpa [routeEntry, unusable] using induction

theorem route_hops_usable {edges : List Edge} {nodeId : UInt32}
    (usable : routeNextHops edges nodeId ≠ [invalidNode]) :
    invalidNode ∉ routeNextHops edges nodeId := by
  rw [routeNextHops] at usable ⊢
  split_ifs at usable ⊢ with hops sink
  · intro member
    rcases List.mem_map.mp member with ⟨neighbor, _, same⟩
    exact valid_node neighbor same
  · intro member
    exact valid_node nodeId (List.mem_singleton.mp member).symm
  · exact absurd rfl usable

theorem candidate_ids (installed : InstalledRoutes) (routes : List Route)
    (srcNodeId dstNodeId nodeId : UInt32) :
    (installed.installRoutes (startUpRoutes routes nodeId)).availableRoutes.getD
        (.unicast srcNodeId.toNat dstNodeId.toNat) [] =
      (candidateRoutes routes srcNodeId dstNodeId nodeId).map Route.routeId := by
  rw [installed_unicast_ids, start_up_routes_eq, List.filter_map, List.map_map, candidateRoutes,
    List.filter_filter]
  congr 1
  apply List.filter_congr
  intro route _
  simp only [Function.comp_apply, UInt32.toNat_inj, Bool.decide_and, Bool.and_assoc]

theorem chosen_route_hops (installed : InstalledRoutes) {routes : List Route} {nodeId : UInt32}
    (distinct : (routes.map Route.routeId).Nodup) {route : Route} (member : route ∈ routes)
    (usable : routeNextHops route.edges nodeId ≠ [invalidNode]) :
    (installed.installRoutes (startUpRoutes routes nodeId)).routeNextHop[route.routeId]? =
      some (routeNextHops route.edges nodeId) := by
  have ids : (startUpRoutes routes nodeId).map RoutingTableEntry.routeId =
      (routes.filter fun route => routeNextHops route.edges nodeId ≠ [invalidNode]).map
        Route.routeId := by
    rw [start_up_routes_eq, List.map_map]
    rfl
  have distinctEntries : ((startUpRoutes routes nodeId).map RoutingTableEntry.routeId).Nodup := by
    rw [ids]
    exact distinct.sublist (List.filter_sublist.map _)
  have entry : ({ routeId := route.routeId
                  nextHops := routeNextHops route.edges nodeId
                  srcNodeId := route.srcNodeId.toNat
                  dstNodeId := route.dstNodeId.toNat } : RoutingTableEntry) ∈
      startUpRoutes routes nodeId := by
    rw [start_up_routes_eq]
    apply List.mem_map_of_mem (f := fun route : Route => RoutingTableEntry.mk route.routeId
      (routeNextHops route.edges nodeId) route.srcNodeId.toNat route.dstNodeId.toNat)
    rw [List.mem_filter, decide_eq_true_eq]
    exact ⟨member, usable⟩
  exact installed_hops installed distinctEntries entry

/-- After its routes are installed a node's table gives a packet the hops the node chooses. -/
theorem installed_table_answers {slot : JumpSlot} {routes : List Route} {flowId : FlowId}
    {treeId : Option UInt16} {srcNodeId dstNodeId : UInt32} {table : RoutingTable}
    {reference : ReferenceTable} (inRange : ∀ key count, 0 < count → slot key count < count)
    (distinct : (routes.map Route.routeId).Nodup) (nodeId : UInt32)
    (agree : CachesAgree slot table reference)
    (keyed : keyForFlow table.config table.groupDir flowId treeId =
      some (.unicast srcNodeId.toNat dstNodeId.toNat)) :
    ∃ reference answer,
      CachesAgree slot (table.installRoutes (startUpRoutes routes nodeId)) reference ∧
      reference.nextHops slot flowId treeId = some answer ∧
      resolvedHops answer = chosenHops slot routes srcNodeId dstNodeId nodeId := by
  have valid := valid_of_keyed keyed
  rw [agree.config, agree.groupDir] at keyed
  let after : ReferenceTable :=
    { reference with
      installed := reference.installed.installRoutes (startUpRoutes routes nodeId)
      pins := ∅ }
  have looked : after.nextHops slot flowId treeId =
      (selectUnicast slot after.installed (.unicast srcNodeId.toNat dstNodeId.toNat)).map
        fun selected => selected.elim (.error (noRoute (.unicast srcNodeId.toNat dstNodeId.toNat)))
          (hopsOfRoute after.installed) := by
    have unpinned : after.pins[flowId]? = none := Std.HashMap.getElem?_empty
    simp only [ReferenceTable.nextHops, if_neg valid]
    rw [keyed]
    rcases selection : selectUnicast slot after.installed
        (.unicast srcNodeId.toNat dstNodeId.toNat) with _ | _ | _ <;>
      simp [ReferenceTable.lookupKey, ReferenceTable.pinnedRoute, unpinned, routeForKey, selection]
  have ids := candidate_ids reference.installed routes srcNodeId dstNodeId nodeId
  refine ⟨after, ?_⟩
  by_cases routed : candidateRoutes routes srcNodeId dstNodeId nodeId = []
  · rw [routed] at ids
    refine ⟨.error (noRoute (.unicast srcNodeId.toNat dstNodeId.toNat)),
      install_routes_agree agree _, ?_, ?_⟩
    · rw [looked, select_unicast_none ids]
      rfl
    · rw [chosenHops, chosenRoute, routed]
      rfl
  · rcases pick_slot_mem inRange (.unicast srcNodeId.toNat dstNodeId.toNat) routed with
      ⟨route, member, picked⟩
    have candidate := List.mem_filter.mp member
    rw [decide_eq_true_eq] at candidate
    have pickedId := pick_slot_map slot (.unicast srcNodeId.toNat dstNodeId.toNat) Route.routeId
      (candidateRoutes routes srcNodeId dstNodeId nodeId)
    rw [picked, ← ids] at pickedId
    have hops := chosen_route_hops reference.installed distinct candidate.1 candidate.2.2.2
    refine ⟨.ok (routeNextHops route.edges nodeId), install_routes_agree agree _, ?_, ?_⟩
    · rw [looked, select_unicast_pick pickedId, Option.map_some]
      simp only [Option.elim_some, hopsOfRoute]
      rw [hops]
      simp only [copyNextHops]
      rw [if_neg (route_hops_usable candidate.2.2.2)]
    · rw [chosenHops, chosenRoute, picked]
      rfl

theorem installed_tables_answering {slot : JumpSlot} {config : LocalConfig} {routes : List Route}
    {flowId : FlowId} {treeId : Option UInt16} {srcNodeId dstNodeId : UInt32}
    {before : UInt32 → RoutingTable} (inRange : ∀ key count, 0 < count → slot key count < count)
    (distinct : (routes.map Route.routeId).Nodup)
    (reached : ∀ node, ∃ labels, (routing slot config).Run (.new config) labels (before node))
    (keyed : ∀ node, keyForFlow (before node).config (before node).groupDir flowId treeId =
      some (.unicast srcNodeId.toNat dstNodeId.toNat)) :
    ∃ references, Answering slot flowId treeId
      (fun node => (before node).installRoutes (startUpRoutes routes node)) references
      (chosenHops slot routes srcNodeId dstNodeId) := by
  have answers : ∀ node, ∃ reference answer,
      CachesAgree slot ((before node).installRoutes (startUpRoutes routes node)) reference ∧
      reference.nextHops slot flowId treeId = some answer ∧
      resolvedHops answer = chosenHops slot routes srcNodeId dstNodeId node := by
    intro node
    rcases reached node with ⟨labels, run⟩
    rcases caches_agree_of_run run with ⟨reference, agree⟩
    exact installed_table_answers inRange distinct node agree (keyed node)
  choose references answer caches answered resolved using answers
  exact ⟨references, caches, fun node => ⟨answer node, answered node, resolved node⟩⟩

/-! ## The graph of a packet -/

/-- Where a copy goes between two nodes: along the distinct edges of the route its node chooses, to
other nodes that have a scheduler here. A node keeps a copy if the route ends at it, or has an edge
from it to itself. -/
def unicastGraph (slot : JumpSlot) (schedulers : UInt32 → Finset UInt32) (routes : List Route)
    (srcNodeId dstNodeId : UInt32) : Flooding UInt32 where
  forward node :=
    match chosenRoute slot routes srcNodeId dstNodeId node with
    | none => []
    | some route =>
        (distinctNeighbors route.edges node).filter fun neighbor =>
          neighbor ≠ node ∧ neighbor ∈ schedulers node
  deliver node :=
    match chosenRoute slot routes srcNodeId dstNodeId node with
    | none => 0
    | some route => if (node, node) ∈ route.edges ∨ isSink route.edges node then 1 else 0

theorem distinct_neighbors_spec (edges : List Edge) (nodeId : UInt32) :
    (distinctNeighbors edges nodeId).Nodup ∧
      ∀ neighbor, neighbor ∈ distinctNeighbors edges nodeId ↔ (nodeId, neighbor) ∈ edges := by
  have kept : ∀ (neighbors hops : List UInt32), hops.Nodup →
      (neighbors.foldl (fun hops neighbor =>
        if neighbor ∈ hops then hops else hops ++ [neighbor]) hops).Nodup ∧
      ∀ neighbor, neighbor ∈ neighbors.foldl (fun hops neighbor =>
        if neighbor ∈ hops then hops else hops ++ [neighbor]) hops ↔
          neighbor ∈ hops ∨ neighbor ∈ neighbors := by
    intro neighbors
    induction neighbors with
    | nil => intro hops distinct; simp [distinct]
    | cons first rest induction =>
      intro hops distinct
      rw [List.foldl_cons]
      split_ifs with known
      · rcases induction hops distinct with ⟨still, members⟩
        refine ⟨still, ?_⟩
        intro neighbor
        rw [members, List.mem_cons]
        constructor
        · rintro (before | later)
          · exact .inl before
          · exact .inr (.inr later)
        · rintro (before | rfl | later)
          · exact .inl before
          · exact .inl known
          · exact .inr later
      · have longer : (hops ++ [first]).Nodup := by
          rw [List.nodup_append]
          refine ⟨distinct, List.nodup_singleton first, ?_⟩
          rintro neighbor member _ only rfl
          rw [List.mem_singleton] at only
          exact known (only ▸ member)
        rcases induction (hops ++ [first]) longer with ⟨still, members⟩
        refine ⟨still, ?_⟩
        intro neighbor
        rw [members, List.mem_append, List.mem_singleton, List.mem_cons, or_assoc]
  rcases kept (outgoingNeighbors edges nodeId) [] List.nodup_nil with ⟨distinct, members⟩
  refine ⟨distinct, ?_⟩
  intro neighbor
  rw [distinctNeighbors, members, mem_outgoing]
  simp

theorem chosen_route_candidate {slot : JumpSlot} {routes : List Route}
    {srcNodeId dstNodeId nodeId : UInt32} {route : Route}
    (chosen : chosenRoute slot routes srcNodeId dstNodeId nodeId = some route) :
    route ∈ routes ∧ routeNextHops route.edges nodeId ≠ [invalidNode] := by
  have member : route ∈ candidateRoutes routes srcNodeId dstNodeId nodeId := by
    rw [chosenRoute] at chosen
    generalize candidateRoutes routes srcNodeId dstNodeId nodeId = candidates at chosen ⊢
    rcases candidates with _ | ⟨first, _ | ⟨second, rest⟩⟩
    · cases chosen
    · cases chosen
      exact List.mem_cons_self
    · exact List.mem_of_getElem? chosen
  rcases List.mem_filter.mp member with ⟨listed, candidate⟩
  rw [decide_eq_true_eq] at candidate
  exact ⟨listed, candidate.2.2⟩

theorem hop_graph_of_routes (slot : JumpSlot) (schedulers : UInt32 → Finset UInt32)
    (routes : List Route) (srcNodeId dstNodeId : UInt32) :
    hopGraph schedulers (chosenHops slot routes srcNodeId dstNodeId) =
      unicastGraph slot schedulers routes srcNodeId dstNodeId := by
  have atNode (node : UInt32) (edges : List Edge) (usable : routeNextHops edges node ≠ [invalidNode]) :
      ((routeNextHops edges node).map (sendPacket node (schedulers node))).filterMap
          Dispatch.neighbor =
        ((distinctNeighbors edges node).filter fun neighbor =>
          neighbor ≠ node ∧ neighbor ∈ schedulers node) ∧
      ((routeNextHops edges node).map (sendPacket node (schedulers node))).count .local =
        if (node, node) ∈ edges ∨ isSink edges node then 1 else 0 := by
    rcases distinct_neighbors_spec edges node with ⟨distinct, members⟩
    by_cases ended : (distinctNeighbors edges node).map UInt32.toNat = []
    · have hops : routeNextHops edges node = [node.toNat] ∧ isSink edges node = true := by
        simp only [routeNextHops] at usable ⊢
        rw [if_neg (not_not.mpr ended)] at usable ⊢
        split_ifs at usable ⊢ with sink
        · exact ⟨rfl, sink.2⟩
        · exact absurd rfl usable
      have own : sendPacket node (schedulers node) node.toNat = .local := if_pos rfl
      rw [hops.1, List.map_singleton, own, List.map_eq_nil_iff.mp ended, if_pos (.inr hops.2)]
      exact ⟨rfl, rfl⟩
    · have hops : routeNextHops edges node = (distinctNeighbors edges node).map UInt32.toNat := by
        simp only [routeNextHops]
        rw [if_pos ended]
      have through : isSink edges node = false := by
        rcases List.exists_mem_of_ne_nil _ (ended ∘ List.map_eq_nil_iff.mpr) with ⟨neighbor, leaves⟩
        have outgoing := mem_outgoing.mpr ((members neighbor).mp leaves)
        rw [isSink, decide_eq_false_iff_not]
        rintro ⟨none, _⟩
        rw [none] at outgoing
        exact List.not_mem_nil outgoing
      rw [hops, List.map_map, sent_neighbors, kept_copies, distinct.count]
      simp [members, through]
  simp only [hopGraph, unicastGraph, Flooding.mk.injEq]
  constructor
  · funext node
    cases chosen : chosenRoute slot routes srcNodeId dstNodeId node with
    | none => simp [chosenHops, chosen]
    | some route =>
      simp only [chosenHops, chosen]
      exact (atNode node route.edges (chosen_route_candidate chosen).2).1
  · funext node
    cases chosen : chosenRoute slot routes srcNodeId dstNodeId node with
    | none => simp [chosenHops, chosen]
    | some route =>
      simp only [chosenHops, chosen]
      exact (atNode node route.edges (chosen_route_candidate chosen).2).2

/-- In a network whose nodes hold the routes the controller built for them, a packet between two
nodes is delivered at its destination, once and nowhere else, exactly when the routes its nodes
choose form no cycle, end only there, and lead there by one way. -/
theorem unicast_delivery_iff (slot : JumpSlot) (config : LocalConfig)
    (inRange : ∀ key count, 0 < count → slot key count < count)
    (schedulers : UInt32 → Finset UInt32) {routes : List Route}
    (distinct : (routes.map Route.routeId).Nodup) {flowId : FlowId} {treeId : Option UInt16}
    {srcNodeId dstNodeId : UInt32} {before : UInt32 → RoutingTable}
    (reached : ∀ node, ∃ labels, (routing slot config).Run (.new config) labels (before node))
    (keyed : ∀ node, keyForFlow (before node).config (before node).groupDir flowId treeId =
      some (.unicast srcNodeId.toNat dstNodeId.toNat)) :
    Delivers slot schedulers flowId treeId
        (fun node => (before node).installRoutes (startUpRoutes routes node)) srcNodeId
        (fun count => ∀ node, count node = if node = dstNodeId then 1 else 0) ↔
      (unicastGraph slot schedulers routes srcNodeId dstNodeId).SinglePath srcNodeId ∧
        ∀ node, (unicastGraph slot schedulers routes srcNodeId dstNodeId).Reaches srcNodeId node ∧
          0 < (unicastGraph slot schedulers routes srcNodeId dstNodeId).deliver node ↔
            node = dstNodeId := by
  rcases installed_tables_answering inRange distinct reached keyed with ⟨references, answering⟩
  rw [delivers_at_iff_single_path answering, hop_graph_of_routes]

theorem unicast_deliver_le (slot : JumpSlot) (schedulers : UInt32 → Finset UInt32)
    (routes : List Route) (srcNodeId dstNodeId node : UInt32) :
    (unicastGraph slot schedulers routes srcNodeId dstNodeId).deliver node ≤ 1 := by
  cases chosen : chosenRoute slot routes srcNodeId dstNodeId node with
  | none => simp [unicastGraph, chosen]
  | some route =>
    simp only [unicastGraph, chosen]
    split_ifs <;> decide

/-! ## One route, and a route that meets itself -/

theorem unicast_edge {slot : JumpSlot} {schedulers : UInt32 → Finset UInt32} {routes : List Route}
    {srcNodeId dstNodeId first second : UInt32} :
    (unicastGraph slot schedulers routes srcNodeId dstNodeId).Edge first second ↔
      ∃ route, chosenRoute slot routes srcNodeId dstNodeId first = some route ∧
        (first, second) ∈ route.edges ∧ second ≠ first ∧ second ∈ schedulers first := by
  rw [Flooding.Edge]
  cases chosen : chosenRoute slot routes srcNodeId dstNodeId first with
  | none => simp [unicastGraph, chosen]
  | some route =>
    simp only [unicastGraph, chosen, List.mem_filter, (distinct_neighbors_spec route.edges first).2,
      decide_eq_true_eq, Option.some.injEq, exists_eq_left']

def nodeFlow (node : Nat) : FlowId :=
  BitVec.ofNat 128 (0x0a000001 <<< 96 ||| (0x0a000000 + node) <<< 64)

theorem node_flow_key {node : Nat} {dstNodeId : NodeId} (valid : nodeFlow node ≠ invalidFlowId)
    (extracted : defaultConfig.tryExtractNodeIdsFromFlow (nodeFlow node) = some (1, dstNodeId)) :
    keyForFlow (RoutingTable.new defaultConfig).config (RoutingTable.new defaultConfig).groupDir
      (nodeFlow node) none = some (.unicast 1 dstNodeId) := by
  have ungrouped : (RoutingTable.new defaultConfig).groupDir[dstIp (nodeFlow node)]? = none :=
    Std.HashMap.getElem?_empty
  simp only [keyForFlow, if_neg valid, ungrouped]
  have sameConfig : (RoutingTable.new defaultConfig).config = defaultConfig := rfl
  rw [sameConfig, extracted]
  rfl

theorem fresh_tables_reached {slot : JumpSlot} {config : LocalConfig} (_ : UInt32) :
    ∃ labels, (routing slot config).Run (.new config) labels (RoutingTable.new config) :=
  ⟨[], .nil⟩

def edgeRoute : Route where
  routeId := 1
  srcNodeId := 1
  dstNodeId := 2
  edges := [(1, 2)]

/-- One edge from the source to the destination. -/
theorem edge_route_delivers :
    Delivers (fun _ _ => 0) (fun _ => {1, 2}) (nodeFlow 2) none
      (fun node => (RoutingTable.new defaultConfig).installRoutes (startUpRoutes [edgeRoute] node)) 1
      (fun count => ∀ node, count node = if node = 2 then 1 else 0) := by
  have edge (first second : UInt32) :
      (unicastGraph (fun _ _ => 0) (fun _ => {1, 2}) [edgeRoute] 1 2).Edge first second ↔
        first = 1 ∧ second = 2 := by
    rw [unicast_edge]
    constructor
    · rintro ⟨route, chosen, listed, _⟩
      rw [List.mem_singleton.mp (chosen_route_candidate chosen).1] at listed
      simpa [edgeRoute] using listed
    · rintro ⟨rfl, rfl⟩
      exact ⟨edgeRoute, rfl, by decide, by decide, by decide⟩
  have onward : ∀ node, (unicastGraph (fun _ _ => 0) (fun _ => {1, 2}) [edgeRoute] 1 2).Reaches 1
      node → node = 1 ∨ node = 2 := by
    intro node path
    cases path with
    | refl => exact .inl rfl
    | tail _ last => exact .inr ((edge _ _).mp last).2
  have keyed : keyForFlow (RoutingTable.new defaultConfig).config
      (RoutingTable.new defaultConfig).groupDir (nodeFlow 2) none =
        some (.unicast (1 : UInt32).toNat (2 : UInt32).toNat) :=
    node_flow_key (by decide) (by decide)
  have distinct : ([edgeRoute].map Route.routeId).Nodup := List.nodup_singleton _
  apply (unicast_delivery_iff (fun _ _ => 0) defaultConfig (fun _ _ positive => positive)
    (fun _ => {1, 2}) distinct fresh_tables_reached (fun _ => keyed)).mpr
  refine ⟨Flooding.single_path_of_edge (by decide) edge (by decide)
    (unicast_deliver_le _ _ _ _ _), ?_⟩
  intro node
  constructor
  · rintro ⟨path, delivers⟩
    rcases onward node path with rfl | rfl
    · exact absurd delivers (by decide)
    · rfl
  · rintro rfl
    exact ⟨.single ((edge 1 2).mpr ⟨rfl, rfl⟩), by decide⟩

def diamondRoute : Route where
  routeId := 1
  srcNodeId := 1
  dstNodeId := 4
  edges := [(1, 2), (1, 3), (2, 4), (3, 4)]

/-- Two ways to the destination: the route is classified as unicast, and the destination gets two
copies. -/
theorem diamond_route_delivers_twice :
    forwardMode diamondRoute = .unicast ∧
    ¬Delivers (fun _ _ => 0) (fun _ => {1, 2, 3, 4}) (nodeFlow 4) none
      (fun node => (RoutingTable.new defaultConfig).installRoutes (startUpRoutes [diamondRoute] node))
      1 (fun count => ∀ node, count node = if node = 4 then 1 else 0) := by
  have keyed : keyForFlow (RoutingTable.new defaultConfig).config
      (RoutingTable.new defaultConfig).groupDir (nodeFlow 4) none =
        some (.unicast (1 : UInt32).toNat (4 : UInt32).toNat) :=
    node_flow_key (by decide) (by decide)
  have edge : ∀ first second, chosenRoute (fun _ _ => 0) [diamondRoute] 1 4 first =
      some diamondRoute → (first, second) ∈ diamondRoute.edges ∧ second ≠ first ∧
        second ∈ ({1, 2, 3, 4} : Finset UInt32) →
          (unicastGraph (fun _ _ => 0) (fun _ => {1, 2, 3, 4}) [diamondRoute] 1 4).Edge
            first second := by
    intro first second chosen listed
    exact unicast_edge.mpr ⟨diamondRoute, chosen, listed⟩
  have distinct : ([diamondRoute].map Route.routeId).Nodup := List.nodup_singleton _
  have firstSlot : ∀ (key : RouteKey) (count : UInt32), 0 < count → (fun _ _ => 0 : JumpSlot) key count <
      count := fun _ _ positive => positive
  refine ⟨by decide, ?_⟩
  rcases installed_tables_answering firstSlot distinct fresh_tables_reached (fun _ => keyed) with
    ⟨references, answering⟩
  rw [delivers_at_iff_single_path answering, hop_graph_of_routes]
  rintro ⟨single, _⟩
  have toLeft := edge 1 2 rfl (by decide)
  have toRight := edge 1 3 rfl (by decide)
  have fromLeft := edge 2 4 rfl (by decide)
  have fromRight := edge 3 4 rfl (by decide)
  have same := (single.oneWayIn 4 4 (.tail (.single toLeft) fromLeft) .refl (by decide) 2
    (.single toLeft) fromLeft).2 3 (.single toRight) fromRight
  exact absurd same (by decide)

end Nextmini.Controller
