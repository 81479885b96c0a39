import Nextmini.Routing.GroupRoutes

/-!
# Lookups of a source's trees

Runs of the routing table in which no install gives a tree a second source. The table's answers,
through its caches, are followed beside what the sources installed: a lookup gets what its source
last installed, unless the tree it asks for is another source's.
-/

namespace Nextmini.Routing

open Nextmini.Library

set_option autoImplicit false

/-- The routing table under its operations; a step is labelled with what it answers. -/
def routing (slot : JumpSlot) (config : LocalConfig) :
    TransitionSystem RoutingTable (RoutingOp × RoutingAnswer) where
  initial table := table = .new config
  step table label next := table.apply slot label.1 = some (next, label.2)

/-- No source but this one has the tree. -/
def SoleSource (table : RoutingTable) (srcNodeId : NodeId) (groupId : GroupId) (treeId : UInt16) :
    Prop :=
  ∀ other, other ≠ srcNodeId →
    RouteKey.multicast other groupId treeId ∉ table.installed.availableRoutes

/-- A step that gives no tree a second source and keeps unicast ids below those of the trees. -/
def KeepsSourcesApart (table : RoutingTable) : RoutingOp → Prop
  | .installRoutes routes => ∀ route ∈ routes, route.routeId < multicastRouteFlag
  | .installGroupRoutes groupId srcNodeId routes =>
      ∀ route ∈ routes, ∀ treeId, deterministicMulticastRouteId groupId treeId = some route.routeId →
        SoleSource table srcNodeId groupId treeId
  | _ => True

/-- The answer to a lookup of a tree that is due to what its source last installed. -/
def treeAnswer (srcNodeId : NodeId) (groupId : GroupId) (treeId : UInt16) :
    Option (List NodeId) → Except String (List NodeId)
  | none => .error (noRoute (.multicast srcNodeId groupId treeId))
  | some hops =>
      copyNextHops (encodeMulticastRouteId (groupId * multitreeStride + treeId.toNat)) hops

theorem tree_answer_none (srcNodeId : NodeId) (groupId : GroupId) (treeId : UInt16) :
    treeAnswer srcNodeId groupId treeId none =
      .error (noRoute (.multicast srcNodeId groupId treeId)) := rfl

theorem tree_answer_some (srcNodeId : NodeId) (groupId : GroupId) (treeId : UInt16)
    (hops : List NodeId) :
    treeAnswer srcNodeId groupId treeId (some hops) =
      copyNextHops (encodeMulticastRouteId (groupId * multitreeStride + treeId.toNat)) hops := rfl

/-- The table, its reference without caches and the sources, after the same operations. -/
structure Tracks (slot : JumpSlot) (ops : List RoutingOp) (table : RoutingTable)
    (reference : ReferenceTable) : Prop where
  caches : CachesAgree slot table reference
  sources : PerSource reference.installed (SourceTrees.lastInstalled ops)

theorem last_installed_snoc (ops : List RoutingOp) (op : RoutingOp) :
    SourceTrees.lastInstalled (ops ++ [op]) = (SourceTrees.lastInstalled ops).after op := by
  rw [SourceTrees.lastInstalled, List.foldl_append]
  rfl

theorem sources_after_step {slot : JumpSlot} {ops : List RoutingOp} {table : RoutingTable}
    {reference next : ReferenceTable} {op : RoutingOp} {answer : RoutingAnswer}
    (tracks : Tracks slot ops table reference) (apart : KeepsSourcesApart table op)
    (applied : reference.apply slot op = some (next, answer)) :
    PerSource next.installed (SourceTrees.lastInstalled (ops ++ [op])) := by
  have agree := tracks.sources
  rw [last_installed_snoc]
  cases ReferenceTable.apply_cases applied with
  | installRoutes routes => exact agree.install_routes apart
  | installGroupRoutes groupId srcNodeId routes =>
    apply agree.install_group_routes
    intro treeId present other different
    rcases Option.ne_none_iff_exists'.mp present with ⟨hops, installed⟩
    rcases tree_hops_some installed with ⟨route, member, known, _⟩
    have absent := apart route member treeId known other different
    rw [tracks.caches.installed, agree.key_present] at absent
    exact not_not.mp absent
  | _ => exact agree

theorem tracks_of_run {slot : JumpSlot} {config : LocalConfig}
    {labels : List (RoutingOp × RoutingAnswer)} {table : RoutingTable}
    (run : ((routing slot config).restrict fun table label =>
      KeepsSourcesApart table label.1).Run (.new config) labels table) :
    ∃ reference, Tracks slot (labels.map Prod.fst) table reference := by
  apply TransitionSystem.history_of_run (motive := fun labels table =>
    ∃ reference, Tracks slot (labels.map Prod.fst) table reference) run
  · exact ⟨.new config, new_tables_agree slot config, .empty⟩
  · rintro before state label next _ ⟨reference, tracks⟩ ⟨apart, applied⟩
    rcases reference_follows tracks.caches applied with ⟨later, expected, agree⟩
    refine ⟨later, agree, ?_⟩
    rw [List.map_append]
    exact sources_after_step tracks apart expected

theorem caches_agree_of_run {slot : JumpSlot} {config : LocalConfig}
    {labels : List (RoutingOp × RoutingAnswer)} {table : RoutingTable}
    (run : (routing slot config).Run (.new config) labels table) :
    ∃ reference, CachesAgree slot table reference := by
  apply TransitionSystem.run_preserves
    (motive := fun table => ∃ reference, CachesAgree slot table reference) _ run
  · exact ⟨.new config, new_tables_agree slot config⟩
  · rintro state label next ⟨reference, agree⟩ applied
    rcases reference_follows agree applied with ⟨later, _, agreeNext⟩
    exact ⟨later, agreeNext⟩

/-- The fronts of the two errors keep a missing route and an unusable one apart. -/
theorem front_of_append {first rest : String} {head : Char}
    (front : first.toList.head? = some head) : (first ++ rest).toList.head? = some head := by
  rw [String.toList_append, List.head?_append, front]
  rfl

theorem missing_route_front (srcNodeId : NodeId) (groupId : GroupId) (treeId : UInt16) :
    (noRoute (.multicast srcNodeId groupId treeId)).toList.head? = some 'U' := by
  have front :
      (toString "Unknown multicast tree route for src_node_id=").toList.head? = some 'U' := by
    rfl
  unfold noRoute
  exact front_of_append (front_of_append (front_of_append (front_of_append
    (front_of_append front))))

theorem unusable_route_front (routeId : Nat) :
    (s!"Route {routeId} invalid at this node").toList.head? = some 'R' := by
  have front : (toString "Route ").toList.head? = some 'R' := by
    rfl
  exact front_of_append (front_of_append front)

theorem copied_hops_not_missing (routeId : Nat) (hops : List NodeId) (srcNodeId : NodeId)
    (groupId : GroupId) (treeId : UInt16) :
    copyNextHops routeId hops ≠ .error (noRoute (.multicast srcNodeId groupId treeId)) := by
  intro same
  unfold copyNextHops at same
  split_ifs at same
  have missing := missing_route_front srcNodeId groupId treeId
  rw [← Except.error.inj same, unusable_route_front] at missing
  simp at missing

/-- What the reference answers to a lookup of a tree: the hops under the id of the tree. -/
def treeLookup (installed : InstalledRoutes) (srcNodeId : NodeId) (groupId : GroupId)
    (treeId : UInt16) : Except String (List NodeId) :=
  match treeRoute installed groupId treeId with
  | none => .error (noRoute (.multicast srcNodeId groupId treeId))
  | some routeId => hopsOfRoute installed routeId

theorem tree_lookup_routed {installed : InstalledRoutes} {groupId : GroupId} {treeId : UInt16}
    {routeId : Nat} (srcNodeId : NodeId)
    (routed : treeRoute installed groupId treeId = some routeId) :
    treeLookup installed srcNodeId groupId treeId = hopsOfRoute installed routeId := by
  rw [treeLookup, routed]

theorem tree_lookup_unrouted {installed : InstalledRoutes} {groupId : GroupId} {treeId : UInt16}
    (srcNodeId : NodeId) (unrouted : treeRoute installed groupId treeId = none) :
    treeLookup installed srcNodeId groupId treeId =
      .error (noRoute (.multicast srcNodeId groupId treeId)) := by
  rw [treeLookup, unrouted]

theorem tree_lookup_found {installed : InstalledRoutes} {groupId : GroupId} {treeId : UInt16}
    {routeId : Nat} {hops : List NodeId} (srcNodeId : NodeId)
    (known : deterministicMulticastRouteId groupId treeId = some routeId)
    (found : installed.routeNextHop[encodeMulticastRouteId routeId]? = some hops) :
    treeLookup installed srcNodeId groupId treeId =
      copyNextHops (encodeMulticastRouteId routeId) hops := by
  have present : encodeMulticastRouteId routeId ∈ installed.routeNextHop := by
    rw [Std.HashMap.mem_iff_isSome_getElem?, found]
    rfl
  have routed : treeRoute installed groupId treeId = some (encodeMulticastRouteId routeId) := by
    rw [treeRoute, known]
    exact if_pos present
  rw [tree_lookup_routed srcNodeId routed, hopsOfRoute, found]

theorem reference_tree_lookup {slot : JumpSlot} {reference : ReferenceTable} {flowId : FlowId}
    {srcNodeId : NodeId} {groupId : GroupId} {treeId : UInt16}
    (keyed : keyForFlow reference.config reference.groupDir flowId (some treeId) =
      some (.multicast srcNodeId groupId treeId)) :
    reference.nextHops slot flowId (some treeId) =
      some (treeLookup reference.installed srcNodeId groupId treeId) := by
  have valid := valid_of_keyed keyed
  have looked : reference.nextHops slot flowId (some treeId) =
      reference.lookupKey slot flowId (.multicast srcNodeId groupId treeId) := by
    simp only [ReferenceTable.nextHops, if_neg valid, keyed]
  rw [looked, ReferenceTable.lookupKey, ReferenceTable.pinnedRoute, routeForKey, Option.map_some]
  cases routed : treeRoute reference.installed groupId treeId with
  | none => rw [tree_lookup_unrouted srcNodeId routed]
  | some routeId => rw [tree_lookup_routed srcNodeId routed]

/-- The table's answer, through its caches, to a lookup of a tree. -/
theorem table_tree_lookup {slot : JumpSlot} {table : RoutingTable} {reference : ReferenceTable}
    {flowId : FlowId} {srcNodeId : NodeId} {groupId : GroupId} {treeId : UInt16}
    (agree : CachesAgree slot table reference)
    (keyed : keyForFlow table.config table.groupDir flowId (some treeId) =
      some (.multicast srcNodeId groupId treeId)) :
    (table.getNextHopsByFlowAndTree slot flowId (some treeId)).map Prod.snd =
      some (treeLookup table.installed srcNodeId groupId treeId) := by
  have alike := next_hops_alike agree flowId (some treeId)
  rw [agree.config, agree.groupDir] at keyed
  rw [reference_tree_lookup keyed, ← agree.installed] at alike
  generalize table.getNextHopsByFlowAndTree slot flowId (some treeId) = lookup at alike
  cases alike with
  | some both => rw [Option.map_some, both.2]

/-- After an install of a source's trees no cached selection is left for them, so a lookup goes to
the installed routes, whatever the table remembered before. -/
theorem installed_tree_lookup (slot : JumpSlot) (table : RoutingTable) {flowId : FlowId}
    {srcNodeId : NodeId} {groupId : GroupId} {treeId : UInt16}
    (routes : List GroupRoutingTableEntry)
    (keyed : keyForFlow table.config table.groupDir flowId (some treeId) =
      some (.multicast srcNodeId groupId treeId)) :
    ((table.installGroupRoutes groupId srcNodeId routes).getNextHopsByFlowAndTree slot flowId
        (some treeId)).map Prod.snd =
      some (treeLookup (table.installed.installGroupRoutes groupId srcNodeId routes) srcNodeId groupId
        treeId) := by
  have valid := valid_of_keyed keyed
  have forgotten : (table.installGroupRoutes groupId srcNodeId routes).multicastTreeCache[
      (srcNodeId, groupId, treeId)]? = none := by
    simp only [RoutingTable.installGroupRoutes, Std.HashMap.getElem?_filter']
    cases table.multicastTreeCache[(srcNodeId, groupId, treeId)]? with
    | none => rfl
    | some routeId => simp
  have looked : (table.installGroupRoutes groupId srcNodeId routes).getNextHopsByFlowAndTree slot
      flowId (some treeId) =
        (table.installGroupRoutes groupId srcNodeId routes).lookupKey slot flowId
          (.multicast srcNodeId groupId treeId) := by
    have sameKey : keyForFlow (table.installGroupRoutes groupId srcNodeId routes).config
        (table.installGroupRoutes groupId srcNodeId routes).groupDir flowId (some treeId) =
          some (.multicast srcNodeId groupId treeId) := keyed
    simp only [RoutingTable.getNextHopsByFlowAndTree, if_neg valid, sameKey]
  rw [looked, RoutingTable.lookupKey, RoutingTable.cachedHops]
  simp only [RoutingTable.lookupSelected, RoutingTable.selectRouteForKey,
    RoutingTable.selectMulticast, forgotten, RoutingTable.resolveTreeRoute, Option.bind_eq_bind,
    Option.bind_some]
  cases known : deterministicMulticastRouteId groupId treeId with
  | none =>
    have unrouted : treeRoute (table.installed.installGroupRoutes groupId srcNodeId routes) groupId
        treeId = none := by
      rw [treeRoute, known]
    rw [tree_lookup_unrouted srcNodeId unrouted, Option.map_some]
  | some routeId =>
    by_cases present : encodeMulticastRouteId routeId ∈
        (table.installed.installGroupRoutes groupId srcNodeId routes).routeNextHop
    · have routed : treeRoute (table.installed.installGroupRoutes groupId srcNodeId routes) groupId
          treeId = some (encodeMulticastRouteId routeId) := by
        rw [treeRoute, known]
        exact if_pos present
      have held : encodeMulticastRouteId routeId ∈
          (table.installGroupRoutes groupId srcNodeId routes).installed.routeNextHop := present
      simp only [if_pos held, tree_lookup_routed srcNodeId routed, Option.map_some]
      rfl
    · have unrouted : treeRoute (table.installed.installGroupRoutes groupId srcNodeId routes)
          groupId treeId = none := by
        rw [treeRoute, known]
        exact if_neg present
      have missing : encodeMulticastRouteId routeId ∉
          (table.installGroupRoutes groupId srcNodeId routes).installed.routeNextHop := present
      simp only [if_neg missing, tree_lookup_unrouted srcNodeId unrouted, Option.map_some]

/-- A source that alone has a tree gets what it last installed, and so does one whose tree nobody
has; the id of a tree that another source has answers for that source. -/
theorem tree_lookup_answer {installed : InstalledRoutes} {trees : SourceTrees}
    (agree : PerSource installed trees) (srcNodeId : NodeId) (groupId : GroupId) (treeId : UInt16) :
    treeLookup installed srcNodeId groupId treeId =
        treeAnswer srcNodeId groupId treeId (trees srcNodeId groupId treeId) ↔
      ∀ other, other ≠ srcNodeId → trees other groupId treeId = none := by
  have answered {owner : NodeId} {hops : List NodeId}
      (owned : trees owner groupId treeId = some hops) :
      treeLookup installed srcNodeId groupId treeId =
        copyNextHops (encodeMulticastRouteId (groupId * multitreeStride + treeId.toNat)) hops := by
    rcases agree.known owner groupId treeId (by rw [owned]; simp) with ⟨routeId, known⟩
    rw [(deterministic_route_some.mp known).1]
    exact tree_lookup_found srcNodeId known (agree.hops owner groupId treeId routeId hops known owned)
  constructor
  · intro right other different
    by_contra present
    rcases Option.ne_none_iff_exists'.mp present with ⟨hops, owned⟩
    have nothing : trees srcNodeId groupId treeId = none := by
      by_contra also
      exact different (agree.sole other srcNodeId groupId treeId present also)
    rw [answered owned, nothing, tree_answer_none] at right
    exact copied_hops_not_missing _ _ _ _ _ right
  · intro alone
    cases owned : trees srcNodeId groupId treeId with
    | some hops =>
      rw [answered owned, tree_answer_some]
    | none =>
      have nobody : ∀ source, trees source groupId treeId = none := by
        intro source
        by_cases same : source = srcNodeId
        · rw [same, owned]
        · exact alone source same
      have missing : treeRoute installed groupId treeId = none := by
        cases known : deterministicMulticastRouteId groupId treeId with
        | none => rw [treeRoute, known]
        | some routeId =>
          have absent := agree.vacant groupId treeId routeId known nobody
          have notPresent : encodeMulticastRouteId routeId ∉ installed.routeNextHop := by
            rw [Std.HashMap.mem_iff_isSome_getElem?, absent]
            simp
          rw [treeRoute, known]
          exact if_neg notPresent
      rw [tree_lookup_unrouted srcNodeId missing, tree_answer_none]

theorem Tracks.sole_source_iff {slot : JumpSlot} {ops : List RoutingOp} {table : RoutingTable}
    {reference : ReferenceTable} (tracks : Tracks slot ops table reference) {srcNodeId : NodeId}
    {groupId : GroupId} {treeId : UInt16} :
    SoleSource table srcNodeId groupId treeId ↔ ∀ other, other ≠ srcNodeId →
      SourceTrees.lastInstalled ops other groupId treeId = none := by
  rw [SoleSource]
  simp only [tracks.caches.installed, tracks.sources.key_present, not_not]

/-- In every run whose installs keep the sources apart, a lookup of a tree for a source answers
with what that source last installed exactly when no other source has the tree. -/
theorem group_lookups_per_source (slot : JumpSlot) (config : LocalConfig)
    {labels : List (RoutingOp × RoutingAnswer)} {table : RoutingTable} {flowId : FlowId}
    {srcNodeId : NodeId} {groupId : GroupId} {treeId : UInt16}
    (run : ((routing slot config).restrict fun table label =>
      KeepsSourcesApart table label.1).Run (.new config) labels table)
    (keyed : keyForFlow table.config table.groupDir flowId (some treeId) =
      some (.multicast srcNodeId groupId treeId)) :
    (table.getNextHopsByFlowAndTree slot flowId (some treeId)).map Prod.snd =
        some (treeAnswer srcNodeId groupId treeId
          (SourceTrees.lastInstalled (labels.map Prod.fst) srcNodeId groupId treeId)) ↔
      SoleSource table srcNodeId groupId treeId := by
  rcases tracks_of_run run with ⟨reference, tracks⟩
  rw [tracks.sole_source_iff, ← tree_lookup_answer tracks.sources srcNodeId groupId treeId,
    table_tree_lookup tracks.caches keyed, tracks.caches.installed, Option.some.injEq]

/-! ## One group, two sources -/

def groupFlow : FlowId := BitVec.ofNat 128 (0x0a000001 <<< 96 ||| 0xefff0001 <<< 64)

def directoryTable : RoutingTable :=
  (RoutingTable.new defaultConfig).installGroupDirectory [⟨7, 0xefff0001⟩]

def firstSourceTable : RoutingTable := directoryTable.installGroupRoutes 7 1 [⟨7 * 65536, [2]⟩]

def secondSourceTable : RoutingTable := firstSourceTable.installGroupRoutes 7 2 [⟨7 * 65536, [3]⟩]

def apartTable : RoutingTable := firstSourceTable.installGroupRoutes 7 2 [⟨7 * 65536 + 1, [3]⟩]

def directoryStep : RoutingOp × RoutingAnswer :=
  (.installGroupDirectory [⟨7, 0xefff0001⟩], .done)

def firstSourceStep : RoutingOp × RoutingAnswer :=
  (.installGroupRoutes 7 1 [⟨7 * 65536, [2]⟩], .done)

def secondSourceStep : RoutingOp × RoutingAnswer :=
  (.installGroupRoutes 7 2 [⟨7 * 65536, [3]⟩], .done)

def apartStep : RoutingOp × RoutingAnswer :=
  (.installGroupRoutes 7 2 [⟨7 * 65536 + 1, [3]⟩], .done)

theorem group_flow_key (treeId : UInt16) :
    keyForFlow defaultConfig (directory [⟨7, 0xefff0001⟩]) groupFlow (some treeId) =
      some (.multicast 1 7 treeId) := by
  have valid : groupFlow ≠ invalidFlowId := by decide
  have address : dstIp groupFlow = 0xefff0001 := by decide
  have source : defaultConfig.ipToNodeId (srcIp groupFlow) = 1 := by decide
  have known : invalidNode ≠ 1 := by decide
  simp [keyForFlow, valid, address, source, directory, known.symm]

theorem directory_table_untreed (srcNodeId : NodeId) (groupId : GroupId) (treeId : UInt16) :
    RouteKey.multicast srcNodeId groupId treeId ∉ directoryTable.installed.availableRoutes := by
  simp [directoryTable, RoutingTable.installGroupDirectory, RoutingTable.new, InstalledRoutes.empty]

theorem tree_hops_own {groupId : GroupId} {own : UInt16} {route : GroupRoutingTableEntry}
    (known : deterministicMulticastRouteId groupId own = some route.routeId) (treeId : UInt16) :
    treeHops groupId [route] treeId = if treeId = own then some route.nextHops else none := by
  rw [tree_hops_single]
  congr 1
  rw [eq_iff_iff]
  exact ⟨fun same => (deterministic_route_injective same known).2, fun same => same ▸ known⟩

/-- Two sources of the group with trees of their own: the lookup for the first gets its hops. -/
theorem sources_apart_answered :
    (apartTable.getNextHopsByFlowAndTree (fun _ _ => 0) groupFlow (some 0)).map Prod.snd =
      some (.ok [2]) := by
  have firstKnown : deterministicMulticastRouteId 7 0 = some (7 * 65536) := by decide
  have secondKnown : deterministicMulticastRouteId 7 1 = some (7 * 65536 + 1) := by decide
  have firstTree := @tree_hops_own 7 0 ⟨7 * 65536, [2]⟩ firstKnown
  have secondTree := @tree_hops_own 7 1 ⟨7 * 65536 + 1, [3]⟩ secondKnown
  have listed : ((routing (fun _ _ => 0) defaultConfig).restrict fun table label =>
      KeepsSourcesApart table label.1).step (.new defaultConfig) directoryStep directoryTable :=
    ⟨trivial, rfl⟩
  have first : ((routing (fun _ _ => 0) defaultConfig).restrict fun table label =>
      KeepsSourcesApart table label.1).step directoryTable firstSourceStep firstSourceTable := by
    refine ⟨?_, rfl⟩
    intro route _ treeId _ other _
    exact directory_table_untreed other 7 treeId
  have second : ((routing (fun _ _ => 0) defaultConfig).restrict fun table label =>
      KeepsSourcesApart table label.1).step firstSourceTable apartStep apartTable := by
    refine ⟨?_, rfl⟩
    intro route member treeId own
    rw [List.mem_singleton.mp member] at own
    cases (deterministic_route_injective own secondKnown).2
    rcases tracks_of_run (.cons listed (.single first)) with ⟨reference, tracks⟩
    rw [tracks.sole_source_iff]
    intro other _
    simp [SourceTrees.lastInstalled, SourceTrees.after, SourceTrees.install, directoryStep,
      firstSourceStep, firstTree]
  have run := TransitionSystem.Run.cons listed (.cons first (.single second))
  have sole : SoleSource apartTable 1 7 0 := by
    rcases tracks_of_run run with ⟨reference, tracks⟩
    rw [tracks.sole_source_iff]
    intro other different
    simp [SourceTrees.lastInstalled, SourceTrees.after, SourceTrees.install, directoryStep,
      firstSourceStep, apartStep, secondTree, different]
  have last : SourceTrees.lastInstalled ([directoryStep, firstSourceStep, apartStep].map Prod.fst)
      1 7 0 = some [2] := by
    simp [SourceTrees.lastInstalled, SourceTrees.after, SourceTrees.install, directoryStep,
      firstSourceStep, apartStep, firstTree]
  have usable : invalidNode ∉ [2] := by decide
  have answered := (group_lookups_per_source (fun _ _ => 0) defaultConfig run (group_flow_key 0)).mpr sole
  rw [last, tree_answer_some, copyNextHops, if_neg usable] at answered
  exact answered

/-- Two sources: the lookup for the first gets the hops of the second. -/
theorem second_source_answers_first :
    (routing (fun _ _ => 0) defaultConfig).Run (.new defaultConfig)
        [directoryStep, firstSourceStep, secondSourceStep] secondSourceTable ∧
      SourceTrees.lastInstalled
        ([directoryStep, firstSourceStep, secondSourceStep].map Prod.fst) 1 7 0 = some [2] ∧
      keyForFlow secondSourceTable.config secondSourceTable.groupDir groupFlow (some 0) =
        some (.multicast 1 7 0) ∧
      (secondSourceTable.getNextHopsByFlowAndTree (fun _ _ => 0) groupFlow (some 0)).map
        Prod.snd = some (.ok [3]) := by
  have last : treeHops 7 [⟨7 * 65536, [2]⟩] 0 = some [2] := by decide
  refine ⟨?_, last, group_flow_key 0, ?_⟩
  · have listed : (routing (fun _ _ => 0) defaultConfig).step (.new defaultConfig) directoryStep
        directoryTable := rfl
    have first : (routing (fun _ _ => 0) defaultConfig).step directoryTable firstSourceStep
        firstSourceTable := rfl
    have second : (routing (fun _ _ => 0) defaultConfig).step firstSourceTable secondSourceStep
        secondSourceTable := rfl
    exact TransitionSystem.Run.cons listed (.cons first (.single second))
  · have started := new_tables_agree (fun _ _ => 0) defaultConfig
    have listed : CachesAgree (fun _ _ => 0) directoryTable
        { ReferenceTable.new defaultConfig with groupDir := directory [⟨7, 0xefff0001⟩] } :=
      { started with groupDir := rfl }
    have first := install_group_routes_agree listed 7 1 [⟨7 * 65536, [2]⟩]
    have second : CachesAgree (fun _ _ => 0) secondSourceTable _ :=
      install_group_routes_agree first 7 2 [⟨7 * 65536, [3]⟩]
    have known : deterministicMulticastRouteId 7 0 = some (7 * 65536) := by decide
    have given : treeHops 7 [⟨7 * 65536, [3]⟩] 0 = some [3] := by decide
    have found := (firstSourceTable.installed.install_tree_found 2 known given).1
    have usable : invalidNode ∉ [3] := by decide
    have answered := tree_lookup_found 1 known found
    rw [copyNextHops, if_neg usable] at answered
    rw [table_tree_lookup second (group_flow_key 0)]
    exact congrArg some answered

end Nextmini.Routing
