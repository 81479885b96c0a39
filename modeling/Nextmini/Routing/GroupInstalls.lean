import Nextmini.Routing.SourceLookups

/-!
# Group installs and unicast lookups

Installing the trees of a group leaves the unicast routes and their next hops as they were, as long
as unicast ids stay below the multicast flag. It also clears the flow cache, which multicast lookups
never read and which holds the pins: a pinned flow is hashed to a route again.
-/

namespace Nextmini.Routing

open Nextmini.Library

set_option autoImplicit false

/-! ## Ids of the two kinds -/

/-- Unicast routes have ids below the flag, trees have ids with the flag. -/
structure IdsApart (installed : InstalledRoutes) : Prop where
  unicast : ∀ srcNodeId dstNodeId routeIds,
    installed.availableRoutes[RouteKey.unicast srcNodeId dstNodeId]? = some routeIds →
      ∀ routeId ∈ routeIds, routeId < multicastRouteFlag
  multicast : ∀ srcNodeId groupId treeId routeIds,
    installed.availableRoutes[RouteKey.multicast srcNodeId groupId treeId]? = some routeIds →
      ∀ routeId ∈ routeIds, multicastRouteFlag ≤ routeId

/-- A step that gives no unicast route an id with the flag. -/
def UnicastIdsBelowFlag : RoutingOp → Prop
  | .installRoutes routes => ∀ route ∈ routes, route.routeId < multicastRouteFlag
  | _ => True

namespace IdsApart

variable {installed : InstalledRoutes}

theorem empty : IdsApart .empty where
  unicast _ _ _ present := by simp [InstalledRoutes.empty] at present
  multicast _ _ _ _ present := by simp [InstalledRoutes.empty] at present

theorem purge (apart : IdsApart installed) (matching : RouteKey → Bool) :
    IdsApart (installed.purge matching) := by
  have kept {key : RouteKey} {routeIds : List Nat}
      (present : (installed.purge matching).availableRoutes[key]? = some routeIds) :
      installed.availableRoutes[key]? = some routeIds := by
    cases matched : matching key with
    | true =>
      rw [InstalledRoutes.purge_matching matched] at present
      cases present
    | false => rw [← present, InstalledRoutes.purge_other matched]
  exact ⟨fun srcNodeId dstNodeId routeIds present => apart.unicast _ _ _ (kept present),
    fun srcNodeId groupId treeId routeIds present => apart.multicast _ _ _ _ (kept present)⟩

theorem add_route (apart : IdsApart installed) {route : RoutingTableEntry}
    (below : route.routeId < multicastRouteFlag) : IdsApart (installed.addRoute route) where
  unicast srcNodeId dstNodeId routeIds present routeId member := by
    simp only [InstalledRoutes.addRoute, Std.HashMap.getElem?_insert] at present
    split_ifs at present with same
    · cases present
      rcases List.mem_append.mp member with earlier | last
      · rw [Std.HashMap.getD_eq_getD_getElem?] at earlier
        cases found : installed.availableRoutes[
            RouteKey.unicast route.srcNodeId route.dstNodeId]? with
        | none => simp [found] at earlier
        | some before =>
          rw [found] at earlier
          exact apart.unicast _ _ before found routeId earlier
      · rw [List.mem_singleton.mp last]
        exact below
    · exact apart.unicast _ _ routeIds present routeId member
  multicast srcNodeId groupId treeId routeIds present := by
    rw [InstalledRoutes.add_route_multicast] at present
    exact apart.multicast srcNodeId groupId treeId routeIds present

theorem install_routes (apart : IdsApart installed) {routes : List RoutingTableEntry}
    (below : ∀ route ∈ routes, route.routeId < multicastRouteFlag) :
    IdsApart (installed.installRoutes routes) := by
  have purged := apart.purge InstalledRoutes.isUnicast
  rw [InstalledRoutes.installRoutes]
  generalize installed.purge InstalledRoutes.isUnicast = start at purged
  induction routes generalizing start with
  | nil => exact purged
  | cons route rest induction =>
    rcases List.forall_mem_cons.mp below with ⟨first, others⟩
    exact induction others _ (purged.add_route first)

end IdsApart

/-! ## What a group install leaves alone -/

namespace InstalledRoutes

variable {installed : InstalledRoutes} {groupId : GroupId} {srcNodeId : NodeId}

/-- An entry of a group changes neither a unicast key nor the hops of an id below the flag. -/
theorem add_group_route_unicast (route : GroupRoutingTableEntry) :
    (∀ source destination,
        (addGroupRoute groupId srcNodeId installed route).availableRoutes[
            RouteKey.unicast source destination]? =
          installed.availableRoutes[RouteKey.unicast source destination]?) ∧
      (∀ routeId < multicastRouteFlag,
        (addGroupRoute groupId srcNodeId installed route).routeNextHop[routeId]? =
          installed.routeNextHop[routeId]?) ∧
      (IdsApart installed → IdsApart (addGroupRoute groupId srcNodeId installed route)) := by
  by_cases known : ∃ treeId, deterministicMulticastRouteId groupId treeId = some route.routeId
  · rcases known with ⟨treeId, known⟩
    have flagged := encoded_above_flag (deterministic_route_some.mp known).2
    rw [add_group_route_known known]
    refine ⟨fun source destination => ?_, fun routeId below => ?_, fun apart => ⟨?_, ?_⟩⟩
    · simp [Std.HashMap.getElem?_insert]
    · have other : encodeMulticastRouteId route.routeId ≠ routeId := by omega
      simp [Std.HashMap.getElem?_insert, other]
    · intro source destination routeIds present
      simp only [Std.HashMap.getElem?_insert, beq_iff_eq, reduceCtorEq, if_false] at present
      exact apart.unicast source destination routeIds present
    · intro otherSrc otherGroup otherTree routeIds present routeId member
      simp only [Std.HashMap.getElem?_insert] at present
      split_ifs at present with same
      · cases present
        rw [List.mem_singleton.mp member]
        exact flagged
      · exact apart.multicast _ _ _ routeIds present routeId member
  · rw [add_group_route_unknown (fun treeId same => known ⟨treeId, same⟩)]
    exact ⟨fun _ _ => rfl, fun _ _ => rfl, id⟩

theorem install_group_routes_unicast (apart : IdsApart installed)
    (routes : List GroupRoutingTableEntry) :
    (∀ source destination,
        (installed.installGroupRoutes groupId srcNodeId routes).availableRoutes[
            RouteKey.unicast source destination]? =
          installed.availableRoutes[RouteKey.unicast source destination]?) ∧
      (∀ routeId < multicastRouteFlag,
        (installed.installGroupRoutes groupId srcNodeId routes).routeNextHop[routeId]? =
          installed.routeNextHop[routeId]?) ∧
      IdsApart (installed.installGroupRoutes groupId srcNodeId routes) := by
  have keys (source destination : NodeId) :
      (installed.purge (isTreeOf groupId srcNodeId)).availableRoutes[
          RouteKey.unicast source destination]? =
        installed.availableRoutes[RouteKey.unicast source destination]? := purge_other rfl
  have hops (routeId : Nat) (below : routeId < multicastRouteFlag) :
      (installed.purge (isTreeOf groupId srcNodeId)).routeNextHop[routeId]? =
        installed.routeNextHop[routeId]? := by
    apply (purge_hops _ routeId).2
    rintro ⟨key, routeIds, matched, present, member⟩
    cases key with
    | unicast source destination => cases matched
    | multicast otherSrc otherGroup otherTree =>
      have flagged := apart.multicast _ _ _ routeIds present routeId member
      omega
  have purged := apart.purge (isTreeOf groupId srcNodeId)
  rw [installGroupRoutes]
  generalize installed.purge (isTreeOf groupId srcNodeId) = start at keys hops purged
  induction routes generalizing start with
  | nil => exact ⟨keys, hops, purged⟩
  | cons route rest induction =>
    rcases @add_group_route_unicast start groupId srcNodeId route with
      ⟨keyKept, hopKept, apartKept⟩
    exact induction _
      (fun source destination => (keyKept source destination).trans (keys source destination))
      (fun routeId below => (hopKept routeId below).trans (hops routeId below))
      (apartKept purged)

end InstalledRoutes

/-! ## Unicast lookups -/

/-- What a unicast key is answered without cache and pins. -/
def unicastAnswer (slot : JumpSlot) (installed : InstalledRoutes) (srcNodeId dstNodeId : NodeId) :
    Option (Except String (List NodeId)) :=
  (selectUnicast slot installed (.unicast srcNodeId dstNodeId)).map fun selected =>
    match selected with
    | none => .error (noRoute (.unicast srcNodeId dstNodeId))
    | some routeId => hopsOfRoute installed routeId

theorem selected_available {slot : JumpSlot} {installed : InstalledRoutes} {key : RouteKey}
    {routeId : Nat} (selected : selectUnicast slot installed key = some (some routeId)) :
    ∃ routeIds, installed.availableRoutes[key]? = some routeIds ∧ routeId ∈ routeIds := by
  rw [selectUnicast] at selected
  cases available : installed.availableRoutes[key]? with
  | none => simp [available] at selected
  | some routeIds =>
    refine ⟨routeIds, rfl, ?_⟩
    match routeIds with
    | [] => simp [available] at selected
    | [only] =>
      simp only [available, Option.some.injEq] at selected
      rw [selected]
      exact List.mem_singleton_self routeId
    | first :: second :: rest =>
      simp only [available, Option.map_eq_some_iff, Option.some.injEq] at selected
      rcases selected with ⟨found, indexed, same⟩
      rw [← same]
      exact List.mem_of_getElem? indexed

/-- A group install changes no selection and none of its hops. -/
theorem unicast_answer_after_group (slot : JumpSlot) {installed : InstalledRoutes}
    (apart : IdsApart installed) (groupId : GroupId) (srcNodeId : NodeId)
    (routes : List GroupRoutingTableEntry) (source destination : NodeId) :
    unicastAnswer slot (installed.installGroupRoutes groupId srcNodeId routes) source destination =
      unicastAnswer slot installed source destination := by
  rcases @InstalledRoutes.install_group_routes_unicast installed groupId srcNodeId apart routes with
    ⟨keys, hops, _⟩
  have selection : selectUnicast slot (installed.installGroupRoutes groupId srcNodeId routes)
      (.unicast source destination) = selectUnicast slot installed (.unicast source destination) := by
    simp only [selectUnicast, keys]
  rw [unicastAnswer, unicastAnswer, selection]
  cases selected : selectUnicast slot installed (.unicast source destination) with
  | none => rfl
  | some choice =>
    cases choice with
    | none => rfl
    | some routeId =>
      rcases selected_available selected with ⟨routeIds, available, member⟩
      have below := apart.unicast source destination routeIds available routeId member
      simp only [Option.map_some, hopsOfRoute, hops routeId below]

theorem unicast_key_any_tree {config : LocalConfig} {groupDir : Std.HashMap Ipv4Addr GroupId}
    {flowId : FlowId} {treeId : Option UInt16} {source destination : NodeId}
    (keyed : keyForFlow config groupDir flowId treeId = some (.unicast source destination))
    (otherTree : Option UInt16) :
    keyForFlow config groupDir flowId otherTree = some (.unicast source destination) := by
  simp only [keyForFlow] at keyed ⊢
  cases grouped : groupDir[dstIp flowId]? with
  | none =>
    simp only [grouped] at keyed ⊢
    exact keyed
  | some groupId =>
    simp only [grouped] at keyed
    split_ifs at keyed
    cases keyed

/-- A unicast flow is answered by its pin, or else as its key is. -/
theorem unicast_lookup {slot : JumpSlot} {table : RoutingTable} {reference : ReferenceTable}
    (agree : CachesAgree slot table reference) {flowId : FlowId} {treeId : Option UInt16}
    {source destination : NodeId}
    (keyed : keyForFlow table.config table.groupDir flowId treeId =
      some (.unicast source destination)) :
    (table.getNextHopsByFlowAndTree slot flowId treeId).map Prod.snd =
      match reference.pins[flowId]? with
      | some routeId => some (hopsOfRoute table.installed routeId)
      | none => unicastAnswer slot table.installed source destination := by
  have valid := valid_of_keyed keyed
  have alike := next_hops_alike agree flowId treeId
  have expected : reference.nextHops slot flowId treeId =
      reference.lookupKey slot flowId (.unicast source destination) := by
    rw [agree.config, agree.groupDir] at keyed
    simp only [ReferenceTable.nextHops, if_neg valid, keyed]
  have answered : (table.getNextHopsByFlowAndTree slot flowId treeId).map Prod.snd =
      reference.nextHops slot flowId treeId := by
    generalize table.getNextHopsByFlowAndTree slot flowId treeId = result at alike
    generalize reference.nextHops slot flowId treeId = other at alike
    cases alike with
    | none => rfl
    | some both => exact congrArg some both.2
  rw [answered, expected, agree.installed, ReferenceTable.lookupKey]
  simp only [ReferenceTable.pinnedRoute]
  cases reference.pins[flowId]? with
  | some routeId => rfl
  | none => rfl

/-! ## Pins of a run -/

/-- The pins that a step leaves; installs of both kinds drop all of them. -/
def pinsAfter (pins : Std.HashMap FlowId Nat) :
    RoutingOp × RoutingAnswer → Std.HashMap FlowId Nat
  | (.installRoutes _, _) => ∅
  | (.installGroupRoutes _ _ _, _) => ∅
  | (.pinRouteForFlow flowId routeId, .pinned (.ok ())) => pins.insert flowId routeId
  | _ => pins

def pinsSince (labels : List (RoutingOp × RoutingAnswer)) : Std.HashMap FlowId Nat :=
  labels.foldl pinsAfter ∅

structure Pinning (slot : JumpSlot) (pins : Std.HashMap FlowId Nat) (table : RoutingTable)
    (reference : ReferenceTable) : Prop where
  caches : CachesAgree slot table reference
  pins : reference.pins = pins
  apart : IdsApart reference.installed

theorem pins_after_apply {slot : JumpSlot} {reference later : ReferenceTable} {op : RoutingOp}
    {answer : RoutingAnswer} (apart : IdsApart reference.installed) (below : UnicastIdsBelowFlag op)
    (applied : reference.apply slot op = some (later, answer)) :
    later.pins = pinsAfter reference.pins (op, answer) ∧ IdsApart later.installed := by
  cases ReferenceTable.apply_cases applied with
  | installRoutes routes => exact ⟨rfl, apart.install_routes below⟩
  | installGroupRoutes groupId srcNodeId routes =>
    exact ⟨rfl, (InstalledRoutes.install_group_routes_unicast apart routes).2.2⟩
  | _ => exact ⟨rfl, apart⟩

theorem pinning_of_run {slot : JumpSlot} {config : LocalConfig}
    {labels : List (RoutingOp × RoutingAnswer)} {table : RoutingTable}
    (run : ((routing slot config).restrict fun _ label =>
      UnicastIdsBelowFlag label.1).Run (.new config) labels table) :
    ∃ reference, Pinning slot (pinsSince labels) table reference := by
  apply TransitionSystem.history_of_run (motive := fun labels table =>
    ∃ reference, Pinning slot (pinsSince labels) table reference) run
  · exact ⟨.new config, new_tables_agree slot config, rfl, .empty⟩
  · rintro before state ⟨op, answer⟩ next _ ⟨reference, pinning⟩ ⟨below, applied⟩
    rcases reference_follows pinning.caches applied with ⟨later, expected, agree⟩
    rcases pins_after_apply pinning.apart below expected with ⟨pins, apart⟩
    refine ⟨later, agree, ?_, apart⟩
    rw [pins, pinning.pins, pinsSince, pinsSince, List.foldl_append]
    rfl

/-- No unicast lookup tells the two tables apart. -/
def SameUnicast (slot : JumpSlot) (table later : RoutingTable) : Prop :=
  ∀ flowId treeId source destination,
    keyForFlow table.config table.groupDir flowId treeId = some (.unicast source destination) →
      (later.getNextHopsByFlowAndTree slot flowId treeId).map Prod.snd =
        (table.getNextHopsByFlowAndTree slot flowId treeId).map Prod.snd

theorem Pinning.same_unicast_iff {slot : JumpSlot} {pins : Std.HashMap FlowId Nat}
    {table : RoutingTable} {reference : ReferenceTable}
    (pinning : Pinning slot pins table reference) (groupId : GroupId) (srcNodeId : NodeId)
    (routes : List GroupRoutingTableEntry) :
    SameUnicast slot table (table.installGroupRoutes groupId srcNodeId routes) ↔
      ∀ flowId routeId source destination, pins[flowId]? = some routeId →
        keyForFlow table.config table.groupDir flowId none = some (.unicast source destination) →
          unicastAnswer slot table.installed source destination =
            some (hopsOfRoute table.installed routeId) := by
  rcases pinning with ⟨caches, rfl, apart⟩
  have apartHere : IdsApart table.installed := caches.installed ▸ apart
  have installed := install_group_routes_agree caches groupId srcNodeId routes
  have after {flowId : FlowId} {treeId : Option UInt16} {source destination : NodeId}
      (keyed : keyForFlow table.config table.groupDir flowId treeId =
        some (.unicast source destination)) :
      ((table.installGroupRoutes groupId srcNodeId routes).getNextHopsByFlowAndTree slot flowId
        treeId).map Prod.snd = unicastAnswer slot table.installed source destination := by
    have answered := unicast_lookup installed keyed
    simp only [Std.HashMap.getElem?_empty] at answered
    rw [answered]
    exact unicast_answer_after_group slot apartHere groupId srcNodeId routes source destination
  constructor
  · intro same flowId routeId source destination pinned keyed
    have unchanged := same flowId none source destination keyed
    rw [after keyed, unicast_lookup caches keyed, pinned] at unchanged
    exact unchanged
  · intro agrees flowId treeId source destination keyed
    rw [after keyed, unicast_lookup caches keyed]
    cases pinned : reference.pins[flowId]? with
    | none => rfl
    | some routeId =>
      exact agrees flowId routeId source destination pinned (unicast_key_any_tree keyed none)

/-- Over any operations that give unicast routes no id with the flag: a group install leaves every
unicast lookup as it was exactly where each pinned unicast flow has the answer of its key. -/
theorem group_install_same_unicast_iff {slot : JumpSlot} {config : LocalConfig}
    {labels : List (RoutingOp × RoutingAnswer)} {table : RoutingTable}
    (run : ((routing slot config).restrict fun _ label =>
      UnicastIdsBelowFlag label.1).Run (.new config) labels table)
    (groupId : GroupId) (srcNodeId : NodeId) (routes : List GroupRoutingTableEntry) :
    SameUnicast slot table (table.installGroupRoutes groupId srcNodeId routes) ↔
      ∀ flowId routeId source destination, (pinsSince labels)[flowId]? = some routeId →
        keyForFlow table.config table.groupDir flowId none = some (.unicast source destination) →
          unicastAnswer slot table.installed source destination =
            some (hopsOfRoute table.installed routeId) := by
  rcases pinning_of_run run with ⟨reference, pinning⟩
  exact pinning.same_unicast_iff groupId srcNodeId routes

/-! ## A pinned flow -/

def unicastFlow : FlowId := BitVec.ofNat 128 (0x0a000001 <<< 96 ||| 0x0a000002 <<< 64)

def twoRoutes : List RoutingTableEntry := [⟨1, [2], 1, 2⟩, ⟨2, [3], 1, 2⟩]

def twoRouteTable : RoutingTable := (RoutingTable.new defaultConfig).installRoutes twoRoutes

def pinnedTable (routeId : Nat) : RoutingTable := (twoRouteTable.pinRouteForFlow unicastFlow routeId).1

theorem unicast_flow_key :
    keyForFlow defaultConfig ∅ unicastFlow none = some (.unicast 1 2) := by
  have valid : unicastFlow ≠ invalidFlowId := by decide
  have source : defaultConfig.ipToNodeId (srcIp unicastFlow) = 1 := by decide
  have destination : defaultConfig.ipToNodeId (dstIp unicastFlow) = 2 := by decide
  simp [keyForFlow, valid, LocalConfig.tryExtractNodeIdsFromFlow, source, destination, invalidNode]

theorem two_routes_installed :
    twoRouteTable.installed.availableRoutes[RouteKey.unicast 1 2]? = some [1, 2] ∧
      twoRouteTable.installed.routeNextHop[1]? = some [2] ∧
      twoRouteTable.installed.routeNextHop[2]? = some [3] := by
  simp [twoRouteTable, twoRoutes, RoutingTable.installRoutes, RoutingTable.new,
    InstalledRoutes.installRoutes, InstalledRoutes.purge, InstalledRoutes.empty,
    InstalledRoutes.addRoute, Std.HashMap.getElem_insert]

theorem two_routes_run (slot : JumpSlot) :
    ((routing slot defaultConfig).restrict fun _ label => UnicastIdsBelowFlag label.1).Run
      (.new defaultConfig) [(.installRoutes twoRoutes, .done)] twoRouteTable := by
  refine .single ⟨?_, rfl⟩
  intro route member
  have below : ∀ route ∈ twoRoutes, route.routeId < multicastRouteFlag := by decide
  exact below route member

/-- Without a pin a group install leaves the lookups of the two routes alone. -/
theorem unpinned_flows_undisturbed :
    SameUnicast (fun _ _ => 0) twoRouteTable (twoRouteTable.installGroupRoutes 7 1 []) := by
  apply (group_install_same_unicast_iff (two_routes_run _) 7 1 []).mpr
  intro flowId routeId source destination pinned _
  simp [pinsSince, pinsAfter] at pinned

theorem two_routes_pinned (slot : JumpSlot) {selected other : Nat} {selectedHop otherHop : NodeId}
    (selection : selectUnicast slot twoRouteTable.installed (.unicast 1 2) = some (some selected))
    (selectedHops : twoRouteTable.installed.routeNextHop[selected]? = some [selectedHop])
    (otherHops : twoRouteTable.installed.routeNextHop[other]? = some [otherHop])
    (apart : selectedHop ≠ otherHop) (selectedUsable : invalidNode ≠ selectedHop)
    (otherUsable : invalidNode ≠ otherHop) :
    (routing slot defaultConfig).Run (.new defaultConfig)
        [(.installRoutes twoRoutes, .done), (.pinRouteForFlow unicastFlow other, .pinned (.ok ()))]
        (pinnedTable other) ∧
      ¬SameUnicast slot (pinnedTable other) ((pinnedTable other).installGroupRoutes 7 1 []) := by
  have checked : checkPin twoRouteTable.installed other = .ok () := by
    simp [checkPin, otherHops, otherUsable]
  have pin : twoRouteTable.apply slot (.pinRouteForFlow unicastFlow other) =
      some (pinnedTable other, .pinned (.ok ())) := by
    simp only [RoutingTable.apply, pinnedTable, RoutingTable.pinRouteForFlow, checked]
  have pinStep : ((routing slot defaultConfig).restrict fun _ label =>
      UnicastIdsBelowFlag label.1).step twoRouteTable
        (.pinRouteForFlow unicastFlow other, .pinned (.ok ())) (pinnedTable other) :=
    ⟨trivial, pin⟩
  have run := (two_routes_run slot).append (.single pinStep)
  refine ⟨run.unrestricted, fun same => ?_⟩
  rcases pinning_of_run run with ⟨reference, pinning⟩
  have table : pinnedTable other =
      { twoRouteTable with cache := twoRouteTable.cache.insert unicastFlow other } := by
    simp only [pinnedTable, RoutingTable.pinRouteForFlow, checked]
  have pinned : (pinsSince ([(.installRoutes twoRoutes, .done)] ++
      [(.pinRouteForFlow unicastFlow other, .pinned (.ok ()))]))[unicastFlow]? = some other := by
    simp [pinsSince, pinsAfter]
  have installed : (pinnedTable other).installed = twoRouteTable.installed := by rw [table]
  have keyed : keyForFlow (pinnedTable other).config (pinnedTable other).groupDir unicastFlow none =
      some (.unicast 1 2) := by
    rw [table]
    exact unicast_flow_key
  have answer := (pinning.same_unicast_iff 7 1 []).mp same unicastFlow other 1 2 pinned keyed
  rw [installed, unicastAnswer, selection] at answer
  simp [hopsOfRoute, selectedHops, otherHops, copyNextHops, selectedUsable, otherUsable, apart]
    at answer

/-- A flow pinned to the route gets that route's hop until a group is installed, and the other
route's hop from then on. -/
def PinLost (slot : JumpSlot) (routeId : Nat) : Prop :=
  (routing slot defaultConfig).Run (.new defaultConfig)
      [(.installRoutes twoRoutes, .done), (.pinRouteForFlow unicastFlow routeId, .pinned (.ok ()))]
      (pinnedTable routeId) ∧
    ¬SameUnicast slot (pinnedTable routeId) ((pinnedTable routeId).installGroupRoutes 7 1 [])

/-- Whichever of the two routes the hash selects, the pin to the other one is lost. -/
theorem pin_lost_of_slot (slot : JumpSlot) (bounded : slot (.unicast 1 2) 2 < 2) :
    ∃ routeId, PinLost slot routeId := by
  rcases two_routes_installed with ⟨available, firstHops, secondHops⟩
  have selection : selectUnicast slot twoRouteTable.installed (.unicast 1 2) =
      ([1, 2][(slot (.unicast 1 2) 2).toNat]?).map some := by
    simp only [selectUnicast, available]
    rfl
  have either : slot (.unicast 1 2) 2 = 0 ∨ slot (.unicast 1 2) 2 = 1 := by
    generalize slot (.unicast 1 2) 2 = index at bounded
    have small := UInt32.lt_iff_toNat_lt.mp bounded
    rw [← UInt32.toNat_inj, ← UInt32.toNat_inj]
    simp at small ⊢
    omega
  rcases either with first | second
  · rw [first] at selection
    exact ⟨2, two_routes_pinned slot selection firstHops secondHops (by decide) (by decide)
      (by decide)⟩
  · rw [second] at selection
    exact ⟨1, two_routes_pinned slot selection secondHops firstHops (by decide) (by decide)
      (by decide)⟩

theorem pinned_flow_rehashed :
    (∃ routeId, PinLost (fun _ _ => 0) routeId) ∧ ∃ routeId, PinLost (fun _ _ => 1) routeId :=
  ⟨pin_lost_of_slot (fun _ _ => 0) (by decide), pin_lost_of_slot (fun _ _ => 1) (by decide)⟩

end Nextmini.Routing
