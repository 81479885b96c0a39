import Nextmini.Library.TransitionSystem
import Nextmini.Routing.RouteIds

/-!
# Transparency of the routing caches

A reference table holds the installed routes, the directory and the pins made since the last
install, and answers every lookup from these alone. The three caches of the real table never change
an answer: what they remember is what the reference computes, after any sequence of operations.
-/

namespace Nextmini.Routing

open Nextmini.Library

set_option autoImplicit false

/-! ## Reference without caches -/

structure ReferenceTable where
  config : LocalConfig
  installed : InstalledRoutes
  groupDir : Std.HashMap Ipv4Addr GroupId
  pins : Std.HashMap FlowId Nat

def treeRoute (installed : InstalledRoutes) (groupId : GroupId) (treeId : UInt16) : Option Nat :=
  match deterministicMulticastRouteId groupId treeId with
  | none => none
  | some routeId =>
      let encodedId := encodeMulticastRouteId routeId
      if encodedId ∈ installed.routeNextHop then some encodedId else none

def routeForKey (slot : JumpSlot) (installed : InstalledRoutes) : RouteKey → Option (Option Nat)
  | .unicast srcNodeId dstNodeId => selectUnicast slot installed (.unicast srcNodeId dstNodeId)
  | .multicast _ groupId treeId => some (treeRoute installed groupId treeId)

namespace ReferenceTable

def new (config : LocalConfig) : ReferenceTable where
  config := config
  installed := .empty
  groupDir := ∅
  pins := ∅

def pinnedRoute (reference : ReferenceTable) (flowId : FlowId) : RouteKey → Option Nat
  | .unicast _ _ => reference.pins[flowId]?
  | .multicast _ _ _ => none

def lookupKey (slot : JumpSlot) (reference : ReferenceTable) (flowId : FlowId) (key : RouteKey) :
    Option (Except String (List NodeId)) :=
  match reference.pinnedRoute flowId key with
  | some routeId => some (hopsOfRoute reference.installed routeId)
  | none =>
      (routeForKey slot reference.installed key).map fun selected =>
        match selected with
        | none => .error (noRoute key)
        | some routeId => hopsOfRoute reference.installed routeId

def nextHops (slot : JumpSlot) (reference : ReferenceTable) (flowId : FlowId)
    (treeId : Option UInt16) : Option (Except String (List NodeId)) :=
  if flowId = invalidFlowId then some (.error "No route can be selected.")
  else
    match keyForFlow reference.config reference.groupDir flowId treeId, treeId with
    | none, _ => some (.error "Unable to build route key for flow")
    | some (.multicast srcNodeId groupId _), none =>
        match reference.installed.smallestTree srcNodeId groupId with
        | none => some (.error (noControlTree srcNodeId groupId))
        | some selected => reference.lookupKey slot flowId (.multicast srcNodeId groupId selected)
    | some key, _ => reference.lookupKey slot flowId key

def apply (slot : JumpSlot) (reference : ReferenceTable) :
    RoutingOp → Option (ReferenceTable × RoutingAnswer)
  | .installRoutes routes =>
      some ({ reference with
        installed := reference.installed.installRoutes routes, pins := ∅ }, .done)
  | .installGroupDirectory groups =>
      some ({ reference with groupDir := directory groups }, .done)
  | .installGroupRoutes groupId srcNodeId routes =>
      some ({ reference with
        installed := reference.installed.installGroupRoutes groupId srcNodeId routes
        pins := ∅ }, .done)
  | .pinRouteForFlow flowId routeId =>
      match checkPin reference.installed routeId with
      | .error reason => some (reference, .pinned (.error reason))
      | .ok () =>
          some ({ reference with pins := reference.pins.insert flowId routeId }, .pinned (.ok ()))
  | .nextHops flowId treeId =>
      (reference.nextHops slot flowId treeId).map fun result => (reference, .hops result)
  | .nextHop flowId =>
      (reference.nextHops slot flowId none).map fun result =>
        (reference, .hop (result.bind pickSingleHop))

/-- What an operation leaves, by its answer. A lookup and a refused pin leave all as it is. -/
inductive Applied (reference : ReferenceTable) : RoutingOp → RoutingAnswer → ReferenceTable → Prop
  | installRoutes (routes : List RoutingTableEntry) :
      Applied reference (.installRoutes routes) .done
        { reference with
          installed := reference.installed.installRoutes routes
          pins := ∅ }
  | installGroupDirectory (groups : List GroupDirectoryEntry) :
      Applied reference (.installGroupDirectory groups) .done
        { reference with groupDir := directory groups }
  | installGroupRoutes (groupId : GroupId) (srcNodeId : NodeId)
      (routes : List GroupRoutingTableEntry) :
      Applied reference (.installGroupRoutes groupId srcNodeId routes) .done
        { reference with
          installed := reference.installed.installGroupRoutes groupId srcNodeId routes
          pins := ∅ }
  | unpinned (flowId : FlowId) (routeId : Nat) (reason : String) :
      Applied reference (.pinRouteForFlow flowId routeId) (.pinned (.error reason)) reference
  | pinned (flowId : FlowId) (routeId : Nat) :
      Applied reference (.pinRouteForFlow flowId routeId) (.pinned (.ok ()))
        { reference with pins := reference.pins.insert flowId routeId }
  | nextHops (flowId : FlowId) (treeId : Option UInt16) (result : Except String (List NodeId)) :
      Applied reference (.nextHops flowId treeId) (.hops result) reference
  | nextHop (flowId : FlowId) (result : Except String (List NodeId)) :
      Applied reference (.nextHop flowId) (.hop (result.bind pickSingleHop)) reference

theorem apply_cases {slot : JumpSlot} {reference next : ReferenceTable} {op : RoutingOp}
    {answer : RoutingAnswer} (applied : reference.apply slot op = some (next, answer)) :
    Applied reference op answer next := by
  cases op with
  | installRoutes routes =>
    cases applied
    exact .installRoutes routes
  | installGroupDirectory groups =>
    cases applied
    exact .installGroupDirectory groups
  | installGroupRoutes groupId srcNodeId routes =>
    cases applied
    exact .installGroupRoutes groupId srcNodeId routes
  | pinRouteForFlow flowId routeId =>
    simp only [apply] at applied
    cases checked : checkPin reference.installed routeId with
    | error reason =>
      rw [checked] at applied
      cases applied
      exact .unpinned flowId routeId reason
    | ok done =>
      rw [checked] at applied
      cases applied
      exact .pinned flowId routeId
  | nextHops flowId treeId =>
    rcases Option.map_eq_some_iff.mp applied with ⟨result, _, same⟩
    cases same
    exact .nextHops flowId treeId result
  | nextHop flowId =>
    rcases Option.map_eq_some_iff.mp applied with ⟨result, _, same⟩
    cases same
    exact .nextHop flowId result

end ReferenceTable

/-! ## What the installs leave alone -/

namespace InstalledRoutes

variable {installed : InstalledRoutes} {key : RouteKey}

theorem remove_key_other {removed : RouteKey} (other : removed ≠ key) :
    (installed.removeKey removed).availableRoutes[key]? = installed.availableRoutes[key]? := by
  simp only [removeKey]
  cases installed.availableRoutes[removed]? with
  | none => rfl
  | some routeIds => simp [Std.HashMap.getElem?_erase, other]

theorem purge_other {matching : RouteKey → Bool} (other : matching key = false) :
    (installed.purge matching).availableRoutes[key]? = installed.availableRoutes[key]? := by
  have apart : ∀ removed ∈ installed.availableRoutes.keys.filter matching, removed ≠ key := by
    intro removed member same
    rw [List.mem_filter, same, other] at member
    exact Bool.false_ne_true member.2
  rw [purge]
  generalize installed.availableRoutes.keys.filter matching = removals at apart
  induction removals generalizing installed with
  | nil => rfl
  | cons removed rest induction =>
    rw [List.foldl_cons, induction (fun next member => apart next (List.mem_cons_of_mem _ member))]
    exact remove_key_other (apart removed List.mem_cons_self)

theorem add_route_multicast (route : RoutingTableEntry) (srcNodeId : NodeId) (groupId : GroupId)
    (treeId : UInt16) :
    (installed.addRoute route).availableRoutes[RouteKey.multicast srcNodeId groupId treeId]? =
      installed.availableRoutes[RouteKey.multicast srcNodeId groupId treeId]? := by
  simp [addRoute, Std.HashMap.getElem?_insert]

theorem install_routes_multicast (routes : List RoutingTableEntry) (srcNodeId : NodeId)
    (groupId : GroupId) (treeId : UInt16) :
    (installed.installRoutes routes).availableRoutes[RouteKey.multicast srcNodeId groupId treeId]? =
      installed.availableRoutes[RouteKey.multicast srcNodeId groupId treeId]? := by
  have purged : (installed.purge isUnicast).availableRoutes[
      RouteKey.multicast srcNodeId groupId treeId]? =
        installed.availableRoutes[RouteKey.multicast srcNodeId groupId treeId]? := purge_other rfl
  rw [installRoutes, ← purged]
  generalize installed.purge isUnicast = start
  induction routes generalizing start with
  | nil => rfl
  | cons route rest induction => rw [List.foldl_cons, induction, add_route_multicast]

theorem add_group_route_other (route : GroupRoutingTableEntry) {groupId otherGroup : GroupId}
    {srcNodeId otherSrc : NodeId} (treeId : UInt16)
    (other : otherSrc ≠ srcNodeId ∨ otherGroup ≠ groupId) :
    (addGroupRoute groupId srcNodeId installed route).availableRoutes[
        RouteKey.multicast otherSrc otherGroup treeId]? =
      installed.availableRoutes[RouteKey.multicast otherSrc otherGroup treeId]? := by
  rcases add_group_route_cases groupId srcNodeId installed route with
    ⟨routeTree, _, _, added⟩ | ⟨_, skipped⟩
  · rw [added, Std.HashMap.getElem?_insert, if_neg]
    intro same
    rw [beq_iff_eq] at same
    cases same
    simp at other
  · rw [skipped]

theorem install_group_routes_other (routes : List GroupRoutingTableEntry)
    {groupId otherGroup : GroupId} {srcNodeId otherSrc : NodeId} (treeId : UInt16)
    (other : otherSrc ≠ srcNodeId ∨ otherGroup ≠ groupId) :
    (installed.installGroupRoutes groupId srcNodeId routes).availableRoutes[
        RouteKey.multicast otherSrc otherGroup treeId]? =
      installed.availableRoutes[RouteKey.multicast otherSrc otherGroup treeId]? := by
  have purged : (installed.purge (isTreeOf groupId srcNodeId)).availableRoutes[
      RouteKey.multicast otherSrc otherGroup treeId]? =
        installed.availableRoutes[RouteKey.multicast otherSrc otherGroup treeId]? := by
    apply purge_other
    rw [isTreeOf, decide_eq_false_iff_not]
    rintro ⟨sameSrc, sameGroup⟩
    exact other.elim (fun apart => apart sameSrc) (fun apart => apart sameGroup)
  rw [installGroupRoutes, ← purged]
  generalize installed.purge (isTreeOf groupId srcNodeId) = start
  induction routes generalizing start with
  | nil => rfl
  | cons route rest induction =>
    rw [List.foldl_cons, induction, add_group_route_other route treeId other]

/-! ## The control tree -/

def HasTree (installed : InstalledRoutes) (srcNodeId : NodeId) (groupId : GroupId)
    (treeId : UInt16) : Prop :=
  ∃ routeId rest,
    installed.availableRoutes[RouteKey.multicast srcNodeId groupId treeId]? = some (routeId :: rest)

/-- The trees with routes among a list of entries. -/
def treesAmong (srcNodeId : NodeId) (groupId : GroupId) (entries : List (RouteKey × List Nat))
    (treeId : UInt16) : Prop :=
  ∃ routeIds, (RouteKey.multicast srcNodeId groupId treeId, routeIds) ∈ entries ∧ routeIds ≠ []

theorem trees_among_cons {srcNodeId : NodeId} {groupId : GroupId} {entry : RouteKey × List Nat}
    {rest : List (RouteKey × List Nat)} {treeId : UInt16} :
    treesAmong srcNodeId groupId (entry :: rest) treeId ↔
      (entry.1 = .multicast srcNodeId groupId treeId ∧ entry.2 ≠ []) ∨
        treesAmong srcNodeId groupId rest treeId := by
  constructor
  · rintro ⟨routeIds, member, nonempty⟩
    rcases List.mem_cons.mp member with same | later
    · subst same
      exact .inl ⟨rfl, nonempty⟩
    · exact .inr ⟨routeIds, later, nonempty⟩
  · rintro (⟨key, nonempty⟩ | ⟨routeIds, later, nonempty⟩)
    · exact ⟨entry.2, by rw [← key]; exact List.mem_cons_self, nonempty⟩
    · exact ⟨routeIds, List.mem_cons_of_mem _ later, nonempty⟩

/-- To be the least of two trees and others is to be the least of the smaller one and the others. -/
theorem least_of_min {first second treeId : UInt16} {listed : Prop} :
    (min first second = treeId ∨ listed) ∧ treeId ≤ min first second ↔
      (first = treeId ∨ second = treeId ∨ listed) ∧ treeId ≤ first ∧ treeId ≤ second := by
  have chosen : min first second = if first ≤ second then first else second := rfl
  rw [chosen]
  split_ifs with order
  · constructor
    · rintro ⟨found, below⟩
      exact ⟨found.imp_right .inr, below, UInt16.le_trans below order⟩
    · rintro ⟨found, below, _⟩
      refine ⟨?_, below⟩
      rcases found with same | same | listed
      · exact .inl same
      · subst same
        exact .inl (UInt16.le_antisymm order below)
      · exact .inr listed
  · have past := UInt16.le_of_lt (UInt16.not_le.mp order)
    constructor
    · rintro ⟨found, below⟩
      exact ⟨.inr found, UInt16.le_trans below past, below⟩
    · rintro ⟨found, firstBelow, below⟩
      refine ⟨?_, below⟩
      rcases found with same | found
      · subst same
        exact absurd below order
      · exact found

/-- The scan returns the least of the trees it goes through and the one it starts with, whatever
the order of the entries: tree zero, at which it stops, is the least there is. -/
theorem scan_trees_least (srcNodeId : NodeId) (groupId : GroupId)
    (entries : List (RouteKey × List Nat)) (smallest : Option UInt16) :
    (∀ treeId, scanTrees srcNodeId groupId entries smallest = some treeId ↔
      (smallest = some treeId ∨ treesAmong srcNodeId groupId entries treeId) ∧
        (∀ seen ∈ smallest, treeId ≤ seen) ∧
          ∀ other, treesAmong srcNodeId groupId entries other → treeId ≤ other) := by
  induction entries generalizing smallest with
  | nil =>
    intro treeId
    have nothing : ∀ other, ¬treesAmong srcNodeId groupId [] other := by
      rintro other ⟨_, member, _⟩
      cases member
    simp only [scanTrees, nothing, or_false, false_implies, implies_true, and_true]
    constructor
    · intro same
      refine ⟨same, ?_⟩
      intro seen member
      rw [same] at member
      cases member
      exact UInt16.le_refl _
    · intro least
      exact least.1
  | cons entry rest induction =>
    intro treeId
    rcases entry with ⟨key, routeIds⟩
    have passed (skipped : ∀ other, ¬(key = .multicast srcNodeId groupId other ∧ routeIds ≠ [])) :
        (scanTrees srcNodeId groupId rest smallest = some treeId ↔
          (smallest = some treeId ∨
            treesAmong srcNodeId groupId ((key, routeIds) :: rest) treeId) ∧
            (∀ seen ∈ smallest, treeId ≤ seen) ∧
              ∀ other, treesAmong srcNodeId groupId ((key, routeIds) :: rest) other →
                treeId ≤ other) := by
      rw [induction smallest treeId]
      simp only [trees_among_cons, skipped, false_or]
    simp only [scanTrees]
    split_ifs with empty
    · apply passed
      intro other listed
      exact listed.2 empty
    · cases key with
      | unicast routeSrc routeDst =>
        apply passed
        rintro other ⟨listed, _⟩
        cases listed
      | multicast routeSrc routeGroup routeTree =>
        simp only
        split_ifs with foreign zero
        · apply passed
          rintro other ⟨listed, _⟩
          cases listed
          simp at foreign
        · subst zero
          simp only [not_or, not_not] at foreign
          rcases foreign with ⟨rfl, rfl⟩
          have least : ∀ other : UInt16, 0 ≤ other := fun _ => UInt16.zero_le
          constructor
          · intro same
            cases same
            exact ⟨.inr (trees_among_cons.mpr (.inl ⟨rfl, empty⟩)), fun seen _ => least seen,
              fun other _ => least other⟩
          · rintro ⟨_, _, below⟩
            have bound := below 0 (trees_among_cons.mpr (.inl ⟨rfl, empty⟩))
            rw [UInt16.le_antisymm bound (least treeId)]
        · simp only [not_or, not_not] at foreign
          rcases foreign with ⟨rfl, rfl⟩
          rw [induction]
          simp only [trees_among_cons, RouteKey.multicast.injEq, true_and, ne_eq, empty,
            not_false_eq_true, and_true, or_imp, forall_and, forall_eq']
          cases smallest with
          | none =>
            simp only [Option.elim_none, Option.some.injEq, Option.mem_def, forall_eq',
              reduceCtorEq, false_or, false_implies, implies_true, true_and]
          | some seen =>
            simp only [Option.elim_some, Option.some.injEq, Option.mem_def, forall_eq']
            rw [← and_assoc, least_of_min, and_assoc, and_assoc]

theorem smallest_tree_some {srcNodeId : NodeId} {groupId : GroupId} {treeId : UInt16} :
    installed.smallestTree srcNodeId groupId = some treeId ↔
      installed.HasTree srcNodeId groupId treeId ∧
        ∀ other, installed.HasTree srcNodeId groupId other → treeId ≤ other := by
  have listed : ∀ other, treesAmong srcNodeId groupId installed.availableRoutes.toList other ↔
      installed.HasTree srcNodeId groupId other := by
    intro other
    simp only [treesAmong, HasTree, Std.HashMap.mem_toList_iff_getElem?_eq_some]
    constructor
    · rintro ⟨routeIds, present, nonempty⟩
      rcases List.exists_cons_of_ne_nil nonempty with ⟨routeId, rest, rfl⟩
      exact ⟨routeId, rest, present⟩
    · rintro ⟨routeId, rest, present⟩
      exact ⟨_, present, List.cons_ne_nil _ _⟩
  rw [smallestTree, scan_trees_least]
  simp [listed]

theorem smallest_tree_congr {later : InstalledRoutes} {srcNodeId : NodeId} {groupId : GroupId}
    (same : ∀ treeId, later.availableRoutes[RouteKey.multicast srcNodeId groupId treeId]? =
      installed.availableRoutes[RouteKey.multicast srcNodeId groupId treeId]?) :
    later.smallestTree srcNodeId groupId = installed.smallestTree srcNodeId groupId := by
  apply Option.ext
  intro treeId
  simp only [smallest_tree_some, HasTree, same]

end InstalledRoutes

/-! ## What the caches remember -/

/-- The caches hold only what the reference computes: the deterministic id of a tree, the smallest
tree of a group, and for a flow its pin or else the route its unicast key selects. -/
structure CachesAgree (slot : JumpSlot) (table : RoutingTable) (reference : ReferenceTable) :
    Prop where
  config : table.config = reference.config
  installed : table.installed = reference.installed
  groupDir : table.groupDir = reference.groupDir
  treeIds : ∀ (srcNodeId : NodeId) (groupId : GroupId) (treeId : UInt16) (routeId : Nat),
    table.multicastTreeCache[(srcNodeId, groupId, treeId)]? = some routeId →
      (deterministicMulticastRouteId groupId treeId).map encodeMulticastRouteId = some routeId
  controlTrees : ∀ (srcNodeId : NodeId) (groupId : GroupId) (treeId : UInt16),
    table.multicastControlTreeCache[(srcNodeId, groupId)]? = some treeId →
      table.installed.smallestTree srcNodeId groupId = some treeId
  pinned : ∀ (flowId : FlowId) (routeId : Nat), reference.pins[flowId]? = some routeId →
    table.cache[flowId]? = some routeId ∧ routeId ∈ table.installed.routeNextHop
  selected : ∀ (flowId : FlowId) (routeId : Nat), table.cache[flowId]? = some routeId →
    reference.pins[flowId]? = some routeId ∨
      ∀ srcNodeId dstNodeId,
        table.config.tryExtractNodeIdsFromFlow flowId = some (srcNodeId, dstNodeId) →
          selectUnicast slot table.installed (.unicast srcNodeId dstNodeId) = some (some routeId)

theorem new_tables_agree (slot : JumpSlot) (config : LocalConfig) :
    CachesAgree slot (.new config) (.new config) where
  config := rfl
  installed := rfl
  groupDir := rfl
  treeIds _ _ _ _ present := by simp [RoutingTable.new] at present
  controlTrees _ _ _ present := by simp [RoutingTable.new] at present
  pinned _ _ present := by simp [ReferenceTable.new] at present
  selected _ _ present := by simp [RoutingTable.new] at present

section Lookups

variable {slot : JumpSlot} {table : RoutingTable} {reference : ReferenceTable}

theorem valid_of_keyed {config : LocalConfig} {groupDir : Std.HashMap Ipv4Addr GroupId}
    {flowId : FlowId} {treeId : Option UInt16} {key : RouteKey}
    (keyed : keyForFlow config groupDir flowId treeId = some key) : flowId ≠ invalidFlowId := by
  intro invalid
  rw [keyForFlow, if_pos invalid] at keyed
  cases keyed

theorem unicast_key_of_flow {config : LocalConfig} {groupDir : Std.HashMap Ipv4Addr GroupId}
    {flowId : FlowId} {treeId : Option UInt16} {srcNodeId dstNodeId : NodeId}
    (keyed : keyForFlow config groupDir flowId treeId = some (.unicast srcNodeId dstNodeId)) :
    config.tryExtractNodeIdsFromFlow flowId = some (srcNodeId, dstNodeId) := by
  simp only [keyForFlow] at keyed
  cases grouped : groupDir[dstIp flowId]? with
  | some groupId =>
    simp only [grouped] at keyed
    split_ifs at keyed
    cases keyed
  | none =>
    simp only [grouped] at keyed
    split_ifs at keyed with invalid
    rcases Option.map_eq_some_iff.mp keyed with ⟨⟨src, dst⟩, extracted, same⟩
    cases same
    exact extracted

theorem scan_control_tree (agree : CachesAgree slot table reference) (srcNodeId : NodeId)
    (groupId : GroupId) :
    (table.scanControlTree srcNodeId groupId).2 =
        reference.installed.smallestTree srcNodeId groupId ∧
      CachesAgree slot (table.scanControlTree srcNodeId groupId).1 reference := by
  rw [RoutingTable.scanControlTree, ← agree.installed]
  cases smallest : table.installed.smallestTree srcNodeId groupId with
  | none => exact ⟨rfl, agree⟩
  | some treeId =>
    refine ⟨rfl, { agree with controlTrees := ?_ }⟩
    intro otherSrc otherGroup other present
    simp only [Std.HashMap.getElem?_insert] at present
    split_ifs at present with same
    · rw [beq_iff_eq] at same
      cases same
      cases present
      exact smallest
    · exact agree.controlTrees _ _ _ present

theorem select_control_tree (agree : CachesAgree slot table reference) (srcNodeId : NodeId)
    (groupId : GroupId) :
    (table.selectMulticastControlTree srcNodeId groupId).2 =
        reference.installed.smallestTree srcNodeId groupId ∧
      CachesAgree slot (table.selectMulticastControlTree srcNodeId groupId).1 reference := by
  cases cached : table.multicastControlTreeCache[(srcNodeId, groupId)]? with
  | none =>
    simp only [RoutingTable.selectMulticastControlTree, cached]
    exact scan_control_tree agree srcNodeId groupId
  | some cachedTreeId =>
    have smallest := agree.controlTrees _ _ _ cached
    rcases (InstalledRoutes.smallest_tree_some.mp smallest).1 with ⟨routeId, rest, present⟩
    simp only [RoutingTable.selectMulticastControlTree, cached, present]
    rw [← agree.installed]
    exact ⟨smallest.symm, agree⟩

theorem resolve_tree_route (agree : CachesAgree slot table reference) (srcNodeId : NodeId)
    (groupId : GroupId) (treeId : UInt16) :
    (table.resolveTreeRoute srcNodeId groupId treeId).2 =
        treeRoute reference.installed groupId treeId ∧
      CachesAgree slot (table.resolveTreeRoute srcNodeId groupId treeId).1 reference := by
  rw [RoutingTable.resolveTreeRoute, treeRoute, ← agree.installed]
  cases deterministic : deterministicMulticastRouteId groupId treeId with
  | none => exact ⟨rfl, agree⟩
  | some routeId =>
    simp only
    split_ifs with present
    · refine ⟨rfl, { agree with treeIds := ?_ }⟩
      intro otherSrc otherGroup otherTree cachedId found
      simp only [Std.HashMap.getElem?_insert] at found
      split_ifs at found with same
      · rw [beq_iff_eq] at same
        cases same
        cases found
        rw [deterministic]
        rfl
      · exact agree.treeIds _ _ _ _ found
    · exact ⟨rfl, agree⟩

theorem select_tree_route (agree : CachesAgree slot table reference) (srcNodeId : NodeId)
    (groupId : GroupId) (treeId : UInt16) :
    (table.selectMulticast srcNodeId groupId treeId).2 =
        treeRoute reference.installed groupId treeId ∧
      CachesAgree slot (table.selectMulticast srcNodeId groupId treeId).1 reference := by
  cases cached : table.multicastTreeCache[(srcNodeId, groupId, treeId)]? with
  | none =>
    simp only [RoutingTable.selectMulticast, cached]
    exact resolve_tree_route agree srcNodeId groupId treeId
  | some cachedRouteId =>
    simp only [RoutingTable.selectMulticast, cached]
    split_ifs with present
    · have known := agree.treeIds _ _ _ _ cached
      rcases Option.map_eq_some_iff.mp known with ⟨routeId, deterministic, same⟩
      subst same
      refine ⟨?_, agree⟩
      rw [treeRoute, ← agree.installed, deterministic]
      simp only
      rw [if_pos present]
    · exact resolve_tree_route agree srcNodeId groupId treeId

/-- A table's lookup does what the reference's does: both panic, or both answer alike and the
caches agree afterwards. -/
def AnswersAlike (slot : JumpSlot) (reference : ReferenceTable)
    (answered : Option (RoutingTable × Except String (List NodeId)))
    (expected : Option (Except String (List NodeId))) : Prop :=
  Option.Rel (fun one other => CachesAgree slot one.1 reference ∧ one.2 = other) answered expected

/-- A unicast key that missed the flow cache: the flow has no pin, and what is selected for it now
is what the reference selects. -/
theorem lookup_unicast_alike (agree : CachesAgree slot table reference) {flowId : FlowId}
    {srcNodeId dstNodeId : NodeId}
    (extracted : table.config.tryExtractNodeIdsFromFlow flowId = some (srcNodeId, dstNodeId)) :
    AnswersAlike slot reference (table.lookupKey slot flowId (.unicast srcNodeId dstNodeId))
      (reference.lookupKey slot flowId (.unicast srcNodeId dstNodeId)) := by
  have pinnedHit {routeId : Nat} (pin : reference.pins[flowId]? = some routeId) :
      AnswersAlike slot reference (table.lookupKey slot flowId (.unicast srcNodeId dstNodeId))
        (reference.lookupKey slot flowId (.unicast srcNodeId dstNodeId)) := by
    rcases agree.pinned flowId routeId pin with ⟨cached, present⟩
    have hops := Std.HashMap.getElem?_eq_some_getElem present
    have answered : table.lookupKey slot flowId (.unicast srcNodeId dstNodeId) =
        some (table, copyNextHops routeId table.installed.routeNextHop[routeId]) := by
      simp only [RoutingTable.lookupKey, RoutingTable.cachedHops, cached, Option.bind_eq_bind,
        Option.bind_some, hops]
    have expected : reference.lookupKey slot flowId (.unicast srcNodeId dstNodeId) =
        some (copyNextHops routeId table.installed.routeNextHop[routeId]) := by
      simp only [ReferenceTable.lookupKey, ReferenceTable.pinnedRoute, pin, hopsOfRoute,
        ← agree.installed, hops]
    rw [answered, expected]
    exact .some ⟨agree, rfl⟩
  cases pin : reference.pins[flowId]? with
  | some routeId => exact pinnedHit pin
  | none =>
    have expected : reference.lookupKey slot flowId (.unicast srcNodeId dstNodeId) =
        (selectUnicast slot table.installed (.unicast srcNodeId dstNodeId)).map fun selected =>
          match selected with
          | none => .error (noRoute (.unicast srcNodeId dstNodeId))
          | some routeId => hopsOfRoute table.installed routeId := by
      simp only [ReferenceTable.lookupKey, ReferenceTable.pinnedRoute, pin, routeForKey,
        ← agree.installed]
    rw [expected]
    cases cached : table.cachedHops flowId (.unicast srcNodeId dstNodeId) with
    | some hit =>
      rcases hit with ⟨routeId, nextHops⟩
      have answered : table.lookupKey slot flowId (.unicast srcNodeId dstNodeId) =
          some (table, copyNextHops routeId nextHops) := by
        simp only [RoutingTable.lookupKey, cached]
      simp only [RoutingTable.cachedHops, Option.bind_eq_bind, Option.bind_eq_some_iff,
        Option.some.injEq, Prod.mk.injEq] at cached
      rcases cached with ⟨_, remembered, _, hops, rfl, rfl⟩
      rcases agree.selected flowId _ remembered with pinned | selected
      · rw [pin] at pinned
        cases pinned
      · rw [answered, selected _ _ extracted]
        simp only [Option.map_some, hopsOfRoute, hops]
        exact .some ⟨agree, rfl⟩
    | none =>
      have answered : table.lookupKey slot flowId (.unicast srcNodeId dstNodeId) =
          table.lookupSelected slot flowId (.unicast srcNodeId dstNodeId) := by
        simp only [RoutingTable.lookupKey, cached]
      rw [answered, RoutingTable.lookupSelected, RoutingTable.selectRouteForKey]
      cases selection : selectUnicast slot table.installed (.unicast srcNodeId dstNodeId) with
      | none => exact .none
      | some selected =>
        cases selected with
        | none => exact .some ⟨agree, rfl⟩
        | some routeId =>
          refine .some ⟨{ agree with pinned := ?_, selected := ?_ }, rfl⟩
          · intro otherFlow otherRoute pinned
            have other : flowId ≠ otherFlow := by
              rintro rfl
              rw [pin] at pinned
              cases pinned
            rcases agree.pinned otherFlow otherRoute pinned with ⟨kept, present⟩
            refine ⟨?_, present⟩
            simpa [Std.HashMap.getElem?_insert, other] using kept
          · intro otherFlow otherRoute remembered
            simp only [Std.HashMap.getElem?_insert] at remembered
            split_ifs at remembered with same
            · rw [beq_iff_eq] at same
              subst same
              cases remembered
              refine .inr ?_
              intro src dst known
              rw [extracted] at known
              cases known
              exact selection
            · exact agree.selected otherFlow otherRoute remembered

theorem lookup_multicast_alike (agree : CachesAgree slot table reference) (flowId : FlowId)
    (srcNodeId : NodeId) (groupId : GroupId) (treeId : UInt16) :
    AnswersAlike slot reference (table.lookupKey slot flowId (.multicast srcNodeId groupId treeId))
      (reference.lookupKey slot flowId (.multicast srcNodeId groupId treeId)) := by
  rcases select_tree_route agree srcNodeId groupId treeId with ⟨route, kept⟩
  have expected : reference.lookupKey slot flowId (.multicast srcNodeId groupId treeId) =
      some (match (table.selectMulticast srcNodeId groupId treeId).2 with
        | none => .error (noRoute (.multicast srcNodeId groupId treeId))
        | some routeId => hopsOfRoute reference.installed routeId) := by
    rw [route]
    rfl
  rw [expected]
  simp only [RoutingTable.lookupKey, RoutingTable.cachedHops, RoutingTable.lookupSelected,
    RoutingTable.selectRouteForKey, Option.bind_eq_bind, Option.bind_some]
  cases (table.selectMulticast srcNodeId groupId treeId).2 with
  | none => exact .some ⟨kept, rfl⟩
  | some routeId => exact .some ⟨kept, by rw [kept.installed]⟩

theorem next_hops_alike (agree : CachesAgree slot table reference) (flowId : FlowId)
    (treeId : Option UInt16) :
    AnswersAlike slot reference (table.getNextHopsByFlowAndTree slot flowId treeId)
      (reference.nextHops slot flowId treeId) := by
  unfold RoutingTable.getNextHopsByFlowAndTree ReferenceTable.nextHops
  rw [← agree.config, ← agree.groupDir]
  split_ifs with invalid
  · exact .some ⟨agree, rfl⟩
  · cases keyed : keyForFlow table.config table.groupDir flowId treeId with
    | none => exact .some ⟨agree, rfl⟩
    | some key =>
      cases key with
      | unicast srcNodeId dstNodeId =>
        cases treeId with
        | none => exact lookup_unicast_alike agree (unicast_key_of_flow keyed)
        | some wanted => exact lookup_unicast_alike agree (unicast_key_of_flow keyed)
      | multicast srcNodeId groupId keyTree =>
        cases treeId with
        | some wanted => exact lookup_multicast_alike agree flowId srcNodeId groupId keyTree
        | none =>
          rcases select_control_tree agree srcNodeId groupId with ⟨chosen, kept⟩
          simp only [← chosen]
          cases selection : table.selectMulticastControlTree srcNodeId groupId with
          | mk later selected =>
            rw [selection] at kept
            cases selected with
            | none => exact .some ⟨kept, rfl⟩
            | some tree => exact lookup_multicast_alike kept flowId srcNodeId groupId tree

/-! ## Installs and pins -/

theorem install_routes_agree (agree : CachesAgree slot table reference)
    (routes : List RoutingTableEntry) :
    CachesAgree slot (table.installRoutes routes)
      { reference with installed := reference.installed.installRoutes routes, pins := ∅ } where
  config := agree.config
  installed := by rw [RoutingTable.installRoutes, agree.installed]
  groupDir := agree.groupDir
  treeIds := agree.treeIds
  controlTrees srcNodeId groupId treeId present := by
    have smallest := agree.controlTrees srcNodeId groupId treeId present
    rw [← smallest]
    apply InstalledRoutes.smallest_tree_congr
    intro otherTree
    exact InstalledRoutes.install_routes_multicast routes srcNodeId groupId otherTree
  pinned _ _ present := by simp at present
  selected _ _ present := by simp [RoutingTable.installRoutes] at present

theorem install_group_routes_agree (agree : CachesAgree slot table reference) (groupId : GroupId)
    (srcNodeId : NodeId) (routes : List GroupRoutingTableEntry) :
    CachesAgree slot (table.installGroupRoutes groupId srcNodeId routes)
      { reference with
        installed := reference.installed.installGroupRoutes groupId srcNodeId routes
        pins := ∅ } where
  config := agree.config
  installed := by rw [RoutingTable.installGroupRoutes, agree.installed]
  groupDir := agree.groupDir
  treeIds otherSrc otherGroup treeId routeId present := by
    simp only [RoutingTable.installGroupRoutes, Std.HashMap.getElem?_filter',
      Option.filter_eq_some_iff] at present
    exact agree.treeIds otherSrc otherGroup treeId routeId present.1
  controlTrees otherSrc otherGroup treeId present := by
    simp only [RoutingTable.installGroupRoutes, Std.HashMap.getElem?_filter',
      Option.filter_eq_some_iff, decide_eq_true_eq] at present
    rcases present with ⟨remembered, other⟩
    have smallest := agree.controlTrees otherSrc otherGroup treeId remembered
    rw [← smallest]
    apply InstalledRoutes.smallest_tree_congr
    intro otherTree
    exact InstalledRoutes.install_group_routes_other routes otherTree other
  pinned _ _ present := by simp at present
  selected _ _ present := by simp [RoutingTable.installGroupRoutes] at present

/-- A pin replaces what the flow cache holds for its flow. -/
theorem pin_route_agree (agree : CachesAgree slot table reference) {flowId : FlowId}
    {routeId : Nat} (installed : routeId ∈ table.installed.routeNextHop) :
    CachesAgree slot { table with cache := table.cache.insert flowId routeId }
      { reference with pins := reference.pins.insert flowId routeId } :=
  { agree with
    pinned := by
      intro otherFlow otherRoute pin
      simp only [Std.HashMap.getElem?_insert] at pin ⊢
      split_ifs at pin ⊢ with same
      · cases pin
        exact ⟨rfl, installed⟩
      · exact agree.pinned otherFlow otherRoute pin
    selected := by
      intro otherFlow otherRoute remembered
      simp only [Std.HashMap.getElem?_insert] at remembered ⊢
      split_ifs at remembered ⊢ with same
      · exact .inl remembered
      · exact agree.selected otherFlow otherRoute remembered }

theorem checked_pin_installed {installed : InstalledRoutes} {routeId : Nat}
    (checked : checkPin installed routeId = .ok ()) : routeId ∈ installed.routeNextHop := by
  rw [Std.HashMap.mem_iff_isSome_getElem?]
  cases hops : installed.routeNextHop[routeId]? with
  | none => simp [checkPin, hops] at checked
  | some nextHops => rfl

/-- One operation on the table and on the reference: the same panic, or the same answer from states
that agree again. -/
theorem apply_alike (agree : CachesAgree slot table reference) (op : RoutingOp) :
    Option.Rel (fun one other => CachesAgree slot one.1 other.1 ∧ one.2 = other.2)
      (table.apply slot op) (reference.apply slot op) := by
  cases op with
  | installRoutes routes => exact .some ⟨install_routes_agree agree routes, rfl⟩
  | installGroupDirectory groups => exact .some ⟨{ agree with groupDir := rfl }, rfl⟩
  | installGroupRoutes groupId srcNodeId routes =>
    exact .some ⟨install_group_routes_agree agree groupId srcNodeId routes, rfl⟩
  | pinRouteForFlow flowId routeId =>
    have sameCheck : checkPin reference.installed routeId = checkPin table.installed routeId := by
      rw [agree.installed]
    simp only [RoutingTable.apply, ReferenceTable.apply, RoutingTable.pinRouteForFlow, sameCheck]
    cases checked : checkPin table.installed routeId with
    | error reason => exact .some ⟨agree, rfl⟩
    | ok done =>
      cases done
      exact .some ⟨pin_route_agree agree (checked_pin_installed checked), rfl⟩
  | nextHops flowId treeId =>
    have alike := next_hops_alike agree flowId treeId
    simp only [RoutingTable.apply, ReferenceTable.apply]
    generalize table.getNextHopsByFlowAndTree slot flowId treeId = answered at alike
    generalize reference.nextHops slot flowId treeId = expected at alike
    cases alike with
    | none => exact .none
    | some both => exact .some ⟨both.1, congrArg RoutingAnswer.hops both.2⟩
  | nextHop flowId =>
    have alike := next_hops_alike agree flowId none
    simp only [RoutingTable.apply, ReferenceTable.apply, RoutingTable.getNextHopByFlow,
      RoutingTable.getNextHopsByFlow]
    generalize table.getNextHopsByFlowAndTree slot flowId none = answered at alike
    generalize reference.nextHops slot flowId none = expected at alike
    cases alike with
    | none => exact .none
    | some both =>
      have sameHop := congrArg (fun hops => RoutingAnswer.hop (hops.bind pickSingleHop)) both.2
      exact .some ⟨both.1, sameHop⟩

theorem reference_follows {op : RoutingOp} {answer : RoutingAnswer} {next : RoutingTable}
    (agree : CachesAgree slot table reference)
    (applied : table.apply slot op = some (next, answer)) :
    ∃ later, reference.apply slot op = some (later, answer) ∧ CachesAgree slot next later := by
  have alike := apply_alike agree op
  rw [applied] at alike
  generalize reference.apply slot op = expected at alike
  cases alike with
  | @some _ later both =>
    rcases later with ⟨later, same⟩
    rcases both with ⟨agreeNext, rfl⟩
    exact ⟨later, rfl, agreeNext⟩

end Lookups

/-- Over any operations, a table gives the answers that the reference without caches gives: each
lookup is that of the latest routes, the latest directory and the pins since the last install. -/
theorem caches_are_transparent (slot : JumpSlot) (config : LocalConfig) (ops : List RoutingOp) :
    (TransitionSystem.execute (RoutingTable.apply slot) (.new config) ops).map Prod.snd =
      (TransitionSystem.execute (ReferenceTable.apply slot) (.new config) ops).map Prod.snd := by
  apply TransitionSystem.execute_outputs_eq (CachesAgree slot)
  · intro table reference op agree
    exact apply_alike agree op
  · exact new_tables_agree slot config

end Nextmini.Routing
