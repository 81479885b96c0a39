import Mathlib.Data.List.Induction
import Nextmini.Routing.CacheTransparency
import Nextmini.Routing.RouteIds

/-!
# Group routes of several sources

What each source last installed for the trees of a group, beside the two maps that hold it. The
routes available are kept under the source, the hops under the id of the tree alone, so the maps
agree with what the sources installed as long as no two sources use one tree of a group.
-/

namespace Nextmini.Routing

set_option autoImplicit false

/-! ## What a source installed -/

/-- The hops an install gives a tree: those of its last entry with the route id of the tree. -/
def treeHops (groupId : GroupId) (routes : List GroupRoutingTableEntry) (treeId : UInt16) :
    Option (List NodeId) :=
  ((routes.filter fun route =>
    deterministicMulticastRouteId groupId treeId = some route.routeId).getLast?).map
      GroupRoutingTableEntry.nextHops

/-- The hops of the trees, by source, group and tree. -/
abbrev SourceTrees := NodeId → GroupId → UInt16 → Option (List NodeId)

namespace SourceTrees

/-- An install replaces all the trees of its source and group, and touches no other. -/
def install (trees : SourceTrees) (groupId : GroupId) (srcNodeId : NodeId)
    (routes : List GroupRoutingTableEntry) : SourceTrees :=
  fun source group treeId =>
    if source = srcNodeId ∧ group = groupId then treeHops groupId routes treeId
    else trees source group treeId

def set (trees : SourceTrees) (srcNodeId : NodeId) (groupId : GroupId) (treeId : UInt16)
    (hops : List NodeId) : SourceTrees :=
  fun source group tree =>
    if source = srcNodeId ∧ group = groupId ∧ tree = treeId then some hops
    else trees source group tree

def after (trees : SourceTrees) : RoutingOp → SourceTrees
  | .installGroupRoutes groupId srcNodeId routes => trees.install groupId srcNodeId routes
  | _ => trees

/-- What the sources last installed over a list of operations. -/
def lastInstalled (ops : List RoutingOp) : SourceTrees := ops.foldl after fun _ _ _ => none

end SourceTrees

theorem tree_hops_single (groupId : GroupId) (route : GroupRoutingTableEntry) (treeId : UInt16) :
    treeHops groupId [route] treeId =
      if deterministicMulticastRouteId groupId treeId = some route.routeId then some route.nextHops
      else none := by
  split_ifs with known <;> simp [treeHops, known]

theorem tree_hops_append (groupId : GroupId) (earlier later : List GroupRoutingTableEntry)
    (treeId : UInt16) :
    treeHops groupId (earlier ++ later) treeId =
      (treeHops groupId later treeId).or (treeHops groupId earlier treeId) := by
  simp only [treeHops, List.filter_append, List.getLast?_append, Option.map_or]

theorem tree_hops_snoc (groupId : GroupId) (routes : List GroupRoutingTableEntry)
    (route : GroupRoutingTableEntry) (treeId : UInt16) :
    treeHops groupId (routes ++ [route]) treeId =
      if deterministicMulticastRouteId groupId treeId = some route.routeId then some route.nextHops
      else treeHops groupId routes treeId := by
  rw [tree_hops_append, tree_hops_single]
  split_ifs <;> rfl

theorem tree_hops_some {groupId : GroupId} {routes : List GroupRoutingTableEntry} {treeId : UInt16}
    {hops : List NodeId} (installed : treeHops groupId routes treeId = some hops) :
    ∃ route ∈ routes, deterministicMulticastRouteId groupId treeId = some route.routeId ∧
      route.nextHops = hops := by
  rcases Option.map_eq_some_iff.mp installed with ⟨route, last, same⟩
  have member := List.mem_of_getLast? last
  rw [List.mem_filter, decide_eq_true_eq] at member
  exact ⟨route, member.1, member.2, same⟩

theorem tree_hops_of_entry {groupId : GroupId} {routes : List GroupRoutingTableEntry}
    {treeId : UInt16} {route : GroupRoutingTableEntry} (member : route ∈ routes)
    (known : deterministicMulticastRouteId groupId treeId = some route.routeId) :
    treeHops groupId routes treeId ≠ none := by
  intro missing
  rw [treeHops, Option.map_eq_none_iff, List.getLast?_eq_none_iff, List.filter_eq_nil_iff] at missing
  exact missing route member (decide_eq_true known)

namespace SourceTrees

variable (trees : SourceTrees) (groupId : GroupId) (srcNodeId : NodeId)

theorem install_snoc_known (routes : List GroupRoutingTableEntry) {route : GroupRoutingTableEntry}
    {treeId : UInt16} (known : deterministicMulticastRouteId groupId treeId = some route.routeId) :
    trees.install groupId srcNodeId (routes ++ [route]) =
      (trees.install groupId srcNodeId routes).set srcNodeId groupId treeId route.nextHops := by
  funext source group tree
  simp only [install, set]
  by_cases own : source = srcNodeId ∧ group = groupId
  · rcases own with ⟨rfl, rfl⟩
    have sameTree : deterministicMulticastRouteId group tree = some route.routeId ↔
        tree = treeId := by
      constructor
      · intro also
        exact (deterministic_route_injective also known).2
      · rintro rfl
        exact known
    simp only [tree_hops_snoc, sameTree, true_and, and_self, if_true]
  · have foreign : ¬(source = srcNodeId ∧ group = groupId ∧ tree = treeId) := by
      rintro ⟨sameSource, sameGroup, _⟩
      exact own ⟨sameSource, sameGroup⟩
    rw [if_neg own, if_neg foreign, if_neg own]

theorem install_snoc_unknown (routes : List GroupRoutingTableEntry) {route : GroupRoutingTableEntry}
    (unknown : ∀ treeId, deterministicMulticastRouteId groupId treeId ≠ some route.routeId) :
    trees.install groupId srcNodeId (routes ++ [route]) =
      trees.install groupId srcNodeId routes := by
  funext source group tree
  simp only [install]
  split_ifs with own
  · rw [tree_hops_snoc, if_neg (unknown tree)]
  · rfl

end SourceTrees

/-! ## Purging -/

namespace InstalledRoutes

variable {installed : InstalledRoutes}

theorem erase_routes_lookup (routeIds : List Nat) (hops : HopMap) (routeId : Nat) :
    (routeIds.foldl (fun hops routeId => hops.erase routeId) hops)[routeId]? =
      if routeId ∈ routeIds then none else hops[routeId]? := by
  induction routeIds generalizing hops with
  | nil => rfl
  | cons first rest induction =>
    rw [List.foldl_cons, induction, Std.HashMap.getElem?_erase]
    by_cases same : first = routeId
    · simp [same]
    · simp [same, Ne.symm same]

theorem remove_key_hops (removed : RouteKey) (routeId : Nat) :
    (installed.removeKey removed).routeNextHop[routeId]? =
      if routeId ∈ installed.availableRoutes.getD removed [] then none
      else installed.routeNextHop[routeId]? := by
  simp only [removeKey, Std.HashMap.getD_eq_getD_getElem?]
  cases installed.availableRoutes[removed]? with
  | none => simp
  | some routeIds => simpa using erase_routes_lookup routeIds installed.routeNextHop routeId

theorem remove_key_self (removed : RouteKey) :
    (installed.removeKey removed).availableRoutes[removed]? = none := by
  cases present : installed.availableRoutes[removed]? with
  | none => simp only [removeKey, present]
  | some routeIds => simp [removeKey, present]

/-- The ids that stand under the keys a purge removes. -/
def Purged (installed : InstalledRoutes) (matching : RouteKey → Bool) (routeId : Nat) : Prop :=
  ∃ key routeIds, matching key = true ∧ installed.availableRoutes[key]? = some routeIds ∧
    routeId ∈ routeIds

theorem remove_keys_hops (removals : List RouteKey) (distinct : removals.Nodup) (routeId : Nat) :
    (removals.foldl removeKey installed).routeNextHop[routeId]? =
      if ∃ key ∈ removals, routeId ∈ installed.availableRoutes.getD key [] then none
      else installed.routeNextHop[routeId]? := by
  induction removals generalizing installed with
  | nil => simp
  | cons removed rest induction =>
    rcases List.nodup_cons.mp distinct with ⟨fresh, restDistinct⟩
    have untouched : ∀ key ∈ rest,
        (installed.removeKey removed).availableRoutes.getD key [] =
          installed.availableRoutes.getD key [] := by
      intro key member
      have other : removed ≠ key := by
        rintro rfl
        exact fresh member
      simp only [Std.HashMap.getD_eq_getD_getElem?, remove_key_other other]
    have later : (∃ key ∈ rest,
        routeId ∈ (installed.removeKey removed).availableRoutes.getD key []) ↔
          ∃ key ∈ rest, routeId ∈ installed.availableRoutes.getD key [] := by
      constructor
      · rintro ⟨key, member, listed⟩
        exact ⟨key, member, by rwa [untouched key member] at listed⟩
      · rintro ⟨key, member, listed⟩
        exact ⟨key, member, by rwa [untouched key member]⟩
    rw [List.foldl_cons, induction restDistinct, remove_key_hops]
    simp only [later, List.exists_mem_cons_iff]
    by_cases listed : ∃ key ∈ rest, routeId ∈ installed.availableRoutes.getD key []
    · rw [if_pos listed, if_pos (.inr listed)]
    · simp only [listed, if_false, or_false]

theorem purge_hops (matching : RouteKey → Bool) (routeId : Nat) :
    (Purged installed matching routeId →
      (installed.purge matching).routeNextHop[routeId]? = none) ∧
    (¬Purged installed matching routeId →
      (installed.purge matching).routeNextHop[routeId]? = installed.routeNextHop[routeId]?) := by
  have distinct : (installed.availableRoutes.keys.filter matching).Nodup :=
    Std.HashMap.nodup_keys.filter _
  have same : (∃ key ∈ installed.availableRoutes.keys.filter matching,
      routeId ∈ installed.availableRoutes.getD key []) ↔ Purged installed matching routeId := by
    constructor
    · rintro ⟨key, member, listed⟩
      rcases List.mem_filter.mp member with ⟨present, matched⟩
      rcases Std.HashMap.getElem?_eq_some_getElem (Std.HashMap.mem_keys.mp present) with found
      refine ⟨key, _, matched, found, ?_⟩
      rwa [Std.HashMap.getD_eq_getD_getElem?, found] at listed
    · rintro ⟨key, routeIds, matched, found, listed⟩
      have present : key ∈ installed.availableRoutes := by
        rw [Std.HashMap.mem_iff_isSome_getElem?, found]
        rfl
      refine ⟨key, List.mem_filter.mpr ⟨Std.HashMap.mem_keys.mpr present, matched⟩, ?_⟩
      rwa [Std.HashMap.getD_eq_getD_getElem?, found]
  rw [purge, remove_keys_hops _ distinct]
  constructor
  · intro purged
    exact if_pos (same.mpr purged)
  · intro kept
    exact if_neg (kept ∘ same.mp)

theorem purge_matching {matching : RouteKey → Bool} {key : RouteKey} (matched : matching key = true) :
    (installed.purge matching).availableRoutes[key]? = none := by
  have removed : ∀ (removals : List RouteKey) (start : InstalledRoutes),
      key ∈ removals ∨ start.availableRoutes[key]? = none →
        (removals.foldl removeKey start).availableRoutes[key]? = none := by
    intro removals
    induction removals with
    | nil =>
      rintro start (member | absent)
      · cases member
      · exact absent
    | cons first rest induction =>
      intro start either
      rw [List.foldl_cons]
      apply induction
      by_cases same : first = key
      · subst same
        exact .inr (remove_key_self first)
      · rcases either with member | absent
        · exact .inl ((List.mem_cons.mp member).resolve_left (Ne.symm same))
        · right
          rw [remove_key_other same]
          exact absent
  apply removed
  cases present : installed.availableRoutes[key]? with
  | none => exact .inr rfl
  | some routeIds =>
    have member : key ∈ installed.availableRoutes := by
      rw [Std.HashMap.mem_iff_isSome_getElem?, present]
      rfl
    exact .inl (List.mem_filter.mpr ⟨Std.HashMap.mem_keys.mpr member, matched⟩)

end InstalledRoutes

/-- An install leaves its trees in both maps, whatever was there. -/
theorem InstalledRoutes.install_tree_found (installed : InstalledRoutes) {groupId : GroupId}
    {routes : List GroupRoutingTableEntry} {treeId : UInt16} {hops : List NodeId} {routeId : Nat}
    (srcNodeId : NodeId) (known : deterministicMulticastRouteId groupId treeId = some routeId)
    (given : treeHops groupId routes treeId = some hops) :
    (installed.installGroupRoutes groupId srcNodeId routes).routeNextHop[
        encodeMulticastRouteId routeId]? = some hops ∧
      (installed.installGroupRoutes groupId srcNodeId routes).availableRoutes[
        RouteKey.multicast srcNodeId groupId treeId]? = some [encodeMulticastRouteId routeId] := by
  rw [installGroupRoutes]
  generalize installed.purge (isTreeOf groupId srcNodeId) = start
  induction routes using List.reverseRecOn generalizing hops with
  | nil => cases given
  | append_singleton earlier route induction =>
    rw [tree_hops_snoc] at given
    rw [List.foldl_append, List.foldl_cons, List.foldl_nil]
    split_ifs at given with own
    · rw [known] at own
      cases own
      cases given
      rw [add_group_route_known known]
      exact ⟨Std.HashMap.getElem?_insert_self, Std.HashMap.getElem?_insert_self⟩
    · rcases induction given with ⟨hopsFound, keyFound⟩
      by_cases other : ∃ otherTree,
          deterministicMulticastRouteId groupId otherTree = some route.routeId
      · rcases other with ⟨otherTree, otherKnown⟩
        have different : treeId ≠ otherTree := by
          rintro rfl
          exact own otherKnown
        have otherId : encodeMulticastRouteId route.routeId ≠ encodeMulticastRouteId routeId := by
          intro same
          exact different (encoded_trees_injective otherKnown known same).2.symm
        rw [add_group_route_known otherKnown]
        simp only [Std.HashMap.getElem?_insert, beq_iff_eq, otherId, if_false,
          RouteKey.multicast.injEq, true_and, Ne.symm different]
        exact ⟨hopsFound, keyFound⟩
      · have unknown : ∀ otherTree,
            deterministicMulticastRouteId groupId otherTree ≠ some route.routeId := by
          intro otherTree same
          exact other ⟨otherTree, same⟩
        rw [add_group_route_unknown unknown]
        exact ⟨hopsFound, keyFound⟩

/-! ## Agreement of the two maps with the sources -/

/-- The two maps hold what the sources installed, and no tree of a group has two sources. A hop
entry under the id of a tree without a source would answer for it, so there is none. -/
structure PerSource (installed : InstalledRoutes) (trees : SourceTrees) : Prop where
  keys : ∀ srcNodeId groupId treeId routeIds,
    installed.availableRoutes[RouteKey.multicast srcNodeId groupId treeId]? = some routeIds ↔
      ∃ routeId, deterministicMulticastRouteId groupId treeId = some routeId ∧
        trees srcNodeId groupId treeId ≠ none ∧ routeIds = [encodeMulticastRouteId routeId]
  known : ∀ srcNodeId groupId treeId, trees srcNodeId groupId treeId ≠ none →
    ∃ routeId, deterministicMulticastRouteId groupId treeId = some routeId
  hops : ∀ srcNodeId groupId treeId routeId hops,
    deterministicMulticastRouteId groupId treeId = some routeId →
      trees srcNodeId groupId treeId = some hops →
        installed.routeNextHop[encodeMulticastRouteId routeId]? = some hops
  vacant : ∀ groupId treeId routeId, deterministicMulticastRouteId groupId treeId = some routeId →
    (∀ srcNodeId, trees srcNodeId groupId treeId = none) →
      installed.routeNextHop[encodeMulticastRouteId routeId]? = none
  unicast : ∀ srcNodeId dstNodeId routeIds,
    installed.availableRoutes[RouteKey.unicast srcNodeId dstNodeId]? = some routeIds →
      ∀ routeId ∈ routeIds, routeId < multicastRouteFlag
  sole : ∀ srcNodeId otherSrc groupId treeId, trees srcNodeId groupId treeId ≠ none →
    trees otherSrc groupId treeId ≠ none → srcNodeId = otherSrc

namespace PerSource

variable {installed : InstalledRoutes} {trees : SourceTrees}

theorem empty : PerSource .empty fun _ _ _ => none where
  keys _ _ _ _ := by simp [InstalledRoutes.empty]
  known _ _ _ present := absurd rfl present
  hops _ _ _ _ _ _ present := by cases present
  vacant _ _ _ _ _ := by simp [InstalledRoutes.empty]
  unicast _ _ _ present := by simp [InstalledRoutes.empty] at present
  sole _ _ _ _ present := absurd rfl present

theorem key_present (agree : PerSource installed trees) {srcNodeId : NodeId} {groupId : GroupId}
    {treeId : UInt16} :
    RouteKey.multicast srcNodeId groupId treeId ∈ installed.availableRoutes ↔
      trees srcNodeId groupId treeId ≠ none := by
  rw [Std.HashMap.mem_iff_isSome_getElem?, Option.isSome_iff_exists]
  constructor
  · rintro ⟨routeIds, present⟩
    rcases (agree.keys _ _ _ _).mp present with ⟨_, _, owned, _⟩
    exact owned
  · intro owned
    rcases agree.known _ _ _ owned with ⟨routeId, known⟩
    exact ⟨_, (agree.keys _ _ _ _).mpr ⟨routeId, known, owned, rfl⟩⟩

/-- A purge of a source's trees of a group removes the hops of these trees and no others. -/
theorem purge_trees (agree : PerSource installed trees) (groupId : GroupId) (srcNodeId : NodeId) :
    PerSource (installed.purge (InstalledRoutes.isTreeOf groupId srcNodeId))
      (trees.install groupId srcNodeId []) := by
  have matching (source : NodeId) (group : GroupId) (treeId : UInt16) :
      InstalledRoutes.isTreeOf groupId srcNodeId (.multicast source group treeId) = true ↔
        source = srcNodeId ∧ group = groupId := by
    rw [InstalledRoutes.isTreeOf, decide_eq_true_eq]
  have owned (source : NodeId) (group : GroupId) (treeId : UInt16) :
      trees.install groupId srcNodeId [] source group treeId =
        if source = srcNodeId ∧ group = groupId then none else trees source group treeId := rfl
  -- an id is purged when the source has its tree
  have purged {group : GroupId} {treeId : UInt16} {routeId : Nat}
      (known : deterministicMulticastRouteId group treeId = some routeId) :
      InstalledRoutes.Purged installed (InstalledRoutes.isTreeOf groupId srcNodeId)
          (encodeMulticastRouteId routeId) ↔
        group = groupId ∧ trees srcNodeId group treeId ≠ none := by
    constructor
    · rintro ⟨key, routeIds, matched, found, listed⟩
      cases key with
      | unicast src dst => cases matched
      | multicast source otherGroup otherTree =>
        rcases (matching _ _ _).mp matched with ⟨rfl, rfl⟩
        rcases (agree.keys _ _ _ _).mp found with ⟨otherRoute, otherKnown, present, rfl⟩
        rw [List.mem_singleton] at listed
        rcases encoded_trees_injective known otherKnown listed with ⟨rfl, rfl⟩
        exact ⟨rfl, present⟩
    · rintro ⟨rfl, present⟩
      exact ⟨.multicast srcNodeId group treeId, _, (matching _ _ _).mpr ⟨rfl, rfl⟩,
        (agree.keys _ _ _ _).mpr ⟨routeId, known, present, rfl⟩, List.mem_singleton.mpr rfl⟩
  refine ⟨?_, ?_, ?_, ?_, ?_, ?_⟩
  · intro source group treeId routeIds
    rw [owned]
    split_ifs with replaced
    · rw [InstalledRoutes.purge_matching ((matching _ _ _).mpr replaced)]
      simp
    · rw [InstalledRoutes.purge_other (Bool.eq_false_iff.mpr (replaced ∘ (matching _ _ _).mp))]
      exact agree.keys source group treeId routeIds
  · intro source group treeId present
    rw [owned] at present
    split_ifs at present with replaced
    · exact absurd rfl present
    · exact agree.known source group treeId present
  · intro source group treeId routeId hops known present
    rw [owned] at present
    split_ifs at present with replaced
    have kept : ¬InstalledRoutes.Purged installed (InstalledRoutes.isTreeOf groupId srcNodeId)
        (encodeMulticastRouteId routeId) := by
      intro removed
      rcases (purged known).mp removed with ⟨sameGroup, also⟩
      have sameSource := agree.sole source srcNodeId group treeId (by rw [present]; simp) also
      exact replaced ⟨sameSource, sameGroup⟩
    rw [(InstalledRoutes.purge_hops _ _).2 kept]
    exact agree.hops source group treeId routeId hops known present
  · intro group treeId routeId known nobody
    by_cases removed : InstalledRoutes.Purged installed
        (InstalledRoutes.isTreeOf groupId srcNodeId) (encodeMulticastRouteId routeId)
    · exact (InstalledRoutes.purge_hops _ _).1 removed
    · rw [(InstalledRoutes.purge_hops _ _).2 removed]
      apply agree.vacant group treeId routeId known
      intro source
      have absent := nobody source
      rw [owned] at absent
      split_ifs at absent with replaced
      · rcases replaced with ⟨rfl, rfl⟩
        by_contra present
        exact removed ((purged known).mpr ⟨rfl, present⟩)
      · exact absent
  · intro source dst routeIds present
    rw [InstalledRoutes.purge_other rfl] at present
    exact agree.unicast source dst routeIds present
  · intro source other group treeId first second
    rw [owned] at first second
    split_ifs at first second
    · exact absurd rfl first
    · exact absurd rfl first
    · exact absurd rfl second
    · exact agree.sole source other group treeId first second

/-- The entry of a tree that no other source has is put in both maps. -/
theorem add_entry (agree : PerSource installed trees) {groupId : GroupId} {srcNodeId : NodeId}
    {treeId : UInt16} {route : GroupRoutingTableEntry}
    (known : deterministicMulticastRouteId groupId treeId = some route.routeId)
    (free : ∀ other, other ≠ srcNodeId → trees other groupId treeId = none) :
    PerSource (InstalledRoutes.addGroupRoute groupId srcNodeId installed route)
      (trees.set srcNodeId groupId treeId route.nextHops) := by
  have owned (source : NodeId) (group : GroupId) (tree : UInt16) :
      trees.set srcNodeId groupId treeId route.nextHops source group tree =
        if source = srcNodeId ∧ group = groupId ∧ tree = treeId then some route.nextHops
        else trees source group tree := rfl
  rw [InstalledRoutes.add_group_route_known known]
  refine ⟨?_, ?_, ?_, ?_, ?_, ?_⟩
  · intro source group tree routeIds
    rw [owned, Std.HashMap.getElem?_insert]
    by_cases same : source = srcNodeId ∧ group = groupId ∧ tree = treeId
    · rcases same with ⟨rfl, rfl, rfl⟩
      simp only [beq_self_eq_true, if_true, and_self, known, Option.some.injEq]
      constructor
      · rintro rfl
        exact ⟨_, rfl, by simp, rfl⟩
      · rintro ⟨routeId, rfl, _, rfl⟩
        rfl
    · have other : ¬(RouteKey.multicast srcNodeId groupId treeId ==
          RouteKey.multicast source group tree) = true := by
        rw [beq_iff_eq]
        intro equal
        cases equal
        exact same ⟨rfl, rfl, rfl⟩
      rw [if_neg other, if_neg same]
      exact agree.keys source group tree routeIds
  · intro source group tree present
    rw [owned] at present
    split_ifs at present with same
    · rcases same with ⟨rfl, rfl, rfl⟩
      exact ⟨_, known⟩
    · exact agree.known source group tree present
  · intro source group tree routeId hops alsoKnown present
    rw [owned] at present
    rw [Std.HashMap.getElem?_insert]
    split_ifs at present with same
    · rcases same with ⟨rfl, rfl, rfl⟩
      rw [known] at alsoKnown
      cases alsoKnown
      simpa using present
    · have other : ¬(encodeMulticastRouteId route.routeId == encodeMulticastRouteId routeId) =
          true := by
        rw [beq_iff_eq]
        intro equal
        rcases encoded_trees_injective known alsoKnown equal with ⟨rfl, rfl⟩
        have notFree : source ≠ srcNodeId := fun sameSource => same ⟨sameSource, rfl, rfl⟩
        rw [free source notFree] at present
        cases present
      rw [if_neg other]
      exact agree.hops source group tree routeId hops alsoKnown present
  · intro group tree routeId alsoKnown nobody
    rw [Std.HashMap.getElem?_insert]
    have other : ¬(encodeMulticastRouteId route.routeId == encodeMulticastRouteId routeId) =
        true := by
      rw [beq_iff_eq]
      intro equal
      rcases encoded_trees_injective known alsoKnown equal with ⟨rfl, rfl⟩
      have absent := nobody srcNodeId
      rw [owned, if_pos ⟨rfl, rfl, rfl⟩] at absent
      cases absent
    rw [if_neg other]
    apply agree.vacant group tree routeId alsoKnown
    intro source
    have absent := nobody source
    rw [owned] at absent
    split_ifs at absent
    exact absent
  · intro source dst routeIds present
    rw [Std.HashMap.getElem?_insert] at present
    split_ifs at present with same
    · rw [beq_iff_eq] at same
      cases same
    · exact agree.unicast source dst routeIds present
  · intro source other group tree first second
    rw [owned] at first second
    split_ifs at first second with own also foreign
    · exact own.1.trans also.1.symm
    · rcases own with ⟨rfl, rfl, rfl⟩
      by_contra apart
      exact second (free other (Ne.symm apart))
    · rcases foreign with ⟨rfl, rfl, rfl⟩
      by_contra apart
      exact first (free source apart)
    · exact agree.sole source other group tree first second

/-- An install none of whose trees another source has. -/
theorem install_group_routes (agree : PerSource installed trees) {groupId : GroupId}
    {srcNodeId : NodeId} {routes : List GroupRoutingTableEntry}
    (free : ∀ treeId, treeHops groupId routes treeId ≠ none →
      ∀ other, other ≠ srcNodeId → trees other groupId treeId = none) :
    PerSource (installed.installGroupRoutes groupId srcNodeId routes)
      (trees.install groupId srcNodeId routes) := by
  have added : ∀ (later earlier : List GroupRoutingTableEntry) (start : InstalledRoutes),
      earlier ++ later = routes → PerSource start (trees.install groupId srcNodeId earlier) →
        PerSource (later.foldl (InstalledRoutes.addGroupRoute groupId srcNodeId) start)
          (trees.install groupId srcNodeId (earlier ++ later)) := by
    intro later
    induction later with
    | nil =>
      intro earlier start _ held
      rwa [List.append_nil]
    | cons route rest induction =>
      intro earlier start split held
      have split' : (earlier ++ [route]) ++ rest = routes := by
        rw [← split]
        simp
      have member : route ∈ routes := by
        rw [← split]
        simp
      have folded := induction (earlier ++ [route])
        (InstalledRoutes.addGroupRoute groupId srcNodeId start route) split' ?_
      · rw [List.append_assoc, List.singleton_append] at folded
        exact folded
      · by_cases known : ∃ treeId,
          deterministicMulticastRouteId groupId treeId = some route.routeId
        · rcases known with ⟨treeId, known⟩
          rw [SourceTrees.install_snoc_known trees groupId srcNodeId earlier known]
          apply held.add_entry known
          intro other apart
          have foreign : ¬(other = srcNodeId ∧ groupId = groupId) := fun same => apart same.1
          rw [SourceTrees.install, if_neg foreign]
          exact free treeId (tree_hops_of_entry member known) other apart
        · have unknown : ∀ treeId,
              deterministicMulticastRouteId groupId treeId ≠ some route.routeId := by
            intro treeId same
            exact known ⟨treeId, same⟩
          rw [SourceTrees.install_snoc_unknown trees groupId srcNodeId earlier unknown,
            InstalledRoutes.add_group_route_unknown unknown]
          exact held
  exact added routes [] _ rfl (agree.purge_trees groupId srcNodeId)

theorem add_unicast (agree : PerSource installed trees) {route : RoutingTableEntry}
    (below : route.routeId < multicastRouteFlag) : PerSource (installed.addRoute route) trees where
  keys source group tree routeIds := by
    rw [InstalledRoutes.add_route_multicast]
    exact agree.keys source group tree routeIds
  known := agree.known
  hops source group tree routeId hops known present := by
    have above := encoded_above_flag (deterministic_route_some.mp known).2
    have other : route.routeId ≠ encodeMulticastRouteId routeId := by omega
    rw [InstalledRoutes.addRoute, Std.HashMap.getElem?_insert, if_neg (by simpa using other)]
    exact agree.hops source group tree routeId hops known present
  vacant group tree routeId known nobody := by
    have above := encoded_above_flag (deterministic_route_some.mp known).2
    have other : route.routeId ≠ encodeMulticastRouteId routeId := by omega
    rw [InstalledRoutes.addRoute, Std.HashMap.getElem?_insert, if_neg (by simpa using other)]
    exact agree.vacant group tree routeId known nobody
  unicast source dst routeIds present := by
    simp only [InstalledRoutes.addRoute, Std.HashMap.getElem?_insert,
      Std.HashMap.getD_eq_getD_getElem?] at present
    split_ifs at present with same
    · rw [beq_iff_eq] at same
      cases same
      cases present
      intro routeId member
      rcases List.mem_append.mp member with earlier | last
      · cases found : installed.availableRoutes[RouteKey.unicast route.srcNodeId
            route.dstNodeId]? with
        | none =>
          rw [found] at earlier
          cases earlier
        | some existing =>
          rw [found] at earlier
          exact agree.unicast _ _ existing found routeId earlier
      · rw [List.mem_singleton.mp last]
        exact below
    · exact agree.unicast source dst routeIds present
  sole := agree.sole

theorem install_routes (agree : PerSource installed trees) {routes : List RoutingTableEntry}
    (below : ∀ route ∈ routes, route.routeId < multicastRouteFlag) :
    PerSource (installed.installRoutes routes) trees := by
  have purged : PerSource (installed.purge InstalledRoutes.isUnicast) trees := by
    have kept {groupId : GroupId} {treeId : UInt16} {routeId : Nat}
        (known : deterministicMulticastRouteId groupId treeId = some routeId) :
        (installed.purge InstalledRoutes.isUnicast).routeNextHop[encodeMulticastRouteId routeId]? =
          installed.routeNextHop[encodeMulticastRouteId routeId]? := by
      apply (InstalledRoutes.purge_hops _ _).2
      rintro ⟨key, routeIds, matched, found, listed⟩
      cases key with
      | unicast src dst =>
        have low := agree.unicast src dst routeIds found _ listed
        have above := encoded_above_flag (deterministic_route_some.mp known).2
        omega
      | multicast src group tree => cases matched
    refine ⟨?_, agree.known, ?_, ?_, ?_, agree.sole⟩
    · intro source group tree routeIds
      rw [InstalledRoutes.purge_other rfl]
      exact agree.keys source group tree routeIds
    · intro source group tree routeId hops known present
      rw [kept known]
      exact agree.hops source group tree routeId hops known present
    · intro group tree routeId known nobody
      rw [kept known]
      exact agree.vacant group tree routeId known nobody
    · intro source dst routeIds present
      rw [InstalledRoutes.purge_matching rfl] at present
      cases present
  rw [InstalledRoutes.installRoutes]
  generalize installed.purge InstalledRoutes.isUnicast = start at purged
  induction routes generalizing start with
  | nil => exact purged
  | cons route rest induction =>
    rw [List.foldl_cons]
    apply induction
    · intro later member
      exact below later (List.mem_cons_of_mem _ member)
    · exact purged.add_unicast (below route List.mem_cons_self)

end PerSource

end Nextmini.Routing
