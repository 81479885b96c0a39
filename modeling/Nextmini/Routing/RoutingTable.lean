import Mathlib.Algebra.Group.Nat.Defs
import Mathlib.Data.Finset.Dedup
import Mathlib.Data.Nat.Init

/-!
# Routing table

The dataplane's routing table: unicast and multicast routes, the group directory, and three caches
in front of the lookups. Hash maps keep their keys and lose their order, as in the code. The jump
hash is a parameter, and a slot beyond the candidate routes is a panic. Logging and the report of a
route assignment to the controller are left out.
-/

namespace Nextmini.Routing

set_option autoImplicit false

abbrev NodeId := Nat
abbrev GroupId := Nat
abbrev FlowId := BitVec 128
abbrev Ipv4Addr := UInt32

/-- `usize::MAX` stands for an invalid node. -/
def invalidNode : NodeId := 2 ^ 64 - 1
def invalidFlowId : FlowId := BitVec.allOnes 128
def multicastRouteFlag : Nat := 2 ^ 30
def multitreeStride : Nat := 2 ^ 16

def srcIp (flowId : FlowId) : Ipv4Addr := UInt32.ofNat (flowId.toNat >>> 96)
def dstIp (flowId : FlowId) : Ipv4Addr := UInt32.ofNat (flowId.toNat >>> 64)

/-! ## Configuration -/

structure LocalConfig where
  localNetmask : Ipv4Addr
  virtualBaseAddr : Ipv4Addr
  userSpaceBaseAddr : Ipv4Addr
  externalBaseAddr : Ipv4Addr

namespace LocalConfig

def inSubnet (config : LocalConfig) (ip base : Ipv4Addr) : Bool :=
  ip &&& config.localNetmask = base &&& config.localNetmask ∧ base ≤ ip

def ipToNodeId (config : LocalConfig) (ip : Ipv4Addr) : NodeId :=
  if config.inSubnet ip config.virtualBaseAddr then (ip - config.virtualBaseAddr).toNat
  else if config.inSubnet ip config.userSpaceBaseAddr then (ip - config.userSpaceBaseAddr).toNat
  else if config.inSubnet ip config.externalBaseAddr then (ip - config.externalBaseAddr).toNat
  else invalidNode

def tryExtractNodeIdsFromFlow (config : LocalConfig) (flowId : FlowId) : Option (NodeId × NodeId) :=
  let srcNodeId := config.ipToNodeId (srcIp flowId)
  let dstNodeId := config.ipToNodeId (dstIp flowId)
  if srcNodeId = invalidNode ∨ dstNodeId = invalidNode then none else some (srcNodeId, dstNodeId)

end LocalConfig

def defaultConfig : LocalConfig where
  localNetmask := 0xffffff00
  virtualBaseAddr := 0x0a000000
  userSpaceBaseAddr := 0xc0a80000
  externalBaseAddr := 0xac100803

/-! ## Installed routes -/

inductive RouteKey where
  | unicast (srcNodeId dstNodeId : NodeId)
  | multicast (srcNodeId : NodeId) (groupId : GroupId) (treeId : UInt16)
  deriving DecidableEq, Hashable, Repr

structure RoutingTableEntry where
  routeId : Nat
  nextHops : List NodeId
  srcNodeId : NodeId
  dstNodeId : NodeId

structure GroupDirectoryEntry where
  groupId : GroupId
  groupIp : Ipv4Addr

structure GroupRoutingTableEntry where
  routeId : Nat
  nextHops : List NodeId

def encodeMulticastRouteId (routeId : Nat) : Nat := multicastRouteFlag ||| routeId

/-- A checked product and sum of 64-bit words, kept below the multicast flag. -/
def deterministicMulticastRouteId (groupId : GroupId) (treeId : UInt16) : Option Nat :=
  let routeId := groupId * multitreeStride + treeId.toNat
  if routeId < 2 ^ 64 ∧ routeId < multicastRouteFlag then some routeId else none

def treeIdFromRouteId (groupId : GroupId) (routeId : Nat) : Option UInt16 :=
  let base := groupId * multitreeStride
  if 2 ^ 64 ≤ base then none
  else if routeId < base then none
  else if multitreeStride ≤ routeId - base then none
  else some (UInt16.ofNat (routeId - base))

abbrev RouteMap := Std.HashMap RouteKey (List Nat)
abbrev HopMap := Std.HashMap Nat (List NodeId)

/-- The two maps the install operations fill: the routes available under a key, and the next hops
of a route. -/
structure InstalledRoutes where
  availableRoutes : RouteMap
  routeNextHop : HopMap

namespace InstalledRoutes

def empty : InstalledRoutes := ⟨∅, ∅⟩

def removeKey (installed : InstalledRoutes) (key : RouteKey) : InstalledRoutes :=
  match installed.availableRoutes[key]? with
  | none => installed
  | some routeIds =>
      { availableRoutes := installed.availableRoutes.erase key
        routeNextHop := routeIds.foldl (fun hops routeId => hops.erase routeId)
          installed.routeNextHop }

/-- Purge the keys that match, with the next hops of their routes. -/
def purge (installed : InstalledRoutes) (matching : RouteKey → Bool) : InstalledRoutes :=
  (installed.availableRoutes.keys.filter matching).foldl removeKey installed

def addRoute (installed : InstalledRoutes) (route : RoutingTableEntry) : InstalledRoutes :=
  let key := RouteKey.unicast route.srcNodeId route.dstNodeId
  { availableRoutes := installed.availableRoutes.insert key
      (installed.availableRoutes.getD key [] ++ [route.routeId])
    routeNextHop := installed.routeNextHop.insert route.routeId route.nextHops }

def isUnicast : RouteKey → Bool
  | .unicast _ _ => true
  | .multicast _ _ _ => false

def isTreeOf (groupId : GroupId) (srcNodeId : NodeId) : RouteKey → Bool
  | .unicast _ _ => false
  | .multicast existingSrc existingGroup _ => existingSrc = srcNodeId ∧ existingGroup = groupId

def installRoutes (installed : InstalledRoutes) (routes : List RoutingTableEntry) :
    InstalledRoutes :=
  routes.foldl addRoute (installed.purge isUnicast)

/-- A route whose id is not the deterministic one of a tree of the group is skipped. -/
def addGroupRoute (groupId : GroupId) (srcNodeId : NodeId) (installed : InstalledRoutes)
    (route : GroupRoutingTableEntry) : InstalledRoutes :=
  match treeIdFromRouteId groupId route.routeId with
  | none => installed
  | some treeId =>
      match deterministicMulticastRouteId groupId treeId with
      | none => installed
      | some expectedRouteId =>
          if expectedRouteId ≠ route.routeId then installed
          else
            let encodedId := encodeMulticastRouteId route.routeId
            { availableRoutes :=
                installed.availableRoutes.insert (.multicast srcNodeId groupId treeId) [encodedId]
              routeNextHop := installed.routeNextHop.insert encodedId route.nextHops }

def installGroupRoutes (installed : InstalledRoutes) (groupId : GroupId) (srcNodeId : NodeId)
    (routes : List GroupRoutingTableEntry) : InstalledRoutes :=
  routes.foldl (addGroupRoute groupId srcNodeId) (installed.purge (isTreeOf groupId srcNodeId))

/-- The scan of the control-tree selection: tree zero ends it, else the smallest tree seen. -/
def scanTrees (srcNodeId : NodeId) (groupId : GroupId) :
    List (RouteKey × List Nat) → Option UInt16 → Option UInt16
  | [], smallest => smallest
  | (key, routeIds) :: rest, smallest =>
      if routeIds = [] then scanTrees srcNodeId groupId rest smallest
      else match key with
        | .unicast _ _ => scanTrees srcNodeId groupId rest smallest
        | .multicast routeSrc routeGroup treeId =>
            if routeSrc ≠ srcNodeId ∨ routeGroup ≠ groupId then
              scanTrees srcNodeId groupId rest smallest
            else if treeId = 0 then some 0
            else scanTrees srcNodeId groupId rest (some (smallest.elim treeId (min · treeId)))

def smallestTree (installed : InstalledRoutes) (srcNodeId : NodeId) (groupId : GroupId) :
    Option UInt16 :=
  scanTrees srcNodeId groupId installed.availableRoutes.toList none

end InstalledRoutes

/-! ## Table and caches -/

structure RoutingTable where
  config : LocalConfig
  installed : InstalledRoutes
  groupDir : Std.HashMap Ipv4Addr GroupId
  cache : Std.HashMap FlowId Nat
  multicastTreeCache : Std.HashMap (NodeId × GroupId × UInt16) Nat
  multicastControlTreeCache : Std.HashMap (NodeId × GroupId) UInt16

/-- The jump consistent hash with fixed keys: a slot for a key among a number of candidates. -/
abbrev JumpSlot := RouteKey → UInt32 → UInt32

def directory (groups : List GroupDirectoryEntry) : Std.HashMap Ipv4Addr GroupId :=
  groups.foldl (fun groupDir entry => groupDir.insert entry.groupIp entry.groupId) ∅

/-- The key of a flow under a directory; a multicast key has tree zero until a tree is chosen. -/
def keyForFlow (config : LocalConfig) (groupDir : Std.HashMap Ipv4Addr GroupId) (flowId : FlowId)
    (treeId : Option UInt16) : Option RouteKey :=
  if flowId = invalidFlowId then none
  else
    match groupDir[dstIp flowId]? with
    | some groupId =>
        let srcNodeId := config.ipToNodeId (srcIp flowId)
        if srcNodeId = invalidNode then none
        else some (.multicast srcNodeId groupId (treeId.getD 0))
    | none =>
        (config.tryExtractNodeIdsFromFlow flowId).map fun (srcNodeId, dstNodeId) =>
          .unicast srcNodeId dstNodeId

def copyNextHops (routeId : Nat) (nextHops : List NodeId) : Except String (List NodeId) :=
  if invalidNode ∈ nextHops then .error s!"Route {routeId} invalid at this node"
  else .ok nextHops

def noRoute : RouteKey → String
  | .multicast srcNodeId groupId treeId =>
      s!"Unknown multicast tree route for src_node_id={srcNodeId}, group_id={groupId}, tree_id={treeId}"
  | .unicast _ _ => "No route ids available for route key"

def noControlTree (srcNodeId : NodeId) (groupId : GroupId) : String :=
  s!"Unknown multicast control tree route for src_node_id={srcNodeId}, group_id={groupId}"

def hopsOfRoute (installed : InstalledRoutes) (routeId : Nat) : Except String (List NodeId) :=
  match installed.routeNextHop[routeId]? with
  | none => .error s!"No next hops found for route {routeId}"
  | some nextHops => copyNextHops routeId nextHops

/-- The checks of a pin: the route exists and its next hops are usable here. -/
def checkPin (installed : InstalledRoutes) (routeId : Nat) : Except String Unit :=
  match installed.routeNextHop[routeId]? with
  | none => .error s!"Route {routeId} not found in routing table"
  | some nextHops =>
      if nextHops = [] then .error s!"Route {routeId} has no next hops"
      else if invalidNode ∈ nextHops then .error s!"Route {routeId} contains invalid next hops"
      else .ok ()

/-- The hops that `pick_single_hop` may pick at random. -/
def pickSingleHop (nextHops : List NodeId) : Except String (Finset NodeId) :=
  if nextHops = [] then .error "No next hop(s) available." else .ok nextHops.toFinset

/-- `none` is the panic of indexing past the candidates. -/
def selectUnicast (slot : JumpSlot) (installed : InstalledRoutes) (key : RouteKey) :
    Option (Option Nat) :=
  match installed.availableRoutes[key]? with
  | none => some none
  | some [] => some none
  | some [routeId] => some (some routeId)
  | some routeIds => (routeIds[(slot key (UInt32.ofNat routeIds.length)).toNat]?).map some

namespace RoutingTable

def new (config : LocalConfig) : RoutingTable where
  config := config
  installed := .empty
  groupDir := ∅
  cache := ∅
  multicastTreeCache := ∅
  multicastControlTreeCache := ∅

def installRoutes (table : RoutingTable) (routes : List RoutingTableEntry) : RoutingTable :=
  { table with installed := table.installed.installRoutes routes, cache := ∅ }

def installGroupDirectory (table : RoutingTable) (groups : List GroupDirectoryEntry) :
    RoutingTable :=
  { table with groupDir := directory groups }

def installGroupRoutes (table : RoutingTable) (groupId : GroupId) (srcNodeId : NodeId)
    (routes : List GroupRoutingTableEntry) : RoutingTable :=
  { table with
    installed := table.installed.installGroupRoutes groupId srcNodeId routes
    multicastTreeCache := table.multicastTreeCache.filter fun key _ =>
      key.1 ≠ srcNodeId ∨ key.2.1 ≠ groupId
    multicastControlTreeCache := table.multicastControlTreeCache.filter fun key _ =>
      key.1 ≠ srcNodeId ∨ key.2 ≠ groupId
    cache := ∅ }

/-- The part of the control-tree selection after the cache: scan, and remember what was found. -/
def scanControlTree (table : RoutingTable) (srcNodeId : NodeId) (groupId : GroupId) :
    RoutingTable × Option UInt16 :=
  match table.installed.smallestTree srcNodeId groupId with
  | none => (table, none)
  | some selected =>
      ({ table with
        multicastControlTreeCache :=
          table.multicastControlTreeCache.insert (srcNodeId, groupId) selected }, some selected)

def selectMulticastControlTree (table : RoutingTable) (srcNodeId : NodeId) (groupId : GroupId) :
    RoutingTable × Option UInt16 :=
  match table.multicastControlTreeCache[(srcNodeId, groupId)]? with
  | none => table.scanControlTree srcNodeId groupId
  | some cachedTreeId =>
      match table.installed.availableRoutes[RouteKey.multicast srcNodeId groupId cachedTreeId]? with
      | some (_ :: _) => (table, some cachedTreeId)
      | _ =>
          RoutingTable.scanControlTree
            { table with
              multicastControlTreeCache :=
                table.multicastControlTreeCache.erase (srcNodeId, groupId) } srcNodeId groupId

/-- The part of a tree's selection after the cache: the deterministic route, if it is installed. -/
def resolveTreeRoute (table : RoutingTable) (srcNodeId : NodeId) (groupId : GroupId)
    (treeId : UInt16) : RoutingTable × Option Nat :=
  match deterministicMulticastRouteId groupId treeId with
  | none => (table, none)
  | some routeId =>
      let encodedId := encodeMulticastRouteId routeId
      if encodedId ∈ table.installed.routeNextHop then
        ({ table with
          multicastTreeCache :=
            table.multicastTreeCache.insert (srcNodeId, groupId, treeId) encodedId },
          some encodedId)
      else (table, none)

def selectMulticast (table : RoutingTable) (srcNodeId : NodeId) (groupId : GroupId)
    (treeId : UInt16) : RoutingTable × Option Nat :=
  match table.multicastTreeCache[(srcNodeId, groupId, treeId)]? with
  | none => table.resolveTreeRoute srcNodeId groupId treeId
  | some cachedRouteId =>
      if cachedRouteId ∈ table.installed.routeNextHop then (table, some cachedRouteId)
      else table.resolveTreeRoute srcNodeId groupId treeId

def selectRouteForKey (slot : JumpSlot) (table : RoutingTable) (key : RouteKey) :
    Option (RoutingTable × Option Nat) :=
  match key with
  | .unicast _ _ => (selectUnicast slot table.installed key).map fun selected => (table, selected)
  | .multicast srcNodeId groupId treeId => some (table.selectMulticast srcNodeId groupId treeId)

/-- The lookup of a key that missed the flow cache; a unicast selection enters it. -/
def lookupSelected (slot : JumpSlot) (table : RoutingTable) (flowId : FlowId) (key : RouteKey) :
    Option (RoutingTable × Except String (List NodeId)) := do
  let (table, selected) ← table.selectRouteForKey slot key
  match selected with
  | none => some (table, .error (noRoute key))
  | some routeId =>
      let table := match key with
        | .unicast _ _ => { table with cache := table.cache.insert flowId routeId }
        | .multicast _ _ _ => table
      some (table, hopsOfRoute table.installed routeId)

/-- The flow cache answers unicast keys whose cached route still has next hops. -/
def cachedHops (table : RoutingTable) (flowId : FlowId) : RouteKey → Option (Nat × List NodeId)
  | .multicast _ _ _ => none
  | .unicast _ _ => do
      let routeId ← table.cache[flowId]?
      let nextHops ← table.installed.routeNextHop[routeId]?
      some (routeId, nextHops)

def lookupKey (slot : JumpSlot) (table : RoutingTable) (flowId : FlowId) (key : RouteKey) :
    Option (RoutingTable × Except String (List NodeId)) :=
  match table.cachedHops flowId key with
  | some (routeId, nextHops) => some (table, copyNextHops routeId nextHops)
  | none => table.lookupSelected slot flowId key

def getNextHopsByFlowAndTree (slot : JumpSlot) (table : RoutingTable) (flowId : FlowId)
    (treeId : Option UInt16) : Option (RoutingTable × Except String (List NodeId)) :=
  if flowId = invalidFlowId then some (table, .error "No route can be selected.")
  else
    match keyForFlow table.config table.groupDir flowId treeId, treeId with
    | none, _ => some (table, .error "Unable to build route key for flow")
    | some (.multicast srcNodeId groupId _), none =>
        match table.selectMulticastControlTree srcNodeId groupId with
        | (table, none) => some (table, .error (noControlTree srcNodeId groupId))
        | (table, some selected) =>
            table.lookupKey slot flowId (.multicast srcNodeId groupId selected)
    | some key, _ => table.lookupKey slot flowId key

def getNextHopsByFlow (slot : JumpSlot) (table : RoutingTable) (flowId : FlowId) :
    Option (RoutingTable × Except String (List NodeId)) :=
  table.getNextHopsByFlowAndTree slot flowId none

def getNextHopByFlow (slot : JumpSlot) (table : RoutingTable) (flowId : FlowId) :
    Option (RoutingTable × Except String (Finset NodeId)) :=
  (table.getNextHopsByFlow slot flowId).map fun (table, hops) => (table, hops.bind pickSingleHop)

def pinRouteForFlow (table : RoutingTable) (flowId : FlowId) (routeId : Nat) :
    RoutingTable × Except String Unit :=
  match checkPin table.installed routeId with
  | .error reason => (table, .error reason)
  | .ok () => ({ table with cache := table.cache.insert flowId routeId }, .ok ())

end RoutingTable

/-! ## Operations -/

inductive RoutingOp where
  | installRoutes (routes : List RoutingTableEntry)
  | installGroupDirectory (groups : List GroupDirectoryEntry)
  | installGroupRoutes (groupId : GroupId) (srcNodeId : NodeId)
      (routes : List GroupRoutingTableEntry)
  | pinRouteForFlow (flowId : FlowId) (routeId : Nat)
  | nextHops (flowId : FlowId) (treeId : Option UInt16)
  | nextHop (flowId : FlowId)

/-- What an operation returns; a random choice is given as the set it is made from. -/
inductive RoutingAnswer where
  | done
  | pinned (result : Except String Unit)
  | hops (result : Except String (List NodeId))
  | hop (choices : Except String (Finset NodeId))

def RoutingTable.apply (slot : JumpSlot) (table : RoutingTable) :
    RoutingOp → Option (RoutingTable × RoutingAnswer)
  | .installRoutes routes => some (table.installRoutes routes, .done)
  | .installGroupDirectory groups => some (table.installGroupDirectory groups, .done)
  | .installGroupRoutes groupId srcNodeId routes =>
      some (table.installGroupRoutes groupId srcNodeId routes, .done)
  | .pinRouteForFlow flowId routeId =>
      let (table, result) := table.pinRouteForFlow flowId routeId
      some (table, .pinned result)
  | .nextHops flowId treeId =>
      (table.getNextHopsByFlowAndTree slot flowId treeId).map fun (table, result) =>
        (table, .hops result)
  | .nextHop flowId =>
      (table.getNextHopByFlow slot flowId).map fun (table, choices) => (table, .hop choices)

end Nextmini.Routing
