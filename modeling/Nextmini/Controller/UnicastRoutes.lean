import Mathlib.Data.Finset.Card
import Mathlib.Logic.Relation
import Nextmini.Controller.GroupTrees

/-!
# Unicast routes

The entries the controller builds for a node from the rows of the route table, and how it classifies
a route. A node's next hops on a route are its distinct neighbours, or the node itself where the
route ends. The class of a route is that of the sinks its source reaches, and no processor reads it.
-/

namespace Nextmini.Controller

open Nextmini.Routing

set_option autoImplicit false

structure Route where
  routeId : Nat
  srcNodeId : UInt32
  dstNodeId : UInt32
  edges : List Edge

inductive RouteForwardingMode where
  | unicast
  | multicast
  deriving DecidableEq

/-! ## Classes of routes -/

/-- The search with its stack; a node that was reached before is skipped. -/
def searchFrom (edges : List Edge) : Nat → List UInt32 → Finset UInt32 → Finset UInt32
  | 0, _, reachable => reachable
  | _ + 1, [], reachable => reachable
  | fuel + 1, nodeId :: stack, reachable =>
      if nodeId ∈ reachable then searchFrom edges fuel stack reachable
      else
        searchFrom edges fuel ((outgoingNeighbors edges nodeId).reverse ++ stack)
          (insert nodeId reachable)

/-- Each edge is pushed at most once, so the stack runs empty within the fuel. -/
def reachableFrom (edges : List Edge) (srcNodeId : UInt32) : Finset UInt32 :=
  searchFrom edges (edges.length + 1) [srcNodeId] ∅

/-- A sink of a route: an end of an edge that none leaves. -/
def isSink (edges : List Edge) (nodeId : UInt32) : Bool :=
  outgoingNeighbors edges nodeId = [] ∧ incomingNeighbors edges nodeId ≠ []

def routeHasMultipleDestinations (route : Route) : Bool :=
  if route.edges = [] then false
  else if isEndpoint route.edges route.srcNodeId = false then false
  else 1 < ((reachableFrom route.edges route.srcNodeId).filter fun nodeId =>
    isSink route.edges nodeId).card

def forwardMode (route : Route) : RouteForwardingMode :=
  if routeHasMultipleDestinations route then .multicast else .unicast

/-! ## Entries of a node -/

def distinctNeighbors (edges : List Edge) (nodeId : UInt32) : List UInt32 :=
  (outgoingNeighbors edges nodeId).foldl (fun hops neighbor =>
    if neighbor ∈ hops then hops else hops ++ [neighbor]) []

/-- A node with neighbours sends to them, a sink delivers, and any other node has no usable hop. -/
def routeNextHops (edges : List Edge) (nodeId : UInt32) : List NodeId :=
  let nextHops := (distinctNeighbors edges nodeId).map UInt32.toNat
  if nextHops ≠ [] then nextHops
  else if isEndpoint edges nodeId ∧ isSink edges nodeId then [nodeId.toNat]
  else [invalidNode]

/-- The entry that is sent; the mode is left behind when the entry is installed. -/
structure RouteEntry extends RoutingTableEntry where
  forwardMode : RouteForwardingMode

def routeEntry (route : Route) (nodeId : UInt32) : Option RouteEntry :=
  let nextHops := routeNextHops route.edges nodeId
  if nextHops = [invalidNode] then none
  else
    some
      { routeId := route.routeId
        nextHops := nextHops
        srcNodeId := route.srcNodeId.toNat
        dstNodeId := route.dstNodeId.toNat
        forwardMode := forwardMode route }

def buildRoutesForNode (routes : List Route) (nodeId : UInt32) : Option (List RouteEntry) :=
  let routeEntries := routes.filterMap fun route => routeEntry route nodeId
  if routeEntries = [] then none else some routeEntries

/-- A node that starts up is always sent its routes, also when there are none. -/
def startUpRoutes (routes : List Route) (nodeId : UInt32) : List RoutingTableEntry :=
  ((buildRoutesForNode routes nodeId).getD []).map RouteEntry.toRoutingTableEntry

end Nextmini.Controller
