import Mathlib.Data.Finset.Empty
import Nextmini.Library.PipeChain
import Nextmini.Library.TransitionSystem
import Nextmini.Packets.MaxRequests
import Nextmini.Packets.StreamReader
import Nextmini.Routing.RoutingTable

/-!
# Connectors

In Max mode every flow has a connection of its own. The connector of the source node opens it to the
next hop and sends the flow's packets on it. A node that accepts one reads the request on it first:
either the flow ends here, and packets go both ways on the connection, or the connector opens another
one to the next hop, and from then on bytes are copied between the two. Connections are not lost or
closed, and writes succeed; a scheduler may drop a packet, and writes the others in the order it gets
them.
-/

namespace Nextmini.Node

open Nextmini.Library Nextmini.Library.BigEndian Nextmini.Library.PipeChain Nextmini.Packets
open Nextmini.Routing (NodeId RoutingTable RoutingTableEntry LocalConfig JumpSlot)

set_option autoImplicit false

abbrev StreamId := Nat

/-- The two directions of a connection, as seen from the end that opened it. -/
inductive Way where
  | up
  | down
  deriving DecidableEq, Repr

/-! ## One connector -/

structure Connector where
  localId : NodeId
  tcpMaxClient : Bool
  routingTable : RoutingTable
  nodeAddresses : NodeId → Option String
  schedulers : Nat → Option (StreamId × Way)

inductive ConnectorMessage where
  | addNodeAddress (nodeId : NodeId) (address : String)
  | updateRoutingTable (routes : List RoutingTableEntry)
  | connectTcpMaxClient

inductive PacketAction where
  | send (stream : StreamId) (way : Way)
  | connect (remoteAddr : String)
  | drop
  deriving DecidableEq

/-- What becomes of the connection of an inbound request. -/
inductive InboundAction where
  | destination
  | relay (address : String) (header : Bool)
  | drop
  deriving DecidableEq

def Picks (pick : Finset NodeId → NodeId) : Prop := ∀ hops, hops.Nonempty → pick hops ∈ hops

def externalServerAddr (flowId : Nat) : String :=
  let ip := FlowIdExt.dstIp flowId
  let port := FlowIdExt.dstPort flowId
  s!"{ip.a}.{ip.b}.{ip.c}.{ip.d}:{port}"

namespace Connector

def new (localId : NodeId) (config : LocalConfig) : Connector where
  localId := localId
  tcpMaxClient := false
  routingTable := .new config
  nodeAddresses := fun _ => none
  schedulers := fun _ => none

def handleMessage (connector : Connector) : ConnectorMessage → Connector
  | .addNodeAddress nodeId address =>
      { connector with
        nodeAddresses := Function.update connector.nodeAddresses nodeId (some address) }
  | .updateRoutingTable routes =>
      { connector with routingTable := connector.routingTable.installRoutes routes }
  | .connectTcpMaxClient => { connector with tcpMaxClient := true }

/-- `none` is the panic of the lookup. -/
def nextHop (slot : JumpSlot) (pick : Finset NodeId → NodeId) (connector : Connector)
    (flowId : Nat) : Option (Connector × Except String NodeId) :=
  (connector.routingTable.getNextHopByFlow slot (BitVec.ofNat 128 flowId)).map fun (table, hops) =>
    ({ connector with routingTable := table }, hops.map pick)

def processPacket (slot : JumpSlot) (pick : Finset NodeId → NodeId) (connector : Connector)
    (flowId : Nat) : Option (Connector × PacketAction) :=
  match connector.schedulers flowId with
  | some (stream, way) => some (connector, .send stream way)
  | none =>
      (connector.nextHop slot pick flowId).map fun (connector, hop) =>
        match hop with
        | .error _ => (connector, .drop)
        | .ok nextHopId =>
            if nextHopId = connector.localId then (connector, .drop)
            else
              match connector.nodeAddresses nextHopId with
              | none => (connector, .drop)
              | some remoteAddr =>
                  if connector.tcpMaxClient then (connector, .connect remoteAddr)
                  else (connector, .drop)

/-- `none` is a panic: in the lookup, or since there is no client yet. -/
def handleInboundRequest (slot : JumpSlot) (pick : Finset NodeId → NodeId) (connector : Connector)
    (flowId : Nat) : Option (Connector × InboundAction) :=
  (connector.nextHop slot pick flowId).bind fun (connector, hop) =>
    match hop with
    | .error _ => some (connector, .drop)
    | .ok nextHopId =>
        if connector.tcpMaxClient then
          if nextHopId = connector.localId then some (connector, .destination)
          else
            match connector.nodeAddresses nextHopId with
            | some address => some (connector, .relay address true)
            | none => some (connector, .relay (externalServerAddr flowId) false)
        else none

def store (connector : Connector) (flowId : Nat) (stream : StreamId) (way : Way) : Connector :=
  { connector with schedulers := Function.update connector.schedulers flowId (some (stream, way)) }

end Connector

/-! ## Connections -/

structure FramedPacket where
  vec : List Byte
  minimum : 20 ≤ vec.length
  fits : vec.length ≤ maxFramedPacketSize

def FramedPacket.packet (framed : FramedPacket) : Packet := .fromVec framed.vec

def frames (packets : List FramedPacket) : List Byte :=
  (packets.flatMap fun framed => packetSlices framed.packet).flatten

inductive Opener where
  | source (nodeId : NodeId) (flowId : Nat)
  | relay (inbound : StreamId) (header : Bool)
  | client
  deriving DecidableEq

/-- The other end of a connection: `server` is one that is no node. -/
inductive AcceptorStage where
  | backlog
  | reading (read : RequestRead)
  | requested (flowId : Nat)
  | destination (flowId : Nat)
  | relayed (flowId : Nat) (outbound : StreamId)
  | dropped
  | server
  deriving DecidableEq

def AcceptorStage.ofOutcome : RequestOutcome → AcceptorStage
  | .waiting read => .reading read
  | .accepted flowId => .requested flowId
  | .refused => .dropped

/-- `request` counts the bytes read as the request, `replies` are the answers to it, and the packets
are those that the schedulers at the two ends have written. -/
structure MaxConnection where
  opener : Opener
  peer : PeerAddr
  acceptor : Option NodeId
  address : String
  stage : AcceptorStage
  request : Nat
  replies : List Byte
  up : Pipe Byte
  down : Pipe Byte
  packetsUp : List FramedPacket
  packetsDown : List FramedPacket

namespace MaxConnection

def opened (listener : String → Option NodeId) (opener : Opener) (peer : PeerAddr)
    (address : String) (header : List Byte) (packets : List FramedPacket) : MaxConnection where
  opener := opener
  peer := peer
  acceptor := listener address
  address := address
  stage := if (listener address).isSome then .backlog else .server
  request := 0
  replies := []
  up := Pipe.empty.write (header ++ frames packets)
  down := .empty
  packetsUp := packets
  packetsDown := []

def send (connection : MaxConnection) (packet : FramedPacket) : Way → MaxConnection
  | .up =>
      { connection with
        up := connection.up.write (frames [packet])
        packetsUp := connection.packetsUp ++ [packet] }
  | .down =>
      { connection with
        down := connection.down.write (frames [packet])
        packetsDown := connection.packetsDown ++ [packet] }

/-- The server has read the next bytes of the request. -/
def handled (connection : MaxConnection) (read : RequestRead) : MaxConnection :=
  let bytes := connection.up.inFlight.take read.needs
  { connection with
    stage := .ofOutcome (handleRead connection.peer bytes read).2
    request := connection.request + read.needs
    replies := connection.replies ++ (handleRead connection.peer bytes read).1
    up := connection.up.take read.needs
    down := connection.down.write (handleRead connection.peer bytes read).1 }

end MaxConnection

/-! ## The network -/

/-- A connector that has panicked is gone; the connections opened so far have the ids below `opened`. -/
structure MaxNetwork where
  connectors : NodeId → Option Connector
  connections : StreamId → Option MaxConnection
  opened : StreamId

namespace MaxNetwork

variable (net : MaxNetwork)

def setConnector (nodeId : NodeId) (connector : Option Connector) : MaxNetwork :=
  { net with connectors := Function.update net.connectors nodeId connector }

def setConnection (stream : StreamId) (connection : MaxConnection) : MaxNetwork :=
  { net with connections := Function.update net.connections stream (some connection) }

def addConnection (connection : MaxConnection) : MaxNetwork :=
  { net.setConnection net.opened connection with opened := net.opened + 1 }

/-- The server of a node reads one request at a time, and accepts no connection meanwhile. -/
def Serving (nodeId : NodeId) : Prop :=
  ∃ stream connection read, net.connections stream = some connection ∧
    connection.acceptor = some nodeId ∧ connection.stage = .reading read

end MaxNetwork

inductive MaxLabel where
  | control (nodeId : NodeId) (message : ConnectorMessage)
  | packet (nodeId : NodeId) (packet : FramedPacket)
  | client (peer : PeerAddr) (address : String)
  | accept (stream : StreamId)
  | request (stream : StreamId)
  | inbound (stream : StreamId)
  | splice (stream : StreamId) (way : Way) (count : Nat)
  | write (stream : StreamId) (bytes : List Byte)
  | take (stream : StreamId) (way : Way) (count : Nat)

section Steps

variable (slot : JumpSlot) (listener : String → Option NodeId) (net : MaxNetwork)

/-- `listener` gives the node whose Max server an address leads to, if it leads to one. -/
inductive MaxStep : MaxLabel → MaxNetwork → Prop where
  | control {nodeId : NodeId} {connector : Connector} (message : ConnectorMessage)
      (running : net.connectors nodeId = some connector) :
      MaxStep (.control nodeId message)
        (net.setConnector nodeId (some (connector.handleMessage message)))
  | sends {nodeId : NodeId} {connector after : Connector} {packet : FramedPacket}
      {pick : Finset NodeId → NodeId} {stream : StreamId} {way : Way} {connection : MaxConnection}
      (running : net.connectors nodeId = some connector) (picks : Picks pick)
      (handled : connector.processPacket slot pick packet.packet.flowId =
        some (after, .send stream way))
      (found : net.connections stream = some connection) :
      MaxStep (.packet nodeId packet)
        ((net.setConnector nodeId (some after)).setConnection stream (connection.send packet way))
  | connects {nodeId : NodeId} {connector after : Connector} {packet : FramedPacket}
      {pick : Finset NodeId → NodeId} {remoteAddr : String} (peer : PeerAddr)
      (packets : List FramedPacket)
      (running : net.connectors nodeId = some connector) (picks : Picks pick)
      (handled : connector.processPacket slot pick packet.packet.flowId =
        some (after, .connect remoteAddr))
      (kept : packets = [packet] ∨ packets = []) :
      MaxStep (.packet nodeId packet)
        ((net.setConnector nodeId
          (some (after.store packet.packet.flowId net.opened .up))).addConnection
            (.opened listener (.source nodeId packet.packet.flowId) peer remoteAddr
              (maxRequest packet.packet.flowId) packets))
  | drops {nodeId : NodeId} {connector after : Connector} {packet : FramedPacket}
      {pick : Finset NodeId → NodeId} {action : PacketAction}
      (running : net.connectors nodeId = some connector) (picks : Picks pick)
      (handled : connector.processPacket slot pick packet.packet.flowId = some (after, action))
      (unsent : action = .drop ∨ ∃ stream way, action = .send stream way) :
      MaxStep (.packet nodeId packet) (net.setConnector nodeId (some after))
  | fails {nodeId : NodeId} {connector : Connector} {packet : FramedPacket}
      {pick : Finset NodeId → NodeId}
      (running : net.connectors nodeId = some connector) (picks : Picks pick)
      (handled : connector.processPacket slot pick packet.packet.flowId = none) :
      MaxStep (.packet nodeId packet) (net.setConnector nodeId none)
  | clientConnects (peer : PeerAddr) (address : String) :
      MaxStep (.client peer address)
        (net.addConnection (.opened listener .client peer address [] []))
  | clientWrites {stream : StreamId} {connection : MaxConnection} (bytes : List Byte)
      (found : net.connections stream = some connection) (client : connection.opener = .client) :
      MaxStep (.write stream bytes)
        (net.setConnection stream { connection with up := connection.up.write bytes })
  | accepts {stream : StreamId} {connection : MaxConnection} {nodeId : NodeId}
      (found : net.connections stream = some connection)
      (server : connection.acceptor = some nodeId) (waiting : connection.stage = .backlog)
      (free : ¬net.Serving nodeId) :
      MaxStep (.accept stream)
        (net.setConnection stream { connection with stage := .reading .firstByte })
  | reads {stream : StreamId} {connection : MaxConnection} {read : RequestRead}
      (found : net.connections stream = some connection)
      (reading : connection.stage = .reading read)
      (arrived : read.needs ≤ connection.up.inFlight.length) :
      MaxStep (.request stream) (net.setConnection stream (connection.handled read))
  | delivers {stream : StreamId} {connection : MaxConnection} {nodeId : NodeId}
      {connector after : Connector} {flowId : Nat} {pick : Finset NodeId → NodeId}
      (found : net.connections stream = some connection)
      (server : connection.acceptor = some nodeId) (asked : connection.stage = .requested flowId)
      (running : net.connectors nodeId = some connector) (picks : Picks pick)
      (handled : connector.handleInboundRequest slot pick flowId = some (after, .destination)) :
      MaxStep (.inbound stream)
        ((net.setConnector nodeId
          (some (after.store (FlowIdExt.reverse flowId) stream .down))).setConnection stream
            { connection with stage := .destination flowId })
  | relays {stream : StreamId} {connection : MaxConnection} {nodeId : NodeId}
      {connector after : Connector} {flowId : Nat} {pick : Finset NodeId → NodeId}
      {address : String} {header : Bool} (peer : PeerAddr)
      (found : net.connections stream = some connection)
      (server : connection.acceptor = some nodeId) (asked : connection.stage = .requested flowId)
      (running : net.connectors nodeId = some connector) (picks : Picks pick)
      (handled : connector.handleInboundRequest slot pick flowId =
        some (after, .relay address header)) :
      MaxStep (.inbound stream)
        (((net.setConnector nodeId (some after)).setConnection stream
          { connection with stage := .relayed flowId net.opened }).addConnection
            (.opened listener (.relay stream header) peer address
              (if header then maxRequest flowId else []) []))
  | refuses {stream : StreamId} {connection : MaxConnection} {nodeId : NodeId}
      {connector after : Connector} {flowId : Nat} {pick : Finset NodeId → NodeId}
      (found : net.connections stream = some connection)
      (server : connection.acceptor = some nodeId) (asked : connection.stage = .requested flowId)
      (running : net.connectors nodeId = some connector) (picks : Picks pick)
      (handled : connector.handleInboundRequest slot pick flowId = some (after, .drop)) :
      MaxStep (.inbound stream)
        ((net.setConnector nodeId (some after)).setConnection stream
          { connection with stage := .dropped })
  | inboundFails {stream : StreamId} {connection : MaxConnection} {nodeId : NodeId}
      {connector : Connector} {flowId : Nat} {pick : Finset NodeId → NodeId}
      (found : net.connections stream = some connection)
      (server : connection.acceptor = some nodeId) (asked : connection.stage = .requested flowId)
      (running : net.connectors nodeId = some connector) (picks : Picks pick)
      (handled : connector.handleInboundRequest slot pick flowId = none) :
      MaxStep (.inbound stream)
        ((net.setConnector nodeId none).setConnection stream { connection with stage := .dropped })
  | splicesUp {stream next : StreamId} {inbound outbound : MaxConnection} {flowId : Nat}
      (count : Nat) (found : net.connections stream = some inbound)
      (relayed : inbound.stage = .relayed flowId next)
      (foundNext : net.connections next = some outbound) :
      MaxStep (.splice stream .up count)
        ((net.setConnection stream { inbound with up := inbound.up.take count }).setConnection next
          { outbound with up := outbound.up.write (inbound.up.inFlight.take count) })
  | splicesDown {stream next : StreamId} {inbound outbound : MaxConnection} {flowId : Nat}
      (count : Nat) (found : net.connections stream = some inbound)
      (relayed : inbound.stage = .relayed flowId next)
      (foundNext : net.connections next = some outbound) :
      MaxStep (.splice stream .down count)
        ((net.setConnection next { outbound with down := outbound.down.take count }).setConnection
          stream { inbound with down := inbound.down.write (outbound.down.inFlight.take count) })
  | takesUp {stream : StreamId} {connection : MaxConnection} (count : Nat)
      (found : net.connections stream = some connection)
      (ends : (∃ flowId, connection.stage = .destination flowId) ∨ connection.stage = .server) :
      MaxStep (.take stream .up count)
        (net.setConnection stream { connection with up := connection.up.take count })
  | serverWrites {stream : StreamId} {connection : MaxConnection} (bytes : List Byte)
      (found : net.connections stream = some connection) (server : connection.stage = .server) :
      MaxStep (.write stream bytes)
        (net.setConnection stream { connection with down := connection.down.write bytes })
  | takesDown {stream : StreamId} {connection : MaxConnection} (count : Nat)
      (found : net.connections stream = some connection)
      (starts : connection.opener = .client ∨
        ∃ nodeId flowId, connection.opener = .source nodeId flowId) :
      MaxStep (.take stream .down count)
        (net.setConnection stream { connection with down := connection.down.take count })

/-- The nodes in Max mode, with the clients and servers outside. -/
def maxMode (nodes : NodeId → Option LocalConfig) : TransitionSystem MaxNetwork MaxLabel where
  initial net :=
    net = ⟨fun nodeId => (nodes nodeId).map (Connector.new nodeId), fun _ => none, 0⟩
  step net label next := MaxStep slot listener net label next

end Steps

end Nextmini.Node
