import Nextmini.Node.Processors
import Nextmini.Node.SchedulerOrder
import Nextmini.Routing.Forwarding

/-!
# A node in sequential mode

The way of a packet through a node that gives each processor a channel of its own: a packet goes to
the lane that the jump hash of its flow, or of its flow and FEC tree, selects; the lane's processor
takes one packet at a time, looks up its next hops and sends a copy to each, most of them through
the channel of a scheduler. Lanes, submitters and the tasks of the schedulers interleave in every
order. Senders that wait for room at a lane stand in line behind its channel. Control messages reach
a processor between two packets. Local delivery, the connector of the max mode and the outcome that
a submitter is told are left out.
-/

namespace Nextmini.Node

open Nextmini.Library Nextmini.Routing

set_option autoImplicit false

/-! ## Lanes -/

inductive OperatingMode where
  | normal
  | max
  deriving DecidableEq

structure NodeConfig where
  nodeId : NodeId
  addresses : LocalConfig
  operatingMode : OperatingMode
  numPacketProcessors : Nat
  channelCapacity : Nat
  channelBackpressure : Bool
  queueCapacity : Nat
  schedulerType : SchedulingDiscipline

/-- The jump hashes of a flow, and of a flow with a tree. -/
structure LaneSlots where
  flow : FlowId → UInt32 → UInt32
  flowTree : FlowId → UInt16 → UInt32 → UInt32

/-- A processor with its channel, and the copies of the packet in hand that are still to be sent. -/
structure Lane where
  processor : Processor
  queued : List Packet
  dispatching : List (Packet × NodeId)

variable {config : NodeConfig}

def Lane.trySend (config : NodeConfig) (lane : Lane) (packet : Packet) : Lane :=
  if lane.queued.length < config.channelCapacity then
    { lane with queued := lane.queued ++ [packet] }
  else lane

def Lane.send (config : NodeConfig) (lane : Lane) (packet : Packet) : Lane :=
  if config.channelBackpressure then { lane with queued := lane.queued ++ [packet] }
  else lane.trySend config packet

def Processor.schedulerFor (processor : Processor) (localId nextHopId : NodeId) : Option Handle :=
  if nextHopId = localId then none else processor.schedulers[nextHopId]?

/-- With backpressure there must be room. -/
def NodeConfig.sendToScheduler (config : NodeConfig) (channel : List Packet) (packet : Packet) :
    Option (List Packet) :=
  if channel.length < config.channelCapacity then some (channel ++ [packet])
  else if config.channelBackpressure then none
  else some channel

/-! ## The node -/

/-- The packets submitted so far, and those that have left each scheduler, are kept along. -/
structure SequentialNode (config : NodeConfig) where
  lane : Nat → Lane
  channel : Handle → List Packet
  scheduler : Handle → Scheduler config.queueCapacity
  submitted : List Packet
  left : Handle → List Packet

namespace SequentialNode

def new (config : NodeConfig) : SequentialNode config where
  lane _ :=
    { processor := .new config.addresses
      queued := []
      dispatching := [] }
  channel _ := []
  scheduler _ := .new config.queueCapacity config.schedulerType config.channelBackpressure
  submitted := []
  left _ := []

def setLane (state : SequentialNode config) (index : Nat) (lane : Lane) : SequentialNode config :=
  { state with lane := Function.update state.lane index lane }

def setScheduler (state : SequentialNode config) (handle : Handle)
    (scheduler : Scheduler config.queueCapacity) : SequentialNode config :=
  { state with scheduler := Function.update state.scheduler handle scheduler }

def setChannel (state : SequentialNode config) (handle : Handle) (channel : List Packet) :
    SequentialNode config :=
  { state with channel := Function.update state.channel handle channel }

end SequentialNode

section Submission

variable (slots : LaneSlots)

def NodeConfig.selectProcessorIngressLane (config : NodeConfig) (packet : Packet) : Nat :=
  let laneCount := UInt32.ofNat config.numPacketProcessors
  match packet.tag.losslessFecTreeId with
  | some treeId => (slots.flowTree packet.flowId treeId laneCount).toNat
  | none => (slots.flow packet.flowId laneCount).toNat

namespace SequentialNode

/-- An index beyond the lanes is a panic. -/
def sendBy (send : Lane → Packet → Lane) (state : SequentialNode config) (packet : Packet) :
    Option (SequentialNode config) :=
  let index := config.selectProcessorIngressLane slots packet
  if index < config.numPacketProcessors then
    some (state.setLane index (send (state.lane index) packet))
  else none

def sendToProcessor (state : SequentialNode config) (packet : Packet) :
    Option (SequentialNode config) :=
  state.sendBy slots (Lane.send config) packet

def trySendToProcessor (state : SequentialNode config) (packet : Packet) :
    Option (SequentialNode config) :=
  state.sendBy slots (Lane.trySend config) packet

/-- In max mode a packet for another node goes to the connector. -/
def processPacket (state : SequentialNode config) (packet : Packet) :
    Option (SequentialNode config) :=
  if config.addresses.ipToNodeId (dstIp packet.flowId) = config.nodeId then
    state.sendToProcessor slots packet
  else
    match config.operatingMode with
    | .normal => state.sendToProcessor slots packet
    | .max => some state

def tryProcessPacket (state : SequentialNode config) (packet : Packet) :
    Option (SequentialNode config) :=
  if config.addresses.ipToNodeId (dstIp packet.flowId) = config.nodeId then
    state.trySendToProcessor slots packet
  else
    match config.operatingMode with
    | .normal => state.trySendToProcessor slots packet
    | .max => some state

end SequentialNode

end Submission

/-! ## Steps -/

inductive SequentialLabel where
  | processed (packet : Packet)
  | tryProcessed (packet : Packet)
  | messageHandled (index : Nat) (message : ProcessorMessage)
  | taken (index : Nat)
  | kept (index : Nat)
  | sent (index : Nat)
  | received (handle : Handle)
  | scheduled (handle : Handle) (label : SchedulerLabel)

section Steps

variable (slots : LaneSlots) (slot : JumpSlot)

inductive SequentialStep (state : SequentialNode config) :
    SequentialLabel → SequentialNode config → Prop
  | processed (packet : Packet) (next : SequentialNode config) :
      state.processPacket slots packet = some next →
        SequentialStep state (.processed packet)
          { next with submitted := state.submitted ++ [packet] }
  | tryProcessed (packet : Packet) (next : SequentialNode config) :
      state.tryProcessPacket slots packet = some next →
        SequentialStep state (.tryProcessed packet)
          { next with submitted := state.submitted ++ [packet] }
  | messageHandled (index : Nat) (message : ProcessorMessage) :
      (state.lane index).dispatching = [] →
        SequentialStep state (.messageHandled index message)
          (state.setLane index
            { state.lane index with
              processor := (state.lane index).processor.handleMessage message })
  | taken (index : Nat) (packet : Packet) (rest : List Packet) (table : RoutingTable)
      (answer : Except String (List NodeId)) :
      (state.lane index).dispatching = [] → (state.lane index).queued = packet :: rest →
        (state.lane index).processor.routingTable.getNextHopsByFlowAndTree slot packet.flowId
          packet.tag.losslessFecTreeId = some (table, answer) →
        SequentialStep state (.taken index)
          (state.setLane index
            { processor := { (state.lane index).processor with routingTable := table }
              queued := rest
              dispatching := (resolvedHops answer).map fun nextHopId => (packet, nextHopId) })
  | kept (index : Nat) (packet : Packet) (nextHopId : NodeId) (rest : List (Packet × NodeId)) :
      (state.lane index).dispatching = (packet, nextHopId) :: rest →
        (state.lane index).processor.schedulerFor config.nodeId nextHopId = none →
        SequentialStep state (.kept index)
          (state.setLane index { state.lane index with dispatching := rest })
  | sent (index : Nat) (packet : Packet) (nextHopId : NodeId) (rest : List (Packet × NodeId))
      (handle : Handle) (channel : List Packet) :
      (state.lane index).dispatching = (packet, nextHopId) :: rest →
        (state.lane index).processor.schedulerFor config.nodeId nextHopId = some handle →
        config.sendToScheduler (state.channel handle) packet = some channel →
        SequentialStep state (.sent index)
          ((state.setLane index { state.lane index with dispatching := rest }).setChannel handle
            channel)
  | received (handle : Handle) (packet : Packet) (rest : List Packet)
      (scheduler : Scheduler config.queueCapacity) :
      state.channel handle = packet :: rest →
        SchedulerStep (state.scheduler handle) (.received packet) scheduler →
        SequentialStep state (.received handle)
          ((state.setChannel handle rest).setScheduler handle scheduler)
  | scheduled (handle : Handle) (label : SchedulerLabel)
      (scheduler : Scheduler config.queueCapacity) :
      label.arriving = [] → SchedulerStep (state.scheduler handle) label scheduler →
        SequentialStep state (.scheduled handle label)
          { state.setScheduler handle scheduler with
            left := Function.update state.left handle
              (state.left handle ++ (state.scheduler handle).leaving label) }

def sequential (config : NodeConfig) : TransitionSystem (SequentialNode config) SequentialLabel where
  initial state := state = .new config
  step := SequentialStep slots slot

end Steps

end Nextmini.Node
