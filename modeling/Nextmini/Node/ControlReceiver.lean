import Nextmini.Controller.FlowDispatch
import Nextmini.Controller.StartUpLinks
import Nextmini.Node.Processors
import Nextmini.Node.UserSpaceFlows

/-!
# The receiver of control messages

A node handles the messages of its controller one after another, and what it hands on to its other
parts is kept as a list of effects. The receiver starts behind the first message of a connection, which
is taken as the answer to the node's StartUp and is none of those here. Connecting to a neighbour is
retried until it succeeds, and the messages behind it wait. Events for Python code are left out.
-/

namespace Nextmini.Messages

open Nextmini.Routing

set_option autoImplicit false

structure FlowSpec where
  flowLen : Node.FlowLen
  flowRate : Option Nat
  flowWeight : Option Nat
  transport : Controller.FlowTransport
  deriving DecidableEq

structure Flow where
  controllerId : Option Int32
  srcNodeId : NodeId
  dstNodeId : NodeId
  routeId : Option Nat
  flowSpec : FlowSpec
  deriving DecidableEq

/-- The contents of the answer to a StartUp message are left out: it is read before the receiver
starts. -/
inductive ControllerToDataplane where
  | startUp
  | addNode (link : Controller.AddNode)
  | addNodeAddress (remoteNodeId : NodeId) (remoteMaxServerAddr : String)
  | installRoutes (routes : List RoutingTableEntry)
  | setLinkRate (nodeId : NodeId) (spec : Node.TokenBucketSpec)
  | addFlows (flows : List Flow)
  | topologyReady
  | groupCreated (groupId : GroupId) (groupIp : Ipv4Addr) (srcNodeId : NodeId)
  | installGroupDirectory (groups : List GroupDirectoryEntry)
  | installGroupRoutes (groupId : GroupId) (srcNodeId : NodeId) (routes : List GroupRoutingTableEntry)
  | probeLink (remoteNodeId : NodeId) (probeId : UInt64) (probeBytes : Nat)

namespace ControllerToDataplane

def isTopologyReady : ControllerToDataplane → Bool
  | .topologyReady => true
  | _ => false

def isRoutes : ControllerToDataplane → Bool
  | .installRoutes _ => true
  | _ => false

def isDirectory : ControllerToDataplane → Bool
  | .installGroupDirectory _ => true
  | _ => false

def link? : ControllerToDataplane → Option Controller.AddNode
  | .addNode link => some link
  | _ => none

def flows : ControllerToDataplane → List Flow
  | .addFlows flows => flows
  | _ => []

end ControllerToDataplane

end Nextmini.Messages

namespace Nextmini.Node

open Nextmini.Controller Nextmini.Routing
open Nextmini.Messages (ControllerToDataplane)

set_option autoImplicit false

/-! ## The receiver -/

structure ControlReceiver where
  topologyReady : Bool
  pendingTcpFlows : List Messages.Flow
  pendingLosslessFlows : List Messages.Flow
  expectedNeighborCount : Nat
  connectedNeighborCount : Nat
  routesInstalled : Bool
  groupDirectoryInstalled : Bool
  localTopologyReadySent : Bool

inductive ControlEffect where
  | connected (link : AddNode)
  | nodeAddress (remoteNodeId : NodeId) (remoteMaxServerAddr : String)
  | limitRate (nodeId : NodeId) (spec : TokenBucketSpec)
  | routing (op : RoutingOp)
  | storeFlowSpec (flow : Messages.Flow)
  | startTcpFlows (flows : List Messages.Flow)
  | startLosslessFlows (flows : List Messages.Flow)
  | runtimeReady
  | nodeTopologyReady (nodeId : NodeId)
  | sendProbe (remoteNodeId : NodeId) (probeId : UInt64) (probeBytes : Nat)

/-- What the flows of a message are to a node. -/
def isTcpServer (nodeId : NodeId) (flow : Messages.Flow) : Bool :=
  flow.flowSpec.transport = .tcp ∧ flow.dstNodeId = nodeId

def isTcpClient (nodeId : NodeId) (flow : Messages.Flow) : Bool :=
  flow.flowSpec.transport = .tcp ∧ flow.srcNodeId = nodeId

def isLosslessEnd (nodeId : NodeId) (flow : Messages.Flow) : Bool :=
  flow.flowSpec.transport = .losslessUnicast ∧ (flow.srcNodeId = nodeId ∨ flow.dstNodeId = nodeId)

namespace ControlReceiver

def new : ControlReceiver where
  topologyReady := false
  pendingTcpFlows := []
  pendingLosslessFlows := []
  expectedNeighborCount := 0
  connectedNeighborCount := 0
  routesInstalled := false
  groupDirectoryInstalled := false
  localTopologyReadySent := false

def maybeSendLocalTopologyReady (nodeId : NodeId) (receiver : ControlReceiver) :
    ControlReceiver × List ControlEffect :=
  if receiver.localTopologyReadySent then (receiver, [])
  else if receiver.connectedNeighborCount < receiver.expectedNeighborCount then (receiver, [])
  else if !receiver.routesInstalled || !receiver.groupDirectoryInstalled then (receiver, [])
  else ({ receiver with localTopologyReadySent := true }, [.nodeTopologyReady nodeId])

def recordNeighborConnected (nodeId : NodeId) (receiver : ControlReceiver) :
    ControlReceiver × List ControlEffect :=
  maybeSendLocalTopologyReady nodeId
    { receiver with connectedNeighborCount := receiver.connectedNeighborCount + 1 }

def startTcpFlows (flows : List Messages.Flow) : List ControlEffect :=
  if flows.isEmpty then [] else [.startTcpFlows flows]

def startLosslessFlows (flows : List Messages.Flow) : List ControlEffect :=
  if flows.isEmpty then [] else [.startLosslessFlows flows]

def flushPendingFlows (receiver : ControlReceiver) : ControlReceiver × List ControlEffect :=
  ({ receiver with pendingTcpFlows := [], pendingLosslessFlows := [] },
    startTcpFlows receiver.pendingTcpFlows ++ startLosslessFlows receiver.pendingLosslessFlows)

/-- The server side of a flow is set up at once, a client waits for the topology. -/
def addFlows (nodeId : NodeId) (receiver : ControlReceiver) (flows : List Messages.Flow) :
    ControlReceiver × List ControlEffect :=
  let stored := (flows.filter (isTcpServer nodeId)).map ControlEffect.storeFlowSpec
  let tcpFlows := flows.filter (isTcpClient nodeId)
  let losslessFlows := flows.filter (isLosslessEnd nodeId)
  if receiver.topologyReady then
    (receiver, stored ++ startTcpFlows tcpFlows ++ startLosslessFlows losslessFlows)
  else
    ({ receiver with
        pendingTcpFlows := receiver.pendingTcpFlows ++ tcpFlows
        pendingLosslessFlows := receiver.pendingLosslessFlows ++ losslessFlows }, stored)

def processControlMsg (nodeId : NodeId) (receiver : ControlReceiver) :
    ControllerToDataplane → ControlReceiver × List ControlEffect
  | .addNode link =>
      let (later, effects) := recordNeighborConnected nodeId
        { receiver with expectedNeighborCount := receiver.expectedNeighborCount + 1 }
      (later, .connected link :: effects)
  | .addNodeAddress remoteNodeId remoteMaxServerAddr =>
      (receiver, [.nodeAddress remoteNodeId remoteMaxServerAddr])
  | .setLinkRate remoteNodeId spec => (receiver, [.limitRate remoteNodeId spec])
  | .installRoutes routes =>
      let (later, effects) :=
        maybeSendLocalTopologyReady nodeId { receiver with routesInstalled := true }
      (later, .routing (.installRoutes routes) :: effects)
  | .addFlows flows => receiver.addFlows nodeId flows
  | .topologyReady =>
      let (later, effects) := flushPendingFlows { receiver with topologyReady := true }
      (later, .runtimeReady :: effects)
  | .groupCreated _ _ _ => (receiver, [])
  | .installGroupDirectory groups =>
      let (later, effects) :=
        maybeSendLocalTopologyReady nodeId { receiver with groupDirectoryInstalled := true }
      (later, .routing (.installGroupDirectory groups) :: effects)
  | .installGroupRoutes groupId srcNodeId routes =>
      (receiver, [.routing (.installGroupRoutes groupId srcNodeId routes)])
  | .probeLink remoteNodeId probeId probeBytes =>
      (receiver, [.sendProbe remoteNodeId probeId probeBytes])
  | .startUp => (receiver, [])

/-- One more message, after the effects of those before it. -/
def handle (nodeId : NodeId) (state : ControlReceiver × List ControlEffect)
    (message : ControllerToDataplane) : ControlReceiver × List ControlEffect :=
  let (receiver, effects) := state.1.processControlMsg nodeId message
  (receiver, state.2 ++ effects)

def run (nodeId : NodeId) (messages : List ControllerToDataplane) :
    ControlReceiver × List ControlEffect :=
  messages.foldl (handle nodeId) (new, [])

theorem run_concat (nodeId : NodeId) (messages : List ControllerToDataplane)
    (message : ControllerToDataplane) :
    run nodeId (messages ++ [message]) = handle nodeId (run nodeId messages) message := by
  rw [run, List.foldl_append]
  rfl

end ControlReceiver

/-! ## Reading effects -/

namespace ControlEffect

def tcpStarted : ControlEffect → List Messages.Flow
  | .startTcpFlows flows => flows
  | _ => []

def losslessStarted : ControlEffect → List Messages.Flow
  | .startLosslessFlows flows => flows
  | _ => []

def specStored : ControlEffect → List Messages.Flow
  | .storeFlowSpec flow => [flow]
  | _ => []

def link? : ControlEffect → Option AddNode
  | .connected link => some link
  | _ => none

def isReport : ControlEffect → Bool
  | .nodeTopologyReady _ => true
  | _ => false

end ControlEffect

/-- The flows of a kind that a node was given, in the order in which they came. -/
def toldFlows (kind : Messages.Flow → Bool) (messages : List ControllerToDataplane) :
    List Messages.Flow :=
  (messages.flatMap ControllerToDataplane.flows).filter kind

theorem told_flows_concat (kind : Messages.Flow → Bool) (messages : List ControllerToDataplane)
    (message : ControllerToDataplane) :
    toldFlows kind (messages ++ [message]) = toldFlows kind messages ++ message.flows.filter kind := by
  simp only [toldFlows, List.flatMap_append, List.flatMap_singleton, List.filter_append]

/-- Flows are started once the topology is ready, and wait until then. -/
structure FlowsAccounted (nodeId : NodeId) (messages : List ControllerToDataplane)
    (receiver : ControlReceiver) (effects : List ControlEffect) : Prop where
  ready : receiver.topologyReady = messages.any ControllerToDataplane.isTopologyReady
  tcp : effects.flatMap ControlEffect.tcpStarted ++ receiver.pendingTcpFlows =
    toldFlows (isTcpClient nodeId) messages
  lossless : effects.flatMap ControlEffect.losslessStarted ++ receiver.pendingLosslessFlows =
    toldFlows (isLosslessEnd nodeId) messages
  stored : effects.flatMap ControlEffect.specStored = toldFlows (isTcpServer nodeId) messages
  waiting : receiver.topologyReady = false →
    effects.flatMap ControlEffect.tcpStarted = [] ∧ effects.flatMap ControlEffect.losslessStarted = []
  flushed : receiver.topologyReady = true →
    receiver.pendingTcpFlows = [] ∧ receiver.pendingLosslessFlows = []

/-- A node reports that its links are up once, when it has routes and a group directory; each link
that it was told of is up by then. -/
structure ReportAccounted (messages : List ControllerToDataplane) (receiver : ControlReceiver)
    (effects : List ControlEffect) : Prop where
  counted : receiver.connectedNeighborCount = receiver.expectedNeighborCount
  links : effects.filterMap ControlEffect.link? = messages.filterMap ControllerToDataplane.link?
  routes : receiver.routesInstalled = messages.any ControllerToDataplane.isRoutes
  directory : receiver.groupDirectoryInstalled = messages.any ControllerToDataplane.isDirectory
  sent : receiver.localTopologyReadySent =
    (receiver.routesInstalled && receiver.groupDirectoryInstalled)
  reports : effects.countP ControlEffect.isReport = receiver.localTopologyReadySent.toNat

namespace ControlReceiver

variable {nodeId : NodeId} {messages : List ControllerToDataplane} {receiver : ControlReceiver}
  {effects : List ControlEffect}

/-! ## Flows -/

@[simp] theorem start_tcp_flows_started (flows : List Messages.Flow) :
    (startTcpFlows flows).flatMap ControlEffect.tcpStarted = flows := by
  cases flows <;> simp [startTcpFlows, ControlEffect.tcpStarted]

@[simp] theorem start_lossless_flows_started (flows : List Messages.Flow) :
    (startLosslessFlows flows).flatMap ControlEffect.losslessStarted = flows := by
  cases flows <;> simp [startLosslessFlows, ControlEffect.losslessStarted]

@[simp] theorem start_tcp_flows_others (flows : List Messages.Flow) :
    (startTcpFlows flows).flatMap ControlEffect.losslessStarted = [] ∧
      (startTcpFlows flows).flatMap ControlEffect.specStored = [] := by
  cases flows <;> simp [startTcpFlows, ControlEffect.losslessStarted, ControlEffect.specStored]

@[simp] theorem start_lossless_flows_others (flows : List Messages.Flow) :
    (startLosslessFlows flows).flatMap ControlEffect.tcpStarted = [] ∧
      (startLosslessFlows flows).flatMap ControlEffect.specStored = [] := by
  cases flows <;> simp [startLosslessFlows, ControlEffect.tcpStarted, ControlEffect.specStored]

@[simp] theorem stored_specs (flows : List Messages.Flow) :
    (flows.map ControlEffect.storeFlowSpec).flatMap ControlEffect.specStored = flows ∧
      (flows.map ControlEffect.storeFlowSpec).flatMap ControlEffect.tcpStarted = [] ∧
      (flows.map ControlEffect.storeFlowSpec).flatMap ControlEffect.losslessStarted = [] := by
  induction flows with
  | nil => exact ⟨rfl, rfl, rfl⟩
  | cons flow rest induction =>
    simpa [ControlEffect.specStored, ControlEffect.tcpStarted, ControlEffect.losslessStarted]
      using induction

theorem maybe_send_cases (nodeId : NodeId) (receiver : ControlReceiver) :
    maybeSendLocalTopologyReady nodeId receiver = (receiver, []) ∨
      maybeSendLocalTopologyReady nodeId receiver =
        ({ receiver with localTopologyReadySent := true }, [.nodeTopologyReady nodeId]) := by
  unfold maybeSendLocalTopologyReady
  split_ifs
  · exact .inl rfl
  · exact .inl rfl
  · exact .inl rfl
  · exact .inr rfl

theorem accounted_new (nodeId : NodeId) : FlowsAccounted nodeId [] new [] where
  ready := rfl
  tcp := rfl
  lossless := rfl
  stored := rfl
  waiting _ := ⟨rfl, rfl⟩
  flushed ready := by cases ready

/-- A message without flows, handled with effects that start and store none. -/
theorem accounted_kept (accounted : FlowsAccounted nodeId messages receiver effects)
    {message : ControllerToDataplane} {later : ControlReceiver} {more : List ControlEffect}
    (noFlows : message.flows = []) (notReady : message.isTopologyReady = false)
    (ready : later.topologyReady = receiver.topologyReady)
    (tcp : later.pendingTcpFlows = receiver.pendingTcpFlows)
    (lossless : later.pendingLosslessFlows = receiver.pendingLosslessFlows)
    (silent : more.flatMap ControlEffect.tcpStarted = [] ∧
      more.flatMap ControlEffect.losslessStarted = [] ∧ more.flatMap ControlEffect.specStored = []) :
    FlowsAccounted nodeId (messages ++ [message]) later (effects ++ more) where
  ready := by
    rw [ready, accounted.ready, List.any_append, List.any_cons, notReady]
    simp only [List.any_nil, Bool.or_false]
  tcp := by
    rw [told_flows_concat, noFlows, List.flatMap_append, silent.1, tcp]
    simpa using accounted.tcp
  lossless := by
    rw [told_flows_concat, noFlows, List.flatMap_append, silent.2.1, lossless]
    simpa using accounted.lossless
  stored := by
    rw [told_flows_concat, noFlows, List.flatMap_append, silent.2.2]
    simpa using accounted.stored
  waiting before := by
    rw [ready] at before
    simpa only [List.flatMap_append, silent.1, silent.2.1, List.append_nil]
      using accounted.waiting before
  flushed after := by
    rw [ready] at after
    rw [tcp, lossless]
    exact accounted.flushed after

theorem maybe_send_flows (nodeId : NodeId) (checked : ControlReceiver) :
    (maybeSendLocalTopologyReady nodeId checked).1.topologyReady = checked.topologyReady ∧
      (maybeSendLocalTopologyReady nodeId checked).1.pendingTcpFlows = checked.pendingTcpFlows ∧
      (maybeSendLocalTopologyReady nodeId checked).1.pendingLosslessFlows =
        checked.pendingLosslessFlows ∧
      ∀ effect ∈ (maybeSendLocalTopologyReady nodeId checked).2, effect.tcpStarted = [] ∧
        effect.losslessStarted = [] ∧ effect.specStored = [] := by
  rcases maybe_send_cases nodeId checked with same | sent
  · rw [same]
    simp
  · rw [sent]
    simp [ControlEffect.tcpStarted, ControlEffect.losslessStarted, ControlEffect.specStored]

theorem accounted_checked (accounted : FlowsAccounted nodeId messages receiver effects)
    {message : ControllerToDataplane} {checked : ControlReceiver} {first : ControlEffect}
    (noFlows : message.flows = []) (notReady : message.isTopologyReady = false)
    (ready : checked.topologyReady = receiver.topologyReady)
    (tcp : checked.pendingTcpFlows = receiver.pendingTcpFlows)
    (lossless : checked.pendingLosslessFlows = receiver.pendingLosslessFlows)
    (silent : first.tcpStarted = [] ∧ first.losslessStarted = [] ∧ first.specStored = []) :
    FlowsAccounted nodeId (messages ++ [message]) (maybeSendLocalTopologyReady nodeId checked).1
      (effects ++ first :: (maybeSendLocalTopologyReady nodeId checked).2) := by
  rcases maybe_send_flows nodeId checked with ⟨sameReady, sameTcp, sameLossless, others⟩
  apply accounted_kept accounted noFlows notReady (sameReady.trans ready) (sameTcp.trans tcp)
    (sameLossless.trans lossless)
  simp only [List.flatMap_cons, List.append_eq_nil_iff, List.flatMap_eq_nil_iff]
  refine ⟨⟨silent.1, ?_⟩, ⟨silent.2.1, ?_⟩, silent.2.2, ?_⟩
  · intro effect member
    exact (others effect member).1
  · intro effect member
    exact (others effect member).2.1
  · intro effect member
    exact (others effect member).2.2

theorem accounted_add_flows (accounted : FlowsAccounted nodeId messages receiver effects)
    (flows : List Messages.Flow) :
    FlowsAccounted nodeId (messages ++ [.addFlows flows]) (receiver.addFlows nodeId flows).1
      (effects ++ (receiver.addFlows nodeId flows).2) := by
  rcases accounted with ⟨ready, tcp, lossless, stored, waiting, flushed⟩
  have sameReady : receiver.topologyReady =
      (messages ++ [ControllerToDataplane.addFlows flows]).any
        ControllerToDataplane.isTopologyReady := by
    rw [ready, List.any_append]
    simp [ControllerToDataplane.isTopologyReady]
  have given (kind : Messages.Flow → Bool) :
      toldFlows kind (messages ++ [ControllerToDataplane.addFlows flows]) =
        toldFlows kind messages ++ flows.filter kind :=
    told_flows_concat kind messages _
  cases now : receiver.topologyReady with
  | true =>
    rcases flushed now with ⟨noTcp, noLossless⟩
    rw [noTcp, List.append_nil] at tcp
    rw [noLossless, List.append_nil] at lossless
    simp only [addFlows, now, if_true]
    refine ⟨now ▸ sameReady, ?_, ?_, ?_, ?_, fun _ => ⟨noTcp, noLossless⟩⟩
    · simp [given, tcp, noTcp, List.flatMap_append]
    · simp [given, lossless, noLossless, List.flatMap_append]
    · simp [given, stored, List.flatMap_append]
    · rw [now]
      intro impossible
      cases impossible
  | false =>
    rcases waiting now with ⟨noTcp, noLossless⟩
    rw [noTcp, List.nil_append] at tcp
    rw [noLossless, List.nil_append] at lossless
    simp only [addFlows, now, Bool.false_eq_true, if_false]
    refine ⟨now ▸ sameReady, ?_, ?_, ?_, ?_, ?_⟩
    · simp [given, tcp, noTcp, List.flatMap_append]
    · simp [given, lossless, noLossless, List.flatMap_append]
    · simp [given, stored, List.flatMap_append]
    · intro _
      simp [noTcp, noLossless, List.flatMap_append]
    · intro impossible
      cases impossible

theorem accounted_topology_ready (accounted : FlowsAccounted nodeId messages receiver effects) :
    FlowsAccounted nodeId (messages ++ [.topologyReady])
      (flushPendingFlows { receiver with topologyReady := true }).1
      (effects ++ .runtimeReady :: (flushPendingFlows { receiver with topologyReady := true }).2) := by
  rcases accounted with ⟨ready, tcp, lossless, stored, waiting, flushed⟩
  have given (kind : Messages.Flow → Bool) :
      toldFlows kind (messages ++ [.topologyReady]) = toldFlows kind messages := by
    rw [told_flows_concat]
    exact List.append_nil _
  refine ⟨?_, ?_, ?_, ?_, ?_, fun _ => ⟨rfl, rfl⟩⟩
  · simp [flushPendingFlows, ControllerToDataplane.isTopologyReady]
  · rw [given, ← tcp]
    simp [flushPendingFlows, ControlEffect.tcpStarted]
  · rw [given, ← lossless]
    simp [flushPendingFlows, ControlEffect.losslessStarted]
  · rw [given, ← stored]
    simp [flushPendingFlows, ControlEffect.specStored]
  · intro impossible
    cases impossible

theorem accounted_handle (accounted : FlowsAccounted nodeId messages receiver effects)
    (message : ControllerToDataplane) :
    FlowsAccounted nodeId (messages ++ [message]) (handle nodeId (receiver, effects) message).1
      (handle nodeId (receiver, effects) message).2 := by
  cases message with
  | addNode link => exact accounted_checked accounted rfl rfl rfl rfl rfl ⟨rfl, rfl, rfl⟩
  | installRoutes routes => exact accounted_checked accounted rfl rfl rfl rfl rfl ⟨rfl, rfl, rfl⟩
  | installGroupDirectory groups =>
    exact accounted_checked accounted rfl rfl rfl rfl rfl ⟨rfl, rfl, rfl⟩
  | addFlows flows => exact accounted_add_flows accounted flows
  | topologyReady => exact accounted_topology_ready accounted
  | startUp | addNodeAddress | setLinkRate | groupCreated | installGroupRoutes | probeLink =>
    exact accounted_kept accounted rfl rfl rfl rfl rfl ⟨rfl, rfl, rfl⟩

theorem flows_accounted (nodeId : NodeId) (messages : List ControllerToDataplane) :
    FlowsAccounted nodeId messages (run nodeId messages).1 (run nodeId messages).2 := by
  induction messages using List.reverseRecOn with
  | nil => exact accounted_new nodeId
  | append_singleton messages message induction =>
    rw [run_concat]
    exact accounted_handle induction message

/-- Over any messages: nothing is started before the first TopologyReady, and from then on each flow
is started that the node is an end of, once, in the order in which the flows came. The server side of
TCP flows is set up whether or not the topology is ready. -/
theorem flows_started_once (nodeId : NodeId) (messages : List ControllerToDataplane) :
    (run nodeId messages).2.flatMap ControlEffect.tcpStarted =
        (if messages.any ControllerToDataplane.isTopologyReady then
          toldFlows (isTcpClient nodeId) messages else []) ∧
      (run nodeId messages).2.flatMap ControlEffect.losslessStarted =
        (if messages.any ControllerToDataplane.isTopologyReady then
          toldFlows (isLosslessEnd nodeId) messages else []) ∧
      (run nodeId messages).2.flatMap ControlEffect.specStored =
        toldFlows (isTcpServer nodeId) messages := by
  rcases flows_accounted nodeId messages with ⟨ready, tcp, lossless, stored, waiting, flushed⟩
  rw [← ready]
  refine ⟨?_, ?_, stored⟩
  · cases now : (run nodeId messages).1.topologyReady with
    | true => rwa [(flushed now).1, List.append_nil] at tcp
    | false => exact (waiting now).1
  · cases now : (run nodeId messages).1.topologyReady with
    | true => rwa [(flushed now).2, List.append_nil] at lossless
    | false => exact (waiting now).2

theorem runtime_ready_told (nodeId : NodeId) (messages : List ControllerToDataplane)
    (member : ControlEffect.runtimeReady ∈ (run nodeId messages).2) :
    messages.any ControllerToDataplane.isTopologyReady = true := by
  induction messages using List.reverseRecOn with
  | nil => cases member
  | append_singleton messages message induction =>
    rw [run_concat] at member
    rw [List.any_append, Bool.or_eq_true]
    rcases List.mem_append.mp member with earlier | last
    · exact .inl (induction earlier)
    · right
      have unchecked (later : ControlReceiver) :
          ControlEffect.runtimeReady ∉ (maybeSendLocalTopologyReady nodeId later).2 := by
        rcases maybe_send_cases nodeId later with same | sent
        · simp [same]
        · simp [sent]
      cases message with
      | topologyReady => rfl
      | addFlows flows =>
        simp only [addFlows] at last
        split_ifs at last <;> simp [startTcpFlows, startLosslessFlows] at last
      | _ => simp [recordNeighborConnected, unchecked] at last

/-! ## The report -/

theorem report_accounted_new : ReportAccounted [] new [] where
  counted := rfl
  links := rfl
  routes := rfl
  directory := rfl
  sent := rfl
  reports := rfl

theorem report_kept (accounted : ReportAccounted messages receiver effects)
    {message : ControllerToDataplane} {later : ControlReceiver} {more : List ControlEffect}
    (noLink : message.link? = none) (noRoutes : message.isRoutes = false)
    (noDirectory : message.isDirectory = false)
    (same : ∃ ready tcp lossless, later =
      { receiver with
        topologyReady := ready
        pendingTcpFlows := tcp
        pendingLosslessFlows := lossless })
    (silent : ∀ effect ∈ more, effect.link? = none ∧ effect.isReport = false) :
    ReportAccounted (messages ++ [message]) later (effects ++ more) := by
  rcases accounted with ⟨counted, links, routes, directory, sent, reports⟩
  rcases same with ⟨ready, tcp, lossless, rfl⟩
  have unlinked : more.filterMap ControlEffect.link? = [] :=
    List.filterMap_eq_nil_iff.mpr fun effect member => (silent effect member).1
  have unreported : more.countP ControlEffect.isReport = 0 := by
    rw [List.countP_eq_zero]
    intro effect member
    rw [(silent effect member).2]
    exact Bool.false_ne_true
  refine ⟨counted, ?_, ?_, ?_, sent, ?_⟩
  · rw [List.filterMap_append, List.filterMap_append, unlinked, links]
    simp [noLink]
  · rw [List.any_append, ← routes]
    simp [noRoutes]
  · rw [List.any_append, ← directory]
    simp [noDirectory]
  · rw [List.countP_append, unreported, reports]
    rfl

/-- The check where every link is up: the report is sent if it was not, with routes and directory. -/
theorem maybe_send_counted (nodeId : NodeId) (checked : ControlReceiver)
    (counted : checked.connectedNeighborCount = checked.expectedNeighborCount) :
    maybeSendLocalTopologyReady nodeId checked =
      if checked.localTopologyReadySent = false ∧ checked.routesInstalled = true ∧
          checked.groupDirectoryInstalled = true then
        ({ checked with localTopologyReadySent := true }, [.nodeTopologyReady nodeId])
      else (checked, []) := by
  simp only [maybeSendLocalTopologyReady, counted, Nat.lt_irrefl, if_false]
  cases checked.localTopologyReadySent <;> cases checked.routesInstalled <;>
    cases checked.groupDirectoryInstalled <;> rfl

/-- A check after which the report has been sent exactly if there are routes and a directory. -/
theorem report_checked (accounted : ReportAccounted messages receiver effects)
    {message : ControllerToDataplane} {checked : ControlReceiver} {first : ControlEffect}
    (counted : checked.connectedNeighborCount = checked.expectedNeighborCount)
    (link : first.link? = message.link?) (unreported : first.isReport = false)
    (routes : checked.routesInstalled = (receiver.routesInstalled || message.isRoutes))
    (directory : checked.groupDirectoryInstalled =
      (receiver.groupDirectoryInstalled || message.isDirectory))
    (sent : checked.localTopologyReadySent = receiver.localTopologyReadySent) :
    ReportAccounted (messages ++ [message]) (maybeSendLocalTopologyReady nodeId checked).1
      (effects ++ first :: (maybeSendLocalTopologyReady nodeId checked).2) := by
  have before := accounted.sent
  have once := accounted.reports
  have routesNow : checked.routesInstalled =
      (messages ++ [message]).any ControllerToDataplane.isRoutes := by
    rw [routes, accounted.routes, List.any_append, List.any_cons, List.any_nil, Bool.or_false]
  have directoryNow : checked.groupDirectoryInstalled =
      (messages ++ [message]).any ControllerToDataplane.isDirectory := by
    rw [directory, accounted.directory, List.any_append, List.any_cons, List.any_nil, Bool.or_false]
  have linksNow (more : List ControlEffect) (none : more.filterMap ControlEffect.link? = []) :
      (effects ++ first :: more).filterMap ControlEffect.link? =
        (messages ++ [message]).filterMap ControllerToDataplane.link? := by
    rw [List.filterMap_append, List.filterMap_append, accounted.links, List.filterMap_cons,
      List.filterMap_cons, link, none]
    rfl
  rw [maybe_send_counted nodeId checked counted]
  split_ifs with due
  · refine ⟨counted, linksNow _ rfl, routesNow, directoryNow, ?_, ?_⟩
    · simp only [due.2.1, due.2.2, Bool.and_self]
    · rw [List.countP_append, once, ← sent, due.1, List.countP_cons, unreported]
      rfl
  · refine ⟨counted, linksNow _ rfl, routesNow, directoryNow, ?_, ?_⟩
    · cases now : checked.localTopologyReadySent with
      | true =>
        rw [sent, before, Bool.and_eq_true] at now
        rw [routes, directory, now.1, now.2]
        rfl
      | false =>
        symm
        rw [Bool.and_eq_false_iff, ← Bool.not_eq_true, ← Bool.not_eq_true, ← not_and_or]
        intro both
        exact due ⟨now, both⟩
    · rw [List.countP_append, once, sent]
      simp [unreported]

theorem flow_effects_silent (stored tcp lossless : List Messages.Flow) {effect : ControlEffect}
    (member : effect ∈ stored.map ControlEffect.storeFlowSpec ++ startTcpFlows tcp ++
      startLosslessFlows lossless) : effect.link? = none ∧ effect.isReport = false := by
  simp only [startTcpFlows, startLosslessFlows, List.mem_append, List.mem_map, or_assoc] at member
  rcases member with ⟨flow, _, rfl⟩ | member | member
  · exact ⟨rfl, rfl⟩
  · split_ifs at member
    · cases member
    · cases List.mem_singleton.mp member
      exact ⟨rfl, rfl⟩
  · split_ifs at member
    · cases member
    · cases List.mem_singleton.mp member
      exact ⟨rfl, rfl⟩

theorem report_accounted_handle (accounted : ReportAccounted messages receiver effects)
    (message : ControllerToDataplane) :
    ReportAccounted (messages ++ [message]) (handle nodeId (receiver, effects) message).1
      (handle nodeId (receiver, effects) message).2 := by
  have counted := accounted.counted
  cases message with
  | addNode link =>
    exact report_checked accounted (congrArg (· + 1) counted) rfl rfl (Bool.or_false _).symm
      (Bool.or_false _).symm rfl
  | installRoutes routes =>
    exact report_checked accounted counted rfl rfl (Bool.or_true _).symm (Bool.or_false _).symm rfl
  | installGroupDirectory groups =>
    exact report_checked accounted counted rfl rfl (Bool.or_false _).symm (Bool.or_true _).symm rfl
  | addFlows flows =>
    simp only [handle, processControlMsg, addFlows]
    split_ifs with ready
    · exact report_kept accounted rfl rfl rfl ⟨_, _, _, rfl⟩ fun _ => flow_effects_silent _ _ _
    · apply report_kept accounted rfl rfl rfl ⟨_, _, _, rfl⟩
      intro effect member
      apply flow_effects_silent (flows.filter (isTcpServer nodeId)) [] []
      simpa [startTcpFlows, startLosslessFlows] using member
  | topologyReady =>
    apply report_kept accounted rfl rfl rfl ⟨_, _, _, rfl⟩
    intro effect member
    rcases List.mem_cons.mp member with rfl | member
    · exact ⟨rfl, rfl⟩
    · exact flow_effects_silent [] receiver.pendingTcpFlows receiver.pendingLosslessFlows member
  | startUp | addNodeAddress | setLinkRate | groupCreated | installGroupRoutes | probeLink =>
    apply report_kept accounted rfl rfl rfl ⟨_, _, _, rfl⟩
    simp [ControlEffect.link?, ControlEffect.isReport]

theorem report_accounted (nodeId : NodeId) (messages : List ControllerToDataplane) :
    ReportAccounted messages (run nodeId messages).1 (run nodeId messages).2 := by
  induction messages using List.reverseRecOn with
  | nil => exact report_accounted_new
  | append_singleton messages message induction =>
    rw [run_concat]
    exact report_accounted_handle induction message

theorem report_link {effect : ControlEffect} (report : effect.isReport = true) :
    effect.link? = none := by
  cases effect with
  | nodeTopologyReady => rfl
  | _ => cases report

/-- A report names its node, and is the last effect of its message. -/
theorem report_last {message : ControllerToDataplane} {effect : ControlEffect}
    (member : effect ∈ (receiver.processControlMsg nodeId message).2)
    (report : effect.isReport = true) :
    effect = .nodeTopologyReady nodeId ∧
      ∃ others, (receiver.processControlMsg nodeId message).2 = others ++ [effect] := by
  have checked (later : ControlReceiver) (first : ControlEffect) (other : first.isReport = false)
      (member : effect ∈ first :: (maybeSendLocalTopologyReady nodeId later).2) :
      effect = .nodeTopologyReady nodeId ∧
        ∃ others, first :: (maybeSendLocalTopologyReady nodeId later).2 = others ++ [effect] := by
    rcases List.mem_cons.mp member with rfl | member
    · rw [other] at report
      cases report
    · rcases maybe_send_cases nodeId later with same | sent
      · rw [same] at member
        cases member
      · rw [sent] at member ⊢
        cases List.mem_singleton.mp member
        exact ⟨rfl, [first], rfl⟩
  have silent (quiet : effect.link? = none ∧ effect.isReport = false) : False := by
    rw [quiet.2] at report
    cases report
  cases message with
  | addNode link => exact checked _ _ rfl member
  | installRoutes routes => exact checked _ _ rfl member
  | installGroupDirectory groups => exact checked _ _ rfl member
  | addFlows flows =>
    simp only [processControlMsg, addFlows] at member
    split_ifs at member with ready
    · exact (silent (flow_effects_silent _ _ _ member)).elim
    · refine (silent (flow_effects_silent (flows.filter (isTcpServer nodeId)) [] [] ?_)).elim
      simpa [startTcpFlows, startLosslessFlows] using member
  | topologyReady =>
    rcases List.mem_cons.mp member with rfl | member
    · cases report
    · exact (silent (flow_effects_silent [] receiver.pendingTcpFlows
        receiver.pendingLosslessFlows member)).elim
  | startUp | addNodeAddress | setLinkRate | groupCreated | installGroupRoutes | probeLink =>
    simp only [processControlMsg, List.mem_singleton, List.not_mem_nil] at member
    all_goals cases member
    all_goals cases report

/-- A report in the effects, with the messages handled when it was sent: among them were routes and a
directory, and each link they named was up. -/
theorem report_position {effect : ControlEffect} (member : effect ∈ (run nodeId messages).2)
    (report : effect.isReport = true) :
    ∃ front, front <+: messages ∧ front.any ControllerToDataplane.isRoutes = true ∧
      front.any ControllerToDataplane.isDirectory = true ∧
      ∃ before after, (run nodeId messages).2 = before ++ .nodeTopologyReady nodeId :: after ∧
        (run nodeId front).2 = before ++ [.nodeTopologyReady nodeId] ∧
        before.filterMap ControlEffect.link? = front.filterMap ControllerToDataplane.link? := by
  induction messages using List.reverseRecOn with
  | nil => cases member
  | append_singleton messages message induction =>
    rw [run_concat] at member ⊢
    rcases List.mem_append.mp member with earlier | last
    · rcases induction earlier with
        ⟨front, inside, routes, directory, before, after, split, soFar, links⟩
      refine ⟨front, inside.trans (List.prefix_append _ _), routes, directory, before,
        after ++ ((run nodeId messages).1.processControlMsg nodeId message).2, ?_, soFar, links⟩
      simp only [handle, split, List.append_assoc, List.cons_append]
    · rcases report_last last report with ⟨rfl, others, split⟩
      have whole : (handle nodeId (run nodeId messages) message).2 =
          ((run nodeId messages).2 ++ others) ++ .nodeTopologyReady nodeId :: [] := by
        simp only [handle, split, List.append_assoc]
      have accounted := report_accounted nodeId (messages ++ [message])
      rw [run_concat] at accounted
      have some : 0 < (handle nodeId (run nodeId messages) message).2.countP
          ControlEffect.isReport := List.countP_pos_iff.mpr ⟨_, member, report⟩
      rw [accounted.reports, Nat.pos_iff_ne_zero, ne_eq, Bool.toNat_eq_zero, Bool.not_eq_false,
        accounted.sent, accounted.routes, accounted.directory, Bool.and_eq_true] at some
      have links := accounted.links
      rw [whole, List.filterMap_append, List.filterMap_cons, report_link report] at links
      refine ⟨messages ++ [message], List.prefix_rfl, some.1, some.2, _, [], whole, ?_, ?_⟩
      · rw [run_concat]
        exact whole
      · rw [← links]
        exact (List.append_nil _).symm

/-- Over any messages a node reports once if routes and a group directory are among them, in whatever
order and however often they come, and not at all otherwise; the report is the last effect of the
messages handled by then, among which both are, and every link they name is up. -/
theorem reports_once_wired (nodeId : NodeId) (messages : List ControllerToDataplane) :
    (run nodeId messages).2.countP ControlEffect.isReport =
        (messages.any ControllerToDataplane.isRoutes &&
          messages.any ControllerToDataplane.isDirectory).toNat ∧
      ∀ effect ∈ (run nodeId messages).2, effect.isReport = true →
        ∃ front, front <+: messages ∧ front.any ControllerToDataplane.isRoutes = true ∧
          front.any ControllerToDataplane.isDirectory = true ∧
          ∃ before after, (run nodeId messages).2 = before ++ .nodeTopologyReady nodeId :: after ∧
            (run nodeId front).2 = before ++ [.nodeTopologyReady nodeId] ∧
            before.filterMap ControlEffect.link? =
              front.filterMap ControllerToDataplane.link? := by
  have accounted := report_accounted nodeId messages
  refine ⟨?_, fun effect member report => report_position member report⟩
  rw [accounted.reports, accounted.sent, accounted.routes, accounted.directory]

end ControlReceiver

end Nextmini.Node
