import Mathlib.Algebra.Group.Int.Defs
import Nextmini.Library.TransitionSystem
import Nextmini.Routing.NodeAddresses

/-!
# Ports of controller flows

The client ports that the two managers of controller flows hand out. The user-space client counts up
from a base port and takes no port back; the manager of lossless unicast flows adds the low word of
the controller's flow id to it. Ports are sixteen bit words and wrap. What runs over such a port, the
session or the client thread, is left out but for its end.
-/

namespace Nextmini.Node

open Nextmini.Library Nextmini.Routing

set_option autoImplicit false

structure FlowConfig where
  addresses : LocalConfig
  nodeId : NodeId
  userSpaceClientPort : UInt16
  userSpaceServerPort : UInt16

def FlowConfig.userSpaceAddr (config : FlowConfig) (nodeId : NodeId) : Option Ipv4Addr :=
  ipAddr nodeId config.addresses.userSpaceBaseAddr config.addresses.localNetmask

/-- The flow id of a user-space flow, with the server as its source. -/
def userSpaceFlowId (serverIp clientIp : Ipv4Addr) (serverPort clientPort : UInt16) : FlowId :=
  serverIp.toBitVec.setWidth 128 <<< 96 ||| clientIp.toBitVec.setWidth 128 <<< 64 |||
    serverPort.toBitVec.setWidth 128 <<< 48 ||| clientPort.toBitVec.setWidth 128 <<< 32

def flowIdFromParts (srcIp : Ipv4Addr) (srcPort : UInt16) (dstIp : Ipv4Addr) (dstPort : UInt16) :
    FlowId :=
  let srcDstIp : BitVec 64 := srcIp.toBitVec.setWidth 64 <<< 32 ||| dstIp.toBitVec.setWidth 64
  let srcDstPort : BitVec 32 := srcPort.toBitVec.setWidth 32 <<< 16 ||| dstPort.toBitVec.setWidth 32
  srcDstIp.setWidth 128 <<< 64 ||| srcDstPort.setWidth 128 <<< 32

theorem user_space_client_port (serverIp clientIp : Ipv4Addr) (serverPort clientPort : UInt16) :
    (userSpaceFlowId serverIp clientIp serverPort clientPort >>> 32).setWidth 16 =
      clientPort.toBitVec := by
  apply BitVec.eq_of_getLsbD_eq
  intro bit below
  have inside : 32 + bit < 48 := by omega
  have word : 32 + bit < 64 ∧ 32 + bit < 96 ∧ 32 + bit < 128 ∧ bit < 128 := by omega
  simp [userSpaceFlowId, below, inside, word]

theorem from_parts_client_port (srcIp dstIp : Ipv4Addr) (srcPort dstPort : UInt16) :
    (flowIdFromParts srcIp srcPort dstIp dstPort >>> 48).setWidth 16 = srcPort.toBitVec := by
  apply BitVec.eq_of_getLsbD_eq
  intro bit below
  have inside : 48 + bit < 64 := by omega
  have word : 48 + bit < 128 ∧ ¬48 + bit < 32 ∧ 16 + bit < 128 ∧ 16 + bit < 32 := by omega
  have lane : 48 + bit - 32 = 16 + bit := by omega
  simp [flowIdFromParts, below, inside, word, lane]

/-! ## User-space flows -/

/-- A client thread, with the number of flows that the handle was given before. -/
structure UserSpaceFlow where
  serial : Nat
  dstNodeId : NodeId
  clientPort : UInt16
  flowId : FlowId
  deriving DecidableEq

structure UserSpaceClientHandle where
  nextClientPort : UInt16
  overflowed : Bool
  allotted : Nat
  alive : List UserSpaceFlow

namespace UserSpaceClientHandle

def new (config : FlowConfig) : UserSpaceClientHandle where
  nextClientPort := config.userSpaceClientPort
  overflowed := false
  allotted := 0
  alive := []

/-- Nothing where an address is refused, which is a panic. -/
def addFlow (config : FlowConfig) (handle : UserSpaceClientHandle) (dstNodeId : NodeId) :
    Option UserSpaceClientHandle := do
  let clientPort := handle.nextClientPort + 1
  let clientIp ← config.userSpaceAddr config.nodeId
  let serverIp ← config.userSpaceAddr dstNodeId
  let flowId := userSpaceFlowId serverIp clientIp config.userSpaceServerPort clientPort
  some
    { nextClientPort := clientPort
      overflowed := handle.overflowed || handle.nextClientPort = 65535
      allotted := handle.allotted + 1
      alive := handle.alive ++ [⟨handle.allotted, dstNodeId, clientPort, flowId⟩] }

def addFlows (config : FlowConfig) (handle : UserSpaceClientHandle) :
    List NodeId → Option UserSpaceClientHandle
  | [] => some handle
  | dstNodeId :: rest => (handle.addFlow config dstNodeId).bind fun later => addFlows config later rest

/-- No two clients of one server share a port or a flow id. -/
def SharesNothing (handle : UserSpaceClientHandle) : Prop :=
  handle.alive.Pairwise fun first second => first.dstNodeId = second.dstNodeId →
    first.clientPort ≠ second.clientPort ∧ first.flowId ≠ second.flowId

/-- The ports never ran over their word, and nothing is shared. -/
def Sound (handle : UserSpaceClientHandle) : Prop :=
  handle.overflowed = false ∧ handle.SharesNothing

end UserSpaceClientHandle

inductive FlowOperation (Flow : Type) where
  | addFlows (flows : List Flow)
  | finished (index : Nat)

def userSpaceSystem (config : FlowConfig) :
    TransitionSystem UserSpaceClientHandle (FlowOperation NodeId) where
  initial handle := handle = .new config
  step handle operation later :=
    match operation with
    | .addFlows dstNodeIds => handle.addFlows config dstNodeIds = some later
    | .finished index => later = { handle with alive := handle.alive.eraseIdx index }

/-! ## Lossless unicast flows -/

/-- A flow as the controller hands it out, with the bytes that its length and rate come to. -/
structure Flow where
  controllerId : Option Int32
  srcNodeId : NodeId
  dstNodeId : NodeId
  flowBytes : Option Nat
  deriving DecidableEq

structure LosslessFlow where
  flow : Flow
  clientPort : UInt16
  flowId : FlowId
  deriving DecidableEq

/-- The cast of a 32 bit id to a port. -/
def portOffset (controllerId : Int32) : UInt16 :=
  UInt16.ofBitVec (controllerId.toBitVec.setWidth 16)

def clientPortForFlow (flow : Flow) (basePort : UInt16) : UInt16 :=
  let offset := portOffset (flow.controllerId.getD 0)
  basePort + offset

def flowIdForUnicast (config : FlowConfig) (flow : Flow) (srcPort dstPort : UInt16) :
    Option FlowId := do
  let srcIp ← config.userSpaceAddr flow.srcNodeId
  let dstIp ← config.userSpaceAddr flow.dstNodeId
  some (flowIdFromParts srcIp srcPort dstIp dstPort)

/-- A flow with bytes to send is started where the node is one of its ends. -/
def startFlow (config : FlowConfig) (flow : Flow) : Option LosslessFlow :=
  let clientPort := clientPortForFlow flow config.userSpaceClientPort
  if (flow.srcNodeId = config.nodeId ∨ flow.dstNodeId = config.nodeId) ∧
      0 < flow.flowBytes.getD 0 then
    (flowIdForUnicast config flow clientPort config.userSpaceServerPort).map
      fun flowId => ⟨flow, clientPort, flowId⟩
  else none

/-- The flows alive at a node, over any additions and ends. -/
def losslessSystem (config : FlowConfig) :
    TransitionSystem (List LosslessFlow) (FlowOperation Flow) where
  initial alive := alive = []
  step alive operation later :=
    match operation with
    | .addFlows flows => later = alive ++ flows.filterMap (startFlow config)
    | .finished index => later = alive.eraseIdx index

namespace LosslessFlow

/-- Two flows between the same pair of nodes, in the same direction or against it. -/
def SamePair (first second : LosslessFlow) : Prop :=
  (first.flow.srcNodeId = second.flow.srcNodeId ∧ first.flow.dstNodeId = second.flow.dstNodeId) ∨
    (first.flow.srcNodeId = second.flow.dstNodeId ∧ first.flow.dstNodeId = second.flow.srcNodeId)

def SharesNothing (alive : List LosslessFlow) : Prop :=
  alive.Pairwise fun first second => first.SamePair second →
    first.clientPort ≠ second.clientPort ∧ first.flowId ≠ second.flowId

/-- The controller's number of a flow; a flow without one counts as number zero. -/
def number (lossless : LosslessFlow) : Int := (lossless.flow.controllerId.getD 0).toInt

/-- The numbers of the flows of one pair differ in their low words. -/
def NumbersApart (alive : List LosslessFlow) : Prop :=
  alive.Pairwise fun first second => first.SamePair second →
    first.number % 2 ^ 16 ≠ second.number % 2 ^ 16

end LosslessFlow

/-! ## Serial numbers and ports -/

theorem port_add_eq_iff (base : UInt16) (first second : Nat) :
    base + UInt16.ofNat first = base + UInt16.ofNat second ↔
      first % 2 ^ 16 = second % 2 ^ 16 := by
  rw [← UInt16.toNat_inj, UInt16.toNat_add, UInt16.toNat_add, UInt16.toNat_ofNat',
    UInt16.toNat_ofNat']
  omega

/-- A client thread has the port of its number, and its flow id carries the port. -/
structure UserSpaceFlow.Numbered (config : FlowConfig) (flow : UserSpaceFlow) : Prop where
  port : flow.clientPort = config.userSpaceClientPort + UInt16.ofNat (flow.serial + 1)
  carried : (flow.flowId >>> 32).setWidth 16 = flow.clientPort.toBitVec

namespace UserSpaceClientHandle

variable {config : FlowConfig} {handle later : UserSpaceClientHandle}

structure Allotted (config : FlowConfig) (handle : UserSpaceClientHandle) : Prop where
  next : handle.nextClientPort = config.userSpaceClientPort + UInt16.ofNat handle.allotted
  overflow : handle.overflowed = true ↔
    2 ^ 16 ≤ config.userSpaceClientPort.toNat + handle.allotted
  numbered : ∀ flow ∈ handle.alive, flow.Numbered config ∧ flow.serial < handle.allotted
  ordered : handle.alive.Pairwise fun first second => first.serial < second.serial

theorem add_flow_allotted {dstNodeId : NodeId} (holds : Allotted config handle)
    (added : handle.addFlow config dstNodeId = some later) : Allotted config later := by
  simp only [addFlow, Option.bind_eq_bind, Option.bind_eq_some_iff, Option.some.injEq] at added
  rcases added with ⟨clientIp, _, serverIp, _, rfl⟩
  have port : handle.nextClientPort + 1 =
      config.userSpaceClientPort + UInt16.ofNat (handle.allotted + 1) := by
    rw [holds.next, UInt16.ofNat_add, UInt16.add_assoc]
    rfl
  constructor
  · exact port
  · have word := holds.next
    have below := config.userSpaceClientPort.toNat_lt
    rw [← UInt16.toNat_inj, UInt16.toNat_add, UInt16.toNat_ofNat'] at word
    have last : handle.nextClientPort = 65535 ↔ handle.nextClientPort.toNat = 65535 :=
      UInt16.toNat_inj.symm
    simp only [Bool.or_eq_true, holds.overflow, decide_eq_true_eq, last]
    omega
  · intro flow member
    rcases List.mem_append.mp member with earlier | new
    · rcases holds.numbered flow earlier with ⟨numbered, before⟩
      exact ⟨numbered, Nat.lt_succ_of_lt before⟩
    · rw [List.mem_singleton.mp new]
      exact ⟨⟨port, user_space_client_port _ _ _ _⟩, Nat.lt_succ_self _⟩
  · rw [List.pairwise_append]
    refine ⟨holds.ordered, List.pairwise_singleton _ _, ?_⟩
    intro flow member other new
    rw [List.mem_singleton.mp new]
    exact (holds.numbered flow member).2

theorem add_flows_allotted {dstNodeIds : List NodeId} (holds : Allotted config handle)
    (added : handle.addFlows config dstNodeIds = some later) : Allotted config later := by
  induction dstNodeIds generalizing handle with
  | nil =>
    cases added
    exact holds
  | cons dstNodeId rest induction =>
    rw [addFlows, Option.bind_eq_some_iff] at added
    rcases added with ⟨middle, first, added⟩
    exact induction (add_flow_allotted holds first) added

theorem reachable_allotted (reachable : (userSpaceSystem config).Reachable handle) :
    Allotted config handle := by
  apply TransitionSystem.invariant_of_reachable (motive := Allotted config) _ _ reachable
  · rintro _ rfl
    refine ⟨(UInt16.add_zero _).symm, ?_, nofun, .nil⟩
    have below := config.userSpaceClientPort.toNat_lt
    simp only [new, Bool.false_eq_true, false_iff]
    omega
  · intro before operation later holds step
    cases operation with
    | addFlows dstNodeIds => exact add_flows_allotted holds step
    | finished index =>
      have removed : later = { before with alive := before.alive.eraseIdx index } := step
      subst removed
      refine ⟨holds.next, holds.overflow, ?_, ?_⟩
      · intro flow member
        exact holds.numbered flow (List.mem_of_mem_eraseIdx member)
      · exact holds.ordered.sublist (List.eraseIdx_sublist _ _)

/-- Two clients of a server share a port where their numbers differ by a multiple of the word. -/
theorem Allotted.shares_nothing_iff (holds : Allotted config handle) : handle.SharesNothing ↔
    handle.alive.Pairwise fun first second => first.dstNodeId = second.dstNodeId →
      first.serial % 2 ^ 16 ≠ second.serial % 2 ^ 16 := by
  apply List.Pairwise.iff_of_mem
  intro first second member otherMember
  have port := (holds.numbered first member).1
  have otherPort := (holds.numbered second otherMember).1
  have same : first.clientPort = second.clientPort ↔
      first.serial % 2 ^ 16 = second.serial % 2 ^ 16 := by
    rw [port.port, otherPort.port, port_add_eq_iff]
    omega
  have carried : first.flowId = second.flowId → first.clientPort = second.clientPort := by
    intro equal
    rw [← UInt16.toBitVec_inj, ← port.carried, ← otherPort.carried, equal]
  rw [ne_eq, same, ne_eq]
  constructor
  · intro unshared server
    exact (unshared server).1
  · intro apart server
    exact ⟨apart server, fun equal => apart server (same.mp (carried equal))⟩

theorem Allotted.sound_iff (holds : Allotted config handle) :
    handle.Sound ↔ config.userSpaceClientPort.toNat + handle.allotted < 2 ^ 16 := by
  have fits : handle.overflowed = false ↔
      config.userSpaceClientPort.toNat + handle.allotted < 2 ^ 16 := by
    rw [← Bool.not_eq_true, holds.overflow, not_le]
  rw [Sound, fits, holds.shares_nothing_iff]
  refine ⟨And.left, fun room => ⟨room, ?_⟩⟩
  apply List.Pairwise.imp_of_mem _ holds.ordered
  intro first second _ member before _
  have below := (holds.numbered second member).2
  omega

end UserSpaceClientHandle

/-! ## Controller ids and ports -/

theorem port_offset_eq (controllerId : Int32) :
    ((portOffset controllerId).toNat : Int) = controllerId.toInt % 2 ^ 16 := by
  have cut : (portOffset controllerId).toNat = controllerId.toBitVec.toNat % 2 ^ 16 :=
    BitVec.toNat_setWidth 16 controllerId.toBitVec
  have signed : controllerId.toInt = controllerId.toBitVec.toInt := rfl
  rw [cut, signed, BitVec.toInt_eq_toNat_cond]
  split_ifs
  · omega
  · omega

namespace LosslessFlow

variable {config : FlowConfig}

/-- A started flow has the port of its controller id, and its flow id carries the port. -/
structure Numbered (config : FlowConfig) (lossless : LosslessFlow) : Prop where
  port : lossless.clientPort = clientPortForFlow lossless.flow config.userSpaceClientPort
  carried : (lossless.flowId >>> 48).setWidth 16 = lossless.clientPort.toBitVec

theorem start_flow_numbered {flow : Flow} {lossless : LosslessFlow}
    (started : startFlow config flow = some lossless) : lossless.Numbered config := by
  simp only [startFlow, flowIdForUnicast, Option.bind_eq_bind] at started
  split_ifs at started
  simp only [Option.map_eq_some_iff, Option.bind_eq_some_iff, Option.some.injEq] at started
  rcases started with ⟨_, ⟨srcIp, _, dstIp, _, rfl⟩, rfl⟩
  exact ⟨rfl, from_parts_client_port _ _ _ _⟩

theorem reachable_numbered {alive : List LosslessFlow}
    (reachable : (losslessSystem config).Reachable alive) :
    ∀ lossless ∈ alive, lossless.Numbered config := by
  apply TransitionSystem.invariant_of_reachable
    (motive := fun alive => ∀ lossless ∈ alive, lossless.Numbered config) _ _ reachable
  · rintro _ rfl
    exact nofun
  · intro before operation later holds step
    cases operation with
    | addFlows flows =>
      have added : later = before ++ flows.filterMap (startFlow config) := step
      rw [added]
      intro lossless member
      rcases List.mem_append.mp member with earlier | new
      · exact holds lossless earlier
      · rcases List.mem_filterMap.mp new with ⟨flow, _, started⟩
        exact start_flow_numbered started
    | finished index =>
      have removed : later = before.eraseIdx index := step
      rw [removed]
      exact fun lossless member => holds lossless (List.mem_of_mem_eraseIdx member)

theorem same_port_iff {first second : LosslessFlow} (numbered : first.Numbered config)
    (otherNumbered : second.Numbered config) :
    first.clientPort = second.clientPort ↔ first.number % 2 ^ 16 = second.number % 2 ^ 16 := by
  rw [numbered.port, otherNumbered.port, clientPortForFlow, clientPortForFlow, number, number,
    ← port_offset_eq, ← port_offset_eq]
  simp only [UInt16.add_right_inj, Int.natCast_inj, UInt16.toNat_inj]

theorem shares_nothing_iff {alive : List LosslessFlow}
    (numbered : ∀ lossless ∈ alive, lossless.Numbered config) :
    SharesNothing alive ↔ NumbersApart alive := by
  apply List.Pairwise.iff_of_mem
  intro first second member otherMember
  have same := same_port_iff (numbered first member) (numbered second otherMember)
  have carried : first.flowId = second.flowId → first.clientPort = second.clientPort := by
    intro equal
    rw [← UInt16.toBitVec_inj, ← (numbered first member).carried,
      ← (numbered second otherMember).carried, equal]
  rw [ne_eq, same, ne_eq]
  constructor
  · intro unshared pair
    exact (unshared pair).1
  · intro apart pair
    exact ⟨apart pair, fun equal => apart pair (same.mp (carried equal))⟩

end LosslessFlow

/-- Over any additions and ends, the user-space client is sound exactly until its ports run over their
word, its flows share a port exactly where their numbers differ by a multiple of the word, and the
lossless flows of a pair share one exactly where their controller ids do. -/
theorem flow_ports_iff (config : FlowConfig) :
    (∀ handle, (userSpaceSystem config).Reachable handle →
      (handle.Sound ↔ config.userSpaceClientPort.toNat + handle.allotted < 2 ^ 16) ∧
        (handle.SharesNothing ↔ handle.alive.Pairwise fun first second =>
          first.dstNodeId = second.dstNodeId → first.serial % 2 ^ 16 ≠ second.serial % 2 ^ 16)) ∧
      ∀ alive, (losslessSystem config).Reachable alive →
        (LosslessFlow.SharesNothing alive ↔ LosslessFlow.NumbersApart alive) := by
  constructor
  · intro handle reachable
    have holds := UserSpaceClientHandle.reachable_allotted reachable
    exact ⟨holds.sound_iff, holds.shares_nothing_iff⟩
  · intro alive reachable
    exact LosslessFlow.shares_nothing_iff (LosslessFlow.reachable_numbered reachable)

def lastPortConfig : FlowConfig := ⟨defaultConfig, 1, 65535, 8888⟩

def flowToTwo (controllerId : Int32) : Flow := ⟨some controllerId, 1, 2, some 4096⟩

/-- With the last port as the base the first user-space flow overflows it. The lossless flows 1 and
65537 between the same nodes are alive together with one port and one flow id. -/
theorem ports_run_over_and_collide :
    (∃ handle, (userSpaceSystem lastPortConfig).Reachable handle ∧ handle.alive.length = 1 ∧
      handle.overflowed = true ∧ ¬handle.Sound) ∧
    ∃ alive, (losslessSystem lastPortConfig).Reachable alive ∧
      alive.map (·.flow) = [flowToTwo 1, flowToTwo 65537] ∧
      (∃ clientPort flowId, ∀ lossless ∈ alive,
        lossless.clientPort = clientPort ∧ lossless.flowId = flowId) ∧
      ¬LosslessFlow.SharesNothing alive := by
  constructor
  · have start : (userSpaceSystem lastPortConfig).Reachable (.new lastPortConfig) :=
      TransitionSystem.reachable_of_initial rfl
    have step : (userSpaceSystem lastPortConfig).step (.new lastPortConfig) (.addFlows [2])
        ⟨0, true, 1, [⟨0, 2, 0, userSpaceFlowId 0xc0a80002 0xc0a80001 8888 0⟩]⟩ := rfl
    refine ⟨_, start.step step, rfl, rfl, fun sound => ?_⟩
    exact absurd sound.1 (by decide)
  · have start : (losslessSystem lastPortConfig).Reachable [] :=
      TransitionSystem.reachable_of_initial rfl
    have step : (losslessSystem lastPortConfig).step [] (.addFlows [flowToTwo 1, flowToTwo 65537])
        [⟨flowToTwo 1, 0, flowIdFromParts 0xc0a80001 0 0xc0a80002 8888⟩,
          ⟨flowToTwo 65537, 0, flowIdFromParts 0xc0a80001 0 0xc0a80002 8888⟩] := rfl
    refine ⟨_, start.step step, rfl, ⟨0, flowIdFromParts 0xc0a80001 0 0xc0a80002 8888, ?_⟩, ?_⟩
    · simp
    · intro shares
      have apart := List.rel_of_pairwise_cons shares (List.mem_singleton_self _)
      exact (apart (.inl ⟨rfl, rfl⟩)).1 rfl

end Nextmini.Node
