import Nextmini.Library.TransitionSystem
import Nextmini.Routing.RoutingTable
import Mathlib.Data.Finset.Basic

/-!
# Local writer

The reorder buffer in front of the TUN device. A producer puts TCP data into one heap a flow and
marks the flow active; a consumer, woken by a notification, goes over the active flows and takes
from each heap what is in order or stale. Both writers are here: the one for segmentation offload
takes the lock of the gap deadlines also where no gap timeout is set.

Each acquisition of a lock is a step of its own, together with what its task does up to the next
one. A lock that a task holds while it acquires another one is shut for the other task. What is
written to the device and the shutdown of both tasks are left out.
-/

namespace Nextmini.Node

open Nextmini.Library Nextmini.Routing

set_option autoImplicit false

/-! ## Packets -/

/-- What the writer reads of a packet. -/
structure TcpPacket where
  flowId : FlowId
  seqNum : UInt32
  isTcpData : Bool
  isTcpSyn : Bool
  isTcpFinOrRst : Bool
  tcpPayloadLen : Nat
  deriving DecidableEq, Repr

/-- The wrapped difference, read as a signed number, is negative. -/
def seqLess (a b : UInt32) : Bool := 2 ^ 31 ≤ (a - b).toNat

/-- The comparison is an order on the packets of a heap. -/
def Ordered (heap : List TcpPacket) : Prop :=
  ∀ first ∈ heap, ∀ second ∈ heap, ∀ third ∈ heap, seqLess first.seqNum second.seqNum →
    seqLess second.seqNum third.seqNum → seqLess first.seqNum third.seqNum

/-- A packet that `peek` and `pop` may give. Where the comparison is no order, a binary heap does not
say which packet that is. -/
structure IsTop (heap : List TcpPacket) (top : TcpPacket) : Prop where
  member : top ∈ heap
  least : Ordered heap → ∀ other ∈ heap, seqLess other.seqNum top.seqNum = false

/-- The expected number, moved up to `next` unless it is there already. -/
def raiseTo (expected : Option UInt32) (next : UInt32) : UInt32 :=
  match expected with
  | none => next
  | some expected => if seqLess expected next then next else expected

def nextExpected (expected : UInt32) (packet : TcpPacket) : UInt32 :=
  expected + (UInt32.ofNat packet.tcpPayloadLen + if packet.isTcpFinOrRst then 1 else 0)

/-! ## The tasks -/

structure WriterConfig where
  enforceOrder : Bool
  gapTimeout : Option Nat
  backlogTolerance : Nat
  segmentationOffload : Bool
  deriving DecidableEq, Repr

/-- From `synSeeded` on the producer holds the lock of the expected numbers, from `synInserted` on
that of the active flows too; `finRaised` holds the lock of the expected numbers. -/
inductive ProducerPhase where
  | receiving
  | pushed (flowId : FlowId)
  | inserted (flowId : FlowId)
  | synSeeded (flowId : FlowId)
  | synInserted (flowId : FlowId)
  | finRaised (flowId : FlowId)
  deriving DecidableEq, Repr

/-- One pass over the active flows. -/
structure Round where
  flowId : FlowId
  rest : List FlowId
  progressedAny : Bool
  deriving DecidableEq, Repr

/-- Where the consumer is with a flow. After a delivery has emptied the heap, the visit goes on. In
`deactivated` the lock of the active flows is held. -/
inductive VisitPhase where
  | peeking
  | deactivating (delivered : Bool)
  | deactivated (delivered : Bool)
  | reading (topSeq : UInt32)
  | checkingStale (topSeq expected : UInt32)
  | measuring (topSeq expected : UInt32)
  | forgiving (topSeq expected : UInt32)
  | advancing (topSeq expected : UInt32)
  | popping (expected : UInt32)
  | popped (packet : TcpPacket) (expected : UInt32)
  | raising (next : UInt32)
  | clearing
  | checkingEmpty
  | poppingStale
  | timing (topSeq : UInt32)
  | skipping (topSeq : UInt32)
  deriving DecidableEq, Repr

inductive ConsumerPhase where
  | stopped
  | waiting
  | collecting
  | visiting (round : Round) (phase : VisitPhase)
  deriving DecidableEq, Repr

/-- `sleepers` counts the spawned tasks that notify the consumer after the gap timeout. -/
structure LocalWriter where
  queueMap : FlowId → List TcpPacket
  activeFlows : Finset FlowId
  queueNotEmpty : Bool
  sleepers : Nat
  expectedSeqMap : FlowId → Option UInt32
  gapDeadlines : FlowId → Option Nat
  producer : ProducerPhase
  consumer : ConsumerPhase

def LocalWriter.new (config : WriterConfig) : LocalWriter where
  queueMap _ := []
  activeFlows := ∅
  queueNotEmpty := false
  sleepers := 0
  expectedSeqMap _ := none
  gapDeadlines _ := none
  producer := .receiving
  consumer := if config.enforceOrder then .waiting else .stopped

/-! ## Control flow of the consumer -/

def startRound : List FlowId → ConsumerPhase
  | [] => .waiting
  | flowId :: rest => .visiting ⟨flowId, rest, false⟩ .peeking

def Round.progress (round : Round) : Round := { round with progressedAny := true }

def Round.next (round : Round) : ConsumerPhase :=
  match round.rest with
  | flowId :: rest =>
      .visiting { round with
        flowId := flowId
        rest := rest } .peeking
  | [] => if round.progressedAny then .collecting else .waiting

/-- Where the visit goes on behind the check of the backlog. -/
def Round.afterBacklog (config : WriterConfig) (round : Round) (topSeq expected : UInt32) :
    ConsumerPhase :=
  if topSeq = expected then .visiting round (.popping expected)
  else if seqLess topSeq expected then .visiting round .poppingStale
  else if config.segmentationOffload ∨ config.gapTimeout.isSome then
    .visiting round (.timing topSeq)
  else round.next

def Round.afterStale (config : WriterConfig) (round : Round) (topSeq expected : UInt32) :
    ConsumerPhase :=
  if 0 < config.backlogTolerance ∧ topSeq ≠ expected then
    .visiting round (.measuring topSeq expected)
  else round.afterBacklog config topSeq expected

/-! ## Steps -/

namespace LocalWriter

def setQueue (writer : LocalWriter) (flowId : FlowId) (heap : List TcpPacket) :
    FlowId → List TcpPacket :=
  Function.update writer.queueMap flowId heap

def setExpected (writer : LocalWriter) (flowId : FlowId) (expected : UInt32) :
    FlowId → Option UInt32 :=
  Function.update writer.expectedSeqMap flowId (some expected)

def setDeadline (writer : LocalWriter) (flowId : FlowId) (deadline : Option Nat) :
    FlowId → Option Nat :=
  Function.update writer.gapDeadlines flowId deadline

def seed (writer : LocalWriter) (packet : TcpPacket) : LocalWriter :=
  { writer with
    expectedSeqMap := writer.setExpected packet.flowId (packet.seqNum + 1)
    producer := .synSeeded packet.flowId }

def raise (writer : LocalWriter) (packet : TcpPacket) : LocalWriter :=
  { writer with
    expectedSeqMap := writer.setExpected packet.flowId
      (raiseTo (writer.expectedSeqMap packet.flowId) (packet.seqNum + 1))
    producer := .finRaised packet.flowId }

/-- The lock of the expected numbers is free for the consumer. -/
def ExpectedFree (writer : LocalWriter) : Prop :=
  ∀ flowId, writer.producer ≠ .synSeeded flowId ∧ writer.producer ≠ .synInserted flowId ∧
    writer.producer ≠ .finRaised flowId

/-- The lock of the active flows is free for the consumer. -/
def ActiveFree (writer : LocalWriter) : Prop := ∀ flowId, writer.producer ≠ .synInserted flowId

/-- The lock of the active flows is free for the producer. -/
def ActiveOpen (writer : LocalWriter) : Prop :=
  ∀ round delivered, writer.consumer ≠ .visiting round (.deactivated delivered)

end LocalWriter

/-- The packets that go to the device past the heaps and change nothing. -/
def TcpPacket.forwarded (config : WriterConfig) (packet : TcpPacket) : Bool :=
  if packet.isTcpData then !config.enforceOrder
  else !config.enforceOrder || (!packet.isTcpSyn && !packet.isTcpFinOrRst)

inductive WriterLabel where
  | pushed (packet : TcpPacket)
  | inserted
  | notified
  | seeded (packet : TcpPacket)
  | seedInserted
  | seedCleared
  | raised (packet : TcpPacket)
  | raiseCleared
  | forwarded (packet : TcpPacket)
  | slept
  | woken
  | collected (flowIds : List FlowId)
  | peeked (flowId : FlowId) (top : TcpPacket)
  | peekedNone
  | deactivated (flowId : FlowId)
  | deadlineDropped
  | expectedRead
  | stalePopped
  | freshKept
  | backlogMeasured
  | backlogForgiven
  | expectedAdvanced
  | popped
  | poppedNone
  | expectedReread
  | expectedRaised
  | deadlineCleared
  | emptyChecked
  | topPopped
  | topMissing
  | deadlineReached (now : Nat)
  | deadlineAhead (now : Nat)
  | timerArmed (now : Nat)
  | gapSkipped

inductive ProducerStep (config : WriterConfig) (writer : LocalWriter) :
    WriterLabel → LocalWriter → Prop
  | pushed (packet : TcpPacket) :
      writer.producer = .receiving → packet.isTcpData = true → config.enforceOrder = true →
        ProducerStep config writer (.pushed packet)
          { writer with
            queueMap := writer.setQueue packet.flowId (packet :: writer.queueMap packet.flowId)
            producer := .pushed packet.flowId }
  | inserted (flowId : FlowId) :
      writer.producer = .pushed flowId → writer.ActiveOpen →
        ProducerStep config writer .inserted
          { writer with
            activeFlows := insert flowId writer.activeFlows
            producer := .inserted flowId }
  | notified (flowId : FlowId) :
      writer.producer = .inserted flowId →
        ProducerStep config writer .notified
          { writer with
            queueNotEmpty := true
            producer := .receiving }
  | seeded (packet : TcpPacket) :
      writer.producer = .receiving → packet.isTcpData = false → config.enforceOrder = true →
        packet.isTcpSyn = true → ProducerStep config writer (.seeded packet) (writer.seed packet)
  | seedInserted (flowId : FlowId) :
      writer.producer = .synSeeded flowId → writer.ActiveOpen →
        ProducerStep config writer .seedInserted
          { writer with
            activeFlows := insert flowId writer.activeFlows
            producer := .synInserted flowId }
  | seedCleared (flowId : FlowId) :
      writer.producer = .synInserted flowId →
        ProducerStep config writer .seedCleared
          { writer with
            gapDeadlines := writer.setDeadline flowId none
            producer := .receiving }
  | raised (packet : TcpPacket) :
      writer.producer = .receiving → packet.isTcpData = false → config.enforceOrder = true →
        packet.isTcpSyn = false → packet.isTcpFinOrRst = true →
          ProducerStep config writer (.raised packet) (writer.raise packet)
  | raiseCleared (flowId : FlowId) :
      writer.producer = .finRaised flowId →
        ProducerStep config writer .raiseCleared
          { writer with
            gapDeadlines := writer.setDeadline flowId none
            producer := .receiving }
  | forwarded (packet : TcpPacket) :
      writer.producer = .receiving → packet.forwarded config = true →
        ProducerStep config writer (.forwarded packet) writer

inductive ConsumerStep (config : WriterConfig) (writer : LocalWriter) :
    WriterLabel → LocalWriter → Prop
  | woken :
      writer.consumer = .waiting → writer.queueNotEmpty = true →
        ConsumerStep config writer .woken
          { writer with
            queueNotEmpty := false
            consumer := .collecting }
  | collected (flowIds : List FlowId) :
      writer.consumer = .collecting → writer.ActiveFree → flowIds.Nodup →
        (∀ flowId, flowId ∈ flowIds ↔ flowId ∈ writer.activeFlows) →
          ConsumerStep config writer (.collected flowIds)
            { writer with consumer := startRound flowIds }
  | peeked (round : Round) (top : TcpPacket) :
      writer.consumer = .visiting round .peeking → IsTop (writer.queueMap round.flowId) top →
        ConsumerStep config writer (.peeked round.flowId top)
          { writer with consumer := .visiting round (.reading top.seqNum) }
  | peekedNone (round : Round) :
      writer.consumer = .visiting round .peeking → writer.queueMap round.flowId = [] →
        ConsumerStep config writer .peekedNone
          { writer with consumer := .visiting round (.deactivating false) }
  | deactivated (round : Round) (delivered : Bool) :
      writer.consumer = .visiting round (.deactivating delivered) → writer.ActiveFree →
        ConsumerStep config writer (.deactivated round.flowId)
          { writer with
            activeFlows := writer.activeFlows.erase round.flowId
            consumer := .visiting round (.deactivated delivered) }
  | deadlineDropped (round : Round) (delivered : Bool) :
      writer.consumer = .visiting round (.deactivated delivered) →
        ConsumerStep config writer .deadlineDropped
          { writer with
            gapDeadlines := writer.setDeadline round.flowId none
            consumer := if delivered then .visiting round .peeking else round.next }
  | expectedRead (round : Round) (topSeq expected : UInt32) :
      writer.consumer = .visiting round (.reading topSeq) → writer.ExpectedFree →
        expected = (writer.expectedSeqMap round.flowId).getD topSeq →
          ConsumerStep config writer .expectedRead
            { writer with
              expectedSeqMap := writer.setExpected round.flowId expected
              consumer := .visiting round (.checkingStale topSeq expected) }
  | stalePopped (round : Round) (topSeq expected : UInt32) (packet : TcpPacket) :
      writer.consumer = .visiting round (.checkingStale topSeq expected) →
        IsTop (writer.queueMap round.flowId) packet → seqLess packet.seqNum expected = true →
          ConsumerStep config writer .stalePopped
            { writer with
              queueMap := writer.setQueue round.flowId
                ((writer.queueMap round.flowId).erase packet)
              consumer := .visiting round.progress .peeking }
  | freshKept (round : Round) (topSeq expected : UInt32) :
      writer.consumer = .visiting round (.checkingStale topSeq expected) →
        (writer.queueMap round.flowId = [] ∨ ∃ packet, IsTop (writer.queueMap round.flowId) packet ∧
          seqLess packet.seqNum expected = false) →
          ConsumerStep config writer .freshKept
            { writer with consumer := round.afterStale config topSeq expected }
  | backlogMeasured (round : Round) (topSeq expected : UInt32) :
      writer.consumer = .visiting round (.measuring topSeq expected) →
        ConsumerStep config writer .backlogMeasured
          { writer with
            consumer :=
              if config.backlogTolerance ≤ (writer.queueMap round.flowId).length then
                .visiting round (.forgiving topSeq expected)
              else round.afterBacklog config topSeq expected }
  | backlogForgiven (round : Round) (topSeq expected : UInt32) :
      writer.consumer = .visiting round (.forgiving topSeq expected) →
        ConsumerStep config writer .backlogForgiven
          { writer with
            gapDeadlines := writer.setDeadline round.flowId none
            consumer := .visiting round (.advancing topSeq expected) }
  | expectedAdvanced (round : Round) (topSeq expected : UInt32) :
      writer.consumer = .visiting round (.advancing topSeq expected) → writer.ExpectedFree →
        ConsumerStep config writer .expectedAdvanced
          { writer with
            expectedSeqMap := writer.setExpected round.flowId
              (raiseTo (writer.expectedSeqMap round.flowId) topSeq)
            consumer := round.progress.afterBacklog config topSeq expected }
  | popped (round : Round) (expected : UInt32) (packet : TcpPacket) :
      writer.consumer = .visiting round (.popping expected) →
        IsTop (writer.queueMap round.flowId) packet →
          ConsumerStep config writer .popped
            { writer with
              queueMap := writer.setQueue round.flowId
                ((writer.queueMap round.flowId).erase packet)
              consumer := .visiting round (.popped packet expected) }
  | poppedNone (round : Round) (expected : UInt32) :
      writer.consumer = .visiting round (.popping expected) → writer.queueMap round.flowId = [] →
        ConsumerStep config writer .poppedNone { writer with consumer := round.next }
  | expectedReread (round : Round) (packet : TcpPacket) (expected : UInt32) :
      writer.consumer = .visiting round (.popped packet expected) → writer.ExpectedFree →
        ConsumerStep config writer .expectedReread
          { writer with
            consumer := .visiting round (.raising
              (nextExpected ((writer.expectedSeqMap round.flowId).getD expected) packet)) }
  | expectedRaised (round : Round) (next : UInt32) :
      writer.consumer = .visiting round (.raising next) → writer.ExpectedFree →
        ConsumerStep config writer .expectedRaised
          { writer with
            expectedSeqMap := writer.setExpected round.flowId
              (raiseTo (writer.expectedSeqMap round.flowId) next)
            consumer := .visiting round .clearing }
  | deadlineCleared (round : Round) :
      writer.consumer = .visiting round .clearing →
        ConsumerStep config writer .deadlineCleared
          { writer with
            gapDeadlines := writer.setDeadline round.flowId none
            consumer := .visiting round.progress .checkingEmpty }
  | emptyChecked (round : Round) :
      writer.consumer = .visiting round .checkingEmpty →
        ConsumerStep config writer .emptyChecked
          { writer with
            consumer := .visiting round
              (if writer.queueMap round.flowId = [] then .deactivating true else .peeking) }
  | topPopped (round : Round) (packet : TcpPacket) :
      writer.consumer = .visiting round .poppingStale →
        IsTop (writer.queueMap round.flowId) packet →
          ConsumerStep config writer .topPopped
            { writer with
              queueMap := writer.setQueue round.flowId
                ((writer.queueMap round.flowId).erase packet)
              consumer := .visiting round.progress .peeking }
  | topMissing (round : Round) :
      writer.consumer = .visiting round .poppingStale → writer.queueMap round.flowId = [] →
        ConsumerStep config writer .topMissing
          { writer with consumer := .visiting round.progress .peeking }
  | deadlineReached (round : Round) (topSeq : UInt32) (now deadline : Nat) :
      writer.consumer = .visiting round (.timing topSeq) →
        writer.gapDeadlines round.flowId = some deadline → deadline ≤ now →
          ConsumerStep config writer (.deadlineReached now)
            { writer with
              gapDeadlines := writer.setDeadline round.flowId none
              consumer := .visiting round (.skipping topSeq) }
  | deadlineAhead (round : Round) (topSeq : UInt32) (now deadline : Nat) :
      writer.consumer = .visiting round (.timing topSeq) →
        writer.gapDeadlines round.flowId = some deadline → now < deadline →
          ConsumerStep config writer (.deadlineAhead now) { writer with consumer := round.next }
  | timerArmed (round : Round) (topSeq : UInt32) (now : Nat) :
      writer.consumer = .visiting round (.timing topSeq) →
        writer.gapDeadlines round.flowId = none →
          ConsumerStep config writer (.timerArmed now)
            { writer with
              gapDeadlines := writer.setDeadline round.flowId (config.gapTimeout.map (now + ·))
              sleepers := writer.sleepers + if config.gapTimeout.isSome then 1 else 0
              consumer := round.next }
  | gapSkipped (round : Round) (topSeq : UInt32) :
      writer.consumer = .visiting round (.skipping topSeq) → writer.ExpectedFree →
        ConsumerStep config writer .gapSkipped
          { writer with
            expectedSeqMap := writer.setExpected round.flowId
              (raiseTo (writer.expectedSeqMap round.flowId) topSeq)
            consumer := .visiting round.progress .peeking }

inductive WriterStep (config : WriterConfig) (writer : LocalWriter) :
    WriterLabel → LocalWriter → Prop
  | producer {label : WriterLabel} {next : LocalWriter} :
      ProducerStep config writer label next → WriterStep config writer label next
  | consumer {label : WriterLabel} {next : LocalWriter} :
      ConsumerStep config writer label next → WriterStep config writer label next
  | slept (sleepers : Nat) :
      writer.sleepers = sleepers + 1 →
        WriterStep config writer .slept
          { writer with
            sleepers := sleepers
            queueNotEmpty := true }

def localWriter (config : WriterConfig) : TransitionSystem LocalWriter WriterLabel where
  initial writer := writer = .new config
  step := WriterStep config

end Nextmini.Node
