import Mathlib.Data.List.Perm.Basic
import Nextmini.Node.StrandedFlows

/-!
# Writes to the device

What the two tasks of the local writer hand over to the TUN device. The producer writes by itself
what it does not put into a heap, once it has let go of the locks. The consumer writes each packet
where it has popped it, or, for segmentation offload, gathers the packets: it hands them over when
there are enough of them and when its rounds are over.

A call of the device succeeds. What the device makes of a batch, and the individual calls after a
batch that failed, are left out, and with them the flushes by the timer and at the shutdown, which
find nothing to write.
-/

namespace Nextmini.Node

open Nextmini.Library Nextmini.Routing

set_option autoImplicit false

/-! ## State -/

/-- `idealBatchSize` is a constant of the device's crate. -/
structure DeviceConfig where
  writer : WriterConfig
  idealBatchSize : Nat
  positive : 0 < idealBatchSize

/-- As many packets as this one are handed over before the consumer goes on. -/
def DeviceConfig.batchSize (config : DeviceConfig) : Nat :=
  if config.writer.segmentationOffload then config.idealBatchSize else 1

/-- The same reorder buffer in front of the other kind of device. -/
def DeviceConfig.offloading (config : DeviceConfig) (segmentationOffload : Bool) : DeviceConfig where
  writer := { config.writer with segmentationOffload := segmentationOffload }
  idealBatchSize := config.idealBatchSize
  positive := config.positive

/-- What the device is given by the producer, and by the consumer. -/
inductive DeviceCall where
  | single (packet : TcpPacket)
  | batch (packets : List TcpPacket)
  deriving DecidableEq, Repr

def DeviceCall.singles : DeviceCall → List TcpPacket
  | .single packet => [packet]
  | .batch _ => []

def DeviceCall.gathered : DeviceCall → List TcpPacket
  | .single _ => []
  | .batch packets => packets

/-- The writer, the packet that the producer is about to write, the packet that the consumer has
popped in order and has not gathered yet, the gathered packets, and what has happened so far: the
calls of the device, the packets received and the packets thrown away. -/
structure DeviceWriter where
  writer : LocalWriter
  held : Option TcpPacket
  atHand : Option TcpPacket
  pendingPackets : List TcpPacket
  calls : List DeviceCall
  received : List TcpPacket
  dropped : List TcpPacket

namespace DeviceWriter

def new (config : DeviceConfig) : DeviceWriter where
  writer := .new config.writer
  held := none
  atHand := none
  pendingPackets := []
  calls := []
  received := []
  dropped := []

def singles (state : DeviceWriter) : List TcpPacket := state.calls.flatMap DeviceCall.singles

def gathered (state : DeviceWriter) : List TcpPacket := state.calls.flatMap DeviceCall.gathered

/-- The producer receives no packet before it has written the last one. -/
def ProducerFree (state : DeviceWriter) : Prop :=
  state.writer.producer = .receiving → state.held = none

/-- The consumer hands over what it has gathered. Without segmentation offload it does so before it
clears the deadline of the flow, otherwise behind that. -/
def Due (config : DeviceConfig) (state : DeviceWriter) : Prop :=
  match state.writer.consumer with
  | .waiting => state.pendingPackets ≠ []
  | .visiting _ .clearing =>
      config.writer.segmentationOffload = false ∧ state.pendingPackets ≠ []
  | _ => config.batchSize ≤ state.pendingPackets.length

/-- The consumer waits for a notification and has handed over everything. -/
structure AtRest (state : DeviceWriter) : Prop where
  waiting : state.writer.consumer = .waiting
  nothing : state.pendingPackets = []

end DeviceWriter

/-! ## Steps -/

def WriterLabel.incoming : WriterLabel → List TcpPacket
  | .pushed packet | .seeded packet | .raised packet | .forwarded packet => [packet]
  | _ => []

def WriterLabel.passedOn : WriterLabel → Option TcpPacket
  | .seeded packet | .raised packet | .forwarded packet => some packet
  | _ => none

/-- The consumer neither takes a packet out of a heap nor is done with the packet at hand. -/
def WriterLabel.Quiet : WriterLabel → Prop
  | .stalePopped | .popped | .expectedRaised | .topPopped => False
  | _ => True

/-- The packet that the consumer takes out of the heap it visits. -/
def Removes (writer next : LocalWriter) (packet : TcpPacket) : Prop :=
  ∃ round phase, writer.consumer = .visiting round phase ∧
    packet ∈ writer.queueMap round.flowId ∧
    next.queueMap = writer.setQueue round.flowId ((writer.queueMap round.flowId).erase packet)

inductive DeviceLabel where
  | task (label : WriterLabel)
  | handedOn
  | flushed

inductive DeviceStep (config : DeviceConfig) (state : DeviceWriter) :
    DeviceLabel → DeviceWriter → Prop
  | produced (label : WriterLabel) (next : LocalWriter) :
      ProducerStep config.writer state.writer label next → state.ProducerFree →
        DeviceStep config state (.task label)
          { state with
            writer := next
            held := label.passedOn.or state.held
            received := state.received ++ label.incoming }
  | handedOn (packet : TcpPacket) :
      state.writer.producer = .receiving → state.held = some packet →
        DeviceStep config state .handedOn
          { state with
            held := none
            calls := state.calls ++ [.single packet] }
  | consumed (label : WriterLabel) (next : LocalWriter) :
      ConsumerStep config.writer state.writer label next → label.Quiet → ¬state.Due config →
        DeviceStep config state (.task label) { state with writer := next }
  | stalePopped (packet : TcpPacket) (next : LocalWriter) :
      ConsumerStep config.writer state.writer .stalePopped next →
        Removes state.writer next packet → ¬state.Due config →
          DeviceStep config state (.task .stalePopped)
            { state with
              writer := next
              pendingPackets := state.pendingPackets ++ [packet] }
  | popped (packet : TcpPacket) (next : LocalWriter) :
      ConsumerStep config.writer state.writer .popped next →
        Removes state.writer next packet → ¬state.Due config →
          DeviceStep config state (.task .popped)
            { state with
              writer := next
              atHand := some packet }
  | expectedRaised (next : LocalWriter) :
      ConsumerStep config.writer state.writer .expectedRaised next → ¬state.Due config →
        DeviceStep config state (.task .expectedRaised)
          { state with
            writer := next
            atHand := none
            pendingPackets := state.pendingPackets ++ state.atHand.toList }
  | topPopped (packet : TcpPacket) (next : LocalWriter) :
      ConsumerStep config.writer state.writer .topPopped next →
        Removes state.writer next packet → ¬state.Due config →
          DeviceStep config state (.task .topPopped)
            { state with
              writer := next
              dropped := state.dropped ++ [packet] }
  | flushed :
      state.Due config →
        DeviceStep config state .flushed
          { state with
            pendingPackets := []
            calls := state.calls ++ [.batch state.pendingPackets] }
  | slept (sleepers : Nat) :
      state.writer.sleepers = sleepers + 1 →
        DeviceStep config state (.task .slept)
          { state with
            writer := { state.writer with
              sleepers := sleepers
              queueNotEmpty := true } }

def deviceWriter (config : DeviceConfig) : TransitionSystem DeviceWriter DeviceLabel where
  initial state := state = .new config
  step := DeviceStep config

/-! ## Every packet is in one place -/

/-- A packet popped in order has not been gathered yet. -/
def ConsumerPhase.HasPopped : ConsumerPhase → Prop
  | .visiting _ (.popped _ _) | .visiting _ (.raising _) => True
  | _ => False

namespace DeviceWriter

/-- Where the copies of a packet that were received are now. -/
structure Accounted (state : DeviceWriter) : Prop where
  counts : ∀ packet, state.received.count packet =
    state.singles.count packet + state.gathered.count packet + state.held.toList.count packet +
      state.atHand.toList.count packet + state.pendingPackets.count packet +
      state.dropped.count packet + (state.writer.queueMap packet.flowId).count packet
  own : ∀ flowId, ∀ packet ∈ state.writer.queueMap flowId, packet.flowId = flowId
  hand : ¬state.writer.consumer.HasPopped → state.atHand = none

theorem accounted_new (config : DeviceConfig) : Accounted (new config) where
  counts packet := rfl
  own flowId packet member := by cases member
  hand _ := rfl

end DeviceWriter

theorem producer_consumer {config : WriterConfig} {writer next : LocalWriter} {label : WriterLabel}
    (step : ProducerStep config writer label next) : next.consumer = writer.consumer := by
  cases step <;> rfl

theorem producer_counts {config : WriterConfig} {writer next : LocalWriter} {label : WriterLabel}
    (step : ProducerStep config writer label next) (packet : TcpPacket) :
    (next.queueMap packet.flowId).count packet + label.passedOn.toList.count packet =
      (writer.queueMap packet.flowId).count packet + label.incoming.count packet := by
  cases step with
  | pushed arrived =>
    simp only [LocalWriter.setQueue, WriterLabel.passedOn, WriterLabel.incoming]
    by_cases same : packet.flowId = arrived.flowId
    · rw [same, Function.update_self, ← List.singleton_append, List.count_append]
      simp only [Option.toList_none, List.count_nil]
      omega
    · have other : arrived ≠ packet := by
        rintro rfl
        exact same rfl
      rw [Function.update_of_ne same, List.count_singleton]
      simp [other]
  | inserted => rfl
  | notified => rfl
  | seeded => rfl
  | seedInserted => rfl
  | seedCleared => rfl
  | raised => rfl
  | raiseCleared => rfl
  | forwarded => rfl

theorem producer_own {config : WriterConfig} {writer next : LocalWriter} {label : WriterLabel}
    (step : ProducerStep config writer label next)
    (own : ∀ flowId, ∀ packet ∈ writer.queueMap flowId, packet.flowId = flowId) (flowId : FlowId) :
    ∀ packet ∈ next.queueMap flowId, packet.flowId = flowId := by
  cases step with
  | pushed arrived =>
    simp only [LocalWriter.setQueue]
    by_cases same : flowId = arrived.flowId
    · rw [same, Function.update_self]
      intro packet member
      rcases List.mem_cons.mp member with rfl | member
      · rfl
      · exact own _ packet member
    · rw [Function.update_of_ne same]
      exact own flowId
  | inserted => exact own flowId
  | notified => exact own flowId
  | seeded => exact own flowId
  | seedInserted => exact own flowId
  | seedCleared => exact own flowId
  | raised => exact own flowId
  | raiseCleared => exact own flowId
  | forwarded => exact own flowId

/-- The producer only takes on what it passes on where it waits for a packet. -/
theorem passed_on_receiving {config : WriterConfig} {writer next : LocalWriter}
    {label : WriterLabel} (step : ProducerStep config writer label next) :
    label.passedOn = none ∨ writer.producer = .receiving := by
  cases step with
  | seeded _ receiving => exact .inr receiving
  | raised _ receiving => exact .inr receiving
  | forwarded _ receiving => exact .inr receiving
  | _ => exact .inl rfl

theorem quiet_queue {config : WriterConfig} {writer next : LocalWriter} {label : WriterLabel}
    (step : ConsumerStep config writer label next) (quiet : label.Quiet) :
    next.queueMap = writer.queueMap := by
  cases step <;> first | rfl | exact quiet.elim

theorem quiet_has_popped {config : WriterConfig} {writer next : LocalWriter} {label : WriterLabel}
    (step : ConsumerStep config writer label next) (quiet : label.Quiet)
    (has : writer.consumer.HasPopped) : next.consumer.HasPopped := by
  cases step with
  | expectedReread => trivial
  | stalePopped => exact quiet.elim
  | popped => exact quiet.elim
  | expectedRaised => exact quiet.elim
  | topPopped => exact quiet.elim
  | woken waiting => exact (waiting ▸ has).elim
  | collected _ collecting => exact (collecting ▸ has).elim
  | peeked _ _ visiting => exact (visiting ▸ has).elim
  | peekedNone _ visiting => exact (visiting ▸ has).elim
  | deactivated _ _ visiting => exact (visiting ▸ has).elim
  | deadlineDropped _ _ visiting => exact (visiting ▸ has).elim
  | expectedRead _ _ _ visiting => exact (visiting ▸ has).elim
  | freshKept _ _ _ visiting => exact (visiting ▸ has).elim
  | backlogMeasured _ _ _ visiting => exact (visiting ▸ has).elim
  | backlogForgiven _ _ _ visiting => exact (visiting ▸ has).elim
  | expectedAdvanced _ _ _ visiting => exact (visiting ▸ has).elim
  | poppedNone _ _ visiting => exact (visiting ▸ has).elim
  | deadlineCleared _ visiting => exact (visiting ▸ has).elim
  | emptyChecked _ visiting => exact (visiting ▸ has).elim
  | topMissing _ visiting => exact (visiting ▸ has).elim
  | deadlineReached _ _ _ _ visiting => exact (visiting ▸ has).elim
  | deadlineAhead _ _ _ _ visiting => exact (visiting ▸ has).elim
  | timerArmed _ _ _ visiting => exact (visiting ▸ has).elim
  | gapSkipped _ _ visiting => exact (visiting ▸ has).elim

theorem count_erased {writer : LocalWriter} {flowId : FlowId} {packet : TcpPacket}
    (member : packet ∈ writer.queueMap flowId) (own : packet.flowId = flowId) (other : TcpPacket) :
    (writer.setQueue flowId ((writer.queueMap flowId).erase packet) other.flowId).count other +
      [packet].count other = (writer.queueMap other.flowId).count other := by
  by_cases same : other = packet
  · have positive := List.count_pos_iff.mpr member
    rw [same, own, LocalWriter.setQueue, Function.update_self, List.count_erase_self,
      List.count_singleton_self]
    omega
  · rw [List.count_singleton, if_neg (by simpa using Ne.symm same), LocalWriter.setQueue]
    by_cases flow : other.flowId = flowId
    · rw [flow, Function.update_self, List.count_erase_of_ne same]
      rfl
    · rw [Function.update_of_ne flow]
      rfl

theorem Removes.counts {writer next : LocalWriter} {packet : TcpPacket}
    (removes : Removes writer next packet)
    (own : ∀ flowId, ∀ packet ∈ writer.queueMap flowId, packet.flowId = flowId)
    (other : TcpPacket) : (next.queueMap other.flowId).count other + [packet].count other =
      (writer.queueMap other.flowId).count other := by
  obtain ⟨round, _, _, member, queue⟩ := removes
  rw [queue]
  exact count_erased member (own _ packet member) other

theorem Removes.own {writer next : LocalWriter} {packet : TcpPacket}
    (removes : Removes writer next packet)
    (own : ∀ flowId, ∀ packet ∈ writer.queueMap flowId, packet.flowId = flowId) (flowId : FlowId) :
    ∀ other ∈ next.queueMap flowId, other.flowId = flowId := by
  obtain ⟨round, _, _, _, queue⟩ := removes
  intro other member
  rw [queue, LocalWriter.setQueue] at member
  by_cases flow : flowId = round.flowId
  · rw [flow, Function.update_self] at member
    rw [flow]
    exact own _ other (List.mem_of_mem_erase member)
  · rw [Function.update_of_ne flow] at member
    exact own _ other member

theorem stale_phase {config : WriterConfig} {writer next : LocalWriter}
    (step : ConsumerStep config writer .stalePopped next) : ¬writer.consumer.HasPopped := by
  cases step with
  | stalePopped _ _ _ _ visiting => exact fun has => (visiting ▸ has).elim

theorem popped_phase {config : WriterConfig} {writer next : LocalWriter}
    (step : ConsumerStep config writer .popped next) :
    ¬writer.consumer.HasPopped ∧ next.consumer.HasPopped := by
  cases step with
  | popped _ _ _ visiting => exact ⟨fun has => (visiting ▸ has).elim, trivial⟩

theorem top_popped_phase {config : WriterConfig} {writer next : LocalWriter}
    (step : ConsumerStep config writer .topPopped next) : ¬writer.consumer.HasPopped := by
  cases step with
  | topPopped _ _ visiting => exact fun has => (visiting ▸ has).elim

theorem raised_queue {config : WriterConfig} {writer next : LocalWriter}
    (step : ConsumerStep config writer .expectedRaised next) : next.queueMap = writer.queueMap := by
  cases step
  rfl

namespace DeviceWriter

theorem singles_append (state : DeviceWriter) (call : DeviceCall) :
    (state.calls ++ [call]).flatMap DeviceCall.singles = state.singles ++ call.singles := by
  simp [singles]

theorem gathered_append (state : DeviceWriter) (call : DeviceCall) :
    (state.calls ++ [call]).flatMap DeviceCall.gathered = state.gathered ++ call.gathered := by
  simp [gathered]

theorem accounted_step {config : DeviceConfig} {state next : DeviceWriter} {label : DeviceLabel}
    (accounted : state.Accounted) (step : DeviceStep config state label next) :
    next.Accounted := by
  obtain ⟨counts, own, hand⟩ := accounted
  cases step with
  | produced label next step free =>
    refine ⟨?_, producer_own step own, ?_⟩
    · intro packet
      have balance := producer_counts step packet
      have before := counts packet
      have taken : (label.passedOn.or state.held).toList.count packet =
          label.passedOn.toList.count packet + state.held.toList.count packet := by
        rcases passed_on_receiving step with nothing | receiving
        · simp [nothing]
        · simp [free receiving]
      simp only [List.count_append, singles, gathered, taken] at before ⊢
      omega
    · rw [producer_consumer step]
      exact hand
  | handedOn packet receiving held =>
    refine ⟨?_, own, hand⟩
    intro other
    have before := counts other
    rw [held] at before
    rw [singles, gathered, singles_append, gathered_append]
    simp only [DeviceCall.singles, DeviceCall.gathered, List.count_append, Option.toList_some,
      Option.toList_none, List.count_nil] at before ⊢
    omega
  | consumed label next step quiet free =>
    have queue := quiet_queue step quiet
    refine ⟨?_, ?_, ?_⟩
    · rw [queue]
      exact counts
    · rw [queue]
      exact own
    · exact fun none => hand fun has => none (quiet_has_popped step quiet has)
  | stalePopped packet next step removes free =>
    refine ⟨?_, removes.own own, ?_⟩
    · intro other
      have balance := removes.counts own other
      have before := counts other
      simp only [List.count_append, singles, gathered] at before ⊢
      omega
    · exact fun _ => hand (stale_phase step)
  | popped packet next step removes free =>
    obtain ⟨without, within⟩ := popped_phase step
    refine ⟨?_, removes.own own, fun none => (none within).elim⟩
    intro other
    have balance := removes.counts own other
    have before := counts other
    rw [hand without] at before
    simp only [singles, gathered, Option.toList_none, Option.toList_some, List.count_nil] at before ⊢
    omega
  | expectedRaised next step free =>
    refine ⟨?_, ?_, fun _ => rfl⟩
    · intro other
      have before := counts other
      simp only [raised_queue step, List.count_append, singles, gathered, Option.toList_none,
        List.count_nil] at before ⊢
      omega
    · rw [raised_queue step]
      exact own
  | topPopped packet next step removes free =>
    refine ⟨?_, removes.own own, ?_⟩
    · intro other
      have balance := removes.counts own other
      have before := counts other
      simp only [List.count_append, singles, gathered] at before ⊢
      omega
    · exact fun _ => hand (top_popped_phase step)
  | flushed due =>
    refine ⟨?_, own, hand⟩
    intro other
    have before := counts other
    rw [singles, gathered, singles_append, gathered_append]
    simp only [DeviceCall.singles, DeviceCall.gathered, List.count_append, List.count_nil] at before ⊢
    omega
  | slept => exact ⟨counts, own, hand⟩

end DeviceWriter

/-! ## Nothing is thrown away -/

/-- The expected number with which the consumer compares the first packet of a heap. -/
def LocalWriter.compared (writer : LocalWriter) (flowId : FlowId) : Option UInt32 :=
  match writer.consumer with
  | .visiting round (.checkingStale _ expected) =>
      if round.flowId = flowId then some expected else none
  | _ => none

/-- Of each flow, the numbers in its heap, the expected number and the number compared with lie within
half of the sequence space. -/
def Windowed (state : DeviceWriter) : Prop :=
  ∀ flowId, ∃ base, WithinHalf state.writer flowId base ∧
    ∀ expected ∈ state.writer.compared flowId, (expected - base).toNat < 2 ^ 31

/-- The number that the consumer has read at the top of a heap is in the heap, and behind the check
for a stale packet it is not below the expected one. -/
def VisitPhase.Fresh (heap : List TcpPacket) : VisitPhase → Prop
  | .reading topSeq | .checkingStale topSeq _ => ∃ packet ∈ heap, packet.seqNum = topSeq
  | .measuring topSeq expected | .forgiving topSeq expected | .advancing topSeq expected =>
      seqLess topSeq expected = false
  | .poppingStale => False
  | _ => True

def ConsumerPhase.Fresh (queueMap : FlowId → List TcpPacket) : ConsumerPhase → Prop
  | .visiting round phase => phase.Fresh (queueMap round.flowId)
  | _ => True

theorem VisitPhase.Fresh.mono {heap more : List TcpPacket} {phase : VisitPhase}
    (fresh : phase.Fresh heap) (subset : heap ⊆ more) : phase.Fresh more := by
  cases phase with
  | reading =>
    obtain ⟨packet, member, number⟩ := fresh
    exact ⟨packet, subset member, number⟩
  | checkingStale =>
    obtain ⟨packet, member, number⟩ := fresh
    exact ⟨packet, subset member, number⟩
  | _ => exact fresh

theorem ConsumerPhase.Fresh.mono {queueMap more : FlowId → List TcpPacket}
    {consumer : ConsumerPhase} (fresh : consumer.Fresh queueMap)
    (subset : ∀ flowId, queueMap flowId ⊆ more flowId) : consumer.Fresh more := by
  cases consumer with
  | visiting round phase => exact VisitPhase.Fresh.mono fresh (subset round.flowId)
  | _ => trivial

section Phases

variable {config : WriterConfig} {queueMap : FlowId → List TcpPacket}

theorem start_round_fresh (flowIds : List FlowId) : (startRound flowIds).Fresh queueMap := by
  cases flowIds with
  | nil => trivial
  | cons => trivial

theorem next_fresh (round : Round) : round.next.Fresh queueMap := by
  unfold Round.next
  cases round.rest with
  | nil =>
    simp only
    split <;> trivial
  | cons => trivial

theorem after_backlog_fresh (round : Round) {topSeq expected : UInt32}
    (fresh : seqLess topSeq expected = false) :
    (round.afterBacklog config topSeq expected).Fresh queueMap := by
  unfold Round.afterBacklog
  rw [fresh]
  split
  · trivial
  · simp only [Bool.false_eq_true, if_false]
    split
    · trivial
    · exact next_fresh round

theorem after_stale_fresh (round : Round) {topSeq expected : UInt32}
    (fresh : seqLess topSeq expected = false) :
    (round.afterStale config topSeq expected).Fresh queueMap := by
  unfold Round.afterStale
  split
  · exact fresh
  · exact after_backlog_fresh round fresh

end Phases

theorem producer_grows {config : WriterConfig} {writer next : LocalWriter} {label : WriterLabel}
    (step : ProducerStep config writer label next) (flowId : FlowId) :
    writer.queueMap flowId ⊆ next.queueMap flowId := by
  cases step with
  | pushed arrived =>
    simp only [LocalWriter.setQueue]
    by_cases same : flowId = arrived.flowId
    · rw [same, Function.update_self]
      exact List.subset_cons_self _ _
    · rw [Function.update_of_ne same]
      exact List.Subset.refl _
  | _ => exact List.Subset.refl _

/-- Within half of the sequence space, a packet above the first one of the heap is not stale when the
first one is not. -/
theorem fresh_of_top {writer : LocalWriter} {round : Round} {topSeq expected base : UInt32}
    {packet top : TcpPacket} (within : WithinHalf writer round.flowId base)
    (compared : (expected - base).toNat < 2 ^ 31)
    (isTop : IsTop (writer.queueMap round.flowId) packet)
    (kept : seqLess packet.seqNum expected = false) (member : top ∈ writer.queueMap round.flowId)
    (number : top.seqNum = topSeq) : seqLess topSeq expected = false := by
  have topHalf := within.packets top member
  have packetHalf := within.packets packet isTop.member
  have least : ¬(top.seqNum - base).toNat < (packet.seqNum - base).toNat := by
    rw [← seq_less_within topHalf packetHalf]
    simp [isTop.least (ordered_within within) top member]
  have above : ¬(packet.seqNum - base).toNat < (expected - base).toNat := by
    rw [← seq_less_within packetHalf compared]
    simp [kept]
  have fresh : ¬(top.seqNum - base).toNat < (expected - base).toNat := by omega
  rw [← number]
  exact Bool.eq_false_iff.mpr (mt (seq_less_within topHalf compared).mp fresh)

theorem consumer_fresh {config : WriterConfig} {writer next : LocalWriter} {label : WriterLabel}
    (fresh : writer.consumer.Fresh writer.queueMap)
    (windowed : ∀ flowId, ∃ base, WithinHalf writer flowId base ∧
      ∀ expected ∈ writer.compared flowId, (expected - base).toNat < 2 ^ 31)
    (step : ConsumerStep config writer label next) : next.consumer.Fresh next.queueMap := by
  cases step with
  | collected flowIds => exact start_round_fresh flowIds
  | peeked round top visiting isTop => exact ⟨top, isTop.member, rfl⟩
  | deadlineDropped round delivered =>
    cases delivered with
    | true => trivial
    | false => exact next_fresh round
  | expectedRead round topSeq expected visiting =>
    rw [visiting] at fresh
    exact fresh
  | freshKept round topSeq expected visiting kept =>
    rw [visiting] at fresh
    obtain ⟨top, member, number⟩ := fresh
    obtain ⟨base, within, compares⟩ := windowed round.flowId
    have compared : expected ∈ writer.compared round.flowId := by
      simp [LocalWriter.compared, visiting]
    rcases kept with empty | ⟨packet, isTop, notLess⟩
    · rw [empty] at member
      cases member
    · exact after_stale_fresh round
        (fresh_of_top within (compares expected compared) isTop notLess member number)
  | backlogMeasured round topSeq expected visiting =>
    rw [visiting] at fresh
    simp only
    split
    · exact fresh
    · exact after_backlog_fresh round fresh
  | backlogForgiven round topSeq expected visiting =>
    rw [visiting] at fresh
    exact fresh
  | expectedAdvanced round topSeq expected visiting =>
    rw [visiting] at fresh
    exact after_backlog_fresh round.progress fresh
  | poppedNone round => exact next_fresh round
  | emptyChecked round =>
    simp only
    split <;> trivial
  | deadlineAhead round => exact next_fresh round
  | timerArmed round => exact next_fresh round
  | _ => trivial

namespace DeviceWriter

/-- Nothing has been thrown away, and nothing is about to be. -/
structure Undropped (state : DeviceWriter) : Prop where
  windowed : Windowed state
  fresh : state.writer.consumer.Fresh state.writer.queueMap
  dropped : state.dropped = []

theorem undropped_new (config : DeviceConfig) : Undropped (new config) where
  windowed flowId := by
    refine ⟨0, ⟨?_, ?_⟩, ?_⟩
    · intro packet member
      cases member
    · intro expected known
      cases known
    · intro expected compared
      simp only [new, LocalWriter.compared, LocalWriter.new] at compared
      split at compared
      · rename_i visiting
        split at visiting <;> cases visiting
      · cases compared
  fresh := by
    simp only [new, LocalWriter.new]
    cases config.writer.enforceOrder <;> trivial
  dropped := rfl

theorem undropped_step {config : DeviceConfig} {state next : DeviceWriter} {label : DeviceLabel}
    (undropped : state.Undropped) (windowed : Windowed next)
    (step : DeviceStep config state label next) : next.Undropped := by
  obtain ⟨before, fresh, dropped⟩ := undropped
  cases step with
  | produced label next step free =>
    refine ⟨windowed, ?_, dropped⟩
    rw [producer_consumer step]
    exact fresh.mono (producer_grows step)
  | handedOn => exact ⟨windowed, fresh, dropped⟩
  | consumed label next step => exact ⟨windowed, consumer_fresh fresh before step, dropped⟩
  | stalePopped packet next step => exact ⟨windowed, consumer_fresh fresh before step, dropped⟩
  | popped packet next step => exact ⟨windowed, consumer_fresh fresh before step, dropped⟩
  | expectedRaised next step => exact ⟨windowed, consumer_fresh fresh before step, dropped⟩
  | topPopped packet next step =>
    cases step with
    | topPopped round top visiting =>
      rw [visiting] at fresh
      exact fresh.elim
  | flushed => exact ⟨windowed, fresh, dropped⟩
  | slept => exact ⟨windowed, fresh, dropped⟩

end DeviceWriter

/-- As long as the numbers of each flow stay within half of the sequence space, every packet received
is written once or still in the writer, at one place of it. -/
theorem received_written_once (config : DeviceConfig) (state : DeviceWriter)
    (reachable : ((deviceWriter config).through Windowed).Reachable state) (flowId : FlowId) :
    (state.received.filter (·.flowId = flowId)).Perm
      ((state.singles ++ state.gathered ++ state.held.toList ++ state.atHand.toList ++
          state.pendingPackets).filter (·.flowId = flowId) ++ state.writer.queueMap flowId) := by
  have kept : state.Undropped ∧ state.Accounted := by
    apply TransitionSystem.invariant_of_reachable _ _ reachable
    · rintro _ rfl
      exact ⟨DeviceWriter.undropped_new config, DeviceWriter.accounted_new config⟩
    · rintro state label next ⟨undropped, accounted⟩ ⟨windowed, step⟩
      exact ⟨DeviceWriter.undropped_step undropped windowed step,
        DeviceWriter.accounted_step accounted step⟩
  obtain ⟨undropped, accounted⟩ := kept
  rw [List.perm_iff_count]
  intro packet
  rw [List.count_append]
  by_cases own : packet.flowId = flowId
  · have total := accounted.counts packet
    rw [undropped.dropped, own] at total
    rw [List.count_filter (by simpa using own), List.count_filter (by simpa using own)]
    simp only [List.count_append, List.count_nil] at total ⊢
    omega
  · have outside : packet ∉ state.writer.queueMap flowId := fun member =>
      own (accounted.own flowId packet member)
    rw [List.count_eq_zero_of_not_mem outside, List.count_eq_zero_of_not_mem (by simp [own]),
      List.count_eq_zero_of_not_mem (by simp [own])]

def unbatched : DeviceConfig := ⟨⟨true, none, 0, false⟩, 128, Nat.succ_pos 127⟩

theorem low_windowed {state : DeviceWriter}
    (heap : ∀ flowId, ∀ packet ∈ state.writer.queueMap flowId, packet.seqNum.toNat < 2 ^ 31)
    (expected : ∀ flowId, ∀ number ∈ state.writer.expectedSeqMap flowId, number.toNat < 2 ^ 31)
    (compared : ∀ flowId, ∀ number ∈ state.writer.compared flowId, number.toNat < 2 ^ 31) :
    Windowed state := by
  intro flowId
  refine ⟨0, ⟨?_, ?_⟩, ?_⟩ <;> simp only [UInt32.sub_zero]
  · exact heap flowId
  · exact expected flowId
  · exact compared flowId

theorem windowed_leads {config : DeviceConfig} {target : DeviceWriter → Prop}
    {state next : DeviceWriter} {label : DeviceLabel} (step : DeviceStep config state label next)
    (windowed : Windowed next) (leads : ((deviceWriter config).through Windowed).Leads target next) :
    ((deviceWriter config).through Windowed).Leads target state :=
  .after ⟨windowed, step⟩ leads

/-- A segment goes through its heap to the device. -/
theorem segment_written : ∃ state, ((deviceWriter unbatched).through Windowed).Reachable state ∧
    state.calls = [.batch [segment 0]] ∧ (state.received.filter (·.flowId = 7)).Perm
      ((state.singles ++ state.gathered ++ state.held.toList ++ state.atHand.toList ++
          state.pendingPackets).filter (·.flowId = 7) ++ state.writer.queueMap 7) := by
  suffices leads : ((deviceWriter unbatched).through Windowed).Leads
      (fun state => state.calls = [.batch [segment 0]]) (.new unbatched) by
    rcases leads.reachable rfl with ⟨state, reachable, calls⟩
    exact ⟨state, reachable, calls, received_written_once unbatched state reachable 7⟩
  have heaped {heaps : FlowId → List TcpPacket} {packets : List TcpPacket}
      (before : ∀ flowId, ∀ packet ∈ heaps flowId, packet.seqNum.toNat < 2 ^ 31)
      (own : ∀ packet ∈ packets, packet.seqNum.toNat < 2 ^ 31) :
      ∀ flowId, ∀ packet ∈ Function.update heaps 7 packets flowId, packet.seqNum.toNat < 2 ^ 31 := by
    intro flowId
    rw [Function.update_apply]
    split_ifs
    · exact own
    · exact before flowId
  have awaited {numbers : FlowId → Option UInt32} {number : UInt32}
      (before : ∀ flowId, ∀ other ∈ numbers flowId, other.toNat < 2 ^ 31)
      (own : number.toNat < 2 ^ 31) :
      ∀ flowId, ∀ other ∈ Function.update numbers 7 (some number) flowId, other.toNat < 2 ^ 31 := by
    intro flowId
    rw [Function.update_apply]
    split_ifs
    · rintro _ ⟨⟩
      exact own
    · exact before flowId
  have heap := @heaped (fun _ => []) [segment 0] nofun (by decide)
  have first := @awaited (fun _ => none) 0 nofun (by decide)
  have popped := @heaped _ [] heap nofun
  have second := @awaited _ 1 first (by decide)
  refine windowed_leads (.produced _ _ (.pushed (segment 0) rfl rfl rfl) fun _ => rfl)
    (low_windowed heap nofun nofun) ?_
  refine windowed_leads (.produced _ _ (.inserted 7 rfl nofun) nofun)
    (low_windowed heap nofun nofun) ?_
  refine windowed_leads (.produced _ _ (.notified 7 rfl) nofun) (low_windowed heap nofun nofun) ?_
  refine windowed_leads (.consumed _ _ (.woken rfl rfl) trivial nofun)
    (low_windowed heap nofun nofun) ?_
  refine windowed_leads (.consumed _ _ (.collected [7] rfl nofun (by decide) (listed rfl)) trivial
    nofun) (low_windowed heap nofun nofun) ?_
  refine windowed_leads (.consumed _ _ (.peeked _ (segment 0) rfl (sole_top _)) trivial nofun)
    (low_windowed heap nofun nofun) ?_
  refine windowed_leads (.consumed _ _ (.expectedRead _ _ 0 rfl (no_update rfl) rfl) trivial nofun)
    (low_windowed heap first ?_) ?_
  · intro flowId number compared
    have same : (if 7 = flowId then some 0 else none) = some number := compared
    split_ifs at same
    cases same
    decide
  refine windowed_leads (.consumed _ _ (.freshKept _ _ _ rfl (.inr ⟨_, sole_top (segment 0), rfl⟩))
    trivial nofun) (low_windowed heap first nofun) ?_
  refine windowed_leads (.popped (segment 0) _ (.popped _ 0 (segment 0) rfl (sole_top _))
    ⟨_, _, rfl, List.mem_singleton.mpr rfl, rfl⟩ nofun) (low_windowed popped first nofun) ?_
  refine windowed_leads (.consumed _ _ (.expectedReread _ _ _ rfl (no_update rfl)) trivial nofun)
    (low_windowed popped first nofun) ?_
  refine windowed_leads (.expectedRaised _ (.expectedRaised _ _ rfl (no_update rfl)) nofun)
    (low_windowed popped second nofun) ?_
  refine windowed_leads (.flushed ⟨rfl, nofun⟩) (low_windowed popped second nofun) ?_
  exact .here rfl

end Nextmini.Node
