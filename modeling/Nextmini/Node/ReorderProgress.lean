import Nextmini.Node.StrandedFlows

/-!
# Progress of the reorder buffer

The data segments of one TCP byte stream, each pushed when the consumer has come to rest after the
one before. Once the segments cover the stream up to some byte with nothing beyond, everything is
written and the expected number is the end of the stream, as long as no segment that is written as
stale ends beyond the expected number: the stale branch does not move that number.
-/

namespace Nextmini.Node

open Nextmini.Library Nextmini.Routing

set_option autoImplicit false

/-! ## Segments of a stream -/

/-- The bytes of the stream are counted from the number behind the SYN. -/
def offset (syn : TcpPacket) (seqNum : UInt32) : Nat := (seqNum - (syn.seqNum + 1)).toNat

def segmentEnd (syn packet : TcpPacket) : Nat := offset syn packet.seqNum + packet.tcpPayloadLen

/-- A data segment, no FIN or RST, that lies within half of the sequence space from the SYN. -/
structure Segment (syn packet : TcpPacket) : Prop where
  flow : packet.flowId = syn.flowId
  notLast : packet.isTcpFinOrRst = false
  nonempty : 0 < packet.tcpPayloadLen
  within : segmentEnd syn packet < 2 ^ 31

/-- The segments hold every byte below `total` and none from there on. -/
structure StreamCovered (syn : TcpPacket) (arrived : List TcpPacket) (total : Nat) : Prop where
  bytes : ∀ byte < total, ∃ packet ∈ arrived,
    offset syn packet.seqNum ≤ byte ∧ byte < segmentEnd syn packet
  nothingBeyond : ∀ packet ∈ arrived, segmentEnd syn packet ≤ total

/-! ## What is written to the device -/

/-- The writer with the data packets that have arrived and those that were written. -/
structure Observed where
  writer : LocalWriter
  arrived : List TcpPacket
  written : List TcpPacket

def WriterLabel.arrivals : WriterLabel → List TcpPacket
  | .pushed packet => [packet]
  | _ => []

/-- The consumer writes what it pops as stale or in order; a pop behind the check of the backlog
throws the packet away. -/
def Writes (writer next : LocalWriter) (packets : List TcpPacket) : WriterLabel → Prop
  | .stalePopped => ∃ round phase packet, writer.consumer = .visiting round phase ∧
      packet ∈ writer.queueMap round.flowId ∧ packets = [packet] ∧
      next.queueMap =
        writer.setQueue round.flowId ((writer.queueMap round.flowId).erase packet)
  | .popped => ∃ round phase packet, writer.consumer = .visiting round phase ∧
      packet ∈ writer.queueMap round.flowId ∧ packets = [packet] ∧
      next.queueMap =
        writer.setQueue round.flowId ((writer.queueMap round.flowId).erase packet)
  | _ => packets = []

/-- A step and the packets it writes. -/
structure ObservedStep (config : WriterConfig) (state : Observed)
    (label : WriterLabel × List TcpPacket) (next : Observed) : Prop where
  taken : WriterStep config state.writer label.1 next.writer
  writes : Writes state.writer next.writer label.2 label.1
  arrived : next.arrived = state.arrived ++ label.1.arrivals
  written : next.written = state.written ++ label.2

/-- The writer after a SYN as its first packet. -/
def synHandled (config : WriterConfig) (syn : TcpPacket) : LocalWriter :=
  { LocalWriter.new config with
    expectedSeqMap := Function.update (fun _ => none) syn.flowId (some (syn.seqNum + 1))
    activeFlows := {syn.flowId} }

def observedWriter (config : WriterConfig) (syn : TcpPacket) :
    TransitionSystem Observed (WriterLabel × List TcpPacket) where
  initial state := state = ⟨synHandled config syn, [], []⟩
  step := ObservedStep config

/-- Nothing is left to do: the producer waits for a packet, the consumer for a notification. -/
structure LocalWriter.Quiescent (writer : LocalWriter) : Prop where
  receiving : writer.producer = .receiving
  resting : ¬writer.Running
  unannounced : ¬writer.WakeUpPending

/-- Only segments of the stream arrive, each at a writer that has come to rest. -/
def InStream (syn : TcpPacket) (state : Observed) : WriterLabel × List TcpPacket → Prop
  | (.pushed packet, _) => state.writer.Quiescent ∧ Segment syn packet
  | (.seeded _, _) => False
  | (.raised _, _) => False
  | (.forwarded _, _) => False
  | _ => True

/-- A segment that is written as stale ends at the expected number or below. -/
def StaleEndsBelow (syn : TcpPacket) (state : Observed) : WriterLabel × List TcpPacket → Prop
  | (.stalePopped, packets) => ∀ packet ∈ packets,
      ∀ expected ∈ state.writer.expectedSeqMap syn.flowId,
        segmentEnd syn packet ≤ offset syn expected
  | _ => True

/-- Every packet is written once, the heap is empty and the byte at `total` is expected. -/
structure AllWritten (syn : TcpPacket) (state : Observed) (total : Nat) : Prop where
  written : state.written.Perm state.arrived
  heap : state.writer.queueMap syn.flowId = []
  expected : state.writer.expectedSeqMap syn.flowId = some (syn.seqNum + 1 + UInt32.ofNat total)

theorem syn_handled_run {config : WriterConfig} {syn : TcpPacket}
    (enforced : config.enforceOrder = true) (control : syn.isTcpData = false)
    (isSyn : syn.isTcpSyn = true) :
    (localWriter config).Run (.new config) [.seeded syn, .seedInserted, .seedCleared]
      (synHandled config syn) := by
  have handled : synHandled config syn =
      { (LocalWriter.new config).seed syn with
        activeFlows := insert syn.flowId ∅
        gapDeadlines := LocalWriter.setDeadline (LocalWriter.new config) syn.flowId none
        producer := .receiving } := by
    have deadlines : LocalWriter.setDeadline (LocalWriter.new config) syn.flowId none =
        fun _ => none := Function.update_eq_self _ _
    rw [deadlines]
    rfl
  have resting : ((LocalWriter.new config).seed syn).ActiveOpen := by
    intro round delivered
    simp [LocalWriter.seed, LocalWriter.new, enforced]
  rw [handled]
  refine .cons (.producer (.seeded syn rfl control enforced isSyn)) ?_
  refine .cons (.producer (.seedInserted syn.flowId rfl resting)) ?_
  exact .single (.producer (.seedCleared syn.flowId rfl))

/-! ## Offsets -/

section Offsets

variable {syn : TcpPacket}

theorem offset_start (syn : TcpPacket) : offset syn (syn.seqNum + 1) = 0 := by
  rw [offset, UInt32.sub_self]
  rfl

theorem offset_add (seqNum : UInt32) (length : Nat)
    (within : offset syn seqNum + length < 2 ^ 32) :
    offset syn (seqNum + UInt32.ofNat length) = offset syn seqNum + length := by
  have firstBound := seqNum.toNat_lt
  have startBound := (syn.seqNum + 1).toNat_lt
  unfold offset at *
  generalize syn.seqNum + 1 = start at *
  simp only [UInt32.toNat_sub, UInt32.toNat_add, UInt32.toNat_ofNat', Nat.reducePow] at *
  omega

theorem seq_of_offset {seqNum : UInt32} {total : Nat} (found : offset syn seqNum = total) :
    seqNum = syn.seqNum + 1 + UInt32.ofNat total := by
  have bounded : total < 2 ^ 32 := by
    rw [← found]
    exact UInt32.toNat_lt _
  have reached := @offset_add syn (syn.seqNum + 1) total
  rw [offset_start, Nat.zero_add] at reached
  exact @eq_of_offset _ _ (syn.seqNum + 1) (found.trans (reached bounded).symm)

end Offsets

/-! ## Invariant -/

def Expects (syn : TcpPacket) (known : Option UInt32) (reached : Nat) : Prop :=
  ∃ expected, known = some expected ∧ offset syn expected = reached

/-- What the consumer carries along is still what the heap and the expected numbers hold. A packet
that was popped in order has yet to raise the number, and `reached` is ahead of it. -/
def VisitPhase.Follows (syn : TcpPacket) (heap : List TcpPacket) (known : Option UInt32)
    (reached : Nat) : VisitPhase → Prop
  | .reading topSeq => Expects syn known reached ∧ ∃ top, IsTop heap top ∧ top.seqNum = topSeq
  | .checkingStale topSeq expected => known = some expected ∧ offset syn expected = reached ∧
      ∃ top, IsTop heap top ∧ top.seqNum = topSeq
  | .popping expected => known = some expected ∧ offset syn expected = reached ∧
      ∃ top, IsTop heap top ∧ top.seqNum = expected
  | .popped packet _ => Segment syn packet ∧ Expects syn known (offset syn packet.seqNum) ∧
      segmentEnd syn packet = reached
  | .raising next => offset syn next = reached ∧
      ∃ expected, known = some expected ∧ offset syn expected ≤ reached
  | .deactivating _ => Expects syn known reached ∧ heap = []
  | .deactivated _ => Expects syn known reached ∧ heap = []
  | .measuring _ _ => False
  | .forgiving _ _ => False
  | .advancing _ _ => False
  | .poppingStale => False
  | .skipping _ => False
  | _ => Expects syn known reached

def ConsumerPhase.Follows (syn : TcpPacket) (heap : List TcpPacket) (known : Option UInt32)
    (reached : Nat) : ConsumerPhase → Prop
  | .visiting round phase => (∀ flowId ∈ round.flowId :: round.rest, flowId = syn.flowId) ∧
      phase.Follows syn heap known reached
  | _ => Expects syn known reached

/-- Every arrived segment is in the heap or written, and the expected number is the end of a written
segment. -/
structure Delivery (syn : TcpPacket) (state : Observed) (reached : Nat) : Prop where
  account : (state.written ++ state.writer.queueMap syn.flowId).Perm state.arrived
  segments : ∀ packet ∈ state.arrived, Segment syn packet
  attained : reached = 0 ∨ ∃ packet ∈ state.written, segmentEnd syn packet = reached
  active : ∀ flowId ∈ state.writer.activeFlows, flowId = syn.flowId
  pushing : ∀ flowId, state.writer.producer = .pushed flowId ∨
    state.writer.producer = .synSeeded flowId → flowId = syn.flowId
  deadlines : ∀ flowId, state.writer.gapDeadlines flowId = none
  sleepers : state.writer.sleepers = 0
  follows : state.writer.consumer.Follows syn (state.writer.queueMap syn.flowId)
    (state.writer.expectedSeqMap syn.flowId) reached

section Invariant

variable {syn : TcpPacket} {heap : List TcpPacket} {known : Option UInt32} {reached : Nat}
  {state : Observed}

theorem delivery_start {config : WriterConfig} (enforced : config.enforceOrder = true) :
    Delivery syn ⟨synHandled config syn, [], []⟩ 0 where
  account := .refl []
  segments := nofun
  attained := .inl rfl
  active flowId member := Finset.mem_singleton.mp member
  pushing flowId := by
    rintro (pushed | seeded)
    · cases pushed
    · cases seeded
  deadlines flowId := rfl
  sleepers := rfl
  follows := by
    have resting : (synHandled config syn).consumer = .waiting := if_pos enforced
    rw [resting]
    refine ⟨syn.seqNum + 1, ?_, offset_start syn⟩
    simp [synHandled]

theorem Delivery.heap_segment (delivery : Delivery syn state reached) :
    ∀ packet ∈ state.writer.queueMap syn.flowId, Segment syn packet := by
  intro packet member
  exact delivery.segments packet (delivery.account.mem_iff.mp (List.mem_append_right _ member))

theorem Delivery.reached_lt (delivery : Delivery syn state reached) : reached < 2 ^ 31 := by
  rcases delivery.attained with rfl | ⟨packet, member, rfl⟩
  · decide
  · have arrived := delivery.account.mem_iff.mp (List.mem_append_left _ member)
    exact (delivery.segments packet arrived).within

theorem Segment.offset_lt {packet : TcpPacket} (segment : Segment syn packet) :
    offset syn packet.seqNum < 2 ^ 31 :=
  Nat.lt_of_le_of_lt (Nat.le_add_right _ _) segment.within

theorem follows_expected {consumer : ConsumerPhase}
    (follows : consumer.Follows syn heap known reached) :
    ∃ expected, known = some expected ∧ offset syn expected ≤ reached := by
  have at_number (expects : Expects syn known reached) :
      ∃ expected, known = some expected ∧ offset syn expected ≤ reached := by
    obtain ⟨expected, found, here⟩ := expects
    exact ⟨expected, found, Nat.le_of_eq here⟩
  cases consumer with
  | stopped => exact at_number follows
  | waiting => exact at_number follows
  | collecting => exact at_number follows
  | visiting round phase =>
    obtain ⟨-, follows⟩ := follows
    cases phase with
    | reading topSeq => exact at_number follows.1
    | checkingStale topSeq expected => exact ⟨expected, follows.1, Nat.le_of_eq follows.2.1⟩
    | popping expected => exact ⟨expected, follows.1, Nat.le_of_eq follows.2.1⟩
    | popped packet expected =>
      obtain ⟨-, ⟨number, found, here⟩, final⟩ := follows
      refine ⟨number, found, ?_⟩
      rw [here, ← final]
      exact Nat.le_add_right _ _
    | raising next => exact follows.2
    | deactivating delivered => exact at_number follows.1
    | deactivated delivered => exact at_number follows.1
    | measuring topSeq expected => exact follows.elim
    | forgiving topSeq expected => exact follows.elim
    | advancing topSeq expected => exact follows.elim
    | poppingStale => exact follows.elim
    | skipping topSeq => exact follows.elim
    | peeking => exact at_number follows
    | clearing => exact at_number follows
    | checkingEmpty => exact at_number follows
    | timing topSeq => exact at_number follows

theorem Delivery.within (delivery : Delivery syn state reached) :
    WithinHalf state.writer syn.flowId (syn.seqNum + 1) where
  packets packet member := (delivery.heap_segment packet member).offset_lt
  expected expected found := by
    obtain ⟨number, known, below⟩ := follows_expected delivery.follows
    rw [known] at found
    cases found
    exact Nat.lt_of_le_of_lt below delivery.reached_lt

theorem Delivery.top_unique (delivery : Delivery syn state reached) {first second : TcpPacket}
    (firstTop : IsTop (state.writer.queueMap syn.flowId) first)
    (secondTop : IsTop (state.writer.queueMap syn.flowId) second) :
    first.seqNum = second.seqNum := by
  have within := delivery.within
  have ordered := ordered_within within
  have firstHalf := within.packets first firstTop.member
  have secondHalf := within.packets second secondTop.member
  have notAbove := firstTop.least ordered second secondTop.member
  have notBelow := secondTop.least ordered first firstTop.member
  rw [Bool.eq_false_iff, ne_eq, seq_less_within secondHalf firstHalf] at notAbove
  rw [Bool.eq_false_iff, ne_eq, seq_less_within firstHalf secondHalf] at notBelow
  exact eq_of_offset (Nat.le_antisymm (Nat.not_lt.mp notAbove) (Nat.not_lt.mp notBelow))

theorem next_follows {round : Round} (own : ∀ flowId ∈ round.flowId :: round.rest,
    flowId = syn.flowId) (expects : Expects syn known reached) :
    round.next.Follows syn heap known reached := by
  rcases round with ⟨flowId, rest, progressedAny⟩
  cases rest with
  | nil => cases progressedAny <;> exact expects
  | cons first rest =>
    exact ⟨fun other member => own other (List.mem_cons_of_mem _ member), expects⟩

/-- A consumer that rests follows the expected number alone. -/
theorem LocalWriter.Quiescent.follows_iff {writer : LocalWriter} (quiescent : writer.Quiescent) :
    writer.consumer.Follows syn heap known reached ↔ Expects syn known reached := by
  cases consumer : writer.consumer with
  | visiting round phase =>
    have running : writer.Running := by
      rw [LocalWriter.Running, consumer]
      exact ⟨nofun, nofun⟩
    exact absurd running quiescent.resting
  | stopped => rfl
  | waiting => rfl
  | collecting => rfl

/-- The expected number moves up to a number that is not behind it. -/
theorem raise_ahead {expected number : UInt32} (bounded : reached < 2 ^ 31)
    (below : offset syn expected ≤ reached) (here : offset syn number = reached) :
    raiseTo (some expected) number = number := by
  rw [raiseTo]
  split_ifs with less
  · rfl
  have notBelow := (seq_less_within (Nat.lt_of_le_of_lt below bounded)
    (Nat.lt_of_le_of_lt (Nat.le_of_eq here) bounded)).not.mp less
  apply eq_of_offset
  exact Nat.le_antisymm (below.trans (Nat.le_of_eq here.symm)) (Nat.not_lt.mp notBelow)

/-! ### What a step leaves -/

theorem Delivery.goes (delivery : Delivery syn state reached) {writer : LocalWriter}
    (queue : writer.queueMap syn.flowId = state.writer.queueMap syn.flowId)
    (active : ∀ flowId ∈ writer.activeFlows, flowId = syn.flowId)
    (pushing : ∀ flowId, writer.producer = .pushed flowId ∨ writer.producer = .synSeeded flowId →
      flowId = syn.flowId)
    (deadlines : ∀ flowId, writer.gapDeadlines flowId = none) (sleepers : writer.sleepers = 0)
    (follows : writer.consumer.Follows syn (writer.queueMap syn.flowId)
      (writer.expectedSeqMap syn.flowId) reached) :
    Delivery syn ⟨writer, state.arrived, state.written⟩ reached where
  account := by
    rw [queue]
    exact delivery.account
  segments := delivery.segments
  attained := delivery.attained
  active := active
  pushing := pushing
  deadlines := deadlines
  sleepers := sleepers
  follows := follows

/-- A step that changes only where the consumer is. -/
theorem Delivery.turns (delivery : Delivery syn state reached) {consumer : ConsumerPhase}
    (follows : consumer.Follows syn (state.writer.queueMap syn.flowId)
      (state.writer.expectedSeqMap syn.flowId) reached) :
    Delivery syn ⟨{ state.writer with consumer := consumer }, state.arrived, state.written⟩ reached :=
  delivery.goes rfl delivery.active delivery.pushing delivery.deadlines delivery.sleepers follows

theorem Delivery.takes (delivery : Delivery syn state reached) {packet : TcpPacket}
    (member : packet ∈ state.writer.queueMap syn.flowId) {consumer : ConsumerPhase} {later : Nat}
    (attained : later = reached ∨ segmentEnd syn packet = later)
    (follows : consumer.Follows syn ((state.writer.queueMap syn.flowId).erase packet)
      (state.writer.expectedSeqMap syn.flowId) later) :
    Delivery syn
      ⟨{ state.writer with
          queueMap := state.writer.setQueue syn.flowId
            ((state.writer.queueMap syn.flowId).erase packet)
          consumer := consumer },
        state.arrived, state.written ++ [packet]⟩ later where
  account := by
    rw [LocalWriter.setQueue]
    simp only [Function.update_self]
    have moved := (List.perm_cons_erase member).append_left state.written
    rw [List.append_assoc, List.singleton_append]
    exact moved.symm.trans delivery.account
  segments := delivery.segments
  attained := by
    rcases attained with rfl | final
    · rcases delivery.attained with zero | ⟨earlier, before, final⟩
      · exact .inl zero
      · exact .inr ⟨earlier, List.mem_append_left _ before, final⟩
    · exact .inr ⟨packet, List.mem_append_right _ (List.mem_singleton.mpr rfl), final⟩
  active := delivery.active
  pushing := delivery.pushing
  deadlines := delivery.deadlines
  sleepers := delivery.sleepers
  follows := by
    rw [LocalWriter.setQueue]
    simp only [Function.update_self]
    exact follows

theorem erase_determines {first second : TcpPacket} (firstIn : first ∈ heap)
    (same : heap.erase first = heap.erase second) : first = second := by
  by_contra different
  have counted := congrArg (List.count first) same
  rw [List.count_erase_self, List.count_erase_of_ne different] at counted
  have positive := List.count_pos_iff.mpr firstIn
  omega

theorem writes_popped {writer next : LocalWriter} {packets : List TcpPacket} {round : Round}
    {phase : VisitPhase} {packet : TcpPacket} (visiting : writer.consumer = .visiting round phase)
    (member : packet ∈ writer.queueMap round.flowId)
    (queue : next.queueMap =
      writer.setQueue round.flowId ((writer.queueMap round.flowId).erase packet))
    (writes : ∃ round phase packet, writer.consumer = .visiting round phase ∧
      packet ∈ writer.queueMap round.flowId ∧ packets = [packet] ∧
      next.queueMap =
        writer.setQueue round.flowId ((writer.queueMap round.flowId).erase packet)) :
    packets = [packet] := by
  obtain ⟨other, otherPhase, written, here, _, rfl, left⟩ := writes
  rw [visiting] at here
  cases here
  have heaps := congrFun (queue.symm.trans left) round.flowId
  rw [LocalWriter.setQueue, LocalWriter.setQueue, Function.update_self, Function.update_self]
    at heaps
  rw [erase_determines member heaps]

theorem set_deadline_none {writer : LocalWriter}
    (deadlines : ∀ flowId, writer.gapDeadlines flowId = none) (flowId : FlowId) :
    ∀ other, writer.setDeadline flowId none other = none := by
  intro other
  rw [LocalWriter.setDeadline]
  by_cases here : other = flowId
  · rw [here, Function.update_self]
  · rw [Function.update_of_ne here]
    exact deadlines other

/-- What a step of the consumer writes ends at the number that is reached, or was stale. -/
def EndsReached (syn : TcpPacket) (state : Observed) (label : WriterLabel × List TcpPacket)
    (later : Nat) : Prop :=
  ∀ packet ∈ label.2, segmentEnd syn packet = later ∨ label.1 = .stalePopped ∧
    Expects syn (state.writer.expectedSeqMap syn.flowId) later

theorem after_stale_follows {config : WriterConfig} (intolerant : config.backlogTolerance = 0)
    {round : Round} {topSeq expected : UInt32}
    (own : ∀ flowId ∈ round.flowId :: round.rest, flowId = syn.flowId)
    (here : offset syn expected = reached)
    (top : ∃ top, IsTop heap top ∧ top.seqNum = topSeq)
    (fresh : seqLess topSeq expected = false) :
    (round.afterStale config topSeq expected).Follows syn heap (some expected) reached := by
  have expects : Expects syn (some expected) reached := ⟨expected, rfl, here⟩
  have noBacklog : ¬(0 < config.backlogTolerance ∧ topSeq ≠ expected) := by
    rw [intolerant]
    exact fun impossible => Nat.lt_irrefl 0 impossible.1
  rw [Round.afterStale, if_neg noBacklog, Round.afterBacklog, fresh]
  split_ifs with same below timed
  · subst same
    exact ⟨own, rfl, here, top⟩
  · exact below.elim
  · exact ⟨own, expects⟩
  · exact next_follows own expects

variable {config : WriterConfig} {packets : List TcpPacket} {next : LocalWriter}

theorem expected_read_delivers (delivery : Delivery syn state reached)
    (step : ConsumerStep config state.writer .expectedRead next) :
    Delivery syn ⟨next, state.arrived, state.written⟩ reached := by
  have follows := delivery.follows
  cases step with
  | expectedRead round topSeq expected visiting free known =>
    rw [visiting] at follows
    obtain ⟨own, ⟨number, found, here⟩, top⟩ := follows
    have flow := own round.flowId List.mem_cons_self
    rw [flow, found] at known
    cases known
    refine delivery.goes rfl delivery.active delivery.pushing delivery.deadlines
      delivery.sleepers ?_
    refine ⟨own, ?_, here, top⟩
    rw [LocalWriter.setExpected, flow]
    exact Function.update_self ..

theorem fresh_kept_delivers (intolerant : config.backlogTolerance = 0)
    (delivery : Delivery syn state reached)
    (step : ConsumerStep config state.writer .freshKept next) :
    Delivery syn ⟨next, state.arrived, state.written⟩ reached := by
  have follows := delivery.follows
  cases step with
  | freshKept round topSeq expected visiting kept =>
    rw [visiting] at follows
    obtain ⟨own, known, here, top⟩ := follows
    have flow := own round.flowId List.mem_cons_self
    refine delivery.turns ?_
    obtain ⟨first, isTop, rfl⟩ := top
    have fresh : seqLess first.seqNum expected = false := by
      rw [flow] at kept
      rcases kept with empty | ⟨packet, packetTop, notLess⟩
      · have member := isTop.member
        rw [empty] at member
        cases member
      · rwa [delivery.top_unique isTop packetTop]
    rw [known]
    exact after_stale_follows intolerant own here ⟨first, isTop, rfl⟩ fresh

theorem expected_reread_delivers (delivery : Delivery syn state reached)
    (step : ConsumerStep config state.writer .expectedReread next) :
    Delivery syn ⟨next, state.arrived, state.written⟩ reached := by
  have follows := delivery.follows
  cases step with
  | expectedReread round packet expected visiting free =>
    rw [visiting] at follows
    obtain ⟨own, segment, ⟨number, known, here⟩, final⟩ := follows
    have flow := own round.flowId List.mem_cons_self
    refine delivery.turns ⟨own, ?_, number, known, ?_⟩
    · have bounded := delivery.reached_lt
      rw [flow, known, Option.getD_some, nextExpected, segment.notLast]
      simp only [Bool.false_eq_true, if_false, UInt32.add_zero]
      rw [offset_add _ _ (by rw [here, ← segmentEnd, final]; omega), here, ← final]
      rfl
    · rw [here, ← final]
      exact Nat.le_add_right _ _

theorem stale_popped_delivers (delivery : Delivery syn state reached)
    (step : ConsumerStep config state.writer .stalePopped next)
    (writes : Writes state.writer next packets .stalePopped) :
    ∃ later, reached ≤ later ∧
      Delivery syn ⟨next, state.arrived ++ [], state.written ++ packets⟩ later ∧
      EndsReached syn state (.stalePopped, packets) later := by
  have follows := delivery.follows
  cases step with
  | stalePopped round topSeq expected packet visiting isTop less =>
    rw [visiting] at follows
    obtain ⟨own, known, here, top⟩ := follows
    have flow := own round.flowId List.mem_cons_self
    cases writes_popped visiting isTop.member rfl writes
    rw [flow] at isTop
    refine ⟨reached, Nat.le_refl _, ?_, ?_⟩
    · rw [List.append_nil, flow]
      exact delivery.takes isTop.member (.inl rfl) ⟨own, expected, known, here⟩
    · intro other member
      exact .inr ⟨rfl, expected, known, here⟩

theorem popped_delivers (delivery : Delivery syn state reached)
    (step : ConsumerStep config state.writer .popped next)
    (writes : Writes state.writer next packets .popped) :
    ∃ later, reached ≤ later ∧
      Delivery syn ⟨next, state.arrived ++ [], state.written ++ packets⟩ later ∧
      EndsReached syn state (.popped, packets) later := by
  have follows := delivery.follows
  cases step with
  | popped round expected packet visiting isTop =>
    rw [visiting] at follows
    obtain ⟨own, known, here, top, topIs, topSeq⟩ := follows
    have flow := own round.flowId List.mem_cons_self
    cases writes_popped visiting isTop.member rfl writes
    rw [flow] at isTop
    have number : packet.seqNum = expected := (delivery.top_unique isTop topIs).trans topSeq
    have segment := delivery.heap_segment packet isTop.member
    refine ⟨segmentEnd syn packet, ?_, ?_, ?_⟩
    · rw [← here, ← number]
      exact Nat.le_add_right _ _
    · rw [List.append_nil, flow]
      apply delivery.takes isTop.member (.inr rfl)
      refine ⟨own, segment, ⟨expected, known, ?_⟩, rfl⟩
      rw [number]
    · intro other member
      rw [List.mem_singleton.mp member]
      exact .inl rfl

theorem consumer_delivers {label : WriterLabel} (untimed : config.gapTimeout = none)
    (intolerant : config.backlogTolerance = 0) (delivery : Delivery syn state reached)
    (step : ConsumerStep config state.writer label next)
    (writes : Writes state.writer next packets label) :
    ∃ later, reached ≤ later ∧
      Delivery syn ⟨next, state.arrived ++ label.arrivals, state.written ++ packets⟩ later ∧
      EndsReached syn state (label, packets) later := by
  have follows := delivery.follows
  have still {writer : LocalWriter}
      (moved : Delivery syn ⟨writer, state.arrived, state.written⟩ reached) :
      ∃ later, reached ≤ later ∧
        Delivery syn ⟨writer, state.arrived ++ [], state.written ++ []⟩ later ∧
        EndsReached syn state (label, []) later := by
    rw [List.append_nil, List.append_nil]
    exact ⟨reached, Nat.le_refl _, moved, nofun⟩
  have taken := step
  cases step with
  | woken waiting stored =>
    cases writes
    rw [waiting] at follows
    exact still (delivery.goes rfl delivery.active delivery.pushing delivery.deadlines
      delivery.sleepers follows)
  | collected flowIds collecting free distinct members =>
    cases writes
    rw [collecting] at follows
    refine still (delivery.turns ?_)
    cases flowIds with
    | nil => exact follows
    | cons first rest =>
      refine ⟨?_, follows⟩
      intro flowId member
      exact delivery.active flowId ((members flowId).mp member)
  | peeked round top visiting isTop =>
    cases writes
    rw [visiting] at follows
    obtain ⟨own, expects⟩ := follows
    have here := own round.flowId List.mem_cons_self
    rw [here] at isTop
    exact still (delivery.turns ⟨own, expects, top, isTop, rfl⟩)
  | peekedNone round visiting empty =>
    cases writes
    rw [visiting] at follows
    obtain ⟨own, expects⟩ := follows
    rw [own round.flowId List.mem_cons_self] at empty
    exact still (delivery.turns ⟨own, expects, empty⟩)
  | deactivated round delivered visiting free =>
    cases writes
    rw [visiting] at follows
    refine still (delivery.goes rfl ?_ delivery.pushing delivery.deadlines delivery.sleepers
      follows)
    intro flowId member
    exact delivery.active flowId (Finset.mem_of_mem_erase member)
  | deadlineDropped round delivered visiting =>
    cases writes
    rw [visiting] at follows
    obtain ⟨own, expects, empty⟩ := follows
    refine still (delivery.goes rfl delivery.active delivery.pushing
      (set_deadline_none delivery.deadlines _) delivery.sleepers ?_)
    cases delivered with
    | true => exact ⟨own, expects⟩
    | false => exact next_follows own expects
  | expectedRead =>
    cases writes
    exact still (expected_read_delivers delivery taken)
  | stalePopped => exact stale_popped_delivers delivery taken writes
  | freshKept =>
    cases writes
    exact still (fresh_kept_delivers intolerant delivery taken)
  | popped => exact popped_delivers delivery taken writes
  | poppedNone round expected visiting empty =>
    cases writes
    rw [visiting] at follows
    obtain ⟨own, known, here, -⟩ := follows
    exact still (delivery.turns (next_follows own ⟨expected, known, here⟩))
  | expectedReread =>
    cases writes
    exact still (expected_reread_delivers delivery taken)
  | expectedRaised round number visiting free =>
    cases writes
    rw [visiting] at follows
    obtain ⟨own, here, expected, known, below⟩ := follows
    have flow := own round.flowId List.mem_cons_self
    refine still (delivery.goes rfl delivery.active delivery.pushing delivery.deadlines
      delivery.sleepers ⟨own, number, ?_, here⟩)
    rw [LocalWriter.setExpected, flow, known, raise_ahead delivery.reached_lt below here]
    exact Function.update_self ..
  | deadlineCleared round visiting =>
    cases writes
    rw [visiting] at follows
    exact still (delivery.goes rfl delivery.active delivery.pushing
      (set_deadline_none delivery.deadlines _) delivery.sleepers follows)
  | emptyChecked round visiting =>
    cases writes
    rw [visiting] at follows
    obtain ⟨own, expects⟩ := follows
    have flow := own round.flowId List.mem_cons_self
    refine still (delivery.turns ⟨own, ?_⟩)
    split_ifs with empty
    · rw [flow] at empty
      exact ⟨expects, empty⟩
    · exact expects
  | timerArmed round topSeq now visiting unarmed =>
    cases writes
    rw [visiting] at follows
    obtain ⟨own, expects⟩ := follows
    refine still (delivery.goes rfl delivery.active delivery.pushing ?_ ?_
      (next_follows own expects))
    · rw [untimed]
      exact set_deadline_none delivery.deadlines _
    · rw [untimed]
      exact delivery.sleepers
  | deadlineReached round topSeq now deadline visiting armed past =>
    rw [delivery.deadlines] at armed
    cases armed
  | deadlineAhead round topSeq now deadline visiting armed ahead =>
    rw [delivery.deadlines] at armed
    cases armed
  | backlogMeasured round topSeq expected visiting =>
    rw [visiting] at follows
    exact follows.2.elim
  | backlogForgiven round topSeq expected visiting =>
    rw [visiting] at follows
    exact follows.2.elim
  | expectedAdvanced round topSeq expected visiting free =>
    rw [visiting] at follows
    exact follows.2.elim
  | topPopped round packet visiting isTop =>
    rw [visiting] at follows
    exact follows.2.elim
  | topMissing round visiting empty =>
    rw [visiting] at follows
    exact follows.2.elim
  | gapSkipped round topSeq visiting free =>
    rw [visiting] at follows
    exact follows.2.elim

theorem producer_delivers {label : WriterLabel} (delivery : Delivery syn state reached)
    (step : ProducerStep config state.writer label next)
    (stream : InStream syn state (label, packets))
    (writes : Writes state.writer next packets label) :
    Delivery syn ⟨next, state.arrived ++ label.arrivals, state.written ++ packets⟩ reached := by
  have still {writer : LocalWriter}
      (moved : Delivery syn ⟨writer, state.arrived, state.written⟩ reached) :
      Delivery syn ⟨writer, state.arrived ++ [], state.written ++ []⟩ reached := by
    rwa [List.append_nil, List.append_nil]
  cases step with
  | pushed packet receiving data enforced =>
    cases writes
    obtain ⟨quiescent, segment⟩ := stream
    have queue : state.writer.setQueue packet.flowId
        (packet :: state.writer.queueMap packet.flowId) syn.flowId =
          packet :: state.writer.queueMap syn.flowId := by
      rw [LocalWriter.setQueue, segment.flow, Function.update_self]
    refine ⟨?_, ?_, ?_, delivery.active, ?_, delivery.deadlines, delivery.sleepers, ?_⟩
    · rw [List.append_nil]
      dsimp only
      rw [queue]
      have moved : (state.written ++ packet :: state.writer.queueMap syn.flowId).Perm
          (packet :: state.arrived) := List.perm_middle.trans (delivery.account.cons packet)
      exact moved.trans (List.perm_append_singleton packet state.arrived).symm
    · intro other member
      rcases List.mem_append.mp member with before | last
      · exact delivery.segments other before
      · rwa [List.mem_singleton.mp last]
    · rw [List.append_nil]
      exact delivery.attained
    · rintro flowId (pushed | seeded)
      · cases pushed
        exact segment.flow
      · cases seeded
    · exact quiescent.follows_iff.mpr (quiescent.follows_iff.mp delivery.follows)
  | inserted flowId pushed free =>
    cases writes
    refine still (delivery.goes rfl ?_ nofun delivery.deadlines delivery.sleepers
      delivery.follows)
    intro other member
    rcases Finset.mem_insert.mp member with rfl | before
    · exact delivery.pushing other (.inl pushed)
    · exact delivery.active other before
  | notified flowId inserted =>
    cases writes
    exact still (delivery.goes rfl delivery.active nofun delivery.deadlines delivery.sleepers
      delivery.follows)
  | seeded packet receiving control enforced isSyn => exact stream.elim
  | seedInserted flowId seeded free =>
    cases writes
    refine still (delivery.goes rfl ?_ nofun delivery.deadlines delivery.sleepers
      delivery.follows)
    intro other member
    rcases Finset.mem_insert.mp member with rfl | before
    · exact delivery.pushing other (.inr seeded)
    · exact delivery.active other before
  | seedCleared flowId inserted =>
    cases writes
    exact still (delivery.goes rfl delivery.active nofun
      (set_deadline_none delivery.deadlines _) delivery.sleepers delivery.follows)
  | raised packet receiving control enforced noSyn last => exact stream.elim
  | raiseCleared flowId raised =>
    cases writes
    exact still (delivery.goes rfl delivery.active nofun
      (set_deadline_none delivery.deadlines _) delivery.sleepers delivery.follows)
  | forwarded packet receiving forwarded => exact stream.elim

theorem observed_delivers {config : WriterConfig} (untimed : config.gapTimeout = none)
    (intolerant : config.backlogTolerance = 0) {label : WriterLabel × List TcpPacket}
    {next : Observed} (delivery : Delivery syn state reached)
    (step : ObservedStep config state label next) (stream : InStream syn state label) :
    ∃ later, reached ≤ later ∧ Delivery syn next later ∧ EndsReached syn state label later := by
  obtain ⟨name, packets⟩ := label
  obtain ⟨writer, arrived, written⟩ := next
  obtain ⟨taken, writes, rfl, rfl⟩ := step
  cases taken with
  | producer step =>
    have none : packets = [] := by
      cases step <;> exact writes
    refine ⟨reached, Nat.le_refl _, producer_delivers delivery step stream writes, ?_⟩
    rw [none]
    nofun
  | consumer step => exact consumer_delivers untimed intolerant delivery step writes
  | slept sleepers sleeping =>
    rw [delivery.sleepers] at sleeping
    cases sleeping

/-- The condition under which no flow is stranded holds of each step. -/
theorem Delivery.keeps_flows {config : WriterConfig} {label : WriterLabel} {next : LocalWriter}
    {packets : List TcpPacket} (delivery : Delivery syn state reached)
    (step : WriterStep config state.writer label next)
    (stream : InStream syn state (label, packets)) : KeepsFlows state.writer label := by
  have follows := delivery.follows
  cases step with
  | producer step =>
    cases step with
    | seeded packet receiving control enforced isSyn => exact stream.elim
    | raised packet receiving control enforced noSyn last => exact stream.elim
    | _ => trivial
  | consumer step =>
    cases step with
    | peeked round top visiting isTop =>
      rw [visiting] at follows
      have flow := follows.1 round.flowId List.mem_cons_self
      rw [flow] at isTop ⊢
      exact peek_within delivery.within isTop
    | deactivated round delivered visiting free =>
      rw [visiting] at follows
      obtain ⟨own, -, empty⟩ := follows
      left
      rw [own round.flowId List.mem_cons_self]
      exact empty
    | _ => trivial
  | slept sleepers sleeping => trivial

end Invariant

/-! ## Runs -/

section Runs

variable {config : WriterConfig} {syn : TcpPacket} {state : Observed} {total : Nat}

theorem kept_syn_handled (config : WriterConfig) (syn : TcpPacket) :
    Kept (synHandled config syn) where
  active _ nonempty := (nonempty rfl).elim
  attended flowId deliverable := (deliverable_nonempty deliverable rfl).elim
  holding round phase visiting := by
    simp only [synHandled, LocalWriter.new] at visiting
    split_ifs at visiting

theorem delivery_of_run (enforced : config.enforceOrder = true) (untimed : config.gapTimeout = none)
    (intolerant : config.backlogTolerance = 0)
    (reachable : ((observedWriter config syn).restrict (InStream syn)).Reachable state) :
    Kept state.writer ∧ ∃ reached, Delivery syn state reached := by
  refine TransitionSystem.invariant_of_reachable
    (motive := fun state => Kept state.writer ∧ ∃ reached, Delivery syn state reached) ?_ ?_
    reachable
  · rintro _ rfl
    exact ⟨kept_syn_handled config syn, 0, delivery_start enforced⟩
  · rintro before label after ⟨kept, reached, delivery⟩ ⟨stream, step⟩
    obtain ⟨later, -, delivered, -⟩ := observed_delivers untimed intolerant delivery step stream
    exact ⟨writer_keeps kept (delivery.keeps_flows step.taken stream) step.taken, later, delivered⟩

/-- The written segments end at the expected number or below, when each that was stale did so. -/
theorem ends_below_of_run (enforced : config.enforceOrder = true)
    (untimed : config.gapTimeout = none) (intolerant : config.backlogTolerance = 0)
    (reachable : ((observedWriter config syn).restrict fun state label =>
      InStream syn state label ∧ StaleEndsBelow syn state label).Reachable state) :
    Kept state.writer ∧ ∃ reached, Delivery syn state reached ∧
      ∀ packet ∈ state.written, segmentEnd syn packet ≤ reached := by
  refine TransitionSystem.invariant_of_reachable (motive := fun state => Kept state.writer ∧
    ∃ reached, Delivery syn state reached ∧
      ∀ packet ∈ state.written, segmentEnd syn packet ≤ reached) ?_ ?_ reachable
  · rintro _ rfl
    exact ⟨kept_syn_handled config syn, 0, delivery_start enforced, nofun⟩
  · rintro before ⟨label, packets⟩ after ⟨kept, reached, delivery, below⟩ ⟨⟨stream, stale⟩, step⟩
    obtain ⟨later, grown, delivered, ends⟩ :=
      observed_delivers untimed intolerant delivery step stream
    have keeps := writer_keeps kept (delivery.keeps_flows step.taken stream) step.taken
    refine ⟨keeps, later, delivered, ?_⟩
    intro packet member
    rw [step.written] at member
    rcases List.mem_append.mp member with earlier | now
    · exact (below packet earlier).trans grown
    · rcases ends packet now with final | ⟨isStale, expected, known, here⟩
      · exact Nat.le_of_eq final
      · simp only at isStale
        subst isStale
        rw [← here]
        exact stale packet now expected known

/-- At rest, the heap holds only what begins beyond the expected number. -/
theorem Delivery.at_rest {reached : Nat} (kept : Kept state.writer)
    (delivery : Delivery syn state reached) (quiescent : state.writer.Quiescent) :
    Expects syn (state.writer.expectedSeqMap syn.flowId) reached ∧
      ∀ packet ∈ state.writer.queueMap syn.flowId, reached < offset syn packet.seqNum := by
  have expects := quiescent.follows_iff.mp delivery.follows
  refine ⟨expects, ?_⟩
  intro packet member
  obtain ⟨expected, known, here⟩ := expects
  by_contra notBeyond
  have due : Due packet.seqNum expected := by
    rcases Nat.lt_or_eq_of_le (Nat.not_lt.mp notBeyond) with less | same
    · right
      rw [seq_less_within (delivery.within.packets packet member)
        (delivery.within.expected expected known)]
      exact Nat.lt_of_lt_of_eq less here.symm
    · exact .inl (eq_of_offset (same.trans here.symm))
  have deliverable : state.writer.Deliverable syn.flowId := by
    refine ⟨packet, member, ?_⟩
    intro number found
    rw [known] at found
    cases found
    exact due
  rcases never_stranded_of_kept kept syn.flowId deliverable with ⟨-, awake⟩ | pushed | inserted
  · exact awake.elim quiescent.resting quiescent.unannounced
  · rw [quiescent.receiving] at pushed
    cases pushed
  · rw [quiescent.receiving] at inserted
    cases inserted

theorem StreamCovered.total_lt {arrived : List TcpPacket}
    (covered : StreamCovered syn arrived total)
    (segments : ∀ packet ∈ arrived, Segment syn packet) : total < 2 ^ 31 := by
  cases total with
  | zero => decide
  | succ last =>
    obtain ⟨packet, member, -, ends⟩ := covered.bytes last (Nat.lt_succ_self last)
    have within := (segments packet member).within
    omega

/-- At rest and with the stream covered, all is written exactly when no written segment ends beyond
the expected number. -/
theorem Delivery.all_written_iff {reached : Nat} (kept : Kept state.writer)
    (delivery : Delivery syn state reached) (quiescent : state.writer.Quiescent)
    (covered : StreamCovered syn state.arrived total) :
    AllWritten syn state total ↔ ∀ packet ∈ state.written, segmentEnd syn packet ≤ reached := by
  obtain ⟨⟨expected, known, here⟩, beyond⟩ := delivery.at_rest kept quiescent
  constructor
  · intro all packet member
    have same := all.expected
    rw [known] at same
    cases same
    have inside := covered.total_lt delivery.segments
    have final := @offset_add syn (syn.seqNum + 1) total
    rw [offset_start, Nat.zero_add] at final
    rw [← here, final (by omega)]
    exact covered.nothingBeyond packet
      (delivery.account.mem_iff.mp (List.mem_append_left _ member))
  · intro below
    have atMost : reached ≤ total := by
      rcases delivery.attained with rfl | ⟨packet, member, rfl⟩
      · exact Nat.zero_le _
      · exact covered.nothingBeyond packet
          (delivery.account.mem_iff.mp (List.mem_append_left _ member))
    have complete : reached = total := by
      by_contra short
      obtain ⟨packet, arrived, begins, ends⟩ :=
        covered.bytes reached (Nat.lt_of_le_of_ne atMost short)
      rcases List.mem_append.mp (delivery.account.mem_iff.mpr arrived) with written | waiting
      · exact absurd (below packet written) (Nat.not_le.mpr ends)
      · exact absurd (beyond packet waiting) (Nat.not_lt.mpr begins)
    have heap : state.writer.queueMap syn.flowId = [] := by
      rw [List.eq_nil_iff_forall_not_mem]
      intro packet member
      have after := beyond packet member
      have segment := delivery.heap_segment packet member
      have inside := covered.nothingBeyond packet
        (delivery.account.mem_iff.mp (List.mem_append_right _ member))
      have ends : offset syn packet.seqNum ≤ segmentEnd syn packet := Nat.le_add_right _ _
      omega
    refine ⟨?_, heap, ?_⟩
    · have account := delivery.account
      rwa [heap, List.append_nil] at account
    · rw [known, seq_of_offset (here.trans complete)]

end Runs

/-- In every run in which no segment that is written as stale ends beyond the expected number, all
is written as soon as the segments cover the stream and the writer is at rest. In any run, all is
then written exactly when no written segment ends beyond the expected number. -/
theorem reorder_buffer_progresses (config : WriterConfig) (syn : TcpPacket)
    (enforced : config.enforceOrder = true) (untimed : config.gapTimeout = none)
    (intolerant : config.backlogTolerance = 0) :
    (∀ state, ((observedWriter config syn).restrict fun state label =>
        InStream syn state label ∧ StaleEndsBelow syn state label).Reachable state →
      state.writer.Quiescent → ∀ total, StreamCovered syn state.arrived total →
        AllWritten syn state total) ∧
    ∀ state, ((observedWriter config syn).restrict (InStream syn)).Reachable state →
      state.writer.Quiescent → ∀ total, StreamCovered syn state.arrived total →
        (AllWritten syn state total ↔ ∀ packet ∈ state.written,
          ∀ expected ∈ state.writer.expectedSeqMap syn.flowId,
            segmentEnd syn packet ≤ offset syn expected) := by
  constructor
  · intro state reachable quiescent total covered
    obtain ⟨kept, reached, delivery, below⟩ :=
      ends_below_of_run enforced untimed intolerant reachable
    exact (delivery.all_written_iff kept quiescent covered).mpr below
  · intro state reachable quiescent total covered
    obtain ⟨kept, reached, delivery⟩ := delivery_of_run enforced untimed intolerant reachable
    obtain ⟨⟨expected, known, here⟩, -⟩ := delivery.at_rest kept quiescent
    rw [delivery.all_written_iff kept quiescent covered, known, ← here]
    constructor
    · rintro below packet member _ ⟨⟩
      exact below packet member
    · intro below packet member
      exact below packet member expected rfl

/-! ## A retransmission cut differently -/

/-- A run within `guard` leads to a state that `target` holds of. -/
def LeadsTo (config : WriterConfig) (syn : TcpPacket)
    (guard : Observed → WriterLabel × List TcpPacket → Prop) (target : Observed → Prop)
    (state : Observed) : Prop :=
  ((observedWriter config syn).restrict guard).Leads target state

theorem leads_after {config : WriterConfig} {syn : TcpPacket}
    {guard : Observed → WriterLabel × List TcpPacket → Prop} {target : Observed → Prop}
    {writer next : LocalWriter} {arrived written : List TcpPacket} {label : WriterLabel}
    (packets : List TcpPacket) (taken : WriterStep config writer label next)
    (writes : Writes writer next packets label)
    (allowed : guard ⟨writer, arrived, written⟩ (label, packets))
    (leads : LeadsTo config syn guard target
      ⟨next, arrived ++ label.arrivals, written ++ packets⟩) :
    LeadsTo config syn guard target ⟨writer, arrived, written⟩ :=
  .after ⟨allowed, taken, writes, rfl, rfl⟩ leads

/-- A guard that leaves the stream to itself, up to the segments that are written as stale. -/
def Admits (syn : TcpPacket) (guard : Observed → WriterLabel × List TcpPacket → Prop) : Prop :=
  ∀ state label, InStream syn state label → label.1 ≠ .stalePopped → guard state label

theorem leads_silently {config : WriterConfig} {syn : TcpPacket}
    {guard : Observed → WriterLabel × List TcpPacket → Prop} {target : Observed → Prop}
    {writer next : LocalWriter} {arrived written : List TcpPacket} {label : WriterLabel}
    (taken : WriterStep config writer label next) (silent : label.arrivals = [])
    (writes : Writes writer next [] label)
    (allowed : guard ⟨writer, arrived, written⟩ (label, []))
    (leads : LeadsTo config syn guard target ⟨next, arrived, written⟩) :
    LeadsTo config syn guard target ⟨writer, arrived, written⟩ := by
  refine leads_after [] taken writes allowed ?_
  rwa [silent, List.append_nil, List.append_nil]

def piece (seqNum : UInt32) (length : Nat) : TcpPacket := ⟨7, seqNum, true, false, false, length⟩

def unlimited : WriterConfig := ⟨true, none, 0, false⟩

/-- The writer at rest, with the heap and the expected number of the one flow. -/
def rested (active : Finset FlowId) (expected : UInt32) (heap : List TcpPacket) : LocalWriter where
  queueMap := Function.update (fun _ => []) 7 heap
  activeFlows := active
  queueNotEmpty := false
  sleepers := 0
  expectedSeqMap := Function.update (fun _ => none) 7 (some expected)
  gapDeadlines _ := none
  producer := .receiving
  consumer := .waiting

theorem quiescent_of {writer : LocalWriter} (receiving : writer.producer = .receiving)
    (waiting : writer.consumer = .waiting) (unannounced : writer.queueNotEmpty = false)
    (sleepers : writer.sleepers = 0) : writer.Quiescent where
  receiving := receiving
  resting running := running.1 waiting
  unannounced := by
    rintro (stored | sleeping)
    · rw [unannounced] at stored
      cases stored
    · rw [sleepers] at sleeping
      cases sleeping

theorem syn_rested : synHandled unlimited (control 0 true false) = rested {7} 1 [] := by
  have heaps : Function.update (fun _ : FlowId => ([] : List TcpPacket)) 7 [] = fun _ => [] :=
    Function.update_eq_self _ _
  rw [rested, heaps]
  rfl

/-- The consumer reads the expected number with a segment on an empty heap. -/
theorem leads_read {guard : Observed → WriterLabel × List TcpPacket → Prop}
    {target : Observed → Prop} {active : Finset FlowId} {expected : UInt32}
    {arrived written : List TcpPacket} (seqNum : UInt32) (length : Nat)
    (admits : Admits (control 0 true false) guard) (activated : insert 7 active = {7})
    (segment : Segment (control 0 true false) (piece seqNum length))
    (leads : LeadsTo unlimited (control 0 true false) guard target
      ⟨{ rested {7} expected [piece seqNum length] with
          consumer := .visiting ⟨7, [], false⟩ (.checkingStale seqNum expected) },
        arrived ++ [piece seqNum length], written⟩) :
    LeadsTo unlimited (control 0 true false) guard target
      ⟨rested active expected [], arrived, written⟩ := by
  refine leads_after [] (.producer (.pushed (piece seqNum length) rfl rfl rfl)) rfl
    (admits _ _ ⟨quiescent_of rfl rfl rfl rfl, segment⟩ nofun) ?_
  refine leads_silently (.producer (.inserted 7 rfl nofun)) rfl rfl (admits _ _ trivial nofun) ?_
  refine leads_silently (.producer (.notified 7 rfl)) rfl rfl (admits _ _ trivial nofun) ?_
  refine leads_silently (.consumer (.woken rfl rfl)) rfl rfl (admits _ _ trivial nofun) ?_
  refine leads_silently (.consumer (.collected [7] rfl nofun (by decide) (listed activated))) rfl
    rfl (admits _ _ trivial nofun) ?_
  refine leads_silently (.consumer (.peeked _ (piece seqNum length) rfl (sole_top _))) rfl rfl
    (admits _ _ trivial nofun) ?_
  refine leads_silently (.consumer (.expectedRead _ _ expected rfl
    (fun _ => ⟨nofun, nofun, nofun⟩) rfl)) rfl rfl (admits _ _ trivial nofun) ?_
  simp only [rested, piece, LocalWriter.setQueue, LocalWriter.setExpected, WriterLabel.arrivals,
    activated, Function.update_idem, Function.update_self, List.append_nil] at leads ⊢
  exact leads

theorem leads_to_rest {guard : Observed → WriterLabel × List TcpPacket → Prop}
    {target : Observed → Prop} {expected : UInt32} {arrived written : List TcpPacket}
    (active : Finset FlowId) (admits : Admits (control 0 true false) guard)
    (deactivated : active.erase 7 = ∅)
    (leads : LeadsTo unlimited (control 0 true false) guard target
      ⟨rested ∅ expected [], arrived, written⟩) :
    LeadsTo unlimited (control 0 true false) guard target
      ⟨{ rested active expected [] with consumer := .visiting ⟨7, [], true⟩ .peeking },
        arrived, written⟩ := by
  refine leads_silently (.consumer (.peekedNone _ rfl rfl)) rfl rfl (admits _ _ trivial nofun) ?_
  refine leads_silently (.consumer (.deactivated _ false rfl nofun)) rfl rfl
    (admits _ _ trivial nofun) ?_
  refine leads_silently (.consumer (.deadlineDropped _ false rfl)) rfl rfl
    (admits _ _ trivial nofun) ?_
  refine leads_silently (.consumer (.collected [] rfl nofun (by decide) (listed deactivated))) rfl
    rfl (admits _ _ trivial nofun) ?_
  simp only [rested, LocalWriter.setDeadline, startRound, deactivated,
    Function.update_eq_self] at leads ⊢
  exact leads

theorem seq_less_self (seqNum : UInt32) : seqLess seqNum seqNum = false := by simp [seqLess]

theorem after_stale_in_order (expected : UInt32) :
    (⟨7, [], false⟩ : Round).afterStale unlimited expected expected =
      .visiting ⟨7, [], false⟩ (.popping expected) := by
  simp [Round.afterStale, Round.afterBacklog, unlimited]

/-- A segment in order is written and moves the expected number to its end. -/
theorem leads_in_order {guard : Observed → WriterLabel × List TcpPacket → Prop}
    {target : Observed → Prop} {active : Finset FlowId} {expected : UInt32}
    {arrived written : List TcpPacket} (length : Nat) (next : UInt32)
    (admits : Admits (control 0 true false) guard) (activated : insert 7 active = {7})
    (segment : Segment (control 0 true false) (piece expected length))
    (ends : nextExpected expected (piece expected length) = next)
    (raised : raiseTo (some expected) next = next)
    (leads : LeadsTo unlimited (control 0 true false) guard target
      ⟨rested ∅ next [], arrived ++ [piece expected length],
        written ++ [piece expected length]⟩) :
    LeadsTo unlimited (control 0 true false) guard target
      ⟨rested active expected [], arrived, written⟩ := by
  refine leads_read expected length admits activated segment ?_
  refine leads_silently (.consumer (.freshKept _ expected expected rfl
    (.inr ⟨_, sole_top (piece expected length), seq_less_self expected⟩))) rfl rfl
    (admits _ _ trivial nofun) ?_
  rw [after_stale_in_order]
  refine leads_after [piece expected length]
    (.consumer (.popped _ expected _ rfl (sole_top (piece expected length))))
    ⟨_, _, _, rfl, List.mem_singleton.mpr rfl, rfl, rfl⟩ (admits _ _ trivial nofun) ?_
  simp only [rested, LocalWriter.setQueue, Function.update_idem, Function.update_self,
    List.erase_cons_head, WriterLabel.arrivals, List.append_nil]
  refine leads_silently (.consumer (.expectedReread _ _ _ rfl fun _ => ⟨nofun, nofun, nofun⟩)) rfl
    rfl (admits _ _ trivial nofun) ?_
  refine leads_silently (.consumer (.expectedRaised _ _ rfl fun _ => ⟨nofun, nofun, nofun⟩)) rfl
    rfl (admits _ _ trivial nofun) ?_
  refine leads_silently (.consumer (.deadlineCleared _ rfl)) rfl rfl (admits _ _ trivial nofun) ?_
  refine leads_silently (.consumer (.emptyChecked _ rfl)) rfl rfl (admits _ _ trivial nofun) ?_
  refine leads_silently (.consumer (.deactivated _ true rfl nofun)) rfl rfl
    (admits _ _ trivial nofun) ?_
  refine leads_silently (.consumer (.deadlineDropped _ true rfl)) rfl rfl
    (admits _ _ trivial nofun) ?_
  have resting := leads_to_rest ∅ admits rfl leads
  simp only [rested, LocalWriter.setExpected, LocalWriter.setDeadline, Round.progress,
    Function.update_idem, Function.update_self, Function.update_eq_self, Option.getD_some, ends,
    raised] at resting ⊢
  exact resting

/-- A segment that is stale is written and leaves the expected number where it is. -/
theorem leads_stale {guard : Observed → WriterLabel × List TcpPacket → Prop}
    {target : Observed → Prop} {active : Finset FlowId} {expected : UInt32}
    {arrived written : List TcpPacket} (seqNum : UInt32) (length : Nat)
    (admits : Admits (control 0 true false) guard)
    (passes : ∀ state : Observed, state.writer.expectedSeqMap 7 = some expected →
      guard state (.stalePopped, [piece seqNum length]))
    (activated : insert 7 active = {7})
    (segment : Segment (control 0 true false) (piece seqNum length))
    (stale : seqLess seqNum expected = true)
    (leads : LeadsTo unlimited (control 0 true false) guard target
      ⟨rested ∅ expected [], arrived ++ [piece seqNum length],
        written ++ [piece seqNum length]⟩) :
    LeadsTo unlimited (control 0 true false) guard target
      ⟨rested active expected [], arrived, written⟩ := by
  refine leads_read seqNum length admits activated segment ?_
  refine leads_after [piece seqNum length]
    (.consumer (.stalePopped _ _ _ _ rfl (sole_top (piece seqNum length)) stale))
    ⟨_, _, _, rfl, List.mem_singleton.mpr rfl, rfl, rfl⟩ (passes _ rfl) ?_
  have resting := leads_to_rest {7} admits rfl leads
  simp only [rested, LocalWriter.setQueue, Round.progress, Function.update_idem,
    Function.update_self, List.erase_cons_head, WriterLabel.arrivals, List.append_nil] at resting ⊢
  exact resting

/-- Segments up to byte 100, then one from byte 50 to 150 that is stale, then the bytes up to 200:
the last segment stays in the heap. -/
theorem overlap_blocks_stream : ∃ state,
    ((observedWriter unlimited (control 0 true false)).restrict
      (InStream (control 0 true false))).Reachable state ∧
    state.writer.Quiescent ∧ StreamCovered (control 0 true false) state.arrived 200 ∧
    ¬AllWritten (control 0 true false) state 200 := by
  suffices leads : LeadsTo unlimited (control 0 true false) (InStream (control 0 true false))
      (fun state => state.writer.Quiescent ∧
        StreamCovered (control 0 true false) state.arrived 200 ∧
        ¬AllWritten (control 0 true false) state 200)
      ⟨synHandled unlimited (control 0 true false), [], []⟩ by
    obtain ⟨labels, finish, run, reached⟩ := leads
    exact ⟨finish, ⟨_, labels, rfl, run⟩, reached⟩
  rw [syn_rested]
  refine leads_in_order 100 101 (fun _ _ stream _ => stream) rfl
    ⟨rfl, rfl, by decide, by decide⟩ rfl rfl ?_
  refine leads_stale 51 100 (fun _ _ stream _ => stream) (fun _ _ => trivial) rfl
    ⟨rfl, rfl, by decide, by decide⟩ rfl ?_
  refine leads_read 151 50 (fun _ _ stream _ => stream) rfl ⟨rfl, rfl, by decide, by decide⟩ ?_
  refine leads_silently (.consumer (.freshKept _ _ _ rfl (.inr ⟨_, sole_top (piece 151 50), rfl⟩)))
    rfl rfl trivial ?_
  refine ⟨[], _, .nil, quiescent_of rfl rfl rfl rfl, ⟨?_, ?_⟩, ?_⟩
  · intro byte inside
    rcases Nat.lt_or_ge byte 100 with below | above
    · exact ⟨piece 1 100, by simp, Nat.zero_le _, below⟩
    · rcases Nat.lt_or_ge byte 150 with below | above
      · exact ⟨piece 51 100, by simp, Nat.le_trans (by decide) above, below⟩
      · exact ⟨piece 151 50, by simp, above, inside⟩
  · decide
  · intro all
    exact absurd all.heap (List.cons_ne_nil _ _)

/-- The bytes from 50 to 100 arrive twice, cut differently; the repetition is stale and ends at the
expected number. -/
theorem repetition_written : ∃ state, state.arrived = [piece 1 100, piece 51 50, piece 101 100] ∧
    AllWritten (control 0 true false) state 200 ∧
    (AllWritten (control 0 true false) state 200 ↔ ∀ packet ∈ state.written,
      ∀ expected ∈ state.writer.expectedSeqMap 7,
        segmentEnd (control 0 true false) packet ≤ offset (control 0 true false) expected) := by
  suffices leads : LeadsTo unlimited (control 0 true false)
      (fun state label => InStream (control 0 true false) state label ∧
        StaleEndsBelow (control 0 true false) state label)
      (fun state => state.writer.Quiescent ∧
        state.arrived = [piece 1 100, piece 51 50, piece 101 100])
      ⟨synHandled unlimited (control 0 true false), [], []⟩ by
    obtain ⟨labels, finish, run, quiescent, arrived⟩ := leads
    have covered : StreamCovered (control 0 true false) finish.arrived 200 := by
      rw [arrived]
      refine ⟨?_, by decide⟩
      intro byte inside
      rcases Nat.lt_or_ge byte 100 with below | above
      · exact ⟨piece 1 100, by simp, Nat.zero_le _, below⟩
      · exact ⟨piece 101 100, by simp, above, inside⟩
    have progress := reorder_buffer_progresses unlimited (control 0 true false) rfl rfl rfl
    refine ⟨finish, arrived, progress.1 finish ⟨_, labels, rfl, run⟩ quiescent 200 covered, ?_⟩
    have stream : ((observedWriter unlimited (control 0 true false)).restrict
        (InStream (control 0 true false))).Reachable finish :=
      ⟨_, labels, rfl, run.restrict_mono fun _ _ allowed => allowed.1⟩
    exact progress.2 finish stream quiescent 200 covered
  have admits : Admits (control 0 true false) fun state label =>
      InStream (control 0 true false) state label ∧
        StaleEndsBelow (control 0 true false) state label := by
    rintro state ⟨label, packets⟩ stream notStale
    refine ⟨stream, ?_⟩
    cases label
    case stalePopped => exact absurd rfl notStale
    all_goals trivial
  have passes : ∀ state : Observed, state.writer.expectedSeqMap 7 = some 101 →
      InStream (control 0 true false) state (.stalePopped, [piece 51 50]) ∧
        StaleEndsBelow (control 0 true false) state (.stalePopped, [piece 51 50]) := by
    intro state known
    refine ⟨trivial, ?_⟩
    intro packet member expected found
    rw [List.mem_singleton.mp member]
    have same : some 101 = some expected := known.symm.trans found
    cases same
    decide
  rw [syn_rested]
  refine leads_in_order 100 101 admits rfl ⟨rfl, rfl, by decide, by decide⟩ rfl rfl ?_
  refine leads_stale 51 50 admits passes rfl ⟨rfl, rfl, by decide, by decide⟩ rfl ?_
  refine leads_in_order 100 201 admits rfl ⟨rfl, rfl, by decide, by decide⟩ rfl rfl ?_
  exact ⟨[], _, .nil, quiescent_of rfl rfl rfl rfl, rfl⟩

end Nextmini.Node
