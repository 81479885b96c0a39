import Nextmini.Node.LocalWriter

/-!
# Flows of the reorder buffer

A packet that is in order or stale is delivered without another packet arriving, as long as the
consumer deactivates no flow that got a packet since its heap was found empty, no SYN or FIN makes a
packet deliverable behind the consumer's back, and the heap of a flow is ordered where the consumer
looks at it.
-/

namespace Nextmini.Node

open Nextmini.Library Nextmini.Routing

set_option autoImplicit false

/-! ## The property -/

def Due (seqNum expected : UInt32) : Prop := seqNum = expected ∨ seqLess seqNum expected = true

instance (seqNum expected : UInt32) : Decidable (Due seqNum expected) :=
  inferInstanceAs (Decidable (_ ∨ _))

namespace LocalWriter

/-- The heap holds a packet that is in order or stale. While no number is expected, the consumer takes
the one at the top. -/
def Deliverable (writer : LocalWriter) (flowId : FlowId) : Prop :=
  ∃ packet ∈ writer.queueMap flowId,
    ∀ expected ∈ writer.expectedSeqMap flowId, Due packet.seqNum expected

def WakeUpPending (writer : LocalWriter) : Prop :=
  writer.queueNotEmpty = true ∨ 0 < writer.sleepers

def Running (writer : LocalWriter) : Prop :=
  writer.consumer ≠ .waiting ∧ writer.consumer ≠ .stopped

def NeverStranded (writer : LocalWriter) : Prop :=
  ∀ flowId, writer.Deliverable flowId →
    (flowId ∈ writer.activeFlows ∧ (writer.Running ∨ writer.WakeUpPending)) ∨
      writer.producer = .pushed flowId ∨ writer.producer = .inserted flowId

end LocalWriter

/-! ## The condition -/

/-- The phases from which the visit of a flow goes on to a delivery or a new expected number. -/
def VisitPhase.Progresses : VisitPhase → Prop
  | .checkingStale topSeq expected => Due topSeq expected
  | .measuring topSeq expected => Due topSeq expected
  | .forgiving _ _ => True
  | .advancing _ _ => True
  | .popping _ => True
  | .popped _ _ => True
  | .raising _ => True
  | .clearing => True
  | .poppingStale => True
  | .skipping _ => True
  | _ => False

/-- The phases in which the consumer is about to find a deliverable packet. -/
def VisitPhase.Finds (known : Option UInt32) : VisitPhase → Prop
  | .peeking => True
  | .reading topSeq => ∀ expected ∈ known, Due topSeq expected
  | _ => False

/-- The consumer comes to the flow before it waits again. -/
def ConsumerPhase.ComesTo (known : Option UInt32) (flowId : FlowId) : ConsumerPhase → Prop
  | .stopped => False
  | .waiting => False
  | .collecting => True
  | .visiting round phase => round.progressedAny = true ∨ flowId ∈ round.rest ∨ phase.Progresses ∨
      flowId = round.flowId ∧ phase.Finds known

def LocalWriter.Attended (writer : LocalWriter) (flowId : FlowId) : Prop :=
  writer.WakeUpPending ∨ writer.consumer.ComesTo (writer.expectedSeqMap flowId) flowId

/-- A flow is deactivated only with an empty heap, or before the producer activates it again; a SYN or
FIN leaves a deliverable packet only to a consumer that comes to its flow; and the top of a heap is
deliverable if any of its packets is. -/
def KeepsFlows (writer : LocalWriter) : WriterLabel → Prop
  | .deactivated flowId => writer.queueMap flowId = [] ∨ writer.producer = .pushed flowId
  | .seeded packet =>
      (writer.seed packet).Deliverable packet.flowId → (writer.seed packet).Attended packet.flowId
  | .raised packet =>
      (writer.raise packet).Deliverable packet.flowId → (writer.raise packet).Attended packet.flowId
  | .peeked flowId top => writer.Deliverable flowId →
      ∀ expected ∈ writer.expectedSeqMap flowId, Due top.seqNum expected
  | _ => True

/-! ## Invariant -/

/-- The phases in which the heap of the visited flow has a packet. -/
def VisitPhase.HoldsPacket : VisitPhase → Prop
  | .reading _ => True
  | .checkingStale _ _ => True
  | .measuring _ _ => True
  | .forgiving _ _ => True
  | .advancing _ _ => True
  | .popping _ => True
  | _ => False

def ConsumerPhase.Holds (queueMap : FlowId → List TcpPacket) (consumer : ConsumerPhase) : Prop :=
  ∀ round phase, consumer = .visiting round phase → phase.HoldsPacket → queueMap round.flowId ≠ []

structure Kept (writer : LocalWriter) : Prop where
  active : ∀ flowId, writer.queueMap flowId ≠ [] →
    flowId ∈ writer.activeFlows ∨ writer.producer = .pushed flowId
  attended : ∀ flowId, writer.Deliverable flowId →
    writer.producer = .pushed flowId ∨ writer.producer = .inserted flowId ∨ writer.Attended flowId
  holding : writer.consumer.Holds writer.queueMap

theorem deliverable_nonempty {writer : LocalWriter} {flowId : FlowId}
    (deliverable : writer.Deliverable flowId) : writer.queueMap flowId ≠ [] := by
  rcases deliverable with ⟨packet, member, _⟩
  exact List.ne_nil_of_mem member

theorem running_of_comes {writer : LocalWriter} {known : Option UInt32} {flowId : FlowId}
    (comes : writer.consumer.ComesTo known flowId) : writer.Running := by
  constructor
  · intro waiting
    rw [waiting] at comes
    exact comes
  · intro stopped
    rw [stopped] at comes
    exact comes

theorem never_stranded_of_kept {writer : LocalWriter} (kept : Kept writer) :
    writer.NeverStranded := by
  intro flowId deliverable
  rcases kept.attended flowId deliverable with pushed | inserted | attended
  · exact .inr (.inl pushed)
  · exact .inr (.inr inserted)
  · rcases kept.active flowId (deliverable_nonempty deliverable) with active | pushed
    · rcases attended with pending | comes
      · exact .inl ⟨active, .inr pending⟩
      · exact .inl ⟨active, .inl (running_of_comes comes)⟩
    · exact .inr (.inl pushed)

theorem kept_new (config : WriterConfig) : Kept (.new config) where
  active flowId nonempty := absurd rfl nonempty
  attended flowId deliverable := absurd rfl (deliverable_nonempty deliverable)
  holding := by
    intro round phase visiting
    unfold LocalWriter.new at visiting
    dsimp only at visiting
    split_ifs at visiting

/-! ## Where the consumer goes -/

section Consumer

variable {config : WriterConfig} {round : Round} {known : Option UInt32} {flowId : FlowId}
  {topSeq expected : UInt32} {queueMap : FlowId → List TcpPacket}

theorem holds_visiting {phase : VisitPhase}
    (nonempty : phase.HoldsPacket → queueMap round.flowId ≠ []) :
    (ConsumerPhase.visiting round phase).Holds queueMap := by
  rintro _ _ ⟨⟩ holds
  exact nonempty holds

/-- A visit that goes nowhere by itself comes to the flows that come after it anyway. -/
theorem comes_left {phase : VisitPhase}
    (comes : (ConsumerPhase.visiting round phase).ComesTo known flowId)
    (idle : ¬phase.Progresses) (blind : flowId = round.flowId → ¬phase.Finds known) :
    round.progressedAny = true ∨ flowId ∈ round.rest := by
  rcases comes with progressed | waiting | progresses | ⟨here, finds⟩
  · exact .inl progressed
  · exact .inr waiting
  · exact absurd progresses idle
  · exact absurd finds (blind here)

theorem visiting_comes (phase : VisitPhase)
    (left : round.progressedAny = true ∨ flowId ∈ round.rest) :
    (ConsumerPhase.visiting round phase).ComesTo known flowId := by
  rcases left with progressed | waiting
  · exact .inl progressed
  · exact .inr (.inl waiting)

theorem next_comes (left : round.progressedAny = true ∨ flowId ∈ round.rest) :
    round.next.ComesTo known flowId := by
  unfold Round.next
  split
  next first rest later =>
    rcases left with progressed | waiting
    · exact .inl progressed
    · rw [later] at waiting
      rcases List.mem_cons.mp waiting with here | behind
      · exact .inr (.inr (.inr ⟨here, trivial⟩))
      · exact .inr (.inl behind)
  next later =>
    rcases left with progressed | waiting
    · rw [if_pos progressed]
      trivial
    · rw [later] at waiting
      cases waiting

theorem next_holds : round.next.Holds queueMap := by
  intro other phase visiting holds
  unfold Round.next at visiting
  split at visiting
  next =>
    cases visiting
    exact holds.elim
  next => split_ifs at visiting

theorem after_backlog_comes
    (left : round.progressedAny = true ∨ flowId ∈ round.rest ∨ Due topSeq expected) :
    (round.afterBacklog config topSeq expected).ComesTo known flowId := by
  unfold Round.afterBacklog
  split_ifs with inOrder stale timed
  · exact .inr (.inr (.inl trivial))
  · exact .inr (.inr (.inl trivial))
  · rcases left with progressed | waiting | due
    · exact .inl progressed
    · exact .inr (.inl waiting)
    · exact absurd due (not_or.mpr ⟨inOrder, stale⟩)
  · rcases left with progressed | waiting | due
    · exact next_comes (.inl progressed)
    · exact next_comes (.inr waiting)
    · exact absurd due (not_or.mpr ⟨inOrder, stale⟩)

theorem after_backlog_holds (nonempty : queueMap round.flowId ≠ []) :
    (round.afterBacklog config topSeq expected).Holds queueMap := by
  unfold Round.afterBacklog
  split_ifs
  · exact holds_visiting fun _ => nonempty
  · exact holds_visiting fun _ => nonempty
  · exact holds_visiting fun _ => nonempty
  · exact next_holds

theorem after_stale_comes
    (left : round.progressedAny = true ∨ flowId ∈ round.rest ∨ Due topSeq expected) :
    (round.afterStale config topSeq expected).ComesTo known flowId := by
  unfold Round.afterStale
  split_ifs
  · rcases left with progressed | waiting | due
    · exact .inl progressed
    · exact .inr (.inl waiting)
    · exact .inr (.inr (.inl due))
  · exact after_backlog_comes left

theorem after_stale_holds (nonempty : queueMap round.flowId ≠ []) :
    (round.afterStale config topSeq expected).Holds queueMap := by
  unfold Round.afterStale
  split_ifs
  · exact holds_visiting fun _ => nonempty
  · exact after_backlog_holds nonempty

theorem start_round_comes {flowIds : List FlowId} (member : flowId ∈ flowIds) :
    (startRound flowIds).ComesTo known flowId := by
  cases flowIds with
  | nil => cases member
  | cons first rest =>
    rcases List.mem_cons.mp member with here | behind
    · exact .inr (.inr (.inr ⟨here, trivial⟩))
    · exact .inr (.inl behind)

end Consumer

/-! ## Steps -/

section Steps

variable {config : WriterConfig} {writer next : LocalWriter} {label : WriterLabel}

/-- A step of the consumer that leaves what both tasks share, up to the deadlines. -/
theorem Kept.goes (kept : Kept writer) (deadlines : FlowId → Option Nat) {consumer : ConsumerPhase}
    (comes : ∀ flowId, writer.Deliverable flowId →
      writer.consumer.ComesTo (writer.expectedSeqMap flowId) flowId →
        consumer.ComesTo (writer.expectedSeqMap flowId) flowId)
    (holding : consumer.Holds writer.queueMap) :
    Kept { writer with
      gapDeadlines := deadlines
      consumer := consumer } where
  active := kept.active
  attended flowId deliverable := by
    rcases kept.attended flowId deliverable with pushed | inserted | pending | coming
    · exact .inl pushed
    · exact .inr (.inl inserted)
    · exact .inr (.inr (.inl pending))
    · exact .inr (.inr (.inr (comes flowId deliverable coming)))
  holding := holding

theorem Kept.progresses (kept : Kept writer) {queueMap : FlowId → List TcpPacket}
    (expectedSeqMap : FlowId → Option UInt32) (deadlines : FlowId → Option Nat)
    {consumer : ConsumerPhase}
    (fewer : ∀ flowId, queueMap flowId ≠ [] → writer.queueMap flowId ≠ [])
    (comes : ∀ flowId known, consumer.ComesTo known flowId) (holding : consumer.Holds queueMap) :
    Kept { writer with
      queueMap := queueMap
      expectedSeqMap := expectedSeqMap
      gapDeadlines := deadlines
      consumer := consumer } where
  active flowId nonempty := kept.active flowId (fewer flowId nonempty)
  attended flowId _ := .inr (.inr (.inr (comes flowId _)))
  holding := holding

theorem popped_nonempty {flowId other : FlowId} {packet : TcpPacket}
    (nonempty : writer.setQueue flowId ((writer.queueMap flowId).erase packet) other ≠ []) :
    writer.queueMap other ≠ [] := by
  unfold LocalWriter.setQueue at nonempty
  rcases eq_or_ne other flowId with rfl | different
  · intro empty
    rw [Function.update_self, empty] at nonempty
    exact nonempty rfl
  · rwa [Function.update_of_ne different] at nonempty

theorem deliverable_of_read {flowId other : FlowId} {topSeq expected : UInt32}
    {consumer : ConsumerPhase} (known : expected = (writer.expectedSeqMap flowId).getD topSeq)
    (deliverable : LocalWriter.Deliverable { writer with
      expectedSeqMap := writer.setExpected flowId expected
      consumer := consumer } other) : writer.Deliverable other := by
  rcases deliverable with ⟨packet, member, due⟩
  refine ⟨packet, member, ?_⟩
  intro number expects
  apply due
  show number ∈ Function.update writer.expectedSeqMap flowId (some expected) other
  rcases eq_or_ne other flowId with rfl | different
  · rw [Option.mem_def] at expects
    rw [known, expects, Function.update_self]
    rfl
  · rwa [Function.update_of_ne different]

theorem collected_keeps {flowIds : List FlowId} (kept : Kept writer)
    (step : ConsumerStep config writer (.collected flowIds) next) : Kept next := by
  cases step with
  | collected flowIds collecting free distinct members =>
    refine ⟨kept.active, ?_, ?_⟩
    · intro flowId deliverable
      rcases kept.active flowId (deliverable_nonempty deliverable) with active | pushed
      · exact .inr (.inr (.inr (start_round_comes ((members flowId).mpr active))))
      · exact .inl pushed
    · cases flowIds with
      | nil => rintro _ _ ⟨⟩
      | cons first rest => exact holds_visiting fun impossible => impossible.elim

theorem peeked_keeps {flowId : FlowId} {top : TcpPacket} (kept : Kept writer)
    (allowed : KeepsFlows writer (.peeked flowId top))
    (step : ConsumerStep config writer (.peeked flowId top) next) : Kept next := by
  cases step with
  | peeked round top visiting isTop =>
    apply kept.goes
    · intro flowId deliverable comes
      rw [visiting] at comes
      rcases comes with progressed | waiting | impossible | ⟨here, _⟩
      · exact .inl progressed
      · exact .inr (.inl waiting)
      · exact impossible.elim
      · subst here
        exact .inr (.inr (.inr ⟨rfl, allowed deliverable⟩))
    · exact holds_visiting fun _ => List.ne_nil_of_mem isTop.member

theorem deactivated_keeps {flowId : FlowId} (kept : Kept writer)
    (allowed : KeepsFlows writer (.deactivated flowId))
    (step : ConsumerStep config writer (.deactivated flowId) next) : Kept next := by
  cases step with
  | deactivated round delivered visiting free =>
    refine ⟨?_, ?_, holds_visiting fun impossible => impossible.elim⟩
    · intro flowId nonempty
      rcases kept.active flowId nonempty with active | pushed
      · rcases eq_or_ne flowId round.flowId with rfl | different
        · exact .inr (allowed.resolve_left nonempty)
        · exact .inl (Finset.mem_erase.mpr ⟨different, active⟩)
      · exact .inr pushed
    · intro flowId deliverable
      rcases kept.attended flowId deliverable with pushed | inserted | pending | comes
      · exact .inl pushed
      · exact .inr (.inl inserted)
      · exact .inr (.inr (.inl pending))
      · rw [visiting] at comes
        have left := comes_left comes id fun _ => id
        exact .inr (.inr (.inr (visiting_comes _ left)))

theorem expected_read_keeps (kept : Kept writer)
    (step : ConsumerStep config writer .expectedRead next) : Kept next := by
  have holding := kept.holding
  cases step with
  | expectedRead round topSeq expected visiting free known =>
    rw [visiting] at holding
    refine ⟨kept.active, ?_, holds_visiting fun _ => holding _ _ rfl trivial⟩
    intro flowId deliverable
    rcases kept.attended flowId (deliverable_of_read known deliverable) with
      pushed | inserted | pending | comes
    · exact .inl pushed
    · exact .inr (.inl inserted)
    · exact .inr (.inr (.inl pending))
    · rw [visiting] at comes
      refine .inr (.inr (.inr ?_))
      rcases comes with progressed | waiting | impossible | ⟨here, finds⟩
      · exact .inl progressed
      · exact .inr (.inl waiting)
      · exact impossible.elim
      · subst here
        refine .inr (.inr (.inl ?_))
        show Due topSeq expected
        rw [known]
        cases read : writer.expectedSeqMap round.flowId with
        | none => exact .inl rfl
        | some number => exact finds number read

theorem timer_armed_keeps {now : Nat} (kept : Kept writer)
    (step : ConsumerStep config writer (.timerArmed now) next) : Kept next := by
  cases step with
  | timerArmed round topSeq now visiting unarmed =>
    refine ⟨kept.active, ?_, next_holds⟩
    intro flowId deliverable
    rcases kept.attended flowId deliverable with pushed | inserted | pending | comes
    · exact .inl pushed
    · exact .inr (.inl inserted)
    · rcases pending with stored | sleeping
      · exact .inr (.inr (.inl (.inl stored)))
      · exact .inr (.inr (.inl (.inr (Nat.lt_of_lt_of_le sleeping (Nat.le_add_right _ _)))))
    · rw [visiting] at comes
      exact .inr (.inr (.inr (next_comes (comes_left comes id fun _ => id))))

theorem consumer_keeps (kept : Kept writer) (allowed : KeepsFlows writer label)
    (step : ConsumerStep config writer label next) : Kept next := by
  have holding := kept.holding
  have taken := step
  cases step with
  | woken waiting stored =>
    refine ⟨kept.active, fun _ _ => .inr (.inr (.inr trivial)), ?_⟩
    rintro _ _ ⟨⟩
  | collected => exact collected_keeps kept taken
  | peeked => exact peeked_keeps kept allowed taken
  | peekedNone round visiting empty =>
    apply kept.goes
    · intro flowId deliverable comes
      rw [visiting] at comes
      apply visiting_comes
      rcases comes with progressed | waiting | impossible | ⟨here, _⟩
      · exact .inl progressed
      · exact .inr waiting
      · exact impossible.elim
      · subst here
        exact absurd empty (deliverable_nonempty deliverable)
    · exact holds_visiting fun impossible => impossible.elim
  | deactivated => exact deactivated_keeps kept allowed taken
  | deadlineDropped round delivered visiting =>
    apply kept.goes
    · intro flowId _ comes
      rw [visiting] at comes
      have left := comes_left comes id fun _ => id
      split_ifs
      · exact visiting_comes _ left
      · exact next_comes left
    · split_ifs
      · exact holds_visiting fun impossible => impossible.elim
      · exact next_holds
  | expectedRead => exact expected_read_keeps kept taken
  | stalePopped round topSeq expected packet visiting isTop less =>
    apply kept.progresses _ _ (fun _ => popped_nonempty)
    · exact fun _ _ => .inl rfl
    · exact holds_visiting fun impossible => impossible.elim
  | freshKept round topSeq expected visiting fresh =>
    rw [visiting] at holding
    apply kept.goes
    · intro flowId _ comes
      rw [visiting] at comes
      apply after_stale_comes
      rcases comes with progressed | waiting | due | ⟨_, impossible⟩
      · exact .inl progressed
      · exact .inr (.inl waiting)
      · exact .inr (.inr due)
      · exact impossible.elim
    · exact after_stale_holds (holding _ _ rfl trivial)
  | backlogMeasured round topSeq expected visiting =>
    rw [visiting] at holding
    have nonempty := holding _ _ rfl trivial
    apply kept.goes
    · intro flowId _ comes
      rw [visiting] at comes
      split_ifs
      · exact .inr (.inr (.inl trivial))
      · apply after_backlog_comes
        rcases comes with progressed | waiting | due | ⟨_, impossible⟩
        · exact .inl progressed
        · exact .inr (.inl waiting)
        · exact .inr (.inr due)
        · exact impossible.elim
    · split_ifs
      · exact holds_visiting fun _ => nonempty
      · exact after_backlog_holds nonempty
  | backlogForgiven round topSeq expected visiting =>
    rw [visiting] at holding
    apply kept.goes
    · exact fun _ _ _ => .inr (.inr (.inl trivial))
    · exact holds_visiting fun _ => holding _ _ rfl trivial
  | expectedAdvanced round topSeq expected visiting free =>
    rw [visiting] at holding
    have nonempty : writer.queueMap round.progress.flowId ≠ [] := holding round _ rfl trivial
    apply kept.progresses _ _ (fun _ nonempty => nonempty)
    · exact fun _ _ => after_backlog_comes (.inl rfl)
    · exact after_backlog_holds nonempty
  | popped round expected packet visiting isTop =>
    apply kept.progresses _ _ (fun _ => popped_nonempty)
    · exact fun _ _ => .inr (.inr (.inl trivial))
    · exact holds_visiting fun impossible => impossible.elim
  | poppedNone round expected visiting empty =>
    rw [visiting] at holding
    exact absurd empty (holding _ _ rfl trivial)
  | expectedReread round packet expected visiting free =>
    apply kept.goes
    · exact fun _ _ _ => .inr (.inr (.inl trivial))
    · exact holds_visiting fun impossible => impossible.elim
  | expectedRaised round next visiting free =>
    apply kept.progresses _ _ (fun _ nonempty => nonempty)
    · exact fun _ _ => .inr (.inr (.inl trivial))
    · exact holds_visiting fun impossible => impossible.elim
  | deadlineCleared round visiting =>
    apply kept.goes
    · exact fun _ _ _ => .inl rfl
    · exact holds_visiting fun impossible => impossible.elim
  | emptyChecked round visiting =>
    apply kept.goes
    · intro flowId _ comes
      rw [visiting] at comes
      exact visiting_comes _ (comes_left comes id fun _ => id)
    · apply holds_visiting
      split_ifs
      · exact fun impossible => impossible.elim
      · exact fun impossible => impossible.elim
  | topPopped round packet visiting isTop =>
    apply kept.progresses _ _ (fun _ => popped_nonempty)
    · exact fun _ _ => .inl rfl
    · exact holds_visiting fun impossible => impossible.elim
  | topMissing round visiting empty =>
    apply kept.goes
    · exact fun _ _ _ => .inl rfl
    · exact holds_visiting fun impossible => impossible.elim
  | deadlineReached round topSeq now deadline visiting armed reached =>
    apply kept.goes
    · exact fun _ _ _ => .inr (.inr (.inl trivial))
    · exact holds_visiting fun impossible => impossible.elim
  | deadlineAhead round topSeq now deadline visiting armed ahead =>
    apply kept.goes
    · intro flowId _ comes
      rw [visiting] at comes
      exact next_comes (comes_left comes id fun _ => id)
    · exact next_holds
  | timerArmed => exact timer_armed_keeps kept taken
  | gapSkipped round topSeq visiting free =>
    apply kept.progresses _ _ (fun _ nonempty => nonempty)
    · exact fun _ _ => .inl rfl
    · exact holds_visiting fun impossible => impossible.elim

/-! ### The producer -/

/-- A step that changes neither heaps nor expected numbers and takes no chance from a flow. -/
structure Settles (writer next : LocalWriter) : Prop where
  queues : next.queueMap = writer.queueMap
  expected : next.expectedSeqMap = writer.expectedSeqMap
  consumer : next.consumer = writer.consumer
  active : writer.activeFlows ⊆ next.activeFlows
  pending : writer.WakeUpPending → next.WakeUpPending
  pushed : ∀ flowId, writer.producer = .pushed flowId →
    next.producer = .pushed flowId ∨ flowId ∈ next.activeFlows ∧ next.producer = .inserted flowId
  inserted : ∀ flowId, writer.producer = .inserted flowId →
    next.producer = .inserted flowId ∨ next.WakeUpPending

theorem Kept.settle (kept : Kept writer) (settles : Settles writer next) : Kept next where
  active flowId nonempty := by
    rw [settles.queues] at nonempty
    rcases kept.active flowId nonempty with active | pushed
    · exact .inl (settles.active active)
    · rcases settles.pushed flowId pushed with still | ⟨active, _⟩
      · exact .inr still
      · exact .inl active
  attended flowId deliverable := by
    have before : writer.Deliverable flowId := by
      unfold LocalWriter.Deliverable at deliverable ⊢
      rwa [settles.queues, settles.expected] at deliverable
    rcases kept.attended flowId before with pushed | inserted | pending | comes
    · rcases settles.pushed flowId pushed with still | ⟨_, inserted⟩
      · exact .inl still
      · exact .inr (.inl inserted)
    · rcases settles.inserted flowId inserted with still | pending
      · exact .inr (.inl still)
      · exact .inr (.inr (.inl pending))
    · exact .inr (.inr (.inl (settles.pending pending)))
    · refine .inr (.inr (.inr ?_))
      rw [settles.consumer, settles.expected]
      exact comes
  holding := by
    rw [settles.consumer, settles.queues]
    exact kept.holding

theorem Kept.expect (kept : Kept writer) {flowId : FlowId} {expected : UInt32}
    {producer : ProducerPhase} (receiving : writer.producer = .receiving)
    (allowed : LocalWriter.Deliverable { writer with
      expectedSeqMap := writer.setExpected flowId expected
      producer := producer } flowId → LocalWriter.Attended { writer with
        expectedSeqMap := writer.setExpected flowId expected
        producer := producer } flowId) :
    Kept { writer with
      expectedSeqMap := writer.setExpected flowId expected
      producer := producer } where
  active other nonempty := by
    rcases kept.active other nonempty with active | pushed
    · exact .inl active
    · rw [receiving] at pushed
      cases pushed
  attended other deliverable := by
    rcases eq_or_ne other flowId with rfl | different
    · exact .inr (.inr (allowed deliverable))
    · have same : writer.setExpected flowId expected other = writer.expectedSeqMap other :=
        Function.update_of_ne different _ _
      have before : writer.Deliverable other := by
        rcases deliverable with ⟨packet, member, due⟩
        exact ⟨packet, member, same ▸ due⟩
      rcases kept.attended other before with pushed | inserted | pending | comes
      · rw [receiving] at pushed
        cases pushed
      · rw [receiving] at inserted
        cases inserted
      · exact .inr (.inr (.inl pending))
      · refine .inr (.inr (.inr ?_))
        show writer.consumer.ComesTo (writer.setExpected flowId expected other) other
        rw [same]
        exact comes
  holding := kept.holding

theorem pushed_other {packet : TcpPacket} {flowId : FlowId} (different : flowId ≠ packet.flowId) :
    writer.setQueue packet.flowId (packet :: writer.queueMap packet.flowId) flowId =
      writer.queueMap flowId :=
  Function.update_of_ne different _ _

theorem Kept.push (kept : Kept writer) (packet : TcpPacket)
    (receiving : writer.producer = .receiving) :
    Kept { writer with
      queueMap := writer.setQueue packet.flowId (packet :: writer.queueMap packet.flowId)
      producer := .pushed packet.flowId } where
  active flowId nonempty := by
    rcases eq_or_ne flowId packet.flowId with rfl | different
    · exact .inr rfl
    · rcases kept.active flowId (pushed_other different ▸ nonempty) with active | pushed
      · exact .inl active
      · rw [receiving] at pushed
        cases pushed
  attended flowId deliverable := by
    rcases eq_or_ne flowId packet.flowId with rfl | different
    · exact .inl rfl
    · have before : writer.Deliverable flowId := by
        rcases deliverable with ⟨other, member, due⟩
        exact ⟨other, pushed_other different ▸ member, due⟩
      rcases kept.attended flowId before with pushed | inserted | attended
      · rw [receiving] at pushed
        cases pushed
      · rw [receiving] at inserted
        cases inserted
      · exact .inr (.inr attended)
  holding := by
    intro round phase visiting holds empty
    rcases eq_or_ne round.flowId packet.flowId with same | different
    · have pushed : writer.setQueue packet.flowId (packet :: writer.queueMap packet.flowId)
          round.flowId = packet :: writer.queueMap packet.flowId := by
        rw [same]
        exact Function.update_self _ _ _
      have impossible := pushed.symm.trans empty
      cases impossible
    · exact kept.holding round phase visiting holds (pushed_other different ▸ empty)

theorem producer_keeps (kept : Kept writer) (allowed : KeepsFlows writer label)
    (step : ProducerStep config writer label next) : Kept next := by
  cases step with
  | pushed packet receiving data enforced => exact kept.push packet receiving
  | inserted flowId pushed free =>
    refine kept.settle ⟨rfl, rfl, rfl, Finset.subset_insert _ _, id, ?_, ?_⟩
    · intro other same
      rw [pushed] at same
      cases same
      exact .inr ⟨Finset.mem_insert_self _ _, rfl⟩
    · intro other impossible
      rw [pushed] at impossible
      cases impossible
  | notified flowId inserted =>
    refine kept.settle ⟨rfl, rfl, rfl, subset_rfl, fun _ => .inl rfl, ?_, fun _ _ => .inr (.inl rfl)⟩
    intro other impossible
    rw [inserted] at impossible
    cases impossible
  | seeded packet receiving control enforced syn => exact kept.expect receiving allowed
  | seedInserted flowId seeded free =>
    refine kept.settle ⟨rfl, rfl, rfl, Finset.subset_insert _ _, id, ?_, ?_⟩
    · intro other impossible
      rw [seeded] at impossible
      cases impossible
    · intro other impossible
      rw [seeded] at impossible
      cases impossible
  | seedCleared flowId seeded =>
    refine kept.settle ⟨rfl, rfl, rfl, subset_rfl, id, ?_, ?_⟩
    · intro other impossible
      rw [seeded] at impossible
      cases impossible
    · intro other impossible
      rw [seeded] at impossible
      cases impossible
  | raised packet receiving control enforced data fin => exact kept.expect receiving allowed
  | raiseCleared flowId raised =>
    refine kept.settle ⟨rfl, rfl, rfl, subset_rfl, id, ?_, ?_⟩
    · intro other impossible
      rw [raised] at impossible
      cases impossible
    · intro other impossible
      rw [raised] at impossible
      cases impossible
  | forwarded packet receiving plain => exact kept

theorem writer_keeps (kept : Kept writer) (allowed : KeepsFlows writer label)
    (step : WriterStep config writer label next) : Kept next := by
  cases step with
  | producer taken => exact producer_keeps kept allowed taken
  | consumer taken => exact consumer_keeps kept allowed taken
  | slept sleepers sleeping =>
    exact kept.settle ⟨rfl, rfl, rfl, subset_rfl, fun _ => .inl rfl, fun _ => .inl,
      fun _ => .inl⟩

/-- Over every interleaving of the two tasks that keeps to the condition, no flow is stranded. -/
theorem flows_never_stranded
    (reachable : ((localWriter config).restrict KeepsFlows).Reachable writer) :
    writer.NeverStranded := by
  apply never_stranded_of_kept
  refine TransitionSystem.invariant_of_reachable (motive := Kept) ?_ ?_ reachable
  · rintro _ rfl
    exact kept_new config
  · intro state label after kept step
    exact writer_keeps kept step.1 step.2

end Steps

/-! ## Sequence numbers -/

/-- The numbers of a flow's packets and its expected number lie within half of the sequence space. -/
structure WithinHalf (writer : LocalWriter) (flowId : FlowId) (base : UInt32) : Prop where
  packets : ∀ packet ∈ writer.queueMap flowId, (packet.seqNum - base).toNat < 2 ^ 31
  expected : ∀ expected ∈ writer.expectedSeqMap flowId, (expected - base).toNat < 2 ^ 31

theorem seq_less_within {a b base : UInt32} (first : (a - base).toNat < 2 ^ 31)
    (second : (b - base).toNat < 2 ^ 31) :
    seqLess a b = true ↔ (a - base).toNat < (b - base).toNat := by
  have firstBound := a.toNat_lt
  have secondBound := b.toNat_lt
  have baseBound := base.toNat_lt
  unfold seqLess
  rw [decide_eq_true_eq]
  simp only [UInt32.toNat_sub, Nat.reducePow] at first second firstBound secondBound baseBound ⊢
  omega

theorem eq_of_offset {a b base : UInt32} (same : (a - base).toNat = (b - base).toNat) : a = b := by
  have firstBound := a.toNat_lt
  have secondBound := b.toNat_lt
  have baseBound := base.toNat_lt
  apply UInt32.toNat_inj.mp
  simp only [UInt32.toNat_sub, Nat.reducePow] at same firstBound secondBound baseBound
  omega

theorem ordered_within {writer : LocalWriter} {flowId : FlowId} {base : UInt32}
    (within : WithinHalf writer flowId base) : Ordered (writer.queueMap flowId) := by
  intro first firstIn second secondIn third thirdIn
  have firstHalf := within.packets first firstIn
  have secondHalf := within.packets second secondIn
  have thirdHalf := within.packets third thirdIn
  rw [seq_less_within firstHalf secondHalf, seq_less_within secondHalf thirdHalf,
    seq_less_within firstHalf thirdHalf]
  exact Nat.lt_trans

/-- Within half of the sequence space, what the consumer peeks at is deliverable if anything is. -/
theorem peek_within {writer : LocalWriter} {flowId : FlowId} {base : UInt32} {top : TcpPacket}
    (within : WithinHalf writer flowId base) (isTop : IsTop (writer.queueMap flowId) top) :
    KeepsFlows writer (.peeked flowId top) := by
  rintro ⟨packet, member, due⟩ expected expects
  have topHalf := within.packets top isTop.member
  have packetHalf := within.packets packet member
  have expectedHalf := within.expected expected expects
  have notAbove : ¬(packet.seqNum - base).toNat < (top.seqNum - base).toNat := by
    rw [← seq_less_within packetHalf topHalf]
    simp [isTop.least (ordered_within within) packet member]
  have below : (packet.seqNum - base).toNat ≤ (expected - base).toNat := by
    rcases due expected expects with same | less
    · rw [same]
    · exact Nat.le_of_lt ((seq_less_within packetHalf expectedHalf).mp less)
  rcases Nat.lt_or_ge (top.seqNum - base).toNat (expected - base).toNat with less | notLess
  · exact .inr ((seq_less_within topHalf expectedHalf).mpr less)
  · have same : (top.seqNum - base).toNat = (expected - base).toNat := by omega
    exact .inl (eq_of_offset same)

/-! ## Runs with one flow -/

def segment (seqNum : UInt32) : TcpPacket := ⟨7, seqNum, true, false, false, 1⟩

theorem sole_top (packet : TcpPacket) : IsTop [packet] packet where
  member := List.mem_singleton.mpr rfl
  least _ other member := by
    rw [List.mem_singleton.mp member]
    simp [seqLess]

theorem listed {flowIds : List FlowId} {active : Finset FlowId} (same : active = flowIds.toFinset)
    (flowId : FlowId) : flowId ∈ flowIds ↔ flowId ∈ active := by
  rw [same, List.mem_toFinset]

theorem no_update {writer : LocalWriter} (receiving : writer.producer = .receiving) :
    writer.ExpectedFree := by
  intro flowId
  rw [receiving]
  exact ⟨nofun, nofun, nofun⟩

theorem kept_leads {config : WriterConfig} {target : LocalWriter → Prop}
    {writer next : LocalWriter} {label : WriterLabel} (step : WriterStep config writer label next)
    (allowed : KeepsFlows writer label)
    (leads : ((localWriter config).restrict KeepsFlows).Leads target next) :
    ((localWriter config).restrict KeepsFlows).Leads target writer :=
  .after ⟨allowed, step⟩ leads

/-- The consumer wakes up, writes the packet and deactivates the flow, whose heap is empty; the next
packet is attended again. -/
theorem drained_flow_attended : ∃ writer,
    ((localWriter ⟨true, some 500, 0, false⟩).restrict KeepsFlows).Reachable writer ∧
      writer.expectedSeqMap 7 = some 1 ∧ writer.Deliverable 7 ∧ writer.NeverStranded := by
  suffices leads : ((localWriter ⟨true, some 500, 0, false⟩).restrict KeepsFlows).Leads
      (fun writer => writer.expectedSeqMap 7 = some 1 ∧ writer.Deliverable 7)
      (.new ⟨true, some 500, 0, false⟩) by
    rcases leads.reachable rfl with ⟨writer, reachable, expected, deliverable⟩
    exact ⟨writer, reachable, expected, deliverable, flows_never_stranded reachable⟩
  refine kept_leads (.producer (.pushed (segment 0) rfl rfl rfl)) trivial ?_
  refine kept_leads (.producer (.inserted 7 rfl nofun)) trivial ?_
  refine kept_leads (.producer (.notified 7 rfl)) trivial ?_
  refine kept_leads (.consumer (.woken rfl rfl)) trivial ?_
  refine kept_leads (.consumer (.collected [7] rfl nofun (by decide) (listed rfl))) trivial ?_
  refine kept_leads (.consumer (.peeked _ (segment 0) rfl (sole_top _))) (fun _ => nofun) ?_
  refine kept_leads (.consumer (.expectedRead _ _ 0 rfl (no_update rfl) rfl)) trivial ?_
  refine kept_leads (.consumer (.freshKept _ _ _ rfl (.inr ⟨_, sole_top (segment 0), rfl⟩)))
    trivial ?_
  refine kept_leads (.consumer (.popped _ 0 (segment 0) rfl (sole_top _))) trivial ?_
  refine kept_leads (.consumer (.expectedReread _ _ _ rfl (no_update rfl))) trivial ?_
  refine kept_leads (.consumer (.expectedRaised _ _ rfl (no_update rfl))) trivial ?_
  refine kept_leads (.consumer (.deadlineCleared _ rfl)) trivial ?_
  refine kept_leads (.consumer (.emptyChecked _ rfl)) trivial ?_
  refine kept_leads (.consumer (.deactivated _ true rfl nofun)) (.inl rfl) ?_
  refine kept_leads (.consumer (.deadlineDropped _ true rfl)) trivial ?_
  refine kept_leads (.producer (.pushed (segment 1) rfl rfl rfl)) trivial ?_
  refine kept_leads (.producer (.inserted 7 rfl nofun)) trivial ?_
  refine kept_leads (.producer (.notified 7 rfl)) trivial ?_
  refine .here ⟨rfl, segment 1, List.mem_singleton.mpr rfl, ?_⟩
  rintro _ ⟨⟩
  exact .inl rfl

/-- The consumer drains a flow and finds its heap empty; before it deactivates the flow, the producer
pushes the next packet, activates the flow and notifies. The packet is in order and stays. -/
theorem drained_flow_stranded : ∃ writer,
    (localWriter ⟨true, some 500, 0, false⟩).Reachable writer ∧ ¬writer.NeverStranded := by
  suffices leads : (localWriter ⟨true, some 500, 0, false⟩).Leads
      (fun writer => ¬writer.NeverStranded) (.new ⟨true, some 500, 0, false⟩) from
    leads.reachable rfl
  refine .after (.producer (.pushed (segment 0) rfl rfl rfl)) ?_
  refine .after (.producer (.inserted 7 rfl nofun)) ?_
  refine .after (.producer (.notified 7 rfl)) ?_
  refine .after (.consumer (.woken rfl rfl)) ?_
  refine .after (.consumer (.collected [7] rfl nofun (by decide) (listed rfl))) ?_
  refine .after (.consumer (.peeked _ (segment 0) rfl (sole_top _))) ?_
  refine .after (.consumer (.expectedRead _ _ 0 rfl (no_update rfl) rfl)) ?_
  refine .after (.consumer (.freshKept _ _ _ rfl (.inr ⟨_, sole_top (segment 0), rfl⟩))) ?_
  refine .after (.consumer (.popped _ 0 (segment 0) rfl (sole_top _))) ?_
  refine .after (.consumer (.expectedReread _ _ _ rfl (no_update rfl))) ?_
  refine .after (.consumer (.expectedRaised _ _ rfl (no_update rfl))) ?_
  refine .after (.consumer (.deadlineCleared _ rfl)) ?_
  refine .after (.consumer (.emptyChecked _ rfl)) ?_
  refine .after (.consumer (.deactivated _ true rfl nofun)) ?_
  refine .after (.consumer (.deadlineDropped _ true rfl)) ?_
  refine .after (.consumer (.peekedNone _ rfl rfl)) ?_
  -- the heap was empty here; the flow is deactivated only after the next packet
  refine .after (.producer (.pushed (segment 1) rfl rfl rfl)) ?_
  refine .after (.producer (.inserted 7 rfl nofun)) ?_
  refine .after (.producer (.notified 7 rfl)) ?_
  refine .after (.consumer (.deactivated _ false rfl nofun)) ?_
  refine .after (.consumer (.deadlineDropped _ false rfl)) ?_
  refine .after (.consumer (.collected [] rfl nofun (by decide) (listed rfl))) ?_
  refine .after (.consumer (.woken rfl rfl)) ?_
  refine .after (.consumer (.collected [] rfl nofun (by decide) (listed rfl))) ?_
  refine .here ?_
  intro fine
  have inOrder : ∀ expected ∈ some (1 : UInt32), Due 1 expected := by
    rintro _ ⟨⟩
    exact .inl rfl
  rcases fine 7 ⟨segment 1, List.mem_singleton.mpr rfl, inOrder⟩ with ⟨active, _⟩ | pushed | inserted
  · exact absurd active (by decide)
  · cases pushed
  · cases inserted

def control (seqNum : UInt32) (isTcpSyn isTcpFinOrRst : Bool) : TcpPacket :=
  ⟨7, seqNum, false, isTcpSyn, isTcpFinOrRst, 0⟩

/-- Without a gap timeout, a FIN that overtakes the data makes the packet behind the gap stale and
wakes nobody. -/
theorem overtaking_fin_strands :
    (localWriter ⟨true, none, 0, false⟩).Leads (fun writer => ¬writer.NeverStranded)
      (.new ⟨true, none, 0, false⟩) := by
  refine .after (.producer (.seeded (control 0 true false) rfl rfl rfl rfl)) ?_
  refine .after (.producer (.seedInserted 7 rfl nofun)) ?_
  refine .after (.producer (.seedCleared 7 rfl)) ?_
  refine .after (.producer (.pushed (segment 5) rfl rfl rfl)) ?_
  refine .after (.producer (.inserted 7 rfl nofun)) ?_
  refine .after (.producer (.notified 7 rfl)) ?_
  refine .after (.consumer (.woken rfl rfl)) ?_
  refine .after (.consumer (.collected [7] rfl nofun (by decide) (listed rfl))) ?_
  refine .after (.consumer (.peeked _ (segment 5) rfl (sole_top _))) ?_
  refine .after (.consumer (.expectedRead _ _ 1 rfl (fun _ => ⟨nofun, nofun, nofun⟩) rfl)) ?_
  refine .after (.consumer (.freshKept _ _ _ rfl (.inr ⟨_, sole_top (segment 5), rfl⟩))) ?_
  refine .after (.producer (.raised (control 9 false true) rfl rfl rfl rfl rfl)) ?_
  refine .after (.producer (.raiseCleared 7 rfl)) ?_
  refine .here ?_
  intro fine
  have stale : ∀ expected ∈ some (10 : UInt32), Due 5 expected := by
    rintro _ ⟨⟩
    exact .inr rfl
  rcases fine 7 ⟨segment 5, List.mem_singleton.mpr rfl, stale⟩ with ⟨_, running | pending⟩ | pushed | inserted
  · exact running.1 rfl
  · rcases pending with stored | sleeping
    · cases stored
    · cases sleeping
  · cases pushed
  · cases inserted

end Nextmini.Node
