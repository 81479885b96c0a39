import Nextmini.Node.DeviceWrites
import Nextmini.Node.ReorderProgress

/-!
# Batched writes

The writer for segmentation offload beside the plain one. They differ in when the consumer hands
packets over, and in the visit of a flow with a gap where no gap timeout is set: the one takes the
lock of the gap deadlines for nothing there, the other one leaves the flow at once. Each follows the
other, step by step, so one gives the device what the other one gives it.
-/

namespace Nextmini.Node

open Nextmini.Library Nextmini.Routing

set_option autoImplicit false

/-! ## The relation -/

/-- Without a gap timeout the look at the deadline is skipped. -/
def ConsumerPhase.settled (gapTimeout : Option Nat) : ConsumerPhase → ConsumerPhase
  | .visiting round (.timing topSeq) =>
      if gapTimeout.isSome then .visiting round (.timing topSeq) else round.next
  | consumer => consumer

/-- Two writers that have received the same packets and popped the same packets, of which they may
have gathered different ones. -/
structure Aligned (gapTimeout : Option Nat) (state other : DeviceWriter) : Prop where
  writer : other.writer = { state.writer with consumer := other.writer.consumer }
  consumer : other.writer.consumer.settled gapTimeout = state.writer.consumer.settled gapTimeout
  held : other.held = state.held
  atHand : other.atHand = state.atHand
  received : other.received = state.received
  dropped : other.dropped = state.dropped
  singles : other.singles = state.singles
  gathered : other.gathered ++ other.pendingPackets = state.gathered ++ state.pendingPackets
  untimed : gapTimeout = none → ∀ flowId, state.writer.gapDeadlines flowId = none

theorem next_settled (gapTimeout : Option Nat) (round : Round) :
    round.next.settled gapTimeout = round.next := by
  unfold Round.next
  cases round.rest with
  | nil =>
    simp only
    split <;> rfl
  | cons => rfl

theorem settled_cases (gapTimeout : Option Nat) (consumer : ConsumerPhase) :
    consumer.settled gapTimeout = consumer ∨
      ∃ round topSeq, consumer = .visiting round (.timing topSeq) ∧ gapTimeout = none ∧
        consumer.settled gapTimeout = round.next := by
  cases consumer with
  | visiting round phase =>
    cases phase with
    | timing topSeq =>
      cases gapTimeout with
      | none => exact .inr ⟨round, topSeq, rfl, rfl, rfl⟩
      | some => exact .inl rfl
    | _ => exact .inl rfl
  | _ => exact .inl rfl

/-- Skipping the look at a deadline does not lead to a flow that is being deactivated. -/
theorem deactivated_of_settled {gapTimeout : Option Nat} {first second : ConsumerPhase}
    (same : first.settled gapTimeout = second.settled gapTimeout) {round : Round} {delivered : Bool}
    (deactivated : first = .visiting round (.deactivated delivered)) :
    second = .visiting round (.deactivated delivered) := by
  rw [deactivated] at same
  rcases settled_cases gapTimeout second with kept | ⟨left, topSeq, _, _, skipped⟩
  · exact (same.trans kept).symm
  · rw [skipped] at same
    unfold Round.next at same
    cases rest : left.rest with
    | nil =>
      rw [rest] at same
      simp only [ConsumerPhase.settled] at same
      split at same <;> cases same
    | cons =>
      rw [rest] at same
      cases same

theorem after_backlog_settled (config : WriterConfig) (segmentationOffload : Bool) (round : Round)
    (topSeq expected : UInt32) :
    (round.afterBacklog { config with segmentationOffload := segmentationOffload } topSeq
        expected).settled config.gapTimeout =
      (round.afterBacklog config topSeq expected).settled config.gapTimeout := by
  unfold Round.afterBacklog
  by_cases due : topSeq = expected
  · rw [if_pos due, if_pos due]
  rw [if_neg due, if_neg due]
  by_cases stale : seqLess topSeq expected = true
  · rw [if_pos stale, if_pos stale]
  rw [if_neg stale, if_neg stale]
  -- either way of the last branch is settled in the same phase
  have skipped : ∀ skip : Prop, [Decidable skip] →
      (if skip ∨ config.gapTimeout.isSome then ConsumerPhase.visiting round (.timing topSeq)
        else round.next).settled config.gapTimeout =
      (if config.gapTimeout.isSome then ConsumerPhase.visiting round (.timing topSeq)
        else round.next) := by
    intro skip decidable
    by_cases timed : config.gapTimeout.isSome = true
    · rw [if_pos (.inr timed), if_pos timed]
      simp [ConsumerPhase.settled, timed]
    · rw [if_neg timed]
      split
      · simp [ConsumerPhase.settled, timed]
      · exact next_settled _ round
  exact (skipped (segmentationOffload = true)).trans
    (skipped (config.segmentationOffload = true)).symm

theorem after_stale_settled (config : WriterConfig) (segmentationOffload : Bool) (round : Round)
    (topSeq expected : UInt32) :
    (round.afterStale { config with segmentationOffload := segmentationOffload } topSeq
        expected).settled config.gapTimeout =
      (round.afterStale config topSeq expected).settled config.gapTimeout := by
  unfold Round.afterStale
  split
  · rfl
  · exact after_backlog_settled config segmentationOffload round topSeq expected

/-! ## Steps of the tasks -/

section Tasks

variable {config : WriterConfig} {writer next : LocalWriter} {label : WriterLabel}

theorem producer_transfers (segmentationOffload : Bool) {consumer : ConsumerPhase}
    (step : ProducerStep config writer label next)
    (settled : consumer.settled config.gapTimeout = writer.consumer.settled config.gapTimeout) :
    ProducerStep { config with segmentationOffload := segmentationOffload }
      { writer with consumer := consumer } label { next with consumer := consumer } := by
  have stays : writer.ActiveOpen → LocalWriter.ActiveOpen { writer with consumer := consumer } := by
    intro isOpen round delivered deactivated
    exact isOpen round delivered (deactivated_of_settled settled deactivated)
  cases step with
  | pushed packet receiving data enforced => exact .pushed packet receiving data enforced
  | inserted flowId pushed isOpen => exact .inserted flowId pushed (stays isOpen)
  | notified flowId inserted => exact .notified flowId inserted
  | seeded packet receiving control enforced syn =>
    exact .seeded packet receiving control enforced syn
  | seedInserted flowId seeded isOpen => exact .seedInserted flowId seeded (stays isOpen)
  | seedCleared flowId inserted => exact .seedCleared flowId inserted
  | raised packet receiving control enforced notSyn ends =>
    exact .raised packet receiving control enforced notSyn ends
  | raiseCleared flowId raised => exact .raiseCleared flowId raised
  | forwarded packet receiving passes => exact .forwarded packet receiving passes

/-- The consumer of the other writer takes the same step, to a phase that settles in the same one. -/
theorem consumer_transfers (segmentationOffload : Bool)
    (step : ConsumerStep config writer label next) :
    ∃ consumer, ConsumerStep { config with segmentationOffload := segmentationOffload } writer label
        { next with consumer := consumer } ∧
      consumer.settled config.gapTimeout = next.consumer.settled config.gapTimeout := by
  cases step with
  | woken waiting notified => exact ⟨_, .woken waiting notified, rfl⟩
  | collected flowIds collecting free distinct same =>
    exact ⟨_, .collected flowIds collecting free distinct same, rfl⟩
  | peeked round top visiting isTop => exact ⟨_, .peeked round top visiting isTop, rfl⟩
  | peekedNone round visiting empty => exact ⟨_, .peekedNone round visiting empty, rfl⟩
  | deactivated round delivered visiting free =>
    exact ⟨_, .deactivated round delivered visiting free, rfl⟩
  | deadlineDropped round delivered visiting =>
    exact ⟨_, .deadlineDropped round delivered visiting, rfl⟩
  | expectedRead round topSeq expected visiting free known =>
    exact ⟨_, .expectedRead round topSeq expected visiting free known, rfl⟩
  | stalePopped round topSeq expected packet visiting isTop stale =>
    exact ⟨_, .stalePopped round topSeq expected packet visiting isTop stale, rfl⟩
  | freshKept round topSeq expected visiting kept =>
    exact ⟨_, .freshKept round topSeq expected visiting kept,
      after_stale_settled config segmentationOffload round topSeq expected⟩
  | backlogMeasured round topSeq expected visiting =>
    refine ⟨_, .backlogMeasured round topSeq expected visiting, ?_⟩
    simp only
    split
    · rfl
    · exact after_backlog_settled config segmentationOffload round topSeq expected
  | backlogForgiven round topSeq expected visiting =>
    exact ⟨_, .backlogForgiven round topSeq expected visiting, rfl⟩
  | expectedAdvanced round topSeq expected visiting free =>
    exact ⟨_, .expectedAdvanced round topSeq expected visiting free,
      after_backlog_settled config segmentationOffload round.progress topSeq expected⟩
  | popped round expected packet visiting isTop =>
    exact ⟨_, .popped round expected packet visiting isTop, rfl⟩
  | poppedNone round expected visiting empty =>
    exact ⟨_, .poppedNone round expected visiting empty, rfl⟩
  | expectedReread round packet expected visiting free =>
    exact ⟨_, .expectedReread round packet expected visiting free, rfl⟩
  | expectedRaised round next visiting free =>
    exact ⟨_, .expectedRaised round next visiting free, rfl⟩
  | deadlineCleared round visiting => exact ⟨_, .deadlineCleared round visiting, rfl⟩
  | emptyChecked round visiting => exact ⟨_, .emptyChecked round visiting, rfl⟩
  | topPopped round packet visiting isTop => exact ⟨_, .topPopped round packet visiting isTop, rfl⟩
  | topMissing round visiting empty => exact ⟨_, .topMissing round visiting empty, rfl⟩
  | deadlineReached round topSeq now deadline visiting known reached =>
    exact ⟨_, .deadlineReached round topSeq now deadline visiting known reached, rfl⟩
  | deadlineAhead round topSeq now deadline visiting known ahead =>
    exact ⟨_, .deadlineAhead round topSeq now deadline visiting known ahead, rfl⟩
  | timerArmed round topSeq now visiting unset =>
    exact ⟨_, .timerArmed round topSeq now visiting unset, rfl⟩
  | gapSkipped round topSeq visiting free =>
    exact ⟨_, .gapSkipped round topSeq visiting free, rfl⟩

theorem producer_untimed (step : ProducerStep config writer label next)
    (untimed : ∀ flowId, writer.gapDeadlines flowId = none) :
    ∀ flowId, next.gapDeadlines flowId = none := by
  cases step with
  | seedCleared flowId => exact set_deadline_none untimed flowId
  | raiseCleared flowId => exact set_deadline_none untimed flowId
  | _ => exact untimed

theorem consumer_untimed (step : ConsumerStep config writer label next)
    (without : config.gapTimeout = none) (untimed : ∀ flowId, writer.gapDeadlines flowId = none) :
    ∀ flowId, next.gapDeadlines flowId = none := by
  cases step with
  | deadlineDropped round => exact set_deadline_none untimed round.flowId
  | backlogForgiven round => exact set_deadline_none untimed round.flowId
  | deadlineCleared round => exact set_deadline_none untimed round.flowId
  | deadlineReached round => exact set_deadline_none untimed round.flowId
  | timerArmed round =>
    rw [without]
    exact set_deadline_none untimed round.flowId
  | _ => exact untimed

/-- Without a gap timeout the look at the deadline of a flow only leaves the flow. -/
theorem timing_skipped (step : ConsumerStep config writer label next)
    (without : config.gapTimeout = none) (untimed : ∀ flowId, writer.gapDeadlines flowId = none)
    {round : Round} {topSeq : UInt32} (timing : writer.consumer = .visiting round (.timing topSeq)) :
    label.Quiet ∧ next = { writer with consumer := round.next } := by
  have unchanged : writer.setDeadline round.flowId none = writer.gapDeadlines := by
    rw [LocalWriter.setDeadline, ← untimed round.flowId, Function.update_eq_self]
  cases step with
  | timerArmed visited _ _ visiting =>
    rw [timing] at visiting
    cases visiting
    refine ⟨trivial, ?_⟩
    simp [without, unchanged]
  | deadlineReached visited _ _ _ _ known =>
    rw [untimed] at known
    cases known
  | deadlineAhead visited _ _ _ _ known =>
    rw [untimed] at known
    cases known
  | _ => simp_all

end Tasks

/-! ## Steps of the writers -/

section Writers

variable {config : DeviceConfig} {segmentationOffload : Bool} {state other next : DeviceWriter}

theorem not_due_of_empty (empty : state.pendingPackets = []) : ¬state.Due config := by
  have positive : 0 < config.batchSize := by
    unfold DeviceConfig.batchSize
    split
    · exact config.positive
    · exact Nat.one_pos
  unfold DeviceWriter.Due
  rw [empty]
  split
  · simp
  · simp
  · exact Nat.not_le.mpr positive

theorem flushed_run (config : DeviceConfig) {gapTimeout : Option Nat}
    (aligned : Aligned gapTimeout state other) :
    ∃ labels ready, (deviceWriter config).Run other labels ready ∧ ¬ready.Due config ∧
      ready.writer = other.writer ∧ Aligned gapTimeout state ready := by
  by_cases due : other.Due config
  · refine ⟨_, _, .single (.flushed due), not_due_of_empty rfl, rfl, ?_⟩
    obtain ⟨writer, consumer, held, atHand, received, dropped, singles, gathered, untimed⟩ := aligned
    refine ⟨writer, consumer, held, atHand, received, dropped, ?_, ?_, untimed⟩
    · rw [DeviceWriter.singles, DeviceWriter.singles_append]
      exact (List.append_nil _).trans singles
    · rw [DeviceWriter.gathered, DeviceWriter.gathered_append, List.append_nil]
      exact gathered
  · exact ⟨[], other, .nil, due, rfl, aligned⟩

theorem Aligned.writer_eq {gapTimeout : Option Nat} (aligned : Aligned gapTimeout state other)
    {consumer : ConsumerPhase} (here : consumer = state.writer.consumer) :
    { other.writer with consumer := consumer } = state.writer := by
  rw [aligned.writer, here]

/-- The other writer comes to the phase in which the consumer of the first one takes a step. -/
theorem ready_run (config : DeviceConfig) {gapTimeout : Option Nat}
    (same : config.writer.gapTimeout = gapTimeout)
    (aligned : Aligned gapTimeout state other)
    (settled : state.writer.consumer.settled gapTimeout = state.writer.consumer) :
    ∃ labels ready, (deviceWriter config).Run other labels ready ∧ ¬ready.Due config ∧
      ready.writer = state.writer ∧ Aligned gapTimeout state ready := by
  obtain ⟨labels, first, run, free, _, aligned⟩ := flushed_run config aligned
  have reaches := aligned.consumer.trans settled
  rcases settled_cases gapTimeout first.writer.consumer with
    there | ⟨round, topSeq, timing, without, skipped⟩
  · exact ⟨labels, first, run, free, aligned.writer_eq (there.symm.trans reaches), aligned⟩
  · have here := skipped.symm.trans reaches
    have untimed : ∀ flowId, first.writer.gapDeadlines flowId = none := by
      rw [aligned.writer]
      exact aligned.untimed without
    have armed : ConsumerStep config.writer first.writer (.timerArmed 0) _ :=
      .timerArmed round topSeq 0 timing (untimed round.flowId)
    obtain ⟨quiet, left⟩ := timing_skipped armed (same.trans without) untimed timing
    rw [left, aligned.writer_eq here] at armed
    have reached : Aligned gapTimeout state { first with writer := state.writer } :=
      ⟨rfl, rfl, aligned.held, aligned.atHand, aligned.received, aligned.dropped, aligned.singles,
        aligned.gathered, aligned.untimed⟩
    obtain ⟨more, ready, rest, clear, kept, aligned⟩ := flushed_run config reached
    exact ⟨_, ready, run.append (.cons (.consumed _ _ armed quiet free) rest), clear, kept, aligned⟩

/-- The other consumer takes the same step, or it has skipped the look at the deadline already. -/
theorem consumer_matched (segmentationOffload : Bool) {label : WriterLabel} {after : LocalWriter}
    (aligned : Aligned config.writer.gapTimeout state other)
    (step : ConsumerStep config.writer state.writer label after) :
    (label.Quiet ∧ Aligned config.writer.gapTimeout { state with writer := after } other) ∨
      ∃ labels ready consumer,
        (deviceWriter (config.offloading segmentationOffload)).Run other labels ready ∧
        ¬ready.Due (config.offloading segmentationOffload) ∧
        Aligned config.writer.gapTimeout state ready ∧ ready.writer = state.writer ∧
        ConsumerStep (config.offloading segmentationOffload).writer ready.writer label
          { after with consumer := consumer } ∧
        consumer.settled config.writer.gapTimeout = after.consumer.settled config.writer.gapTimeout := by
  rcases settled_cases config.writer.gapTimeout state.writer.consumer with
    there | ⟨round, topSeq, timing, without, skipped⟩
  · obtain ⟨labels, ready, run, free, same, aligned⟩ :=
      ready_run (config.offloading segmentationOffload) rfl aligned there
    obtain ⟨consumer, followed, settled⟩ := consumer_transfers segmentationOffload step
    refine .inr ⟨labels, ready, consumer, run, free, aligned, same, ?_, settled⟩
    rw [same]
    exact followed
  · obtain ⟨quiet, left⟩ := timing_skipped step without (aligned.untimed without) timing
    refine .inl ⟨quiet, ?_⟩
    obtain ⟨writer, consumer, held, atHand, received, dropped, singles, gathered, untimed⟩ := aligned
    rw [left]
    refine ⟨writer, ?_, held, atHand, received, dropped, singles, gathered, untimed⟩
    rw [consumer, skipped, next_settled]

/-- The other consumer takes the same step where the packets of the writers change hands. -/
theorem loud_matched (segmentationOffload : Bool) {label : WriterLabel} {after : LocalWriter}
    (loud : ¬label.Quiet) (aligned : Aligned config.writer.gapTimeout state other)
    (step : ConsumerStep config.writer state.writer label after) :
    ∃ labels ready consumer,
      (deviceWriter (config.offloading segmentationOffload)).Run other labels ready ∧
      ¬ready.Due (config.offloading segmentationOffload) ∧
      Aligned config.writer.gapTimeout state ready ∧ ready.writer = state.writer ∧
      ConsumerStep (config.offloading segmentationOffload).writer ready.writer label
        { after with consumer := consumer } ∧
      consumer.settled config.writer.gapTimeout = after.consumer.settled config.writer.gapTimeout :=
  (consumer_matched segmentationOffload aligned step).resolve_left fun skipped => loud skipped.1

/-- What one writer does, the other one can do. -/
theorem step_matched (segmentationOffload : Bool) {label : DeviceLabel}
    (aligned : Aligned config.writer.gapTimeout state other)
    (step : DeviceStep config state label next) :
    ∃ labels later, (deviceWriter (config.offloading segmentationOffload)).Run other labels later ∧
      Aligned config.writer.gapTimeout next later := by
  cases step with
  | produced label after step free =>
    have followed := producer_transfers segmentationOffload step aligned.consumer
    rw [← aligned.writer] at followed
    have ready : other.ProducerFree := by
      intro receiving
      rw [aligned.writer] at receiving
      exact aligned.held.trans (free receiving)
    refine ⟨_, _, .single (.produced label _ followed ready), rfl, ?_, ?_, aligned.atHand, ?_,
      aligned.dropped, aligned.singles, aligned.gathered, ?_⟩
    · rw [producer_consumer step]
      exact aligned.consumer
    · rw [aligned.held]
    · rw [aligned.received]
    · exact fun without => producer_untimed step (aligned.untimed without)
  | handedOn packet receiving held =>
    have waits : other.writer.producer = .receiving := by
      rw [aligned.writer]
      exact receiving
    refine ⟨_, _, .single (.handedOn packet waits (aligned.held.trans held)), aligned.writer,
      aligned.consumer, rfl, aligned.atHand, aligned.received, aligned.dropped, ?_, ?_,
      aligned.untimed⟩
    · simp only [DeviceWriter.singles, DeviceWriter.singles_append]
      exact congrArg (· ++ [packet]) aligned.singles
    · have before := aligned.gathered
      simp only [DeviceWriter.gathered, DeviceWriter.gathered_append] at before ⊢
      rw [DeviceCall.gathered, List.append_nil, List.append_nil]
      exact before
  | consumed label after step quiet free =>
    rcases consumer_matched segmentationOffload aligned step with
      ⟨_, skipped⟩ | ⟨labels, ready, consumer, run, clear, aligned, _, followed, settled⟩
    · exact ⟨[], other, .nil, skipped⟩
    · exact ⟨_, _, .snoc run (.consumed label _ followed quiet clear), rfl, settled, aligned.held,
        aligned.atHand, aligned.received, aligned.dropped, aligned.singles, aligned.gathered,
        fun without => consumer_untimed step without (aligned.untimed without)⟩
  | stalePopped packet after step removes free =>
    rcases loud_matched segmentationOffload id aligned step with
      ⟨labels, ready, consumer, run, clear, aligned, same, followed, settled⟩
    rw [← same] at removes
    refine ⟨_, _, .snoc run (.stalePopped packet _ followed removes clear), rfl, settled,
      aligned.held, aligned.atHand, aligned.received, aligned.dropped, aligned.singles, ?_,
      fun without => consumer_untimed step without (aligned.untimed without)⟩
    have before := aligned.gathered
    simp only [DeviceWriter.gathered, ← List.append_assoc] at before ⊢
    rw [before]
  | popped packet after step removes free =>
    rcases loud_matched segmentationOffload id aligned step with
      ⟨labels, ready, consumer, run, clear, aligned, same, followed, settled⟩
    rw [← same] at removes
    exact ⟨_, _, .snoc run (.popped packet _ followed removes clear), rfl, settled, aligned.held,
      rfl, aligned.received, aligned.dropped, aligned.singles, aligned.gathered,
      fun without => consumer_untimed step without (aligned.untimed without)⟩
  | expectedRaised after step free =>
    rcases loud_matched segmentationOffload id aligned step with
      ⟨labels, ready, consumer, run, clear, aligned, _, followed, settled⟩
    refine ⟨_, _, .snoc run (.expectedRaised _ followed clear), rfl, settled, aligned.held, rfl,
      aligned.received, aligned.dropped, aligned.singles, ?_,
      fun without => consumer_untimed step without (aligned.untimed without)⟩
    have before := aligned.gathered
    simp only [DeviceWriter.gathered, ← List.append_assoc] at before ⊢
    rw [before, aligned.atHand]
  | topPopped packet after step removes free =>
    rcases loud_matched segmentationOffload id aligned step with
      ⟨labels, ready, consumer, run, clear, aligned, same, followed, settled⟩
    rw [← same] at removes
    refine ⟨_, _, .snoc run (.topPopped packet _ followed removes clear), rfl, settled,
      aligned.held, aligned.atHand, aligned.received, ?_, aligned.singles, aligned.gathered,
      fun without => consumer_untimed step without (aligned.untimed without)⟩
    rw [aligned.dropped]
  | flushed due =>
    refine ⟨[], other, .nil, aligned.writer, aligned.consumer, aligned.held, aligned.atHand,
      aligned.received, aligned.dropped, ?_, ?_, aligned.untimed⟩
    · rw [aligned.singles, DeviceWriter.singles, DeviceWriter.singles, DeviceWriter.singles_append]
      exact (List.append_nil _).symm
    · rw [aligned.gathered, DeviceWriter.gathered, DeviceWriter.gathered,
        DeviceWriter.gathered_append, List.append_nil]
      rfl
  | slept sleepers left =>
    have same : other.writer.sleepers = sleepers + 1 := by
      rw [aligned.writer]
      exact left
    refine ⟨_, _, .single (.slept sleepers same), ?_, aligned.consumer, aligned.held,
      aligned.atHand, aligned.received, aligned.dropped, aligned.singles, aligned.gathered,
      aligned.untimed⟩
    simp only
    rw [aligned.writer]

end Writers

/-! ## Runs -/

/-- The writers have received the same packets and hold the same ones, and the device has got the same
packets of them, up to those that wait for a batch. -/
structure Agrees (state other : DeviceWriter) : Prop where
  received : other.received = state.received
  heaps : other.writer.queueMap = state.writer.queueMap
  expected : other.writer.expectedSeqMap = state.writer.expectedSeqMap
  active : other.writer.activeFlows = state.writer.activeFlows
  dropped : other.dropped = state.dropped
  singles : other.singles = state.singles
  gathered : other.gathered ++ other.pendingPackets = state.gathered ++ state.pendingPackets

theorem Aligned.agrees {gapTimeout : Option Nat} {state other : DeviceWriter}
    (aligned : Aligned gapTimeout state other) : Agrees state other := by
  refine ⟨aligned.received, ?_, ?_, ?_, aligned.dropped, aligned.singles, aligned.gathered⟩ <;>
    rw [aligned.writer]

theorem aligned_new (config : DeviceConfig) (segmentationOffload : Bool) :
    Aligned config.writer.gapTimeout (.new config) (.new (config.offloading segmentationOffload)) where
  writer := rfl
  consumer := rfl
  held := rfl
  atHand := rfl
  received := rfl
  dropped := rfl
  singles := rfl
  gathered := rfl
  untimed _ _ := rfl

theorem aligned_reachable {config : DeviceConfig} {state : DeviceWriter} (segmentationOffload : Bool)
    (reachable : (deviceWriter config).Reachable state) :
    ∃ other, (deviceWriter (config.offloading segmentationOffload)).Reachable other ∧
      Aligned config.writer.gapTimeout state other := by
  obtain ⟨start, labels, rfl, run⟩ := reachable
  obtain ⟨notes, other, followed, aligned⟩ := run.matched (Aligned config.writer.gapTimeout)
    (fun _ _ _ _ aligned step => step_matched segmentationOffload aligned step)
    (aligned_new config segmentationOffload)
  exact ⟨other, ⟨_, notes, rfl, followed⟩, aligned⟩

/-- Whatever one writer does over a run, the other one can do: with or without segmentation offload,
the reorder buffer gives the device the same packets in the same order. -/
theorem writers_agree (config : DeviceConfig) (segmentationOffload : Bool) (state : DeviceWriter)
    (reachable : (deviceWriter config).Reachable state) :
    ∃ other, (deviceWriter (config.offloading segmentationOffload)).Reachable other ∧
      Agrees state other ∧ (state.AtRest → other.AtRest ∧ other.gathered = state.gathered) := by
  obtain ⟨other, reached, aligned⟩ := aligned_reachable segmentationOffload reachable
  by_cases atRest : state.AtRest
  · have settled : state.writer.consumer.settled config.writer.gapTimeout = state.writer.consumer := by
      rw [atRest.waiting]
      rfl
    obtain ⟨labels, ready, run, free, same, aligned⟩ :=
      ready_run (config.offloading segmentationOffload) rfl aligned settled
    have waiting : ready.writer.consumer = .waiting := by rw [same, atRest.waiting]
    have nothing : ready.pendingPackets = [] := by
      by_contra pending
      refine free ?_
      rw [DeviceWriter.Due, waiting]
      exact pending
    refine ⟨ready, reached.run run, aligned.agrees, fun _ => ⟨⟨waiting, nothing⟩, ?_⟩⟩
    simpa [nothing, atRest.nothing] using aligned.gathered
  · exact ⟨other, reached, aligned.agrees, fun rests => (atRest rests).elim⟩

def batching : DeviceConfig := unbatched.offloading true

/-- Steps lead to the writer at rest that has written the one segment. -/
def RestsWith (state : DeviceWriter) : Prop :=
  ∃ labels finish, (deviceWriter batching).Run state labels finish ∧ finish.AtRest ∧
    finish.gathered = [segment 0]

theorem rests_after {state next : DeviceWriter} {label : DeviceLabel}
    (step : DeviceStep batching state label next) (leads : RestsWith next) : RestsWith state := by
  obtain ⟨labels, finish, run, rests⟩ := leads
  exact ⟨_, finish, TransitionSystem.Run.cons step run, rests⟩

theorem segment_gathered : ∃ state, (deviceWriter batching).Reachable state ∧
    state.gathered = [segment 0] ∧
      ∃ other, (deviceWriter (batching.offloading false)).Reachable other ∧
        other.gathered = [segment 0] := by
  suffices leads : RestsWith (.new batching) by
    obtain ⟨labels, state, run, atRest, written⟩ := leads
    have reachable : (deviceWriter batching).Reachable state := ⟨_, labels, rfl, run⟩
    obtain ⟨other, reached, _, rests⟩ := writers_agree batching false state reachable
    exact ⟨state, reachable, written, other, reached, (rests atRest).2.trans written⟩
  have few : ¬128 ≤ 1 := by decide
  refine rests_after (.produced _ _ (.pushed (segment 0) rfl rfl rfl) fun _ => rfl) ?_
  refine rests_after (.produced _ _ (.inserted 7 rfl nofun) nofun) ?_
  refine rests_after (.produced _ _ (.notified 7 rfl) nofun) ?_
  refine rests_after (.consumed _ _ (.woken rfl rfl) trivial (not_due_of_empty rfl)) ?_
  refine rests_after (.consumed _ _ (.collected [7] rfl nofun (by decide) (listed rfl)) trivial
    (not_due_of_empty rfl)) ?_
  refine rests_after (.consumed _ _ (.peeked _ (segment 0) rfl (sole_top _)) trivial
    (not_due_of_empty rfl)) ?_
  refine rests_after (.consumed _ _ (.expectedRead _ _ 0 rfl (fun _ => ⟨nofun, nofun, nofun⟩) rfl)
    trivial (not_due_of_empty rfl)) ?_
  refine rests_after (.consumed _ _
    (.freshKept _ _ _ rfl (.inr ⟨_, sole_top (segment 0), rfl⟩)) trivial (not_due_of_empty rfl)) ?_
  refine rests_after (.popped (segment 0) _ (.popped _ 0 (segment 0) rfl (sole_top _))
    ⟨_, _, rfl, List.mem_singleton.mpr rfl, rfl⟩ (not_due_of_empty rfl)) ?_
  refine rests_after (.consumed _ _ (.expectedReread _ _ _ rfl fun _ => ⟨nofun, nofun, nofun⟩)
    trivial (not_due_of_empty rfl)) ?_
  refine rests_after (.expectedRaised _ (.expectedRaised _ _ rfl fun _ => ⟨nofun, nofun, nofun⟩)
    (not_due_of_empty rfl)) ?_
  refine rests_after (.consumed _ _ (.deadlineCleared _ rfl) trivial nofun) ?_
  refine rests_after (.consumed _ _ (.emptyChecked _ rfl) trivial few) ?_
  refine rests_after (.consumed _ _ (.deactivated _ true rfl nofun) trivial few) ?_
  refine rests_after (.consumed _ _ (.deadlineDropped _ true rfl) trivial few) ?_
  refine rests_after (.consumed _ _ (.peekedNone _ rfl rfl) trivial few) ?_
  refine rests_after (.consumed _ _ (.deactivated _ false rfl nofun) trivial few) ?_
  refine rests_after (.consumed _ _ (.deadlineDropped _ false rfl) trivial few) ?_
  refine rests_after (.consumed _ _ (.collected [] rfl nofun (by decide) (listed rfl)) trivial
    few) ?_
  refine rests_after (.flushed nofun) ?_
  exact ⟨[], _, .nil, ⟨rfl, rfl⟩, rfl⟩

end Nextmini.Node
