import Nextmini.Session.NeedReports
import Nextmini.Session.RoundRuns

/-!
# Rounds of the plain sender

What a plain sender has recorded of the open round was heard, what it counts as emitted was sent,
and it asks for every block that a recorded report misses.
-/

namespace Nextmini.Session

open Nextmini.Library Nextmini.Library.BigEndian
open Nextmini.Messages

set_option autoImplicit false

theorem missing_blocks_inside {shared : SenderShared} (geometry : Geometry shared)
    {roundId : UInt32} {ranges : List MissingBlockRange}
    (valid : shared.manifest.validateControl (.need roundId (.plain ranges)) = .ok ())
    {blockId : Nat} (missing : blockId ∈ PlainSender.missingBlocks ranges) :
    blockId < shared.plan.totalBlocks := by
  obtain ⟨_, _, checked⟩ := bind_ok_iff.mp valid
  obtain ⟨_, _, checked⟩ := bind_ok_iff.mp checked
  obtain ⟨_, _, checked⟩ := bind_ok_iff.mp checked
  simp only at checked
  split_ifs at checked
  obtain ⟨_, _, ends⟩ := bind_ok_iff.mp checked
  rw [validate_range_ends_ok_iff] at ends
  obtain ⟨range, member, inRange⟩ := List.mem_flatMap.mp missing
  obtain ⟨offset, bound, rfl⟩ := List.mem_range'.mp inRange
  have upper := UInt64.le_iff_toNat_le.mp (ends range member)
  rw [(plan_total_blocks geometry.valid geometry.planned).1]
  omega

namespace PlainSender

theorem require_blocks_result (blocks : List Nat) (mode : PlainSender) (useful : Bool) :
    ∃ queued, (requireBlocks blocks (mode, useful)).1 =
        { mode with
          requiredBlocks := mode.requiredBlocks ∪ blocks.toFinset
          queuedRetransmitBlocks := queued } ∧
      queued ⊆ mode.queuedRetransmitBlocks ∪ blocks.toFinset := by
  induction blocks generalizing mode useful with
  | nil => exact ⟨mode.queuedRetransmitBlocks, by simp [requireBlocks], by simp⟩
  | cons blockId rest induction =>
    simp only [requireBlocks]
    split_ifs with known sent
    · obtain ⟨queued, same, bound⟩ := induction mode useful
      refine ⟨queued, ?_, ?_⟩
      · rw [same, List.toFinset_cons, Finset.union_insert, Finset.insert_eq_self.mpr]
        exact Finset.mem_union_left _ known
      · intro other member
        have bounded := bound member
        simp only [Finset.mem_union, List.mem_toFinset, List.mem_cons] at bounded ⊢
        tauto
    · obtain ⟨queued, same, bound⟩ := induction
        { mode with requiredBlocks := insert blockId mode.requiredBlocks } true
      refine ⟨queued, ?_, ?_⟩
      · rw [same]
        simp only [List.toFinset_cons, Finset.union_insert, Finset.insert_union]
      · intro other member
        have bounded := bound member
        simp only [Finset.mem_union, List.mem_toFinset, List.mem_cons] at bounded ⊢
        tauto
    · obtain ⟨queued, same, bound⟩ := induction
        { mode with
          requiredBlocks := insert blockId mode.requiredBlocks
          queuedRetransmitBlocks := insert blockId mode.queuedRetransmitBlocks } true
      refine ⟨queued, ?_, ?_⟩
      · rw [same]
        simp only [List.toFinset_cons, Finset.union_insert, Finset.insert_union]
      · intro other member
        have bounded := bound member
        simp only [Finset.mem_union, Finset.mem_insert, List.mem_toFinset,
          List.mem_cons] at bounded ⊢
        tauto

/-- What one report does to a plain sender. -/
inductive NeedStep (mode : PlainSender) (peerId : Nat) (roundId : UInt32) (report : NeedReport) :
    PlainSender → Prop
  | ignore : (mode.feedbackRoundOpen = false ∨ roundId ≠ mode.feedbackOpenRoundId ∨
      mode.roundReports[peerId]? = some report) → NeedStep mode peerId roundId report mode
  | changed {existing : NeedReport} : mode.feedbackRoundOpen →
      roundId = mode.feedbackOpenRoundId → mode.roundReports[peerId]? = some existing →
      existing ≠ report → NeedStep mode peerId roundId report { mode with protocolError := true }
  | complete : mode.feedbackRoundOpen → roundId = mode.feedbackOpenRoundId →
      mode.roundReports[peerId]? = none → report = .complete →
      NeedStep mode peerId roundId report
        { mode with roundReports := mode.roundReports.insert peerId report }
  | missing {ranges : List MissingBlockRange} {queued : Finset Nat} {burst : UInt32}
      {nonempty : Bool} : mode.feedbackRoundOpen → roundId = mode.feedbackOpenRoundId →
      mode.roundReports[peerId]? = none → report = .plain ranges →
      queued ⊆ mode.queuedRetransmitBlocks ∪ (missingBlocks ranges).toFinset →
      NeedStep mode peerId roundId report
        { mode with
          roundReports := mode.roundReports.insert peerId report
          requiredBlocks := mode.requiredBlocks ∪ (missingBlocks ranges).toFinset
          queuedRetransmitBlocks := queued
          currentBurstId := burst
          nextBurstNonempty := nonempty }
  | mismatch {needs : List NeedBlock} : mode.feedbackRoundOpen →
      roundId = mode.feedbackOpenRoundId → mode.roundReports[peerId]? = none →
      report = .fec needs →
      NeedStep mode peerId roundId report
        { mode with
          roundReports := mode.roundReports.insert peerId report
          protocolError := true }

theorem on_need_cases (mode : PlainSender) (peerId : Nat) (roundId : UInt32)
    (report : NeedReport) : NeedStep mode peerId roundId report (mode.onNeed peerId roundId report) := by
  unfold onNeed
  by_cases opened : mode.feedbackRoundOpen
  swap
  · rw [if_pos opened]
    exact .ignore (.inl (Bool.eq_false_iff.mpr opened))
  rw [if_neg (not_not_intro opened)]
  by_cases current : roundId = mode.feedbackOpenRoundId
  swap
  · rw [if_pos current]
    exact .ignore (.inr (.inl current))
  rw [if_neg (not_not_intro current)]
  split
  next existing present =>
    by_cases same : existing = report
    · rw [if_neg (not_not_intro same)]
      exact .ignore (.inr (.inr (same ▸ present)))
    · rw [if_pos same]
      exact .changed opened current present same
  next absent =>
    cases report with
    | complete => exact .complete opened current absent rfl
    | plain ranges =>
      obtain ⟨queued, same, bound⟩ := require_blocks_result (missingBlocks ranges)
        { mode with roundReports := mode.roundReports.insert peerId (.plain ranges) } false
      simp only
      split_ifs
      · rw [same]
        exact .missing opened current absent rfl bound
      · rw [same]
        exact .missing opened current absent rfl bound
    | fec needs => exact .mismatch opened current absent rfl

theorem send_block_some {shared after : SenderShared} {blockId : Nat} {frames : List SessionFrame}
    (sent : sendBlock shared blockId = some (after, frames)) :
    (after = shared ∧ frames = [] ∧ shared.plan.blockSpan blockId = none) ∨
      ∃ span bytes, after = shared.markPayloadEmitted ∧
        shared.plan.blockSpan blockId = some span ∧
        frames = [.blockData blockId (shared.source.blockPayload span)] ∧
        encodeBlockData shared.sessionId (UInt64.ofNat blockId)
          (shared.source.blockPayload span) = some bytes := by
  unfold sendBlock at sent
  split at sent
  next outside =>
    cases sent
    exact .inl ⟨rfl, rfl, outside⟩
  next span inside =>
    obtain ⟨out, sending, same⟩ := Option.bind_eq_some_iff.mp sent
    obtain ⟨rfl, bytes, encoded⟩ := send_frame_some sending
    cases same
    exact .inr ⟨span, bytes, rfl, inside, rfl, encoded⟩

/-- What one turn of the plain main loop can do. -/
inductive TurnStep (shared : SenderShared) (mode : PlainSender) (now : Nat) :
    SenderShared → PlainSender → List SessionFrame → Turn → Prop
  | failed : mode.protocolError → TurnStep shared mode now shared mode [] (.done .aborted)
  | ended : mode.protocolError = false → mode.complete → TurnStep shared mode now shared mode [] (.done .completed)
  | source {blockId : Nat} {after : SenderShared} {frames : List SessionFrame} :
      mode.protocolError = false → mode.complete = false →
      mode.sourceBlocks[mode.sourceCursor]? = some blockId →
      sendBlock shared blockId = some (after, frames) →
      TurnStep shared mode now after { mode with sourceCursor := mode.sourceCursor + 1 } frames
        .again
  | retransmit {blockId : Nat} {after : SenderShared} {frames : List SessionFrame} :
      mode.protocolError = false → mode.complete = false →
      blockId ∈ mode.queuedRetransmitBlocks → sendBlock shared blockId = some (after, frames) →
      TurnStep shared mode now after
        { mode with
          queuedRetransmitBlocks := mode.queuedRetransmitBlocks.erase blockId
          emittedBlocks := insert blockId mode.emittedBlocks } frames .again
  | openEmpty : mode.protocolError = false → mode.complete = false →
      mode.feedbackRoundOpen = false → shared.activeQuorum.active = ∅ →
      TurnStep shared mode now shared { mode with feedbackRoundOpen := true, complete := true }
        [.control (.sourceDone mode.feedbackOpenRoundId)] (.done .completed)
  | openRound : mode.protocolError = false → mode.complete = false →
      mode.feedbackRoundOpen = false → shared.activeQuorum.active ≠ ∅ →
      TurnStep shared mode now (shared.startQuorumFeedbackWait now)
        { mode with feedbackRoundOpen := true }
        [.control (.sourceDone mode.feedbackOpenRoundId)] .again
  | allComplete : mode.protocolError = false → mode.complete = false →
      mode.feedbackRoundOpen → mode.roundCanClose shared → mode.allComplete →
      TurnStep shared mode now shared.clearQuorumFeedbackWait { mode with complete := true } []
        (.done .completed)
  | advance : mode.protocolError = false → mode.complete = false →
      mode.feedbackRoundOpen → mode.roundCanClose shared → mode.allComplete = false →
      TurnStep shared mode now shared.clearQuorumFeedbackWait mode.advanceRound [] .again
  | wait : mode.protocolError = false → mode.complete = false → mode.feedbackRoundOpen →
      TurnStep shared mode now shared mode [] .waitFeedback

theorem turn_cases {shared after : SenderShared} {mode next : PlainSender} {now : Nat}
    {frames : List SessionFrame} {turned : Turn}
    (stepped : mode.turn shared now = some (after, next, frames, turned)) :
    TurnStep shared mode now after next frames turned := by
  unfold turn at stepped
  by_cases failed : mode.protocolError
  · rw [if_pos failed] at stepped
    cases stepped
    exact .failed failed
  rw [if_neg failed] at stepped
  have sound := Bool.eq_false_iff.mpr failed
  by_cases ended : mode.complete
  · rw [if_pos ended] at stepped
    cases stepped
    exact .ended sound ended
  rw [if_neg ended] at stepped
  have running := Bool.eq_false_iff.mpr ended
  unfold nextSourceBlock at stepped
  cases source : mode.sourceBlocks[mode.sourceCursor]? with
  | some blockId =>
    simp only [source] at stepped
    obtain ⟨⟨shared, sent⟩, sending, same⟩ := Option.bind_eq_some_iff.mp stepped
    cases same
    exact .source sound running source sending
  | none =>
    simp only [source] at stepped
    unfold nextRetransmitBlock at stepped
    by_cases queued : mode.queuedRetransmitBlocks.Nonempty
    · simp only [dif_pos queued] at stepped
      obtain ⟨⟨shared, sent⟩, sending, same⟩ := Option.bind_eq_some_iff.mp stepped
      cases same
      exact .retransmit sound running (Finset.min'_mem _ queued) sending
    · simp only [dif_neg queued] at stepped
      by_cases opened : mode.feedbackRoundOpen
      · rw [if_neg (not_not_intro opened)] at stepped
        split_ifs at stepped with complete useful
        · cases stepped
          exact .allComplete sound running opened complete.1 complete.2
        · cases stepped
          refine .advance sound running opened useful.1 (Bool.eq_false_iff.mpr ?_)
          exact fun all => complete ⟨useful.1, all⟩
        · cases stepped
          exact .wait sound running opened
      · rw [if_pos opened] at stepped
        have closed := Bool.eq_false_iff.mpr opened
        obtain ⟨sent, sending, stepped⟩ := Option.bind_eq_some_iff.mp stepped
        obtain ⟨rfl, -⟩ := send_frame_some sending
        simp only [SenderShared.activeQuorumIsEmpty, decide_eq_true_eq] at stepped
        split_ifs at stepped with empty
        · cases stepped
          exact .openEmpty sound running closed empty
        · cases stepped
          exact .openRound sound running closed empty

end PlainSender

/-! ## The invariant -/

structure PlainTracked (log : RoundLog) (shared : SenderShared) (mode : PlainSender) : Prop where
  rounds : RoundsTracked log shared mode
  geometry : Geometry shared
  required : ∀ (peerId : Nat) (ranges : List MissingBlockRange),
    mode.roundReports[peerId]? = some (.plain ranges) →
      ∀ blockId ∈ PlainSender.missingBlocks ranges, blockId ∈ mode.requiredBlocks
  matched : mode.protocolError = false → ∀ (peerId : Nat) (needs : List NeedBlock),
    mode.roundReports[peerId]? ≠ some (.fec needs)
  emitted : ∀ blockId ∈ mode.emittedBlocks, ∃ payload, .blockData blockId payload ∈ log.frames
  emittedClosed : mode.feedbackRoundOpen = false → mode.emittedBlocks = ∅
  queuedInside : ∀ blockId ∈ mode.queuedRetransmitBlocks, blockId < shared.plan.totalBlocks
  queuedClosed : mode.feedbackRoundOpen = false → mode.queuedRetransmitBlocks = ∅
  ends : mode.complete → EndsWell log shared.activeQuorum.active

section Plain

variable {log : RoundLog} {shared : SenderShared} {mode : PlainSender}

theorem PlainTracked.extend (tracked : PlainTracked log shared mode) (label : SenderLabel) :
    PlainTracked (log.extend label) shared mode where
  rounds := tracked.rounds.extend label
  geometry := tracked.geometry
  required := tracked.required
  matched := tracked.matched
  emitted blockId member := by
    obtain ⟨payload, sent⟩ := tracked.emitted blockId member
    rw [RoundLog.frames_extend]
    exact ⟨payload, List.mem_append_left _ sent⟩
  emittedClosed := tracked.emittedClosed
  queuedInside := tracked.queuedInside
  queuedClosed := tracked.queuedClosed
  ends complete := (tracked.ends complete).extend label

theorem PlainTracked.need (tracked : PlainTracked log shared mode) {frame : InboundFrame}
    {header : LosslessSessionHeader} {peerId : Nat} {roundId : UInt32} {report : NeedReport}
    (decoded : decodeControl frame.bytes = some (header, .need roundId report))
    (sender : frame.peerId = some peerId) (member : peerId ∈ shared.activeQuorum.active)
    (valid : shared.manifest.validateControl (.need roundId report) = .ok ()) :
    PlainTracked (log.extend ⟨.control frame, []⟩) shared (mode.onNeed peerId roundId report) := by
  have extended := tracked.extend ⟨.control frame, []⟩
  have heard : (log.extend ⟨.control frame, []⟩).Heard roundId peerId report :=
    RoundLog.heard_now decoded sender []
  have recordedOther (other : Nat) (given : NeedReport) (same : other ≠ peerId) :
      (mode.roundReports.insert peerId report)[other]? = some given →
        mode.roundReports[other]? = some given := by
    rw [Std.ExtTreeMap.getElem?_insert, if_neg]
    · exact id
    · exact fun equal => same (Nat.compare_eq_eq.mp equal).symm
  have step := PlainSender.on_need_cases mode peerId roundId report
  generalize mode.onNeed peerId roundId report = next at step ⊢
  cases step with
  | ignore reason => exact extended
  | changed opened current present different =>
    exact ⟨extended.rounds.view rfl rfl rfl, extended.geometry,
      extended.required, by simp, extended.emitted, extended.emittedClosed,
      extended.queuedInside, extended.queuedClosed, extended.ends⟩
  | complete opened current absent kind =>
    subst kind current
    refine ⟨tracked.rounds.record opened member heard rfl rfl rfl, extended.geometry, ?_, ?_,
      extended.emitted, extended.emittedClosed, extended.queuedInside, extended.queuedClosed,
      extended.ends⟩
    · intro other ranges given
      by_cases same : other = peerId
      · subst same
        simp at given
      · exact tracked.required other ranges (recordedOther other _ same given)
    · intro sound other needs given
      by_cases same : other = peerId
      · subst same
        simp at given
      · exact tracked.matched sound other needs (recordedOther other _ same given)
  | @missing ranges queued burst nonempty opened current absent kind bound =>
    subst kind current
    refine ⟨tracked.rounds.record opened member heard rfl rfl rfl, extended.geometry, ?_, ?_,
      extended.emitted, extended.emittedClosed, ?_, ?_, extended.ends⟩
    · intro other given present blockId missing
      by_cases same : other = peerId
      · subst same
        simp only [Std.ExtTreeMap.getElem?_insert_self, Option.some.injEq,
          NeedReport.plain.injEq] at present
        subst present
        exact Finset.mem_union_right _ (List.mem_toFinset.mpr missing)
      · exact Finset.mem_union_left _
          (tracked.required other given (recordedOther other _ same present) blockId missing)
    · intro sound other needs present
      by_cases same : other = peerId
      · subst same
        simp at present
      · exact tracked.matched sound other needs (recordedOther other _ same present)
    · intro blockId inQueue
      rcases Finset.mem_union.mp (bound inQueue) with before | missing
      · exact tracked.queuedInside blockId before
      · exact missing_blocks_inside tracked.geometry valid (List.mem_toFinset.mp missing)
    · intro closed
      simp only [opened] at closed
      cases closed
  | @mismatch needs opened current absent kind =>
    subst kind current
    refine ⟨tracked.rounds.record opened member heard rfl rfl rfl, extended.geometry, ?_,
      by simp, extended.emitted, extended.emittedClosed, extended.queuedInside,
      extended.queuedClosed, extended.ends⟩
    intro other ranges given
    by_cases same : other = peerId
    · subst same
      simp at given
    · exact tracked.required other ranges (recordedOther other _ same given)

theorem PlainTracked.same (tracked : PlainTracked log shared mode) {after : SenderShared}
    (quorum : after.activeQuorum = shared.activeQuorum) (session : SameSession shared after) :
    PlainTracked log after mode :=
  ⟨tracked.rounds.same quorum session, tracked.geometry.same session, tracked.required,
    tracked.matched, tracked.emitted, tracked.emittedClosed, session.plan ▸ tracked.queuedInside,
    tracked.queuedClosed, quorum ▸ tracked.ends⟩

theorem PlainTracked.covers (tracked : PlainTracked log shared mode)
    (sound : mode.protocolError = false)
    (emitted : mode.requiredBlocks ⊆ mode.emittedBlocks) (sourceSymbols : Nat) :
    ∀ report ∈ recorded mode.roundReports, log.Covers sourceSymbols report := by
  intro report member
  obtain ⟨peerId, present⟩ := (mem_recorded _ _).mp member
  cases report with
  | complete => exact trivial
  | plain ranges =>
    intro blockId missing
    exact tracked.emitted blockId (emitted (tracked.required peerId ranges present blockId missing))
  | fec needs => exact absurd present (tracked.matched sound peerId needs)

theorem opening_of_block {now : Nat} {submit : Nat → SendOutcome} {blockId : Nat}
    {after : SenderShared} {frames : List SessionFrame}
    (sent : PlainSender.sendBlock shared blockId = some (after, frames)) :
    RoundLog.opening ⟨.turn now submit, frames⟩ = none ∧
      (∀ roundId, .control (.sourceDone roundId) ∉ frames) ∧
      (∀ manifest, .control (.manifest manifest) ∉ frames) ∧
      after.activeQuorum = shared.activeQuorum ∧ SameSession shared after := by
  rcases PlainSender.send_block_some sent with ⟨rfl, rfl, _⟩ | ⟨span, bytes, rfl, _, rfl, _⟩
  · exact ⟨rfl, by simp, by simp, rfl, .refl _⟩
  · exact ⟨rfl, by simp, by simp, rfl, ⟨rfl, rfl, rfl, rfl⟩⟩

theorem plain_turn_effect {now : Nat} {after : SenderShared} {next : PlainSender}
    {frames : List SessionFrame} {turned : Turn}
    (step : PlainSender.TurnStep shared mode now after next frames turned) :
    TurnEffect shared mode after next frames turned := by
  cases step with
  | failed failed =>
    exact ⟨by simp, by simp, by simp, by simp, by simp, rfl, .refl _⟩
  | ended sound ended =>
    exact ⟨by simp, by simp, fun _ => ended, by simp, by simp, rfl, .refl _⟩
  | source sound running source sent =>
    obtain ⟨_, noDone, noManifest, quorum, session⟩ := 
      @opening_of_block _ now (fun _ => .closed) _ _ _ sent
    exact ⟨fun roundId member => absurd member (noDone roundId), noManifest, by simp, by simp,
      by simp, quorum, session⟩
  | retransmit sound running queued sent =>
    obtain ⟨_, noDone, noManifest, quorum, session⟩ := 
      @opening_of_block _ now (fun _ => .closed) _ _ _ sent
    exact ⟨fun roundId member => absurd member (noDone roundId), noManifest, by simp, by simp,
      by simp, quorum, session⟩
  | openEmpty sound running closed empty =>
    refine ⟨?_, by simp, fun _ => rfl, by simp, by simp, rfl, .refl _⟩
    intro roundId member
    simp only [List.mem_singleton, SessionFrame.control.injEq,
      LosslessSessionControl.sourceDone.injEq] at member
    exact ⟨by rw [member], closed, member⟩
  | openRound sound running closed members =>
    refine ⟨?_, by simp, by simp, by simp, by simp, rfl, ⟨rfl, rfl, rfl, rfl⟩⟩
    intro roundId member
    simp only [List.mem_singleton, SessionFrame.control.injEq,
      LosslessSessionControl.sourceDone.injEq] at member
    exact ⟨by rw [member], closed, member⟩
  | allComplete sound running opened canClose all =>
    exact ⟨by simp, by simp, fun _ => rfl, by simp, by simp, rfl,
      ⟨rfl, rfl, rfl, rfl⟩⟩
  | advance sound running opened canClose some =>
    exact ⟨by simp, by simp, by simp, by simp, by simp, rfl,
      ⟨rfl, rfl, rfl, rfl⟩⟩
  | wait sound running opened =>
    exact ⟨by simp, by simp, by simp, fun _ => running, fun _ => opened, rfl,
      .refl _⟩

theorem PlainTracked.turn (tracked : PlainTracked log shared mode)
    (frozen : shared.activeQuorum.frozen) {now : Nat} {submit : Nat → SendOutcome}
    {after : SenderShared} {next : PlainSender} {frames : List SessionFrame} {turned : Turn}
    (step : PlainSender.TurnStep shared mode now after next frames turned) :
    PlainTracked (log.observe ⟨.turn now submit, frames⟩) after next := by
  have quiet (none : RoundLog.opening ⟨.turn now submit, frames⟩ = none) :
      PlainTracked (log.observe ⟨.turn now submit, frames⟩) shared mode := by
    rw [RoundLog.observe_quiet none]
    exact tracked.extend _
  cases step with
  | failed failed => exact quiet rfl
  | ended sound ended => exact quiet rfl
  | source sound running source sent =>
    obtain ⟨none, _, _, quorum, session⟩ := @opening_of_block _ now submit _ _ _ sent
    have before := (quiet none).same quorum session
    exact ⟨before.rounds.view rfl rfl rfl, before.geometry, before.required,
      before.matched, before.emitted, before.emittedClosed, before.queuedInside,
      before.queuedClosed, before.ends⟩
  | @retransmit blockId _ _ sound running queued sent =>
    obtain ⟨none, _, _, quorum, session⟩ := @opening_of_block _ now submit _ _ _ sent
    have before := (quiet none).same quorum session
    have openNow : mode.feedbackRoundOpen := by
      by_contra closed
      rw [tracked.queuedClosed (Bool.eq_false_iff.mpr closed)] at queued
      cases queued
    refine ⟨before.rounds.view rfl rfl rfl, before.geometry, before.required,
      before.matched, ?_, ?_, ?_, ?_, before.ends⟩
    · intro other member
      rcases Finset.mem_insert.mp member with rfl | earlier
      · rcases PlainSender.send_block_some sent with ⟨_, _, outside⟩ | sentBlock
        · rw [shared.plan.block_span_some _ (tracked.queuedInside _ queued)] at outside
          cases outside
        · obtain ⟨span, bytes, _, _, frame, _⟩ := sentBlock
          rw [RoundLog.observe_quiet none, RoundLog.frames_extend, frame]
          exact ⟨_, List.mem_append_right _ (List.mem_singleton_self _)⟩
      · exact before.emitted other earlier
    · simp [openNow]
    · intro other member
      exact before.queuedInside other (Finset.mem_of_mem_erase member)
    · simp [openNow]
  | openEmpty sound running closed empty =>
    have opens : RoundLog.opening ⟨.turn now submit,
        [.control (.sourceDone mode.feedbackOpenRoundId)]⟩ =
          some (SenderLoop.openRoundId mode) := rfl
    refine ⟨tracked.rounds.open_round closed frozen opens rfl rfl rfl, tracked.geometry,
      tracked.required, tracked.matched, ?_, by simp, tracked.queuedInside, by simp, ?_⟩
    · simp [tracked.emittedClosed closed]
    · intro _
      rw [RoundLog.observe_opening opens]
      exact ⟨_, List.getLast?_concat, .inl empty⟩
  | openRound sound running closed members =>
    have opens : RoundLog.opening ⟨.turn now submit,
        [.control (.sourceDone mode.feedbackOpenRoundId)]⟩ =
          some (SenderLoop.openRoundId mode) := rfl
    have openNow : PlainTracked (log.observe ⟨.turn now submit,
        [.control (.sourceDone mode.feedbackOpenRoundId)]⟩) shared
          { mode with feedbackRoundOpen := true } := by
      refine ⟨tracked.rounds.open_round closed frozen opens rfl rfl rfl, tracked.geometry,
        tracked.required, tracked.matched, ?_, by simp, tracked.queuedInside, by simp, ?_⟩
      · simp [tracked.emittedClosed closed]
      · simp [running]
    exact openNow.same rfl ⟨rfl, rfl, rfl, rfl⟩
  | allComplete sound running opened canClose all =>
    have before : PlainTracked _ shared.clearQuorumFeedbackWait mode :=
      (quiet rfl).same rfl ⟨rfl, rfl, rfl, rfl⟩
    simp only [PlainSender.roundCanClose, decide_eq_true_eq] at canClose
    refine ⟨before.rounds.view rfl rfl rfl, before.geometry, before.required,
      before.matched, before.emitted, before.emittedClosed, before.queuedInside,
      before.queuedClosed, fun _ => ?_⟩
    have done : ∀ report ∈ recorded mode.roundReports, report = .complete := by
      simpa [PlainSender.allComplete] using all
    exact before.rounds.ends_complete opened canClose.1 done
  | advance sound running opened canClose some =>
    have before : PlainTracked _ shared.clearQuorumFeedbackWait mode :=
      (quiet rfl).same rfl ⟨rfl, rfl, rfl, rfl⟩
    simp only [PlainSender.roundCanClose, decide_eq_true_eq] at canClose
    have incomplete : ∃ report ∈ recorded mode.roundReports, report ≠ .complete := by
      simpa [PlainSender.allComplete] using some
    have settled := before.rounds.settled canClose.1 (before.covers sound canClose.2 _) incomplete
    refine ⟨before.rounds.close_round opened settled rfl rfl rfl, before.geometry, ?_, ?_, ?_, ?_,
      ?_, ?_, ?_⟩
    all_goals simp [PlainSender.advanceRound, running]
  | wait sound running opened => exact quiet rfl

theorem PlainTracked.ready (tracked : PlainTracked log shared mode)
    (unfrozen : shared.activeQuorum.frozen = false) (peerId : Nat) :
    PlainTracked log { shared with activeQuorum := shared.activeQuorum.recordReady peerId } mode where
  rounds := tracked.rounds.ready unfrozen peerId
  geometry := tracked.geometry.same ⟨rfl, rfl, rfl, rfl⟩
  required := tracked.required
  matched := tracked.matched
  emitted := tracked.emitted
  emittedClosed := tracked.emittedClosed
  queuedInside := tracked.queuedInside
  queuedClosed := tracked.queuedClosed
  ends complete := by
    obtain ⟨_, last, _⟩ := tracked.ends complete
    rw [tracked.rounds.unfrozen unfrozen] at last
    cases last

theorem PlainTracked.freeze (tracked : PlainTracked log shared mode) :
    PlainTracked log shared.freezeActiveQuorum mode := by
  have session := freeze_session shared
  refine ⟨tracked.rounds.freeze, tracked.geometry.same session, tracked.required, tracked.matched,
    tracked.emitted, tracked.emittedClosed, ?_, tracked.queuedClosed, ?_⟩
  · rw [session.plan]
    exact tracked.queuedInside
  · rw [freeze_active]
    exact tracked.ends

theorem PlainTracked.start (tracked : PlainTracked log shared mode) :
    PlainTracked log shared (mode.ensureInitialRound shared) := by
  unfold PlainSender.ensureInitialRound
  split_ifs
  · exact tracked
  · exact ⟨tracked.rounds.view rfl rfl rfl, tracked.geometry, tracked.required,
      tracked.matched, tracked.emitted, tracked.emittedClosed, tracked.queuedInside,
      tracked.queuedClosed, tracked.ends⟩

theorem plain_tracking (crate : FountainCrate) :
    ModeTracking crate PlainSender PlainTracked where
  rounds := PlainTracked.rounds
  ends := PlainTracked.ends
  extend := PlainTracked.extend
  same tracked quorum session := tracked.same quorum session
  ready := PlainTracked.ready
  freeze := PlainTracked.freeze
  start := PlainTracked.start
  need tracked decoded sender member valid :=
    ⟨tracked.need decoded sender member valid, rfl, .refl _⟩
  turn tracked frozen result :=
    ⟨tracked.turn frozen (PlainSender.turn_cases result),
      plain_turn_effect (PlainSender.turn_cases result)⟩

theorem plain_sender_tracked {task : SenderTask PlainSender} (initial : plainSenders task) :
    TaskTracked PlainTracked ⟨[], []⟩ task := by
  obtain ⟨config, treeVisible, request, cfg, built, started⟩ := initial
  obtain ⟨plan, planned, rfl⟩ := plain_sender_new started
  have geometry : Geometry (senderShared cfg plan) :=
    ⟨sender_config_manifest_valid built, planned⟩
  refine ⟨⟨⟨fun _ => rfl, ?_, ?_, ?_, ?_⟩, geometry, ?_, ?_, ?_, fun _ => rfl, ?_, fun _ => rfl, ?_⟩,
    ?_, ?_, ?_, ?_, fun _ => rfl⟩
  all_goals simp [PlainSender.default, RoundView.roundOpen, RoundView.reports,
    SenderLoop.openRoundId, roundNumber, SenderStage.started]

end Plain

end Nextmini.Session
