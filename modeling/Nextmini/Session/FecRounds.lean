import Nextmini.Session.FecSteps
import Nextmini.Session.ReceiverInvariant
import Nextmini.Session.RoundRuns

/-!
# Rounds of the FEC sender

What an FEC sender has recorded of the open round was heard and is absorbed by its blocks, and what
it counts as emitted was sent. A sender that has seen its round complete has heard all of the
quorum and owes nothing.
-/

namespace Nextmini.Session

open Nextmini.Library
open Nextmini.Messages

set_option autoImplicit false

structure BlockTracked (log : RoundLog) (sourceSymbols : Nat) (phase : RoundPhase)
    (reports : ReportMap) (blockId : Nat) (block : FecSendBlock) : Prop where
  emitted : block.emittedExtraSymbols ≤
    log.frames.countP (RoundLog.isExtraSymbol sourceSymbols blockId)
  fountain : sourceSymbols ≤ block.nextFountainSymbol
  idle : phase = .sendingData → block.emittedExtraSymbols = 0
  asked : 0 < block.requiredExtraSymbols → ∃ report ∈ recorded reports, report ≠ .complete

structure FecTracked (log : RoundLog) (shared : SenderShared) (mode : FecSender) : Prop where
  rounds : RoundsTracked log shared mode
  geometry : Geometry shared
  symbols : sourceSymbolCount shared.manifest = mode.symbolsPerBlock.toNat
  size : mode.blocks.length = shared.plan.totalBlocks
  flag : mode.roundSourceDoneSent ↔ mode.phase = .waitingForReports
  blocks : ∀ (blockId : Nat) (block : FecSendBlock), mode.blocks[blockId]? = some block →
    BlockTracked log mode.symbolsPerBlock.toNat mode.phase mode.roundReports blockId block
  absorbed : ∀ report ∈ recorded mode.roundReports, FecSender.Absorbed mode.blocks report
  matched : mode.protocolError = false → ∀ ranges, .plain ranges ∉ recorded mode.roundReports
  complete : mode.roundComplete → mode.phase = .waitingForReports ∧
    mode.roundReports.size = shared.activeQuorum.active.card ∧
    ∀ report ∈ recorded mode.roundReports, report = .complete

theorem need_blocks_inside {shared : SenderShared} (geometry : Geometry shared)
    {roundId : UInt32} {needs : List NeedBlock}
    (valid : shared.manifest.validateControl (.need roundId (.fec needs)) = .ok ()) :
    ∀ need ∈ needs, need.blockId.toNat < shared.plan.totalBlocks := by
  obtain ⟨_, _, checked⟩ := bind_ok_iff.mp valid
  obtain ⟨_, _, checked⟩ := bind_ok_iff.mp checked
  obtain ⟨_, _, checked⟩ := bind_ok_iff.mp checked
  simp only at checked
  split_ifs at checked
  obtain ⟨_, _, ids⟩ := bind_ok_iff.mp checked
  rw [validate_need_block_ids_ok_iff] at ids
  intro need member
  rw [(plan_total_blocks geometry.valid geometry.planned).1]
  exact UInt64.lt_iff_toNat_lt.mp (ids need member)

section Fec

variable {log : RoundLog} {shared : SenderShared} {mode : FecSender}

theorem BlockTracked.extend {sourceSymbols blockId : Nat} {phase : RoundPhase}
    {reports : ReportMap} {block : FecSendBlock}
    (tracked : BlockTracked log sourceSymbols phase reports blockId block) (label : SenderLabel) :
    BlockTracked (log.extend label) sourceSymbols phase reports blockId block where
  emitted := by
    rw [RoundLog.frames_extend, List.countP_append]
    exact le_trans tracked.emitted (Nat.le_add_right _ _)
  fountain := tracked.fountain
  idle := tracked.idle
  asked := tracked.asked

theorem FecTracked.extend (tracked : FecTracked log shared mode) (label : SenderLabel) :
    FecTracked (log.extend label) shared mode where
  rounds := tracked.rounds.extend label
  geometry := tracked.geometry
  symbols := tracked.symbols
  size := tracked.size
  flag := tracked.flag
  blocks blockId block present := (tracked.blocks blockId block present).extend label
  absorbed := tracked.absorbed
  matched := tracked.matched
  complete := tracked.complete

theorem FecTracked.same (tracked : FecTracked log shared mode) {after : SenderShared}
    (quorum : after.activeQuorum = shared.activeQuorum) (session : SameSession shared after) :
    FecTracked log after mode :=
  ⟨tracked.rounds.same quorum session, tracked.geometry.same session,
    session.manifest ▸ tracked.symbols, session.plan ▸ tracked.size, tracked.flag, tracked.blocks,
    tracked.absorbed, tracked.matched, quorum ▸ tracked.complete⟩

theorem FecTracked.round_open (tracked : FecTracked log shared mode) {report : NeedReport}
    (present : report ∈ recorded mode.roundReports) : mode.phase = .waitingForReports := by
  by_contra closed
  have empty := (tracked.rounds.closedRound (decide_eq_false closed)).2.1
  obtain ⟨peerId, known⟩ := (mem_recorded _ _).mp present
  have none : mode.roundReports[peerId]? = none := by
    rw [show mode.roundReports = ∅ from empty]
    simp
  rw [none] at known
  cases known

theorem FecTracked.sending_of_unsent (tracked : FecTracked log shared mode)
    (unsent : mode.roundSourceDoneSent = false) : mode.phase = .sendingData := by
  cases phase : mode.phase with
  | sendingData => rfl
  | waitingForReports =>
    rw [tracked.flag.mpr phase] at unsent
    cases unsent

theorem FecTracked.owing (tracked : FecTracked log shared mode) {blockId : Nat}
    {block : FecSendBlock} (present : mode.blocks[blockId]? = some block)
    (owed : 0 < block.requiredExtraSymbols) :
    mode.phase = .waitingForReports ∧ mode.roundComplete = false := by
  obtain ⟨report, member, incomplete⟩ := (tracked.blocks blockId block present).asked owed
  refine ⟨tracked.round_open member, Bool.eq_false_iff.mpr ?_⟩
  intro complete
  exact incomplete ((tracked.complete complete).2.2 report member)

theorem FecTracked.ends (tracked : FecTracked log shared mode) (complete : mode.roundComplete) :
    EndsWell log shared.activeQuorum.active := by
  obtain ⟨waiting, count, all⟩ := tracked.complete complete
  exact tracked.rounds.ends_complete (decide_eq_true waiting) count all

/-- A sender that has seen its round complete has a report of every quorum peer. -/
theorem FecTracked.reported (tracked : FecTracked log shared mode) (complete : mode.roundComplete)
    {peerId : Nat} (member : peerId ∈ shared.activeQuorum.active) :
    mode.roundReports[peerId]? ≠ none := by
  obtain ⟨_, count, _⟩ := tracked.complete complete
  obtain ⟨report, present, _⟩ := tracked.rounds.all_heard count peerId member
  rw [show mode.roundReports[peerId]? = some report from present]
  simp

theorem FecTracked.fail (tracked : FecTracked log shared mode) :
    FecTracked log shared { mode with protocolError := true } :=
  ⟨tracked.rounds.view rfl rfl rfl, tracked.geometry, tracked.symbols,
    tracked.size, tracked.flag,
    tracked.blocks, tracked.absorbed, by simp, tracked.complete⟩

/-! ## Closing a round -/

theorem FecTracked.covers (tracked : FecTracked log shared mode)
    (noPlain : ∀ ranges, .plain ranges ∉ recorded mode.roundReports)
    (paid : mode.hasPendingRepairWork = false) :
    ∀ report ∈ recorded mode.roundReports,
      log.Covers (sourceSymbolCount shared.manifest) report := by
  intro report member
  cases report with
  | complete => exact trivial
  | plain ranges => exact absurd member (noPlain ranges)
  | fec needs =>
    intro need asked
    obtain ⟨block, present, enough⟩ := tracked.absorbed _ member need asked
    have covered : ¬block.emittedExtraSymbols < block.requiredExtraSymbols := by
      have all := List.any_eq_false.mp paid block (List.mem_of_getElem? present)
      simpa using all
    have sent := (tracked.blocks _ block present).emitted
    rw [tracked.symbols]
    omega

theorem FecTracked.finish (tracked : FecTracked log shared mode)
    (waiting : mode.phase = .waitingForReports)
    (count : mode.roundReports.size = shared.activeQuorum.active.card) :
    FecTracked log (mode.finishReportRound shared).1 (mode.finishReportRound shared).2 ∧
      (mode.finishReportRound shared).1.activeQuorum = shared.activeQuorum ∧
      SameSession shared (mode.finishReportRound shared).1 := by
  have step := FecSender.finish_cases shared tracked.absorbed
  generalize (mode.finishReportRound shared).1 = after at step ⊢
  generalize (mode.finishReportRound shared).2 = next at step ⊢
  cases step with
  | mismatch member => exact ⟨tracked.fail, rfl, .refl _⟩
  | complete all =>
    refine ⟨⟨tracked.rounds.view rfl rfl rfl, tracked.geometry, tracked.symbols,
      tracked.size, tracked.flag, tracked.blocks, tracked.absorbed, tracked.matched,
      fun _ => ⟨waiting, count, all⟩⟩, rfl, .refl _⟩
  | pending incomplete owed => exact ⟨tracked, rfl, .refl _⟩
  | advance incomplete noPlain paid =>
    have cleared : FecTracked log shared.clearQuorumFeedbackWait mode :=
      tracked.same rfl ⟨rfl, rfl, rfl, rfl⟩
    have settled := cleared.rounds.settled count (cleared.covers noPlain paid) incomplete
    refine ⟨⟨cleared.rounds.close_round (decide_eq_true waiting) settled rfl rfl rfl,
      cleared.geometry, cleared.symbols, ?_, by simp, ?_, ?_, ?_, ?_⟩, rfl, ⟨rfl, rfl, rfl, rfl⟩⟩
    · rw [List.length_map]
      exact cleared.size
    · intro blockId block present
      obtain ⟨earlier, known, rfl⟩ := List.mem_map.mp (List.mem_of_getElem? present)
      obtain ⟨index, found⟩ := List.getElem?_of_mem known
      have before := tracked.blocks index earlier found
      exact ⟨Nat.zero_le _, before.fountain, fun _ => rfl, by simp [FecSender.resetRepair]⟩
    · simp [recorded]
    · simp [recorded]
    · intro complete
      obtain ⟨report, member, other⟩ := incomplete
      exact absurd ((tracked.complete complete).2.2 report member) other

/-! ## One report -/

theorem FecTracked.record (tracked : FecTracked log shared mode) {label : SenderLabel}
    {peerId : Nat} {report : NeedReport} {blocks : List FecSendBlock} {window : Nat}
    (waiting : mode.phase = .waitingForReports) (absent : mode.roundReports[peerId]? = none)
    (member : peerId ∈ shared.activeQuorum.active)
    (heard : (log.extend label).Heard mode.currentRoundId peerId report)
    (inside : ∀ needs, report = .fec needs →
      ∀ need ∈ needs, need.blockId.toNat < shared.plan.totalBlocks)
    (merged : FecSender.MergedInto mode.blocks report blocks) :
    FecTracked (log.extend label) shared (mode.heard peerId report blocks window) := by
  have extended := tracked.extend label
  have widens : FecSender.Widens mode.blocks blocks := by
    cases merged with
    | complete => exact .refl _
    | deficits needs => exact FecSender.merge_deficits_widens mode.blocks needs
  have added := mem_recorded_insert absent report
  refine ⟨tracked.rounds.record (decide_eq_true waiting) member heard rfl rfl rfl,
    tracked.geometry, tracked.symbols, widens.1.symm.trans tracked.size, tracked.flag, ?_, ?_, ?_, ?_⟩
  · intro blockId block present
    have bound : blockId < mode.blocks.length := by
      rw [widens.1]
      exact (List.getElem?_eq_some_iff.mp present).1
    obtain ⟨required, _, widened⟩ :=
      widens.2 blockId _ (List.getElem?_eq_getElem bound)
    rw [show blocks[blockId]? = some block from present] at widened
    have before := extended.blocks blockId _ (List.getElem?_eq_getElem bound)
    cases widened
    refine ⟨before.emitted, before.fountain, before.idle, ?_⟩
    intro owed
    cases merged with
    | complete =>
      have same : mode.blocks[blockId] =
          { mode.blocks[blockId] with requiredExtraSymbols := required } := by
        have known : mode.blocks[blockId]? = some _ := present
        rw [List.getElem?_eq_getElem bound] at known
        exact Option.some.inj known
      rw [same] at before
      obtain ⟨other, known, incomplete⟩ := before.asked owed
      exact ⟨other, (added other).mpr (.inr known), incomplete⟩
    | deficits needs => exact ⟨.fec needs, (added _).mpr (.inl rfl), by simp⟩
  · intro other known
    rcases (added other).mp known with rfl | earlier
    · cases merged with
      | complete => exact trivial
      | deficits needs =>
        refine FecSender.merge_deficits_absorbs needs ?_
        rw [tracked.size]
        exact inside needs rfl
    · exact (tracked.absorbed other earlier).widen widens
  · intro sound ranges known
    rcases (added _).mp known with same | earlier
    · subst same
      cases merged
    · exact tracked.matched sound ranges earlier
  · intro complete
    exact absurd absent (tracked.reported complete member)

theorem FecTracked.need (tracked : FecTracked log shared mode) {frame : InboundFrame}
    {header : LosslessSessionHeader} {peerId : Nat} {roundId : UInt32} {report : NeedReport}
    (decoded : decodeControl frame.bytes = some (header, .need roundId report))
    (sender : frame.peerId = some peerId) (member : peerId ∈ shared.activeQuorum.active)
    (valid : shared.manifest.validateControl (.need roundId report) = .ok ()) :
    FecTracked (log.extend ⟨.control frame, []⟩)
        (FecSender.onNeed shared mode peerId roundId report).1
        (FecSender.onNeed shared mode peerId roundId report).2 ∧
      (FecSender.onNeed shared mode peerId roundId report).1.activeQuorum = shared.activeQuorum ∧
      SameSession shared (FecSender.onNeed shared mode peerId roundId report).1 := by
  have extended := tracked.extend ⟨.control frame, []⟩
  have heard : (log.extend ⟨.control frame, []⟩).Heard roundId peerId report :=
    RoundLog.heard_now decoded sender []
  have inside (needs : List NeedBlock) (kind : report = .fec needs) :
      ∀ need ∈ needs, need.blockId.toNat < shared.plan.totalBlocks := by
    subst kind
    exact need_blocks_inside tracked.geometry valid
  have step := FecSender.on_need_cases shared mode peerId roundId report
  generalize (FecSender.onNeed shared mode peerId roundId report).1 = after at step ⊢
  generalize (FecSender.onNeed shared mode peerId roundId report).2 = next at step ⊢
  cases step with
  | ignore reason => exact ⟨extended, rfl, .refl _⟩
  | changed waiting current present different => exact ⟨extended.fail, rfl, .refl _⟩
  | @mismatch ranges waiting current absent kind =>
    subst kind current
    have added := mem_recorded_insert absent (.plain ranges)
    refine ⟨⟨tracked.rounds.record (decide_eq_true waiting) member heard rfl rfl rfl,
      extended.geometry, extended.symbols, extended.size, extended.flag, ?_, ?_, by simp, ?_⟩, rfl,
      .refl _⟩
    · intro blockId block present
      have before := extended.blocks blockId block present
      refine ⟨before.emitted, before.fountain, before.idle, fun owed => ?_⟩
      obtain ⟨other, known, incomplete⟩ := before.asked owed
      exact ⟨other, (added other).mpr (.inr known), incomplete⟩
    · intro other known
      rcases (added other).mp known with rfl | earlier
      · exact trivial
      · exact extended.absorbed other earlier
    · intro complete
      exact absurd absent (tracked.reported complete member)
  | record waiting current absent merged =>
    subst current
    exact ⟨tracked.record waiting absent member heard inside merged, rfl, .refl _⟩
  | recordLast waiting current absent merged count =>
    subst current
    exact (tracked.record waiting absent member heard inside merged).finish waiting count

/-! ## One turn -/

/-- A block without the fields that the rounds do not depend on. -/
def FecSendBlock.bare (block : FecSendBlock) : FecSendBlock :=
  { block with nextSourceSymbol := 0, encoder := none }

theorem get_of_map_bare {before after : List FecSendBlock}
    (same : after.map FecSendBlock.bare = before.map FecSendBlock.bare) {blockId : Nat}
    {block : FecSendBlock} (present : after[blockId]? = some block) :
    ∃ earlier, before[blockId]? = some earlier ∧ earlier.bare = block.bare := by
  have known := congrArg (·[blockId]?) same
  simp only [List.getElem?_map, present, Option.map_some] at known
  obtain ⟨earlier, found, equal⟩ := Option.map_eq_some_iff.mp known.symm
  exact ⟨earlier, found, equal⟩

/-- The rounds do not depend on caches, cursors and encoders. -/
theorem FecTracked.rebuild (tracked : FecTracked log shared mode) {blocks : List FecSendBlock}
    (same : blocks.map FecSendBlock.bare = mode.blocks.map FecSendBlock.bare)
    (cache : Option (Nat × List (List Library.BigEndian.Byte))) (cursor : Nat) :
    FecTracked log shared
      { mode with blocks := blocks, currentSourceCache := cache, nextTreeRr := cursor } := by
  have length := congrArg List.length same
  rw [List.length_map, List.length_map] at length
  refine ⟨tracked.rounds.view rfl rfl rfl, tracked.geometry, tracked.symbols,
    length.trans tracked.size, tracked.flag, ?_, ?_, tracked.matched, tracked.complete⟩
  · intro blockId block present
    obtain ⟨earlier, found, equal⟩ := get_of_map_bare same present
    have before := tracked.blocks blockId earlier found
    simp only [FecSendBlock.bare, FecSendBlock.mk.injEq] at equal
    obtain ⟨_, fountain, required, emitted, _⟩ := equal
    refine ⟨?_, ?_, ?_, ?_⟩
    · exact emitted ▸ before.emitted
    · exact fountain ▸ before.fountain
    · exact emitted ▸ before.idle
    · exact required ▸ before.asked
  · intro report member
    apply (tracked.absorbed report member).mono
    intro blockId earlier found
    obtain ⟨block, present, equal⟩ := get_of_map_bare same.symm found
    simp only [FecSendBlock.bare, FecSendBlock.mk.injEq] at equal
    exact ⟨block, present, Nat.le_of_eq equal.2.2.1.symm⟩

theorem encoder_step_blocks {blockId : Nat} {next : FecSender} {encoder : Encoder}
    (step : FecSender.EncoderStep shared mode blockId next encoder) :
    ∃ blocks, next = { mode with blocks := blocks } ∧
      blocks.map FecSendBlock.bare = mode.blocks.map FecSendBlock.bare := by
  cases step with
  | cached present found => exact ⟨mode.blocks, rfl, rfl⟩
  | built inside fresh => exact ⟨_, rfl, FecSender.map_modify _ _ _ fun _ => rfl⟩

theorem FecTracked.emit (tracked : FecTracked log shared mode) {blockId symbolId : Nat}
    {block : FecSendBlock} (present : mode.blocks[blockId]? = some block)
    (symbol : symbolId = block.nextFountainSymbol)
    (owed : block.emittedExtraSymbols < block.requiredExtraSymbols) {label : SenderLabel}
    {treeId : UInt16} {payload : List Library.BigEndian.Byte}
    (sent : label.frames = [.blockSymbol blockId symbolId treeId payload]) :
    FecTracked (log.extend label) shared
      { mode with
        blocks := mode.blocks.modify blockId fun block =>
          { block with
            emittedExtraSymbols := min (block.emittedExtraSymbols + 1) (2 ^ 16 - 1)
            nextFountainSymbol := block.nextFountainSymbol + 1 } } := by
  have extended := tracked.extend label
  have opened := (tracked.owing present (Nat.zero_lt_of_lt owed)).1
  refine ⟨extended.rounds.view rfl rfl rfl, extended.geometry, extended.symbols,
    ?_, extended.flag, ?_, ?_, extended.matched, extended.complete⟩
  · rw [List.length_modify]
    exact extended.size
  · intro index after known
    rw [List.getElem?_modify] at known
    obtain ⟨earlier, found, equal⟩ := Option.map_eq_some_iff.mp known
    have before := extended.blocks index earlier found
    split_ifs at equal with here
    · subst here equal
      rw [present] at found
      cases found
      have old := tracked.blocks blockId block present
      refine ⟨?_, Nat.le_succ_of_le old.fountain, ?_, old.asked⟩
      · have counted : RoundLog.isExtraSymbol mode.symbolsPerBlock.toNat blockId
            (.blockSymbol blockId symbolId treeId payload) = true := by
          simp only [RoundLog.isExtraSymbol, true_and, decide_eq_true_eq]
          rw [symbol]
          exact old.fountain
        rw [RoundLog.frames_extend, List.countP_append, sent, List.countP_singleton, counted]
        have earlier := old.emitted
        simp only [if_true]
        omega
      · intro closed
        rw [show mode.phase = .sendingData from closed] at opened
        cases opened
    · subst equal
      exact before
  · intro report member
    apply (tracked.absorbed report member).mono
    intro index earlier found
    simp only [List.getElem?_modify, found]
    split_ifs
    · exact ⟨_, rfl, Nat.le_refl _⟩
    · exact ⟨_, rfl, Nat.le_refl _⟩

theorem FecTracked.open_round (tracked : FecTracked log shared mode)
    (frozen : shared.activeQuorum.frozen) (sending : mode.phase = .sendingData) {now : Nat}
    {submit : Nat → SendOutcome} :
    FecTracked (log.observe ⟨.turn now submit, [.control (.sourceDone mode.currentRoundId)]⟩) shared
      { mode with
        roundReports := ∅
        phase := .waitingForReports
        roundSourceDoneSent := true } := by
  have closed : RoundView.roundOpen mode = false := by
    simp [RoundView.roundOpen, sending]
  have empty : mode.roundReports = ∅ := (tracked.rounds.closedRound closed).2.1
  have opens : RoundLog.opening ⟨.turn now submit,
      [.control (.sourceDone mode.currentRoundId)]⟩ = some (SenderLoop.openRoundId mode) := rfl
  refine ⟨tracked.rounds.open_round closed frozen opens rfl rfl empty.symm, tracked.geometry,
    tracked.symbols, tracked.size, by simp, ?_, by simp [recorded], by simp [recorded], ?_⟩
  · intro blockId block present
    have before := tracked.blocks blockId block present
    refine ⟨?_, before.fountain, by simp, ?_⟩
    · rw [before.idle sending]
      exact Nat.zero_le _
    · rw [← empty]
      exact before.asked
  · intro complete
    have waiting := (tracked.complete complete).1
    rw [sending] at waiting
    cases waiting

theorem FecTracked.turn {crate : FountainCrate} (tracked : FecTracked log shared mode)
    (frozen : shared.activeQuorum.frozen) {now : Nat} {submit : Nat → SendOutcome}
    {after : SenderShared} {next : FecSender} {frames : List SessionFrame} {turned : Turn}
    (step : FecSender.TurnStep crate shared mode now after next frames turned) :
    FecTracked (log.observe ⟨.turn now submit, frames⟩) after next := by
  cases step with
  | failed failed => exact tracked.extend _
  | @sourceBlocked blockId symbolId sound source =>
    obtain ⟨cache, cached⟩ :=
      FecSender.source_symbol_payload_mode shared mode blockId symbolId
    rw [cached]
    exact (tracked.extend _).rebuild rfl cache mode.nextTreeRr
  | @source blockId symbolId cursor treeId payload sound source tree sent =>
    obtain ⟨cache, cached⟩ :=
      FecSender.source_symbol_payload_mode shared mode blockId symbolId
    have sending := (FecSender.next_source_symbol_some source).1
    have unsent : mode.roundSourceDoneSent = false := by
      rw [Bool.eq_false_iff]
      intro flagged
      rw [tracked.flag.mp flagged] at sending
      cases sending
    have rebuilt := (tracked.extend ⟨.turn now submit,
      [.blockSymbol blockId symbolId treeId payload]⟩).rebuild
        (@FecSender.map_modify _ mode.blocks blockId FecSendBlock.bare
          (fun block => { block with nextSourceSymbol := block.nextSourceSymbol + 1 })
          fun _ => rfl) cache cursor
    rw [cached, ← unsent]
    exact rebuilt.same rfl ⟨rfl, rfl, rfl, rfl⟩
  | extraStuck sound extra => exact tracked.extend _
  | extraBlocked sound extra encoded =>
    obtain ⟨blocks, rfl, same⟩ := encoder_step_blocks encoded
    exact (tracked.extend _).rebuild same mode.currentSourceCache mode.nextTreeRr
  | @extra blockId symbolId cursor treeId payload _ _ sound extra encoded tree coded =>
    obtain ⟨blocks, rfl, same⟩ := encoder_step_blocks encoded
    obtain ⟨block, present, symbol, owed⟩ := FecSender.next_extra_symbol_some extra
    obtain ⟨later, found, equal⟩ := get_of_map_bare same.symm present
    simp only [FecSendBlock.bare, FecSendBlock.mk.injEq] at equal
    obtain ⟨_, fountain, required, emitted, _⟩ := equal
    have rebuilt := tracked.rebuild same mode.currentSourceCache cursor
    have sent : (⟨.turn now submit, [.blockSymbol blockId symbolId treeId payload]⟩ :
        SenderLabel).frames = [.blockSymbol blockId symbolId treeId payload] := rfl
    exact (rebuilt.emit found (by rw [symbol, fountain]) (by rw [emitted, required]; exact owed)
      sent).same rfl ⟨rfl, rfl, rfl, rfl⟩
  | openEmpty sound sending empty =>
    have opened := @FecTracked.open_round _ _ _ tracked frozen sending now submit
    exact ⟨opened.rounds.view rfl rfl rfl, opened.geometry, opened.symbols,
      opened.size, opened.flag,
      opened.blocks, opened.absorbed, opened.matched, fun _ => ⟨rfl, by simp [empty], by simp [recorded]⟩⟩
  | openRound sound sending members =>
    exact (tracked.open_round frozen sending).same rfl ⟨rfl, rfl, rfl, rfl⟩
  | finish sound waiting count => exact ((tracked.extend _).finish waiting count).1
  | wait sound done unclosed => exact tracked.extend _

theorem FecTracked.turn_effect {crate : FountainCrate} (tracked : FecTracked log shared mode)
    {now : Nat} {after : SenderShared} {next : FecSender} {frames : List SessionFrame}
    {turned : Turn} (step : FecSender.TurnStep crate shared mode now after next frames turned) :
    TurnEffect shared mode after next frames turned := by
  have unfinished {blockId : Nat} {symbolId : Nat}
      (extra : mode.nextExtraSymbol = some (blockId, symbolId)) : mode.roundComplete = false := by
    obtain ⟨block, present, _, owed⟩ := FecSender.next_extra_symbol_some extra
    exact (tracked.owing present (Nat.zero_lt_of_lt owed)).2
  cases step with
  | failed failed =>
    exact ⟨by simp, by simp, by simp, by simp, by simp, rfl, .refl _⟩
  | @sourceBlocked blockId symbolId sound source =>
    obtain ⟨cache, cached⟩ := FecSender.source_symbol_payload_mode shared mode blockId symbolId
    have sending := (FecSender.next_source_symbol_some source).1
    rw [cached]
    refine ⟨by simp, by simp, by simp, fun _ => ?_, by simp, rfl, .refl _⟩
    rw [Bool.eq_false_iff]
    intro complete
    rw [(tracked.complete complete).1] at sending
    cases sending
  | source sound source tree sent =>
    exact ⟨by simp, by simp, by simp, by simp, by simp, rfl,
      ⟨rfl, rfl, rfl, rfl⟩⟩
  | extraStuck sound extra =>
    exact ⟨by simp, by simp, by simp, fun _ => unfinished extra, by simp, rfl,
      .refl _⟩
  | extraBlocked sound extra encoded =>
    obtain ⟨blocks, rfl, same⟩ := encoder_step_blocks encoded
    exact ⟨by simp, by simp, by simp, fun _ => unfinished extra, by simp, rfl,
      .refl _⟩
  | extra sound extra encoded tree coded =>
    exact ⟨by simp, by simp, by simp, by simp, by simp, rfl,
      ⟨rfl, rfl, rfl, rfl⟩⟩
  | openEmpty sound sending empty =>
    refine ⟨?_, by simp, fun _ => rfl, by simp, by simp, rfl, .refl _⟩
    intro roundId member
    simp only [List.mem_singleton, SessionFrame.control.injEq,
      LosslessSessionControl.sourceDone.injEq] at member
    exact ⟨by rw [member], by simp [RoundView.roundOpen, sending], member⟩
  | openRound sound sending members =>
    refine ⟨?_, by simp, by simp, by simp, by simp, rfl, ⟨rfl, rfl, rfl, rfl⟩⟩
    intro roundId member
    simp only [List.mem_singleton, SessionFrame.control.injEq,
      LosslessSessionControl.sourceDone.injEq] at member
    exact ⟨by rw [member], by simp [RoundView.roundOpen, sending], member⟩
  | finish sound waiting count =>
    obtain ⟨_, quorum, session⟩ := tracked.finish waiting count
    exact ⟨by simp, by simp, by simp, by simp, by simp, quorum, session⟩
  | wait sound done unclosed =>
    have waiting := tracked.flag.mp done
    refine ⟨by simp, by simp, by simp, fun _ => ?_, fun _ => decide_eq_true waiting, rfl, .refl _⟩
    rw [Bool.eq_false_iff]
    intro complete
    exact unclosed waiting (tracked.complete complete).2.1

theorem FecTracked.ready (tracked : FecTracked log shared mode)
    (unfrozen : shared.activeQuorum.frozen = false) (peerId : Nat) :
    FecTracked log { shared with activeQuorum := shared.activeQuorum.recordReady peerId } mode where
  rounds := tracked.rounds.ready unfrozen peerId
  geometry := tracked.geometry.same ⟨rfl, rfl, rfl, rfl⟩
  symbols := tracked.symbols
  size := tracked.size
  flag := tracked.flag
  blocks := tracked.blocks
  absorbed := tracked.absorbed
  matched := tracked.matched
  complete complete := by
    obtain ⟨_, last, _⟩ := tracked.ends complete
    rw [tracked.rounds.unfrozen unfrozen] at last
    cases last

theorem FecTracked.freeze (tracked : FecTracked log shared mode) :
    FecTracked log shared.freezeActiveQuorum mode := by
  have session := freeze_session shared
  refine ⟨tracked.rounds.freeze, tracked.geometry.same session, ?_, ?_, tracked.flag,
    tracked.blocks, tracked.absorbed, tracked.matched, ?_⟩
  · rw [session.manifest]
    exact tracked.symbols
  · rw [session.plan]
    exact tracked.size
  · rw [freeze_active]
    exact tracked.complete

theorem fec_tracking (crate : FountainCrate) : ModeTracking crate FecSender FecTracked where
  rounds := FecTracked.rounds
  ends := FecTracked.ends
  extend := FecTracked.extend
  same tracked quorum session := tracked.same quorum session
  ready := FecTracked.ready
  freeze := FecTracked.freeze
  start tracked := tracked
  need tracked decoded sender member valid := tracked.need decoded sender member valid
  turn tracked frozen result := by
    have step := FecSender.turn_cases tracked.sending_of_unsent result
    exact ⟨tracked.turn frozen step, tracked.turn_effect step⟩

theorem fec_sender_some {manifest : LosslessSessionManifest} {plan : BlockPlan} {mode : FecSender}
    (created : FecSender.new manifest plan = some mode) :
    ∃ fec geometry, manifest.mode = .fec fec ∧
      plan.symbolGeometry fec.symbolsPerBlock = .ok geometry ∧
      mode =
        { blocks := List.replicate plan.totalBlocks ⟨0, fec.symbolsPerBlock.toNat, 0, 0, none⟩
          symbolsPerBlock := fec.symbolsPerBlock
          treeIds := fec.treeIds
          geometry := geometry
          nextTreeRr := 0
          currentSourceCache := none
          roundSourceDoneSent := false
          currentRoundId := 0
          phase := .sendingData
          roundComplete := false
          roundReports := ∅
          repairWindowSymbols := 0
          protocolError := false } := by
  unfold FecSender.new at created
  split at created
  next => cases created
  next fec offered =>
    split at created
    next => cases created
    next geometry laidOut =>
      cases created
      exact ⟨fec, geometry, offered, laidOut, rfl⟩

theorem fec_sender_tracked {task : SenderTask FecSender} (initial : fecSenders task) :
    TaskTracked FecTracked ⟨[], []⟩ task := by
  obtain ⟨config, treeVisible, request, cfg, built, started⟩ := initial
  obtain ⟨plan, mode, planned, created, rfl⟩ := fec_sender_new started
  obtain ⟨fec, geometry, offered, _, rfl⟩ := fec_sender_some created
  have sound : Geometry (senderShared cfg plan) := ⟨sender_config_manifest_valid built, planned⟩
  have symbols : sourceSymbolCount cfg.manifest = fec.symbolsPerBlock.toNat := by
    rw [sourceSymbolCount, offered]
  refine ⟨⟨⟨fun _ => rfl, ?_, ?_, ?_, ?_⟩, sound, symbols, ?_, by simp, ?_, ?_, ?_, by simp⟩,
    ?_, ?_, ?_, ?_, fun _ => rfl⟩
  · simp [RoundView.reports]
  · simp [RoundView.roundOpen]
  · simp [SenderLoop.openRoundId, RoundView.reports, roundNumber]
  · simp [RoundView.reports]
  · simp [senderShared]
  · intro blockId block present
    obtain rfl := List.eq_of_mem_replicate (List.mem_of_getElem? present)
    exact ⟨Nat.zero_le _, le_rfl, fun _ => rfl, by simp⟩
  · simp [recorded]
  · simp [recorded]
  all_goals simp [SenderStage.started]

end Fec

/-! ## One step of the task -/

namespace FecSender

variable {crate : FountainCrate}

/-- What one step of an FEC sender task can do. -/
inductive FecStep (crate : FountainCrate) (task : SenderTask FecSender) :
    SenderLabel → SenderTask FecSender → Prop
  | idle {label : SenderLabel} {following : SenderTask FecSender} : following.mode = task.mode →
      following.shared.activeQuorum.active = task.shared.activeQuorum.active →
      SameSession task.shared following.shared →
      (∀ frame ∈ label.frames, ∃ message, frame = .control message) →
      (∀ frame, label.event ≠ .control frame) → RoundLog.opening label = none →
      FecStep crate task label following
  | control {frame : InboundFrame} {following : SenderTask FecSender} :
      following.shared = (handleControl task.shared task.mode frame).1 →
      following.mode = (handleControl task.shared task.mode frame).2 →
      FecStep crate task ⟨.control frame, []⟩ following
  | turn {now : Nat} {submit : Nat → SendOutcome} {frames : List SessionFrame} {turned : Turn}
      {following : SenderTask FecSender} :
      task.mode.turn crate task.shared now submit =
        some (following.shared, following.mode, frames, turned) →
      TurnStep crate task.shared task.mode now following.shared following.mode frames turned →
      FecStep crate task ⟨.turn now submit, frames⟩ following

theorem fec_step_cases {task following : SenderTask FecSender} {label : SenderLabel}
    (flag : task.mode.roundSourceDoneSent = false → task.mode.phase = .sendingData)
    (stepped : task.step crate label.event = some (following, label.frames)) :
    FecStep crate task label following := by
  rcases label with ⟨event, frames⟩
  have manifestOnly {frames : List SessionFrame}
      (sent : ∀ frame ∈ frames, frame = .control (.manifest task.shared.manifest)) :
      ∀ frame ∈ frames, ∃ message, frame = .control message := by
    intro frame member
    exact ⟨_, sent frame member⟩
  by_cases heard : ∃ frame, event = .control frame
  · obtain ⟨frame, rfl⟩ := heard
    obtain ⟨handled, control, same⟩ := Option.map_eq_some_iff.mp stepped
    cases same
    exact .control (on_control_state control).1 (on_control_state control).2
  have quiet : ∀ frame, event ≠ .control frame := fun frame same => heard ⟨frame, same⟩
  cases task_step_cases stepped with
  | control handled => exact absurd rfl (quiet _)
  | negotiate sent before after =>
    exact .idle rfl rfl (.refl _) (manifestOnly sent) quiet (manifest_opens_nothing _ sent)
  | start sent stage =>
    have shared : task.startTransfer.shared = task.shared.freezeActiveQuorum := by
      rw [SenderTask.startTransfer, loop_head_shared]
    have mode : task.startTransfer.mode = task.mode := by
      rw [SenderTask.startTransfer, loop_head_mode]
      rfl
    refine .idle mode ?_ ?_ (manifestOnly sent) quiet (manifest_opens_nothing _ sent)
    · rw [shared, freeze_active]
    · rw [shared]
      exact freeze_session task.shared
  | @turn now submit shared mode frames turned stage looped =>
    have turn : task.mode.turn crate task.shared now submit = some (shared, mode, frames, turned) :=
      looped
    refine @FecStep.turn crate task now submit frames turned _ ?_ ?_
    · rw [after_turn_shared, after_turn_mode]
      exact turn
    · rw [after_turn_shared, after_turn_mode]
      exact turn_cases flag turn
  | solicit stage early =>
    refine .idle (by rw [after_feedback_mode]) (by rw [after_feedback_shared]) ?_ ?_ quiet rfl
    · rw [after_feedback_shared]
      exact ⟨rfl, rfl, rfl, rfl⟩
    · intro frame member
      exact ⟨_, List.mem_singleton.mp member⟩
  | resumeFeedback stage =>
    refine .idle (after_feedback_mode task) (by rw [after_feedback_shared]) ?_ (by simp) quiet rfl
    rw [after_feedback_shared]
    exact .refl _
  | resumeSignal stage =>
    refine .idle (loop_head_mode task) (by rw [loop_head_shared]) ?_ (by simp) quiet rfl
    rw [loop_head_shared]
    exact .refl _
  | abort noTurn =>
    exact .idle rfl rfl (.refl _) (by simp) quiet
      (manifest_opens_nothing task.shared.manifest (by simp))

end FecSender

end Nextmini.Session
