import Mathlib.Order.Lattice.Nat
import Nextmini.Session.SymbolIds
import Nextmini.Session.WindowGrowth

/-!
# The repair of a round

Within an open round an FEC sender counts the extra symbols it has queued for each block, and requires
the largest deficit that a quorum peer has reported for it. A round closes when the two are equal for
every block.
-/

namespace Nextmini.Session

open Nextmini.Library
open Nextmini.Messages

set_option autoImplicit false

/-- A peer's valid report for a round, if that is what a step handles. -/
def reportFrom (manifest : LosslessSessionManifest) (roundId : UInt32) (peerId : Nat)
    (label : SenderLabel) : Option NeedReport :=
  match label.event with
  | .control frame =>
      if frame.peerId = some peerId then
        match decodeControl frame.bytes with
        | some (_, .need given report) =>
            if given = roundId then
              match manifest.validateControl (.need given report) with
              | .ok () => some report
              | .error _ => none
            else none
        | _ => none
      else none
  | _ => none

/-- The first valid report of a peer for a round since the round was opened. -/
def RoundLog.firstReport (log : RoundLog) (manifest : LosslessSessionManifest) (roundId : UInt32)
    (peerId : Nat) : Option NeedReport :=
  log.since.findSome? (reportFrom manifest roundId peerId)

def deficitOf (report : Option NeedReport) (blockId : Nat) : Nat :=
  match report with
  | some (.fec needs) => FecSender.reportedDeficit needs blockId
  | _ => 0

/-- The largest deficit that a quorum peer has reported for a block. -/
def largestDeficit (quorum : Finset Nat) (reports : Nat → Option NeedReport) (blockId : Nat) : Nat :=
  quorum.sup fun peerId => deficitOf (reports peerId) blockId

theorem deficit_of_lt (report : Option NeedReport) (blockId : Nat) :
    deficitOf report blockId < 2 ^ 16 := by
  unfold deficitOf
  split
  next needs =>
    unfold FecSender.reportedDeficit
    induction needs.filter fun need => need.blockId.toNat = blockId with
    | nil => decide
    | cons need rest induction =>
      rw [List.map_cons, List.foldr_cons]
      exact max_lt need.deficitSymbols.toNat_lt induction
  next => decide

theorem largest_deficit_lt (quorum : Finset Nat) (reports : Nat → Option NeedReport)
    (blockId : Nat) : largestDeficit quorum reports blockId < 2 ^ 16 :=
  (Finset.sup_lt_iff (by decide)).mpr fun peerId _ => deficit_of_lt (reports peerId) blockId

theorem largest_deficit_congr {quorum : Finset Nat} {reports others : Nat → Option NeedReport}
    (same : ∀ peerId ∈ quorum, reports peerId = others peerId) (blockId : Nat) :
    largestDeficit quorum reports blockId = largestDeficit quorum others blockId := by
  refine Finset.sup_congr rfl ?_
  intro peerId member
  rw [same peerId member]

theorem largest_deficit_zero {quorum : Finset Nat} {reports : Nat → Option NeedReport} {blockId : Nat}
    (none : ∀ peerId ∈ quorum, deficitOf (reports peerId) blockId = 0) :
    largestDeficit quorum reports blockId = 0 :=
  Nat.le_zero.mp (Finset.sup_le fun peerId member => (none peerId member).le)

/-- A first report raises the largest deficits to its own. -/
theorem largest_deficit_insert {quorum : Finset Nat} {reports : ReportMap} {peerId : Nat}
    (member : peerId ∈ quorum) (unheard : reports[peerId]? = none) (report : NeedReport)
    (blockId : Nat) :
    largestDeficit quorum (fun sender => (reports.insert peerId report)[sender]?) blockId =
      max (largestDeficit quorum (fun sender => reports[sender]?) blockId)
        (deficitOf (some report) blockId) := by
  have others : ∀ sender ∈ quorum.erase peerId,
      (reports.insert peerId report)[sender]? = reports[sender]? := by
    intro sender other
    rw [Std.ExtTreeMap.getElem?_insert, if_neg]
    exact fun same => Finset.ne_of_mem_erase other (Nat.compare_eq_eq.mp same).symm
  have rest := largest_deficit_congr others blockId
  unfold largestDeficit at rest ⊢
  rw [← Finset.insert_erase member, Finset.sup_insert, Finset.sup_insert, rest]
  simp only [Std.ExtTreeMap.getElem?_insert_self, unheard]
  have nothing : deficitOf none blockId = 0 := rfl
  rw [nothing]
  exact (max_comm _ _).trans (by simp)

theorem report_from_control {manifest : LosslessSessionManifest} {roundId : UInt32} {peerId : Nat}
    {frame : InboundFrame} {report : NeedReport} :
    reportFrom manifest roundId peerId ⟨.control frame, []⟩ = some report ↔
      frame.peerId = some peerId ∧
      (∃ header, decodeControl frame.bytes = some (header, .need roundId report)) ∧
      manifest.validateControl (.need roundId report) = .ok () := by
  simp only [reportFrom]
  constructor
  · intro given
    split_ifs at given with sender
    split at given
    next header round other decoded =>
      split_ifs at given with same
      subst same
      split at given
      next valid =>
        cases given
        exact ⟨sender, ⟨header, decoded⟩, valid⟩
      next => cases given
    next => cases given
  · rintro ⟨sender, ⟨header, decoded⟩, valid⟩
    simp [sender, decoded, valid]

theorem report_from_other {manifest : LosslessSessionManifest} {roundId : UInt32} {peerId : Nat}
    {label : SenderLabel} (other : ∀ frame, label.event ≠ .control frame) :
    reportFrom manifest roundId peerId label = none := by
  unfold reportFrom
  split
  next frame event => exact absurd event (other frame)
  next => rfl

/-! ## The invariant -/

/-- How a block of an open round stands to what was queued for it and asked of it. -/
structure BlockRepaired (sourceSymbols : Nat) (queued : List SessionFrame) (quorum : Finset Nat)
    (reports : ReportMap) (blockId : Nat) (block : FecSendBlock) : Prop where
  emitted : block.emittedExtraSymbols =
    queued.countP (RoundLog.isExtraSymbol sourceSymbols blockId)
  within : block.emittedExtraSymbols ≤ block.requiredExtraSymbols
  required : block.requiredExtraSymbols =
    largestDeficit quorum (fun peerId => reports[peerId]?) blockId

structure RoundRepaired (log : RoundLog) (shared : SenderShared) (mode : FecSender) : Prop where
  reports : ∀ peerId ∈ shared.activeQuorum.active,
    mode.roundReports[peerId]? = log.firstReport shared.manifest mode.currentRoundId peerId
  only : mode.protocolError = false → ∀ peerId ∈ shared.activeQuorum.active,
    ∀ label ∈ log.since, ∀ report,
      reportFrom shared.manifest mode.currentRoundId peerId label = some report →
        mode.roundReports[peerId]? = some report
  blocks : ∀ (blockId : Nat) (block : FecSendBlock), mode.blocks[blockId]? = some block →
    BlockRepaired mode.symbolsPerBlock.toNat log.frames shared.activeQuorum.active
      mode.roundReports blockId block

section Steps

variable {log : RoundLog} {crate : FountainCrate} {shared after : SenderShared}
  {mode next : FecSender}

theorem RoundRepaired.extend (repaired : RoundRepaired log shared mode) {label : SenderLabel}
    (noReport : ∀ frame, label.event ≠ .control frame) {blocks : List FecSendBlock}
    (counted : ∀ (blockId : Nat) (block : FecSendBlock), blocks[blockId]? = some block →
      BlockRepaired mode.symbolsPerBlock.toNat (log.frames ++ label.frames)
        shared.activeQuorum.active mode.roundReports blockId block) :
    RoundRepaired (log.extend label) shared { mode with blocks := blocks } := by
  refine ⟨?_, ?_, ?_⟩
  · intro peerId member
    show mode.roundReports[peerId]? = _
    rw [repaired.reports peerId member, RoundLog.firstReport, RoundLog.firstReport, RoundLog.extend,
      List.findSome?_append]
    simp [report_from_other noReport]
  · intro sound peerId member seen known report given
    rcases List.mem_append.mp known with earlier | now
    · exact repaired.only sound peerId member seen earlier report given
    · rw [List.mem_singleton.mp now, report_from_other noReport] at given
      cases given
  · rw [RoundLog.frames_extend]
    exact counted

/-- A step that handles no report and queues no symbol. -/
theorem RoundRepaired.pass (repaired : RoundRepaired log shared mode) {label : SenderLabel}
    (noReport : ∀ frame, label.event ≠ .control frame)
    (noSymbol : ∀ frame ∈ label.frames, ∃ message, frame = .control message) :
    RoundRepaired (log.extend label) shared mode := by
  refine repaired.extend noReport ?_
  intro blockId block present
  have before := repaired.blocks blockId block present
  refine ⟨?_, before.within, before.required⟩
  have none : label.frames.countP
      (RoundLog.isExtraSymbol mode.symbolsPerBlock.toNat blockId) = 0 := by
    rw [List.countP_eq_zero]
    intro frame member
    obtain ⟨message, rfl⟩ := noSymbol frame member
    exact Bool.false_ne_true
  rw [List.countP_append, none, Nat.add_zero]
  exact before.emitted

/-- What the account of a round does not depend on. -/
theorem RoundRepaired.view (repaired : RoundRepaired log shared mode)
    (quorum : after.activeQuorum.active = shared.activeQuorum.active)
    (manifest : after.manifest = shared.manifest) (reports : next.roundReports = mode.roundReports)
    (round : next.currentRoundId = mode.currentRoundId) (blocks : next.blocks = mode.blocks)
    (symbols : next.symbolsPerBlock = mode.symbolsPerBlock)
    (error : next.protocolError = false → mode.protocolError = false) :
    RoundRepaired log after next := by
  refine ⟨?_, ?_, ?_⟩
  · rw [quorum, manifest, reports, round]
    exact repaired.reports
  · intro sound
    rw [quorum, manifest, reports, round]
    exact repaired.only (error sound)
  · rw [blocks, symbols, quorum, reports]
    exact repaired.blocks

/-- The account does not depend on encoders and source cursors. -/
theorem RoundRepaired.rebuild (repaired : RoundRepaired log shared mode) {blocks : List FecSendBlock}
    (same : blocks.map FecSendBlock.bare = mode.blocks.map FecSendBlock.bare) :
    RoundRepaired log shared { mode with blocks := blocks } := by
  refine ⟨repaired.reports, repaired.only, ?_⟩
  intro blockId block present
  obtain ⟨earlier, before, equal⟩ := get_of_map_bare same present
  simp only [FecSendBlock.bare, FecSendBlock.mk.injEq] at equal
  obtain ⟨_, _, required, emitted, _⟩ := equal
  have account := repaired.blocks blockId earlier before
  refine ⟨emitted ▸ account.emitted, ?_, required ▸ account.required⟩
  rw [← emitted, ← required]
  exact account.within

theorem FecSender.merge_report_getElem? (blocks : List FecSendBlock) (report : NeedReport)
    (blockId : Nat) :
    (FecSender.mergeReport blocks report)[blockId]? = blocks[blockId]?.map fun block =>
      { block with
        requiredExtraSymbols :=
          max block.requiredExtraSymbols (deficitOf (some report) blockId) } := by
  have same : blocks[blockId]? = blocks[blockId]?.map fun block =>
      { block with requiredExtraSymbols := max block.requiredExtraSymbols 0 } := by
    cases blocks[blockId]? with
    | none => rfl
    | some block => simp
  cases report with
  | complete => exact same
  | plain ranges => exact same
  | fec needs => exact FecSender.merge_deficits_getElem? blocks needs blockId

theorem RoundRepaired.record (repaired : RoundRepaired log shared mode) {frame : InboundFrame}
    {peerId : Nat} {report : NeedReport} (need : FirstNeed shared mode frame peerId report) :
    RoundRepaired (log.extend ⟨.control frame, []⟩) shared (mode.merged peerId report) := by
  have given : reportFrom shared.manifest mode.currentRoundId peerId ⟨.control frame, []⟩ =
      some report := report_from_control.mpr ⟨need.sender, need.decoded, need.valid⟩
  have unheard : mode.roundReports[peerId]? = none := need.unheard
  have others {sender : Nat} (apart : sender ≠ peerId) :
      (mode.merged peerId report).roundReports[sender]? = mode.roundReports[sender]? := by
    show (mode.roundReports.insert peerId report)[sender]? = _
    rw [Std.ExtTreeMap.getElem?_insert, if_neg]
    exact fun same => apart (Nat.compare_eq_eq.mp same).symm
  have own : (mode.merged peerId report).roundReports[peerId]? = some report :=
    Std.ExtTreeMap.getElem?_insert_self
  refine ⟨?_, ?_, ?_⟩
  · intro sender member
    have before := repaired.reports sender member
    show _ = (log.extend ⟨.control frame, []⟩).firstReport shared.manifest mode.currentRoundId sender
    rw [RoundLog.firstReport, RoundLog.extend, List.findSome?_append]
    by_cases same : sender = peerId
    · subst same
      rw [unheard, RoundLog.firstReport] at before
      rw [own, ← before]
      simp [given]
    · have other : reportFrom shared.manifest mode.currentRoundId sender ⟨.control frame, []⟩ = none := by
        rw [Option.eq_none_iff_forall_ne_some]
        intro report given
        have from' := (report_from_control.mp given).1
        rw [need.sender] at from'
        exact same (Option.some.inj from').symm
      rw [others same, before, RoundLog.firstReport]
      simp [other]
  · intro sound sender member label known earlier heard
    have round : (mode.merged peerId report).currentRoundId = mode.currentRoundId := rfl
    rw [round] at heard
    rcases List.mem_append.mp known with before | now
    · have recorded := repaired.only sound sender member label before earlier heard
      rw [others]
      · exact recorded
      · rintro rfl
        rw [unheard] at recorded
        cases recorded
    · rw [List.mem_singleton.mp now] at heard
      have sent := (report_from_control.mp heard).1
      rw [need.sender] at sent
      rw [← Option.some.inj sent] at heard ⊢
      rw [own, ← given, heard]
  · intro blockId block present
    have widened := FecSender.merge_report_getElem? mode.blocks report blockId
    have here : (FecSender.mergeReport mode.blocks report)[blockId]? = some block := present
    rw [here] at widened
    obtain ⟨earlier, found, rfl⟩ := Option.map_eq_some_iff.mp widened.symm
    have before := repaired.blocks blockId earlier found
    refine ⟨?_, le_max_of_le_left before.within, ?_⟩
    · rw [RoundLog.frames_extend, List.append_nil]
      exact before.emitted
    · show max _ _ = largestDeficit _ (fun sender => (mode.roundReports.insert peerId report)[sender]?) _
      rw [largest_deficit_insert need.member unheard, ← before.required]

theorem RoundRepaired.emit (repaired : RoundRepaired log shared mode) {blockId symbolId : Nat}
    {treeId : UInt16} {payload : List Library.BigEndian.Byte} {blocks : List FecSendBlock}
    {block : FecSendBlock} {label : SenderLabel}
    (same : blocks.map FecSendBlock.bare = mode.blocks.map FecSendBlock.bare)
    (found : mode.blocks[blockId]? = some block)
    (owed : block.emittedExtraSymbols < block.requiredExtraSymbols)
    (extra : mode.symbolsPerBlock.toNat ≤ symbolId)
    (noReport : ∀ frame, label.event ≠ .control frame)
    (sent : label.frames = [.blockSymbol blockId symbolId treeId payload]) :
    RoundRepaired (log.extend label) shared
      { mode with
        blocks := blocks.modify blockId fun block =>
          { block with
            emittedExtraSymbols := min (block.emittedExtraSymbols + 1) (2 ^ 16 - 1)
            nextFountainSymbol := block.nextFountainSymbol + 1 } } := by
  refine repaired.extend noReport ?_
  intro index after known
  rw [List.getElem?_modify] at known
  obtain ⟨current, present, changed⟩ := Option.map_eq_some_iff.mp known
  obtain ⟨earlier, before, equal⟩ := get_of_map_bare same present
  simp only [FecSendBlock.bare, FecSendBlock.mk.injEq] at equal
  obtain ⟨_, _, required, emitted, _⟩ := equal
  have account := repaired.blocks index earlier before
  rw [sent]
  split_ifs at changed with here
  · subst here changed
    rw [found] at before
    cases before
    have counted : RoundLog.isExtraSymbol mode.symbolsPerBlock.toNat blockId
        (.blockSymbol blockId symbolId treeId payload) = true := by
      simp [RoundLog.isExtraSymbol, extra]
    have small := largest_deficit_lt shared.activeQuorum.active
      (fun peerId => mode.roundReports[peerId]?) blockId
    rw [← account.required] at small
    have count := account.emitted
    refine ⟨?_, ?_, required ▸ account.required⟩
    · rw [List.countP_append, List.countP_singleton, counted, if_pos rfl, ← count]
      simp only [← emitted]
      omega
    · simp only [← emitted, ← required]
      omega
  · subst changed
    have other : RoundLog.isExtraSymbol mode.symbolsPerBlock.toNat index
        (.blockSymbol blockId symbolId treeId payload) = false := by
      simp [RoundLog.isExtraSymbol, here]
    refine ⟨?_, ?_, required ▸ account.required⟩
    · rw [List.countP_append, List.countP_singleton, other, if_neg Bool.false_ne_true, Nat.add_zero,
        ← emitted]
      exact account.emitted
    · rw [← emitted, ← required]
      exact account.within

theorem RoundRepaired.opened (tracked : FecTracked log shared mode)
    (sending : mode.phase = .sendingData) (opened : List UInt32) (reports : next.roundReports = ∅)
    (blocks : next.blocks = mode.blocks) : RoundRepaired ⟨opened, []⟩ shared next := by
  refine ⟨?_, by simp, ?_⟩
  · intro peerId member
    rw [reports]
    simp [RoundLog.firstReport]
  · intro blockId block present
    rw [blocks] at present
    have idle := (tracked.blocks blockId block present).idle sending
    have unasked : block.requiredExtraSymbols = 0 := by
      by_contra some
      have waiting := (tracked.owing present (Nat.pos_of_ne_zero some)).1
      cases waiting.symm.trans sending
    refine ⟨by simp [idle, RoundLog.frames], by rw [idle]; exact Nat.zero_le _, ?_⟩
    rw [unasked, reports, largest_deficit_zero]
    intro peerId _
    simp [deficitOf]

end Steps

/-! ## One step -/

section Tasks

variable {log : RoundLog} {crate : FountainCrate} {task next : SenderTask FecSender}

/-- A frame that is not a first report is ignored, or it is an error. -/
theorem control_other (before : TaskTracked FecTracked log task)
    (waiting : task.mode.phase = .waitingForReports) {frame : InboundFrame}
    (noFirst : ¬∃ peerId report, FirstNeed task.shared task.mode frame peerId report) :
    (handleControl task.shared task.mode frame = (task.shared, task.mode) ∧
        ∀ peerId report, ReportsOpenRound task.shared task.mode frame peerId report →
          task.mode.roundReports[peerId]? = some report) ∨
      handleControl task.shared task.mode frame =
        (task.shared, { task.mode with protocolError := true }) := by
  have calm := @tracked_noninterference FecSender _ idleCrate FecTracked log task
    (fec_tracking idleCrate) (fec_need_discipline idleCrate) fecSenders before
  by_cases changes : ChangesNeed task.shared task.mode frame
  · exact .inr (calm.changedNeed frame changes).1
  · refine .inl ⟨?_, ?_⟩
    · by_contra changed
      rcases calm.changesOnly frame changed with ready | need | other
      · obtain ⟨_, _, _, _, unfrozen, _⟩ := ready
        rw [before.mode.frozen_of_waiting waiting] at unfrozen
        cases unfrozen
      · obtain ⟨peerId, report, reports, unheard⟩ := need
        exact noFirst ⟨peerId, report, reports, unheard⟩
      · exact changes other
    · intro peerId report reports
      cases present : task.mode.roundReports[peerId]? with
      | none => exact absurd ⟨peerId, report, reports, present⟩ noFirst
      | some existing =>
        by_contra different
        exact changes ⟨peerId, report, existing, reports, present, fun same => different (same ▸ rfl)⟩

theorem RoundRepaired.ignored (repaired : RoundRepaired log task.shared task.mode)
    (before : TaskTracked FecTracked log task) (waiting : task.mode.phase = .waitingForReports)
    {frame : InboundFrame}
    (noFirst : ¬∃ peerId report, FirstNeed task.shared task.mode frame peerId report) :
    RoundRepaired (log.extend ⟨.control frame, []⟩) task.shared
      (handleControl task.shared task.mode frame).2 := by
  have opened (peerId : Nat) (member : peerId ∈ task.shared.activeQuorum.active) (report : NeedReport)
      (given : reportFrom task.shared.manifest task.mode.currentRoundId peerId ⟨.control frame, []⟩ =
        some report) : ReportsOpenRound task.shared task.mode frame peerId report := by
    obtain ⟨sender, decoded, valid⟩ := report_from_control.mp given
    exact ⟨decoded, sender, before.mode.frozen_of_waiting waiting, member, valid,
      decide_eq_true waiting⟩
  have reports : ∀ peerId ∈ task.shared.activeQuorum.active, task.mode.roundReports[peerId]? =
      (log.extend ⟨.control frame, []⟩).firstReport task.shared.manifest task.mode.currentRoundId
        peerId := by
    intro peerId member
    have earlier := repaired.reports peerId member
    rw [RoundLog.firstReport] at earlier
    rw [RoundLog.firstReport, RoundLog.extend, List.findSome?_append, ← earlier]
    cases given : reportFrom task.shared.manifest task.mode.currentRoundId peerId
        ⟨.control frame, []⟩ with
    | none => simp [given]
    | some report =>
      cases present : task.mode.roundReports[peerId]? with
      | none => exact absurd ⟨peerId, report, opened peerId member report given, present⟩ noFirst
      | some existing => rfl
  have blocks := repaired.blocks
  rcases control_other before waiting noFirst with ⟨same, recorded⟩ | failed
  · rw [same]
    refine ⟨reports, ?_, ?_⟩
    · intro sound peerId member label known report given
      rcases List.mem_append.mp known with earlier | now
      · exact repaired.only sound peerId member label earlier report given
      · rw [List.mem_singleton.mp now] at given
        exact recorded peerId report (opened peerId member report given)
    · rw [RoundLog.frames_extend, List.append_nil]
      exact blocks
  · rw [failed]
    refine ⟨reports, by simp, ?_⟩
    rw [RoundLog.frames_extend, List.append_nil]
    exact blocks

end Tasks

/-! ## Closing a round -/

/-- In the round that was opened last, as many extra symbols of each block were queued as the quorum
misses of it at most; and without a protocol error no peer has sent a second, different report. -/
structure RoundRepaid (log : RoundLog) (shared : SenderShared) (roundId : UInt32)
    (protocolError : Bool) : Prop where
  last : log.opened.getLast? = some roundId
  blocks : ∀ blockId < shared.plan.totalBlocks,
    log.frames.countP (RoundLog.isExtraSymbol (sourceSymbolCount shared.manifest) blockId) =
      largestDeficit shared.activeQuorum.active (log.firstReport shared.manifest roundId) blockId
  only : protocolError = false → ∀ peerId ∈ shared.activeQuorum.active, ∀ label ∈ log.since,
    ∀ report, reportFrom shared.manifest roundId peerId label = some report →
      log.firstReport shared.manifest roundId peerId = some report

section Closing

variable {log : RoundLog} {shared after : SenderShared} {mode : FecSender}

theorem RoundRepaid.same {roundId : UInt32} {protocolError : Bool}
    (repaid : RoundRepaid log shared roundId protocolError)
    (quorum : after.activeQuorum.active = shared.activeQuorum.active)
    (session : SameSession shared after) : RoundRepaid log after roundId protocolError := by
  refine ⟨repaid.last, ?_, ?_⟩
  · rw [session.plan, session.manifest, quorum]
    exact repaid.blocks
  · rw [session.manifest, quorum]
    exact repaid.only

theorem repaid_of_paid (tracked : FecTracked log shared mode)
    (repaired : RoundRepaired log shared mode) (waiting : mode.phase = .waitingForReports)
    (paid : ∀ (blockId : Nat) (block : FecSendBlock), mode.blocks[blockId]? = some block →
      block.requiredExtraSymbols ≤ block.emittedExtraSymbols) :
    RoundRepaid log shared mode.currentRoundId mode.protocolError := by
  refine ⟨(tracked.rounds.openRound (decide_eq_true waiting)).1, ?_, ?_⟩
  · intro blockId inside
    rw [← tracked.size] at inside
    have present := List.getElem?_eq_getElem inside
    have account := repaired.blocks blockId _ present
    have equal := le_antisymm account.within (paid blockId _ present)
    rw [tracked.symbols, ← account.emitted, equal, account.required]
    exact largest_deficit_congr repaired.reports blockId
  · intro sound peerId known label seen report given
    rw [← repaired.reports peerId known]
    exact repaired.only sound peerId known label seen report given

/-- A complete round was repaired: nothing was asked for. -/
theorem complete_repaid (tracked : FecTracked log shared mode)
    (repaired : RoundRepaired log shared mode) (complete : mode.roundComplete) :
    RoundRepaid log shared mode.currentRoundId mode.protocolError := by
  obtain ⟨waiting, _, all⟩ := tracked.complete complete
  apply repaid_of_paid tracked repaired waiting
  intro blockId block present
  rw [(repaired.blocks blockId block present).required, largest_deficit_zero]
  · exact Nat.zero_le _
  · intro peerId _
    cases given : mode.roundReports[peerId]? with
    | none => rfl
    | some report =>
      have same := all report ((mem_recorded _ _).mpr ⟨peerId, given⟩)
      rw [same]
      rfl

theorem finish_repaired (tracked : FecTracked log shared mode)
    (repaired : RoundRepaired log shared mode) (waiting : mode.phase = .waitingForReports) :
    ((mode.finishReportRound shared).2.phase = .waitingForReports →
        RoundRepaired log (mode.finishReportRound shared).1 (mode.finishReportRound shared).2) ∧
      ((mode.finishReportRound shared).2.phase = .sendingData →
        RoundRepaid log (mode.finishReportRound shared).1 mode.currentRoundId
          (mode.finishReportRound shared).2.protocolError) := by
  have step := FecSender.finish_cases shared tracked.absorbed
  generalize (mode.finishReportRound shared).1 = after at step ⊢
  generalize (mode.finishReportRound shared).2 = next at step ⊢
  have notSending (same : next.phase = mode.phase) (sending : next.phase = .sendingData) :
      RoundRepaid log after mode.currentRoundId next.protocolError := by
    cases waiting.symm.trans (same.symm.trans sending)
  cases step with
  | mismatch member => exact ⟨fun _ => repaired.view rfl rfl rfl rfl rfl rfl (by simp), notSending rfl⟩
  | complete all => exact ⟨fun _ => repaired.view rfl rfl rfl rfl rfl rfl id, notSending rfl⟩
  | pending incomplete owed => exact ⟨fun _ => repaired, notSending rfl⟩
  | advance incomplete noPlain paid =>
    refine ⟨fun still => ?_, fun _ => ?_⟩
    · cases still
    · have repaid : RoundRepaid log shared mode.currentRoundId mode.protocolError := by
        apply repaid_of_paid tracked repaired waiting
        intro blockId block present
        have all := List.any_eq_false.mp paid block (List.mem_of_getElem? present)
        simpa using all
      exact repaid.same rfl ⟨rfl, rfl, rfl, rfl⟩

end Closing

section Steps

variable {log : RoundLog} {crate : FountainCrate} {task next : SenderTask FecSender}

/-- What a step has to keep: the account of an open round, and a closed one that is repaid. -/
structure StepRepaired (log : RoundLog) (task : SenderTask FecSender) (after : SenderShared)
    (next : FecSender) : Prop where
  open' : next.phase = .waitingForReports → RoundRepaired log after next
  closed : task.mode.phase = .waitingForReports → next.phase = .sendingData →
    ∃ roundId, RoundRepaid log after roundId next.protocolError

/-- The sender after a first report is tracked, whether or not the report closes the round. -/
theorem merged_tracked (tracked : FecTracked log task.shared task.mode)
    (offered : ∃ fec, task.shared.manifest.mode = .fec fec) {frame : InboundFrame} {peerId : Nat}
    {report : NeedReport} (need : FirstNeed task.shared task.mode frame peerId report) :
    FecTracked (log.extend ⟨.control frame, []⟩) task.shared
      ((task.mode.merged peerId report).recalculateRepairWindow task.shared) := by
  obtain ⟨fec, offered⟩ := offered
  obtain ⟨header, decoded⟩ := need.decoded
  have merged : FecSender.MergedInto task.mode.blocks report
      (FecSender.mergeReport task.mode.blocks report) := by
    cases report with
    | complete => exact .complete
    | fec needs => exact .deficits needs
    | plain ranges => exact absurd rfl (accepted_not_plain offered decoded need.valid ranges)
  have inside (needs : List NeedBlock) (kind : report = .fec needs) :
      ∀ need ∈ needs, need.blockId.toNat < task.shared.plan.totalBlocks := by
    subst kind
    exact need_blocks_inside tracked.geometry need.valid
  have heard : (log.extend ⟨.control frame, []⟩).Heard task.mode.currentRoundId peerId report :=
    RoundLog.heard_now decoded need.sender []
  rw [FecSender.recalculate_window]
  exact tracked.record (of_decide_eq_true need.opened) need.unheard need.member heard inside merged

theorem control_repaired (before : TaskTracked FecTracked log task)
    (offered : ∃ fec, task.shared.manifest.mode = .fec fec)
    (repaired : task.mode.phase = .waitingForReports → RoundRepaired log task.shared task.mode)
    (frame : InboundFrame) :
    StepRepaired (log.extend ⟨.control frame, []⟩) task
      (handleControl task.shared task.mode frame).1
      (handleControl task.shared task.mode frame).2 := by
  by_cases waiting : task.mode.phase = .waitingForReports
  swap
  · have closed := (control_cursors task.shared task.mode frame).phase
    exact ⟨fun open' => absurd (closed open') waiting, fun open' => absurd open' waiting⟩
  by_cases first : ∃ peerId report, FirstNeed task.shared task.mode frame peerId report
  · obtain ⟨peerId, report, need⟩ := first
    have tracked := merged_tracked before.mode offered need
    have recorded : RoundRepaired (log.extend ⟨.control frame, []⟩) task.shared
        ((task.mode.merged peerId report).recalculateRepairWindow task.shared) := by
      rw [FecSender.recalculate_window]
      exact ((repaired waiting).record need).view rfl rfl rfl rfl rfl rfl id
    have still : ((task.mode.merged peerId report).recalculateRepairWindow task.shared).phase =
        .waitingForReports := by
      rw [FecSender.recalculate_window]
      exact waiting
    rw [FecSender.handled offered need, FecSender.afterReport]
    split_ifs
    · obtain ⟨open', closed⟩ := finish_repaired tracked recorded still
      exact ⟨open', fun _ sending => ⟨_, closed sending⟩⟩
    · refine ⟨fun _ => recorded, fun _ sending => ?_⟩
      cases still.symm.trans sending
  · have ignored := (repaired waiting).ignored before waiting first
    have kept : (handleControl task.shared task.mode frame).1 = task.shared ∧
        (handleControl task.shared task.mode frame).2.phase = task.mode.phase := by
      rcases control_other before waiting first with ⟨same, _⟩ | failed
      · rw [same]
        exact ⟨rfl, rfl⟩
      · rw [failed]
        exact ⟨rfl, rfl⟩
    rw [kept.1]
    refine ⟨fun _ => ignored, fun _ sending => ?_⟩
    cases waiting.symm.trans (kept.2.symm.trans sending)

theorem turn_repaired {crate : FountainCrate} {now : Nat} {submit : Nat → SendOutcome}
    {frames : List SessionFrame} {turned : Turn} {after : SenderShared} {mode : FecSender}
    (tracked : FecTracked log task.shared task.mode)
    (repaired : task.mode.phase = .waitingForReports → RoundRepaired log task.shared task.mode)
    (step : FecSender.TurnStep crate task.shared task.mode now after mode frames turned) :
    StepRepaired (log.observe ⟨.turn now submit, frames⟩) task after mode := by
  have noReport : ∀ frame, SenderEvent.turn now submit ≠ .control frame := fun frame same => by cases same
  have same {label : SenderLabel} (quiet : ∀ frame, label.event ≠ .control frame)
      (none : label.frames = []) {next : FecSender}
      (kept : ∀ log, RoundRepaired log task.shared task.mode → RoundRepaired log task.shared next)
      (phase : next.phase = task.mode.phase) : StepRepaired (log.extend label) task task.shared next := by
    refine ⟨fun open' => kept _ ((repaired (phase.symm.trans open')).pass quiet (by simp [none])), ?_⟩
    intro waiting sending
    cases waiting.symm.trans (phase.symm.trans sending)
  cases step with
  | failed failed => exact same noReport rfl (fun _ => id) rfl
  | @sourceBlocked blockId symbolId sound source =>
    obtain ⟨cache, cached⟩ :=
      FecSender.source_symbol_payload_mode task.shared task.mode blockId symbolId
    rw [cached]
    exact same noReport rfl (fun _ repaired => repaired.view rfl rfl rfl rfl rfl rfl id) rfl
  | @source blockId symbolId cursor treeId payload sound source tree sent =>
    obtain ⟨cache, cached⟩ :=
      FecSender.source_symbol_payload_mode task.shared task.mode blockId symbolId
    have sending := (FecSender.next_source_symbol_some source).1
    rw [cached]
    refine ⟨fun open' => ?_, fun waiting => ?_⟩
    · cases sending.symm.trans open'
    · cases sending.symm.trans waiting
  | extraStuck sound extra => exact same noReport rfl (fun _ => id) rfl
  | extraBlocked sound extra encoded =>
    obtain ⟨blocks, rfl, bare⟩ := encoder_step_blocks encoded
    exact same noReport rfl (fun _ repaired => repaired.rebuild bare) rfl
  | @extra blockId symbolId cursor treeId payload _ _ sound extra encoded tree coded =>
    obtain ⟨blocks, rfl, bare⟩ := encoder_step_blocks encoded
    obtain ⟨block, present, rfl, owed⟩ := FecSender.next_extra_symbol_some extra
    have waiting := (tracked.owing present (Nat.zero_lt_of_lt owed)).1
    have sent : (⟨.turn now submit, [.blockSymbol blockId block.nextFountainSymbol treeId payload]⟩ :
        SenderLabel).frames = [.blockSymbol blockId block.nextFountainSymbol treeId payload] := rfl
    have emitted := (repaired waiting).emit bare present owed
      (tracked.blocks blockId block present).fountain noReport sent
    refine ⟨fun _ => emitted.view rfl rfl rfl rfl rfl rfl id, fun _ sending => ?_⟩
    cases waiting.symm.trans sending
  | openEmpty sound sending empty =>
    refine ⟨fun _ => ?_, fun waiting => ?_⟩
    · refine RoundRepaired.opened tracked sending _ ?_ ?_
      · rfl
      · rfl
    · cases sending.symm.trans waiting
  | openRound sound sending members =>
    refine ⟨fun _ => ?_, fun waiting => ?_⟩
    · have opened : RoundRepaired ⟨log.opened ++ [task.mode.currentRoundId], []⟩ task.shared
          { task.mode with
            roundReports := ∅
            phase := .waitingForReports
            roundSourceDoneSent := true } := by
        refine RoundRepaired.opened tracked sending _ ?_ ?_
        · rfl
        · rfl
      exact opened.view rfl rfl rfl rfl rfl rfl id
    · cases sending.symm.trans waiting
  | finish sound waiting count =>
    have passed : RoundRepaired (log.extend ⟨.turn now submit, []⟩) task.shared task.mode :=
      (repaired waiting).pass noReport (by simp)
    obtain ⟨open', closed⟩ := finish_repaired (tracked.extend _) passed waiting
    exact ⟨open', fun _ sending => ⟨_, closed sending⟩⟩
  | wait sound done unclosed => exact same noReport rfl (fun _ => id) rfl

theorem step_repaired (before : TaskTracked FecTracked log task)
    (offered : ∃ fec, task.shared.manifest.mode = .fec fec)
    (repaired : task.mode.phase = .waitingForReports → RoundRepaired log task.shared task.mode)
    {label : SenderLabel} (step : FecSender.FecStep crate task label next) :
    StepRepaired (log.observe label) task next.shared next.mode := by
  cases step with
  | idle same quorum session controls noReport quiet =>
    rw [RoundLog.observe_quiet quiet, same]
    refine ⟨fun waiting => ?_, fun waiting sending => ?_⟩
    · exact ((repaired waiting).pass noReport controls).view quorum session.manifest rfl rfl rfl rfl id
    · cases waiting.symm.trans sending
  | control shared handled =>
    rw [RoundLog.observe_quiet rfl, shared, handled]
    exact control_repaired before offered repaired _
  | turn turned step => exact turn_repaired before.mode repaired step

end Steps

/-! ## Runs -/

theorem run_repaired {crate : FountainCrate} {start task : SenderTask FecSender}
    {labels : List SenderLabel} (initial : fecSenders start)
    (run : (senderSystem crate fecSenders).Run start labels task) :
    task.mode.phase = .waitingForReports →
      RoundRepaired (RoundLog.ofRun labels) task.shared task.mode := by
  refine TransitionSystem.history_of_run
    (motive := fun labels task => task.mode.phase = .waitingForReports →
      RoundRepaired (RoundLog.ofRun labels) task.shared task.mode) run ?_ ?_
  · obtain ⟨config, treeVisible, request, cfg, built, started⟩ := initial
    obtain ⟨plan, mode, planned, created, rfl⟩ := fec_sender_new started
    obtain ⟨fec, geometry, offered, _, rfl⟩ := fec_sender_some created
    intro waiting
    cases waiting
  · intro passed state label next run repaired stepped
    have before := run_tracked (fec_tracking crate) (fec_sender_tracked initial) run
    obtain ⟨_, windowed⟩ := reachable_windowed ⟨start, passed, initial, run⟩
    rw [RoundLog.of_run_snoc]
    exact (step_repaired before windowed.offered repaired
      (FecSender.fec_step_cases before.mode.sending_of_unsent stepped)).open'

/-- A round is closed by the opening of the next one's burst, or by the end of the transfer. -/
def FecSender.ClosesRound (mode next : FecSender) : Prop :=
  (mode.phase = .waitingForReports ∧ next.phase = .sendingData) ∨
    (mode.roundComplete = false ∧ next.roundComplete)

/-- Over every run of an FEC sender no symbol is queued twice, the source symbols of a block are queued
before its first extra symbol, the extra symbols of a block are numbered on without a gap, and a round
closes with as many extra symbols of each block queued in it as the largest reported deficit. -/
theorem fec_symbols_accounted {crate : FountainCrate} {start task : SenderTask FecSender}
    {labels : List SenderLabel} (initial : fecSenders start)
    (run : (senderSystem crate fecSenders).Run start labels task) :
    (queuedSymbols labels).Nodup ∧
    (∀ front back blockId symbolId, queuedSymbols labels = front ++ (blockId, symbolId) :: back →
      sourceSymbolCount task.shared.manifest ≤ symbolId →
        ∀ sourceId < sourceSymbolCount task.shared.manifest, (blockId, sourceId) ∈ front) ∧
    (∀ blockId, ∃ count,
      (symbolIds blockId (queuedSymbols labels)).filter
          (sourceSymbolCount task.shared.manifest ≤ ·) =
        List.range' (sourceSymbolCount task.shared.manifest) count) ∧
    ∀ label next, (senderSystem crate fecSenders).step task label next →
      task.mode.ClosesRound next.mode →
        ∃ roundId, RoundRepaid (RoundLog.ofRun (labels ++ [label])) next.shared roundId
          next.mode.protocolError := by
  have numbered := run_numbered initial run
  refine ⟨numbered.nodup, ?_, fun blockId => numbered.extra_ids blockId _, ?_⟩
  · intro front back blockId symbolId split extra sourceId source
    exact numbered.earlier split (source.trans_le extra)
  · intro label next stepped closes
    have before := run_tracked (fec_tracking crate) (fec_sender_tracked initial) run
    have after := run_tracked (fec_tracking crate) (fec_sender_tracked initial) (.snoc run stepped)
    obtain ⟨_, windowed⟩ := reachable_windowed ⟨start, labels, initial, run⟩
    have repaired := step_repaired before windowed.offered (run_repaired initial run)
      (FecSender.fec_step_cases before.mode.sending_of_unsent stepped)
    rw [← RoundLog.of_run_snoc] at repaired
    rcases closes with ⟨waiting, sending⟩ | ⟨_, complete⟩
    · exact repaired.closed waiting sending
    · have waiting := (after.mode.complete complete).1
      exact ⟨_, complete_repaid after.mode (repaired.open' waiting) complete⟩

theorem sole_deficit_accounted : ∃ start labels task, fecSenders start ∧
    (senderSystem idleCrate fecSenders).Run start labels task ∧
    task.mode.phase = .waitingForReports ∧ (queuedSymbols labels).Nodup := by
  obtain ⟨task, ⟨start, labels, initial, run⟩, _, waiting, _⟩ := soleDeficit.all_asked idleCrate
  exact ⟨start, labels, task, initial, run, waiting, (fec_symbols_accounted initial run).1⟩

end Nextmini.Session
