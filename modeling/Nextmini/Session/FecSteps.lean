import Nextmini.Session.SenderSteps

/-!
# What the FEC sender can do

Inversions of one report and of one turn. A report is absorbed when every block it names requires
at least its deficit. Merging absorbed reports again changes nothing, so the code that closes a
round can be read without its merge.
-/

namespace Nextmini.Session

open Nextmini.Library.BigEndian
open Nextmini.Messages

set_option autoImplicit false

namespace FecSender

/-- The blocks require at least what a report asks for. -/
def Absorbed (blocks : List FecSendBlock) : NeedReport → Prop
  | .complete => True
  | .plain _ => True
  | .fec needs => ∀ need ∈ needs, ∃ block, blocks[need.blockId.toNat]? = some block ∧
      need.deficitSymbols.toNat ≤ block.requiredExtraSymbols

/-- The same blocks, except that some require more extra symbols. -/
def Widens (before after : List FecSendBlock) : Prop :=
  before.length = after.length ∧ ∀ (blockId : Nat) (block : FecSendBlock),
    before[blockId]? = some block → ∃ required, block.requiredExtraSymbols ≤ required ∧
      after[blockId]? = some { block with requiredExtraSymbols := required }

section Blocks

variable {blocks before middle after : List FecSendBlock}

theorem Widens.refl (blocks : List FecSendBlock) : Widens blocks blocks :=
  ⟨rfl, fun _ block present => ⟨block.requiredExtraSymbols, le_rfl, present⟩⟩

theorem Widens.trans (first : Widens before middle) (second : Widens middle after) :
    Widens before after := by
  refine ⟨first.1.trans second.1, ?_⟩
  intro blockId block present
  obtain ⟨required, more, present⟩ := first.2 blockId block present
  obtain ⟨most, evenMore, present⟩ := second.2 blockId _ present
  exact ⟨most, more.trans evenMore, present⟩

/-- A report stays absorbed while no block comes to require less. -/
theorem Absorbed.mono {report : NeedReport} (absorbed : Absorbed before report)
    (reaches : ∀ (blockId : Nat) (block : FecSendBlock), before[blockId]? = some block →
      ∃ later, after[blockId]? = some later ∧
        block.requiredExtraSymbols ≤ later.requiredExtraSymbols) : Absorbed after report := by
  cases report with
  | complete => exact trivial
  | plain ranges => exact trivial
  | fec needs =>
    intro need member
    obtain ⟨block, present, enough⟩ := absorbed need member
    obtain ⟨later, found, more⟩ := reaches _ block present
    exact ⟨later, found, enough.trans more⟩

theorem Absorbed.widen {report : NeedReport} (absorbed : Absorbed before report)
    (widens : Widens before after) : Absorbed after report := by
  apply absorbed.mono
  intro blockId block present
  obtain ⟨required, more, found⟩ := widens.2 blockId block present
  exact ⟨_, found, more⟩

def mergeDeficit (blocks : List FecSendBlock) (need : NeedBlock) : List FecSendBlock :=
  blocks.modify need.blockId.toNat fun block =>
    { block with
      requiredExtraSymbols := max block.requiredExtraSymbols need.deficitSymbols.toNat }

theorem merge_deficits_cons (blocks : List FecSendBlock) (need : NeedBlock)
    (needs : List NeedBlock) :
    mergeDeficits blocks (need :: needs) = mergeDeficits (mergeDeficit blocks need) needs := rfl

theorem merge_deficit_widens (blocks : List FecSendBlock) (need : NeedBlock) :
    Widens blocks (mergeDeficit blocks need) := by
  refine ⟨(List.length_modify ..).symm, ?_⟩
  intro blockId block present
  simp only [mergeDeficit, List.getElem?_modify, present, Option.map_eq_map, Option.map_some]
  split_ifs
  · exact ⟨_, le_max_left _ _, rfl⟩
  · exact ⟨_, le_rfl, rfl⟩

theorem merge_deficits_widens (blocks : List FecSendBlock) (needs : List NeedBlock) :
    Widens blocks (mergeDeficits blocks needs) := by
  induction needs generalizing blocks with
  | nil => exact .refl _
  | cons need rest induction =>
    rw [merge_deficits_cons]
    exact (merge_deficit_widens blocks need).trans (induction _)

theorem merge_reports_widens (reports : List NeedReport) (blocks : List FecSendBlock)
    (all : Bool) : Widens blocks (mergeReports reports blocks all).1 := by
  induction reports generalizing blocks all with
  | nil => exact .refl _
  | cons report rest induction =>
    cases report with
    | complete => exact induction blocks all
    | plain ranges => exact .refl _
    | fec needs =>
      exact (merge_deficits_widens blocks needs).trans (induction _ false)

/-- What a block shows beside the symbols it requires is not widened. -/
theorem Widens.map_eq {View : Type} (widens : Widens before after) (view : FecSendBlock → View)
    (same : ∀ block required,
      view { block with requiredExtraSymbols := required } = view block) :
    after.map view = before.map view := by
  apply List.ext_getElem?
  intro blockId
  rw [List.getElem?_map, List.getElem?_map]
  cases present : before[blockId]? with
  | none =>
    have outside := List.getElem?_eq_none_iff.mp present
    rw [List.getElem?_eq_none (widens.1 ▸ outside)]
  | some block =>
    obtain ⟨required, _, widened⟩ := widens.2 blockId block present
    rw [widened, Option.map_some, Option.map_some, same]

theorem map_modify {View : Type} (blocks : List FecSendBlock) (blockId : Nat)
    (view : FecSendBlock → View) {change : FecSendBlock → FecSendBlock}
    (same : ∀ block, view (change block) = view block) :
    (blocks.modify blockId change).map view = blocks.map view := by
  apply List.ext_getElem?
  intro index
  rw [List.getElem?_map, List.getElem?_map, List.getElem?_modify]
  cases blocks[index]? with
  | none => rfl
  | some block =>
    split_ifs
    · simp [same]
    · simp

theorem merge_deficits_absorbs (needs : List NeedBlock)
    (inside : ∀ need ∈ needs, need.blockId.toNat < blocks.length) :
    Absorbed (mergeDeficits blocks needs) (.fec needs) := by
  induction needs generalizing blocks with
  | nil => simp [Absorbed]
  | cons need rest induction =>
    rw [merge_deficits_cons]
    have width := (merge_deficit_widens blocks need).1
    intro other member
    rcases List.mem_cons.mp member with rfl | later
    · have bound := inside other List.mem_cons_self
      have merged : ∃ block, (mergeDeficit blocks other)[other.blockId.toNat]? = some block ∧
          other.deficitSymbols.toNat ≤ block.requiredExtraSymbols := by
        simp only [mergeDeficit, List.getElem?_modify, List.getElem?_eq_getElem bound]
        exact ⟨_, rfl, le_max_right _ _⟩
      obtain ⟨block, present, enough⟩ := merged
      obtain ⟨required, more, present⟩ := (merge_deficits_widens _ rest).2 _ block present
      exact ⟨_, present, enough.trans more⟩
    · refine induction ?_ other later
      intro next nextMember
      rw [← width]
      exact inside next (List.mem_cons_of_mem _ nextMember)

theorem merge_deficits_absorbed {needs : List NeedBlock} (absorbed : Absorbed blocks (.fec needs)) :
    mergeDeficits blocks needs = blocks := by
  induction needs with
  | nil => rfl
  | cons need rest induction =>
    have same : mergeDeficit blocks need = blocks := by
      obtain ⟨block, present, enough⟩ := absorbed need List.mem_cons_self
      apply List.ext_getElem?
      intro blockId
      rw [mergeDeficit, List.getElem?_modify]
      split_ifs with here
      · rw [← here, present]
        simp [max_eq_left enough]
      · simp
    rw [merge_deficits_cons, same]
    exact induction fun other member => absorbed other (List.mem_cons_of_mem _ member)

theorem merge_reports_absorbed (reports : List NeedReport) (all : Bool)
    (absorbed : ∀ report ∈ reports, Absorbed blocks report) :
    ∃ allComplete mismatch, mergeReports reports blocks all = (blocks, allComplete, mismatch) ∧
      (mismatch = true → ∃ ranges, .plain ranges ∈ reports) ∧
      (mismatch = false →
        (∀ ranges, .plain ranges ∉ reports) ∧
        (allComplete = true ↔ all = true ∧ ∀ report ∈ reports, report = .complete)) := by
  induction reports generalizing all with
  | nil => exact ⟨all, false, rfl, by simp, by simp⟩
  | cons report rest induction =>
    have later := fun other member => absorbed other (List.mem_cons_of_mem _ member)
    cases report with
    | complete =>
      obtain ⟨allComplete, mismatch, same, mixed, sound⟩ := induction all later
      refine ⟨allComplete, mismatch, same, ?_, ?_⟩
      · intro failed
        obtain ⟨ranges, member⟩ := mixed failed
        exact ⟨ranges, List.mem_cons_of_mem _ member⟩
      · simpa using sound
    | plain ranges =>
      exact ⟨all, true, rfl, fun _ => ⟨ranges, List.mem_cons_self⟩, by simp⟩
    | fec needs =>
      obtain ⟨allComplete, mismatch, same, mixed, sound⟩ := induction false later
      refine ⟨allComplete, mismatch, ?_, ?_, ?_⟩
      · rw [mergeReports, merge_deficits_absorbed (absorbed _ List.mem_cons_self), same]
      · intro failed
        obtain ⟨ranges, member⟩ := mixed failed
        exact ⟨ranges, List.mem_cons_of_mem _ member⟩
      · simpa using sound

end Blocks

/-! ## Closing a round -/

/-- What the code that closes a round does once all its reports are absorbed. -/
inductive FinishStep (shared : SenderShared) (mode : FecSender) : SenderShared → FecSender → Prop
  | mismatch {ranges : List MissingBlockRange} : .plain ranges ∈ recorded mode.roundReports →
      FinishStep shared mode shared { mode with protocolError := true }
  | complete : (∀ report ∈ recorded mode.roundReports, report = .complete) →
      FinishStep shared mode shared { mode with roundComplete := true }
  | pending : (∃ report ∈ recorded mode.roundReports, report ≠ .complete) →
      mode.hasPendingRepairWork → FinishStep shared mode shared mode
  | advance : (∃ report ∈ recorded mode.roundReports, report ≠ .complete) →
      (∀ ranges, .plain ranges ∉ recorded mode.roundReports) →
      mode.hasPendingRepairWork = false →
      FinishStep shared mode shared.clearQuorumFeedbackWait
        { mode with
          roundReports := ∅
          repairWindowSymbols := 0
          phase := .sendingData
          currentRoundId := nextRoundId mode.currentRoundId
          roundSourceDoneSent := false
          blocks := mode.blocks.map resetRepair }

theorem finish_cases (shared : SenderShared) {mode : FecSender}
    (absorbed : ∀ report ∈ recorded mode.roundReports, Absorbed mode.blocks report) :
    FinishStep shared mode (mode.finishReportRound shared).1
      (mode.finishReportRound shared).2 := by
  obtain ⟨allComplete, mismatch, merged, mixed, sound⟩ :=
    merge_reports_absorbed (recorded mode.roundReports) true absorbed
  unfold finishReportRound
  rw [merged]
  simp only
  cases mismatch with
  | true =>
    obtain ⟨ranges, member⟩ := mixed rfl
    exact .mismatch member
  | false =>
    obtain ⟨noPlain, complete⟩ := sound rfl
    cases allComplete with
    | true => exact .complete (complete.mp rfl).2
    | false =>
      have incomplete : ∃ report ∈ recorded mode.roundReports, report ≠ .complete := by
        by_contra none
        push Not at none
        exact absurd (complete.mpr ⟨rfl, none⟩) (by simp)
      cases pending : mode.hasPendingRepairWork with
      | true =>
        simp only [Bool.false_eq_true, if_false, if_true]
        exact .pending incomplete pending
      | false =>
        simp only [Bool.false_eq_true, if_false]
        exact .advance incomplete noPlain pending

/-! ## One report -/

def heard (mode : FecSender) (peerId : Nat) (report : NeedReport) (blocks : List FecSendBlock)
    (window : Nat) : FecSender :=
  { mode with
    roundReports := mode.roundReports.insert peerId report
    blocks := blocks
    repairWindowSymbols := window }

/-- The blocks after a report of the sender's mode was merged into them. -/
inductive MergedInto (blocks : List FecSendBlock) : NeedReport → List FecSendBlock → Prop
  | complete : MergedInto blocks .complete blocks
  | deficits (needs : List NeedBlock) :
      MergedInto blocks (.fec needs) (mergeDeficits blocks needs)

/-- What one report does to an FEC sender. -/
inductive NeedStep (shared : SenderShared) (mode : FecSender) (peerId : Nat) (roundId : UInt32)
    (report : NeedReport) : SenderShared → FecSender → Prop
  | ignore : (mode.phase = .sendingData ∨ roundId ≠ mode.currentRoundId ∨
      mode.roundReports[peerId]? = some report) → NeedStep shared mode peerId roundId report shared mode
  | changed {existing : NeedReport} : mode.phase = .waitingForReports →
      roundId = mode.currentRoundId → mode.roundReports[peerId]? = some existing →
      existing ≠ report →
      NeedStep shared mode peerId roundId report shared { mode with protocolError := true }
  | mismatch {ranges : List MissingBlockRange} : mode.phase = .waitingForReports →
      roundId = mode.currentRoundId → mode.roundReports[peerId]? = none →
      report = .plain ranges →
      NeedStep shared mode peerId roundId report shared
        { mode with
          roundReports := mode.roundReports.insert peerId report
          protocolError := true }
  | record {blocks : List FecSendBlock} {window : Nat} : mode.phase = .waitingForReports →
      roundId = mode.currentRoundId → mode.roundReports[peerId]? = none →
      MergedInto mode.blocks report blocks →
      NeedStep shared mode peerId roundId report shared (mode.heard peerId report blocks window)
  | recordLast {blocks : List FecSendBlock} {window : Nat} : mode.phase = .waitingForReports →
      roundId = mode.currentRoundId → mode.roundReports[peerId]? = none →
      MergedInto mode.blocks report blocks →
      (mode.roundReports.insert peerId report).size = shared.activeQuorum.active.card →
      NeedStep shared mode peerId roundId report
        ((mode.heard peerId report blocks window).finishReportRound shared).1
        ((mode.heard peerId report blocks window).finishReportRound shared).2

theorem recalculate_result (shared : SenderShared) (mode : FecSender) :
    ∃ window, mode.recalculateRepairWindow shared = { mode with repairWindowSymbols := window } := by
  unfold recalculateRepairWindow
  simp only
  split_ifs
  · exact ⟨_, rfl⟩
  · exact ⟨_, rfl⟩
  · exact ⟨_, rfl⟩

theorem after_report_cases {shared : SenderShared} {mode : FecSender} {peerId : Nat}
    {roundId : UInt32} {report : NeedReport} {blocks : List FecSendBlock}
    (waiting : mode.phase = .waitingForReports) (current : roundId = mode.currentRoundId)
    (absent : mode.roundReports[peerId]? = none) (merged : MergedInto mode.blocks report blocks) :
    NeedStep shared mode peerId roundId report
      ((mode.heard peerId report blocks mode.repairWindowSymbols).afterReport shared).1
      ((mode.heard peerId report blocks mode.repairWindowSymbols).afterReport shared).2 := by
  obtain ⟨window, widened⟩ :=
    recalculate_result shared (mode.heard peerId report blocks mode.repairWindowSymbols)
  unfold afterReport
  simp only [widened]
  split_ifs with closes
  · exact @NeedStep.recordLast shared mode peerId roundId report blocks window waiting current absent
      merged closes.1
  · exact @NeedStep.record shared mode peerId roundId report blocks window waiting current absent
      merged

theorem on_need_cases (shared : SenderShared) (mode : FecSender) (peerId : Nat) (roundId : UInt32)
    (report : NeedReport) :
    NeedStep shared mode peerId roundId report (onNeed shared mode peerId roundId report).1
      (onNeed shared mode peerId roundId report).2 := by
  unfold onNeed
  by_cases waiting : mode.phase = .waitingForReports
  swap
  · rw [if_pos waiting]
    refine .ignore (.inl ?_)
    cases phase : mode.phase with
    | sendingData => rfl
    | waitingForReports => exact absurd phase waiting
  rw [if_neg (not_not_intro waiting)]
  by_cases current : roundId = mode.currentRoundId
  swap
  · rw [if_pos current]
    exact .ignore (.inr (.inl current))
  rw [if_neg (not_not_intro current)]
  split
  next existing present =>
    by_cases same : existing = report
    · rw [if_neg (not_not_intro same)]
      exact .ignore (.inr (.inr (same ▸ present)))
    · rw [if_pos same]
      exact .changed waiting current present same
  next absent =>
    cases report with
    | complete => exact after_report_cases waiting current absent .complete
    | plain ranges => exact .mismatch waiting current absent rfl
    | fec needs => exact after_report_cases waiting current absent (.deficits needs)

/-! ## One turn -/

theorem next_source_symbol_some {mode : FecSender} {blockId symbolId : Nat}
    (next : mode.nextSourceSymbol = some (blockId, symbolId)) :
    mode.phase = .sendingData ∧ ∃ block, mode.blocks[blockId]? = some block ∧
      symbolId = block.nextSourceSymbol ∧ symbolId < mode.symbolsPerBlock.toNat := by
  obtain ⟨found, search, next⟩ := Option.bind_eq_some_iff.mp next
  obtain ⟨block, present, same⟩ := Option.bind_eq_some_iff.mp next
  cases same
  obtain ⟨bound, fits, _⟩ := List.findIdx?_eq_some_iff_getElem.mp search
  rw [List.getElem?_eq_getElem bound] at present
  rw [Option.some.inj present] at fits
  simp only [decide_eq_true_eq] at fits
  exact ⟨fits.2, block, by rw [List.getElem?_eq_getElem bound, present], rfl, fits.1⟩

theorem next_extra_symbol_some {mode : FecSender} {blockId symbolId : Nat}
    (next : mode.nextExtraSymbol = some (blockId, symbolId)) :
    ∃ block, mode.blocks[blockId]? = some block ∧ symbolId = block.nextFountainSymbol ∧
      block.emittedExtraSymbols < block.requiredExtraSymbols := by
  unfold nextExtraSymbol at next
  split_ifs at next
  obtain ⟨found, search, next⟩ := Option.bind_eq_some_iff.mp next
  obtain ⟨block, present, same⟩ := Option.bind_eq_some_iff.mp next
  cases same
  obtain ⟨bound, fits, _⟩ := List.findIdx?_eq_some_iff_getElem.mp search
  rw [List.getElem?_eq_getElem bound] at present
  rw [Option.some.inj present] at fits
  exact ⟨block, by rw [List.getElem?_eq_getElem bound, present], rfl, of_decide_eq_true fits⟩

theorem source_symbol_payload_mode (shared : SenderShared) (mode : FecSender)
    (blockId symbolId : Nat) :
    ∃ cache, (mode.sourceSymbolPayload shared blockId symbolId).1 =
      { mode with currentSourceCache := cache } := by
  unfold sourceSymbolPayload
  simp only
  split
  · exact ⟨_, rfl⟩
  · split
    · exact ⟨_, rfl⟩
    · exact ⟨_, rfl⟩

theorem try_send_symbol_some {mode next : FecSender} {submit : Nat → SendOutcome}
    {blockId symbolId : Nat} {payload : List Byte} {frame : SessionFrame}
    (sent : mode.trySendSymbol submit blockId symbolId payload = some (next, frame)) :
    ∃ treeId ∈ mode.treeIds, ∃ cursor, next = { mode with nextTreeRr := cursor } ∧
      frame = .blockSymbol blockId symbolId treeId payload := by
  obtain ⟨idx, _, sent⟩ := Option.bind_eq_some_iff.mp sent
  obtain ⟨treeId, present, same⟩ := Option.bind_eq_some_iff.mp sent
  cases same
  exact ⟨treeId, List.mem_of_getElem? present, _, rfl, rfl⟩

/-- Where the encoder of a block comes from. -/
inductive EncoderStep (shared : SenderShared) (mode : FecSender) (blockId : Nat) :
    FecSender → Encoder → Prop
  | cached {block : FecSendBlock} {encoder : Encoder} : mode.blocks[blockId]? = some block →
      block.encoder = some encoder → EncoderStep shared mode blockId mode encoder
  | built {span : BlockSpan} {encoder : Encoder} : shared.plan.blockSpan blockId = some span →
      Encoder.fromBlock ⟨mode.symbolsPerBlock.toNat, mode.geometry.symbolSize,
          blockSeed shared.sessionId (UInt64.ofNat blockId)⟩
        (shared.source.paddedSymbolBytes span mode.geometry) = some encoder →
      EncoderStep shared mode blockId
        { mode with
          blocks := mode.blocks.modify blockId fun block =>
            { block with encoder := some encoder } } encoder

theorem ensure_encoder_cases {shared : SenderShared} {mode next : FecSender} {blockId : Nat}
    {encoder : Encoder} (ensured : mode.ensureEncoder shared blockId = some (next, encoder)) :
    EncoderStep shared mode blockId next encoder := by
  obtain ⟨block, present, ensured⟩ := Option.bind_eq_some_iff.mp ensured
  split at ensured
  next found =>
    cases ensured
    exact .cached present found
  next =>
    obtain ⟨span, inside, ensured⟩ := Option.bind_eq_some_iff.mp ensured
    obtain ⟨built, fresh, same⟩ := Option.bind_eq_some_iff.mp ensured
    cases same
    exact .built inside fresh

/-- What one turn of the FEC main loop can do. -/
inductive TurnStep (crate : FountainCrate) (shared : SenderShared) (mode : FecSender) (now : Nat) :
    SenderShared → FecSender → List SessionFrame → Turn → Prop
  | failed : mode.protocolError → TurnStep crate shared mode now shared mode [] (.done .aborted)
  | sourceBlocked {blockId symbolId : Nat} : mode.protocolError = false →
      mode.nextSourceSymbol = some (blockId, symbolId) →
      TurnStep crate shared mode now shared
        (mode.sourceSymbolPayload shared blockId symbolId).1 [] .waitSignal
  | source {blockId symbolId cursor : Nat} {treeId : UInt16} {payload : List Byte} :
      mode.protocolError = false → mode.nextSourceSymbol = some (blockId, symbolId) →
      treeId ∈ mode.treeIds →
      (mode.sourceSymbolPayload shared blockId symbolId).2 = some payload →
      TurnStep crate shared mode now shared.markPayloadEmitted
        { (mode.sourceSymbolPayload shared blockId symbolId).1 with
          nextTreeRr := cursor
          roundSourceDoneSent := false
          blocks := (mode.sourceSymbolPayload shared blockId symbolId).1.blocks.modify blockId
            fun block => { block with nextSourceSymbol := block.nextSourceSymbol + 1 } }
        [.blockSymbol blockId symbolId treeId payload] .again
  | extraStuck {blockId symbolId : Nat} : mode.protocolError = false →
      mode.nextExtraSymbol = some (blockId, symbolId) →
      TurnStep crate shared mode now shared mode [] .waitSignal
  | extraBlocked {blockId symbolId : Nat} {next : FecSender} {encoder : Encoder} :
      mode.protocolError = false → mode.nextExtraSymbol = some (blockId, symbolId) →
      EncoderStep shared mode blockId next encoder →
      TurnStep crate shared mode now shared next [] .waitSignal
  | extra {blockId symbolId cursor : Nat} {treeId : UInt16} {payload : List Byte}
      {next : FecSender} {encoder : Encoder} : mode.protocolError = false →
      mode.nextExtraSymbol = some (blockId, symbolId) →
      EncoderStep shared mode blockId next encoder → treeId ∈ mode.treeIds →
      encoder.codedSymbol crate symbolId = some payload →
      TurnStep crate shared mode now shared.markPayloadEmitted
        { next with
          nextTreeRr := cursor
          blocks := next.blocks.modify blockId fun block =>
            { block with
              emittedExtraSymbols := min (block.emittedExtraSymbols + 1) (2 ^ 16 - 1)
              nextFountainSymbol := block.nextFountainSymbol + 1 } }
        [.blockSymbol blockId symbolId treeId payload] .again
  | openEmpty : mode.protocolError = false → mode.phase = .sendingData →
      shared.activeQuorum.active = ∅ →
      TurnStep crate shared mode now shared
        { mode with
          roundReports := ∅
          phase := .waitingForReports
          roundSourceDoneSent := true
          roundComplete := true }
        [.control (.sourceDone mode.currentRoundId)] (.done .completed)
  | openRound : mode.protocolError = false → mode.phase = .sendingData →
      shared.activeQuorum.active ≠ ∅ →
      TurnStep crate shared mode now (shared.startQuorumFeedbackWait now)
        { mode with
          roundReports := ∅
          phase := .waitingForReports
          roundSourceDoneSent := true }
        [.control (.sourceDone mode.currentRoundId)] .again
  | finish : mode.protocolError = false → mode.phase = .waitingForReports →
      mode.roundReports.size = shared.activeQuorum.active.card →
      TurnStep crate shared mode now (mode.finishReportRound shared).1
        (mode.finishReportRound shared).2 [] .again
  | wait : mode.protocolError = false → mode.roundSourceDoneSent →
      (mode.phase = .waitingForReports →
        mode.roundReports.size ≠ shared.activeQuorum.active.card) →
      TurnStep crate shared mode now shared mode [] .waitFeedback

theorem turn_cases {crate : FountainCrate} {shared after : SenderShared} {mode next : FecSender}
    {now : Nat} {submit : Nat → SendOutcome} {frames : List SessionFrame} {turned : Turn}
    (flag : mode.roundSourceDoneSent = false → mode.phase = .sendingData)
    (stepped : mode.turn crate shared now submit = some (after, next, frames, turned)) :
    TurnStep crate shared mode now after next frames turned := by
  unfold turn at stepped
  by_cases failed : mode.protocolError
  · rw [if_pos failed] at stepped
    cases stepped
    exact .failed failed
  rw [if_neg failed] at stepped
  have sound := Bool.eq_false_iff.mpr failed
  cases source : mode.nextSourceSymbol with
  | some symbol =>
    obtain ⟨blockId, symbolId⟩ := symbol
    simp only [source, sendSourceSymbol] at stepped
    cases payload : (mode.sourceSymbolPayload shared blockId symbolId).2 with
    | none =>
      simp only [payload] at stepped
      cases stepped
      exact .sourceBlocked sound source
    | some bytes =>
      simp only [payload] at stepped
      split at stepped
      next =>
        cases stepped
        exact .sourceBlocked sound source
      next sentMode frame sent =>
        obtain ⟨treeId, tree, cursor, rfl, rfl⟩ := try_send_symbol_some sent
        cases stepped
        obtain ⟨cache, cached⟩ := source_symbol_payload_mode shared mode blockId symbolId
        rw [cached] at tree
        exact .source sound source tree payload
  | none =>
    simp only [source] at stepped
    cases extra : mode.nextExtraSymbol with
    | some symbol =>
      obtain ⟨blockId, symbolId⟩ := symbol
      simp only [extra] at stepped
      obtain ⟨⟨shared, mode, sent, done⟩, sending, same⟩ := Option.bind_eq_some_iff.mp stepped
      cases same
      unfold sendExtraSymbol at sending
      split at sending
      next =>
        cases sending
        exact .extraStuck sound extra
      next withEncoder encoder ensured =>
        have encoded := ensure_encoder_cases ensured
        obtain ⟨payload, coded, sending⟩ := Option.bind_eq_some_iff.mp sending
        split at sending
        next =>
          cases sending
          exact .extraBlocked sound extra encoded
        next sentMode frame accepted =>
          obtain ⟨treeId, tree, cursor, rfl, rfl⟩ := try_send_symbol_some accepted
          cases sending
          have known : treeId ∈ mode.treeIds := by
            cases encoded with
            | cached present found => exact tree
            | built inside fresh => exact tree
          exact @TurnStep.extra crate shared mode now blockId symbolId cursor treeId payload
            withEncoder encoder sound extra encoded known coded
    | none =>
      simp only [extra] at stepped
      by_cases done : mode.roundSourceDoneSent
      · rw [if_neg (not_not_intro done)] at stepped
        split_ifs at stepped with closes
        · cases stepped
          exact .finish sound closes.1 closes.2
        · cases stepped
          exact .wait sound done fun waiting count => closes ⟨waiting, count⟩
      · rw [if_pos done] at stepped
        have sending := flag (Bool.eq_false_iff.mpr done)
        obtain ⟨⟨begun, sent⟩, opening, stepped⟩ := Option.bind_eq_some_iff.mp stepped
        unfold beginReportRound at opening
        rw [if_neg (by rw [sending]; simp)] at opening
        obtain ⟨out, emitted, same⟩ := Option.bind_eq_some_iff.mp opening
        obtain ⟨rfl, -⟩ := send_frame_some emitted
        cases same
        simp only [SenderShared.activeQuorumIsEmpty, decide_eq_true_eq] at stepped
        split_ifs at stepped with empty
        · cases stepped
          exact .openEmpty sound sending empty
        · cases stepped
          exact .openRound sound sending empty

end FecSender

end Nextmini.Session
