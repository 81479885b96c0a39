import Nextmini.Session.NeedOrder

/-!
# The repair window within a round

In an open round only first reports change what is asked for and the repair window. The window grows
with both the number of reports and the symbols asked for, as long as the 32-bit sum of these does not
wrap; a report that makes the sum wrap can close the window again.
-/

namespace Nextmini.Session

open Nextmini.Library
open Nextmini.Messages

set_option autoImplicit false

namespace FecSender

theorem repair_window_le (totalRequired reports quorum : Nat) :
    repairWindow totalRequired reports quorum ≤ totalRequired := by
  simp only [repairWindow]
  split_ifs
  · exact Nat.zero_le _
  · exact Nat.zero_le _
  · exact min_le_right _ _

theorem repair_window_mono {required more reports later : Nat} (quorum : Nat)
    (asked : required ≤ more) (heard : reports ≤ later) :
    repairWindow required reports quorum ≤ repairWindow more later quorum := by
  have count : clamp32 reports ≤ clamp32 later := min_le_min_right _ heard
  rw [repairWindow, repairWindow]
  by_cases none : required = 0
  · rw [if_pos none]
    exact Nat.zero_le _
  by_cases unheard : clamp32 reports = 0 ∨ clamp32 quorum = 0
  · rw [if_neg none, if_pos unheard]
    exact Nat.zero_le _
  have members : 0 < clamp32 quorum := by omega
  rw [if_neg none, if_neg unheard, if_neg (by omega), if_neg (by omega)]
  refine min_le_min (max_le_max ?_ le_rfl) asked
  rw [ceilDiv_le_iff_le_mul members]
  refine le_trans (min_le_min_right _ (Nat.mul_le_mul asked count)) ?_
  exact le_smul_ceilDiv members

/-! ## What reports ask for -/

def reportedDeficit (needs : List NeedBlock) (blockId : Nat) : Nat :=
  ((needs.filter fun need => need.blockId.toNat = blockId).map
    fun need => need.deficitSymbols.toNat).foldr max 0

/-- The symbols that the blocks and a report ask for together. -/
def requiredWith (blocks : List FecSendBlock) (needs : List NeedBlock) : Nat :=
  (blocks.mapIdx fun blockId block =>
    max block.requiredExtraSymbols (reportedDeficit needs blockId)).sum

def requiredSum (blocks : List FecSendBlock) : Nat :=
  (blocks.map FecSendBlock.requiredExtraSymbols).sum

theorem merge_deficits_getElem? (blocks : List FecSendBlock) (needs : List NeedBlock)
    (blockId : Nat) :
    (mergeDeficits blocks needs)[blockId]? = blocks[blockId]?.map fun block =>
      { block with
        requiredExtraSymbols := max block.requiredExtraSymbols (reportedDeficit needs blockId) } := by
  induction needs generalizing blocks with
  | nil =>
    show blocks[blockId]? = _
    cases blocks[blockId]? with
    | none => rfl
    | some block => simp [reportedDeficit]
  | cons need rest induction =>
    rw [merge_deficits_cons, induction, mergeDeficit, List.getElem?_modify]
    cases blocks[blockId]? with
    | none => rfl
    | some block =>
      by_cases here : need.blockId.toNat = blockId
      · simp [here, reportedDeficit, max_assoc]
      · simp [here, reportedDeficit]

theorem merged_sum (blocks : List FecSendBlock) (needs : List NeedBlock) :
    requiredSum (mergeDeficits blocks needs) = requiredWith blocks needs := by
  have same : (mergeDeficits blocks needs).map FecSendBlock.requiredExtraSymbols =
      blocks.mapIdx fun blockId block =>
        max block.requiredExtraSymbols (reportedDeficit needs blockId) := by
    apply List.ext_getElem?
    intro blockId
    rw [List.getElem?_map, merge_deficits_getElem?, List.getElem?_mapIdx]
    cases blocks[blockId]? <;> rfl
  rw [requiredSum, same, requiredWith]

theorem required_sum_le (blocks : List FecSendBlock) (needs : List NeedBlock) :
    requiredSum blocks ≤ requiredWith blocks needs := by
  rw [requiredSum, requiredWith]
  generalize reportedDeficit needs = deficit
  induction blocks generalizing deficit with
  | nil => exact le_rfl
  | cons block rest induction =>
    rw [List.map_cons, List.sum_cons, List.mapIdx_cons, List.sum_cons]
    exact Nat.add_le_add (le_max_left _ _) (induction fun blockId => deficit (blockId + 1))

/-! ## One step -/

/-- Before the first report of a round the window is closed. -/
def Quiet (mode : FecSender) : Prop :=
  (mode.phase = .sendingData → mode.roundReports = ∅) ∧
    (mode.roundReports = ∅ → mode.repairWindowSymbols = 0)

/-- What a step without a first report does to the window. -/
inductive WindowStep (mode next : FecSender) : Prop
  | kept : next.phase = mode.phase → next.roundReports = mode.roundReports →
      next.repairWindowSymbols = mode.repairWindowSymbols → WindowStep mode next
  | opened : mode.phase = .sendingData → next.roundReports = ∅ →
      next.repairWindowSymbols = mode.repairWindowSymbols → WindowStep mode next
  | closed : next.phase = .sendingData → next.roundReports = ∅ → next.repairWindowSymbols = 0 →
      WindowStep mode next

variable {crate : FountainCrate} {shared after : SenderShared} {mode next : FecSender}

theorem Quiet.step (quiet : Quiet mode) (step : WindowStep mode next) : Quiet next := by
  cases step with
  | kept phase reports window =>
    rw [Quiet, phase, reports, window]
    exact quiet
  | opened sending reports window =>
    rw [Quiet, reports, window]
    exact ⟨fun _ => rfl, fun _ => quiet.2 (quiet.1 sending)⟩
  | closed sending reports window =>
    rw [Quiet, reports, window]
    exact ⟨fun _ => rfl, fun _ => rfl⟩

theorem finish_window (shared : SenderShared) (mode : FecSender) :
    WindowStep mode (mode.finishReportRound shared).2 := by
  unfold finishReportRound
  generalize mergeReports (recorded mode.roundReports) mode.blocks true = merged
  rcases merged with ⟨blocks, allComplete, mismatch⟩
  simp only
  split_ifs
  · exact .kept rfl rfl rfl
  · exact .kept rfl rfl rfl
  · exact .kept rfl rfl rfl
  · exact .closed rfl rfl rfl

theorem turn_window {now : Nat} {frames : List SessionFrame} {turned : Turn}
    (step : TurnStep crate shared mode now after next frames turned) : WindowStep mode next := by
  cases step with
  | failed failed => exact .kept rfl rfl rfl
  | @sourceBlocked blockId symbolId sound source =>
    obtain ⟨cache, cached⟩ := source_symbol_payload_mode shared mode blockId symbolId
    rw [cached]
    exact .kept rfl rfl rfl
  | @source blockId symbolId cursor treeId payload sound source tree sent =>
    obtain ⟨cache, cached⟩ := source_symbol_payload_mode shared mode blockId symbolId
    rw [cached]
    exact .kept rfl rfl rfl
  | extraStuck sound extra => exact .kept rfl rfl rfl
  | extraBlocked sound extra encoded =>
    obtain ⟨blocks, rfl, same⟩ := encoder_step_blocks encoded
    exact .kept rfl rfl rfl
  | extra sound extra encoded tree coded =>
    obtain ⟨blocks, rfl, same⟩ := encoder_step_blocks encoded
    exact .kept rfl rfl rfl
  | openEmpty sound sending empty => exact .opened sending rfl rfl
  | openRound sound sending members => exact .opened sending rfl rfl
  | finish sound waiting count => exact finish_window shared mode
  | wait sound done unclosed => exact .kept rfl rfl rfl

theorem control_window (frozen : mode.phase = .waitingForReports → shared.activeQuorum.frozen)
    (frame : InboundFrame) :
    (∃ peerId report, FirstNeed shared mode frame peerId report) ∨
      WindowStep mode (handleControl shared mode frame).2 := by
  have step := handle_control_cases shared mode frame
  generalize (handleControl shared mode frame).1 = after at step
  generalize (handleControl shared mode frame).2 = next at step ⊢
  cases step with
  | ignore => exact .inr (.kept rfl rfl rfl)
  | ready decoded sender unfrozen known => exact .inr (.kept rfl rfl rfl)
  | @need header peerId roundId report decoded sender member valid =>
    by_cases first : mode.phase = .waitingForReports ∧ roundId = mode.currentRoundId ∧
        mode.roundReports[peerId]? = none
    · obtain ⟨waiting, rfl, unheard⟩ := first
      exact .inl ⟨peerId, report, ⟨⟨header, decoded⟩, sender, frozen waiting, member, valid,
        decide_eq_true waiting⟩, unheard⟩
    · refine .inr ?_
      have step := on_need_cases shared mode peerId roundId report
      show WindowStep mode (onNeed shared mode peerId roundId report).2
      generalize (onNeed shared mode peerId roundId report).1 = after at step
      generalize (onNeed shared mode peerId roundId report).2 = next at step ⊢
      cases step with
      | ignore reason => exact .kept rfl rfl rfl
      | changed waiting current present different => exact .kept rfl rfl rfl
      | mismatch waiting current absent kind => exact absurd ⟨waiting, current, absent⟩ first
      | record waiting current absent given => exact absurd ⟨waiting, current, absent⟩ first
      | recordLast waiting current absent given count =>
        exact absurd ⟨waiting, current, absent⟩ first

/-- The sender after a first report, unless the report closed the round. -/
theorem first_need_window {frame : InboundFrame} {peerId : Nat} {report : NeedReport}
    (offered : ∃ fec, shared.manifest.mode = .fec fec)
    (need : FirstNeed shared mode frame peerId report) :
    WindowStep ((mode.merged peerId report).recalculateRepairWindow shared)
      (handleControl shared mode frame).2 := by
  rw [handled offered need, afterReport]
  split_ifs
  · exact finish_window shared _
  · exact .kept rfl rfl rfl

theorem Quiet.control (quiet : Quiet mode) (offered : ∃ fec, shared.manifest.mode = .fec fec)
    (frozen : mode.phase = .waitingForReports → shared.activeQuorum.frozen) (frame : InboundFrame) :
    Quiet (handleControl shared mode frame).2 := by
  rcases control_window frozen frame with ⟨peerId, report, need⟩ | step
  · refine Quiet.step ?_ (first_need_window offered need)
    have waiting : mode.phase = .waitingForReports := of_decide_eq_true need.opened
    have some : mode.roundReports.insert peerId report ≠ ∅ := by
      intro none
      have absent := congrArg (fun reports : ReportMap => reports[peerId]?) none
      simp at absent
    rw [recalculate_window]
    constructor
    · intro sending
      cases waiting.symm.trans sending
    · exact fun none => absurd none some
  · exact quiet.step step

/-! ## Runs -/

theorem reachable_quiet {task : SenderTask FecSender}
    (reachable : (senderSystem crate fecSenders).Reachable task) : Quiet task.mode := by
  obtain ⟨start, labels, initial, run⟩ := reachable
  refine TransitionSystem.history_of_run (motive := fun _ task => Quiet task.mode) run ?_ ?_
  · obtain ⟨config, treeVisible, request, cfg, built, started⟩ := initial
    obtain ⟨plan, mode, planned, created, rfl⟩ := fec_sender_new started
    obtain ⟨fec, geometry, offered, _, rfl⟩ := fec_sender_some created
    exact ⟨fun _ => rfl, fun _ => rfl⟩
  · intro before task label following passed quiet stepped
    obtain ⟨log, windowed⟩ := reachable_windowed ⟨start, before, initial, passed⟩
    cases fec_step_cases windowed.tracked.sending_of_unsent stepped with
    | idle same =>
      rw [same]
      exact quiet
    | @control frame following shared handled =>
      rw [handled]
      exact quiet.control windowed.offered windowed.tracked.frozen_of_waiting frame
    | turn turned step => exact quiet.step (turn_window step)

/-- In every open round the window is a function of the symbols asked for and of the reports. -/
theorem reachable_window {task : SenderTask FecSender}
    (reachable : (senderSystem crate fecSenders).Reachable task)
    (waiting : task.mode.phase = .waitingForReports) :
    task.mode.repairWindowSymbols = repairWindow task.mode.totalRequiredExtraSymbols
      task.mode.roundReports.size task.shared.activeQuorum.active.card := by
  by_cases unheard : task.mode.roundReports.size = 0
  · have none := Std.ExtTreeMap.eq_empty_iff_size_eq_zero.mpr unheard
    have noReports : clamp32 0 = 0 := rfl
    rw [(reachable_quiet reachable).2 none, unheard, repairWindow, noReports]
    split_ifs with _ members
    · rfl
    · rfl
    · exact absurd (.inl rfl) members
  · obtain ⟨log, windowed⟩ := reachable_windowed reachable
    exact windowed.window waiting unheard

/-- Whatever the sums, the window is not larger than what is asked for. -/
theorem reachable_window_le {task : SenderTask FecSender}
    (reachable : (senderSystem crate fecSenders).Reachable task)
    (waiting : task.mode.phase = .waitingForReports) :
    task.mode.repairWindowSymbols ≤ requiredSum task.mode.blocks := by
  rw [reachable_window reachable waiting]
  exact (repair_window_le _ _ _).trans (Nat.mod_le _ _)

/-- A first report of deficits keeps what is asked for below 2^32 symbols. -/
def SumsFit (task : SenderTask FecSender) (label : SenderLabel) : Prop :=
  ∀ frame peerId needs, label.event = .control frame →
    FirstNeed task.shared task.mode frame peerId (.fec needs) →
      requiredWith task.mode.blocks needs < 2 ^ 32

theorem merged_window_le (peerId : Nat) {report : NeedReport}
    (windowFits : mode.repairWindowSymbols = repairWindow mode.totalRequiredExtraSymbols
      mode.roundReports.size shared.activeQuorum.active.card)
    (fits : ∀ needs, report = .fec needs → requiredWith mode.blocks needs < 2 ^ 32) :
    mode.repairWindowSymbols ≤
      ((mode.merged peerId report).recalculateRepairWindow shared).repairWindowSymbols := by
  have heard : mode.roundReports.size ≤ (mode.roundReports.insert peerId report).size :=
    Std.ExtTreeMap.size_le_size_insert
  have asked : mode.totalRequiredExtraSymbols ≤
      (mode.merged peerId report).totalRequiredExtraSymbols := by
    cases report with
    | complete => exact le_rfl
    | plain ranges => exact le_rfl
    | fec needs =>
      have room := fits needs rfl
      have more := required_sum_le mode.blocks needs
      have sum : (mode.merged peerId (.fec needs)).totalRequiredExtraSymbols =
          requiredWith mode.blocks needs := by
        rw [← merged_sum]
        rw [← merged_sum] at room
        exact Nat.mod_eq_of_lt room
      rw [sum]
      exact (Nat.mod_le _ _).trans more
  rw [windowFits, recalculate_window]
  exact repair_window_mono _ asked heard

theorem window_step_eq (step : WindowStep mode next) (still : next.phase = .waitingForReports) :
    next.repairWindowSymbols = mode.repairWindowSymbols := by
  cases step with
  | kept phase reports window => exact window
  | opened sending reports window => exact window
  | closed sending reports window => cases still.symm.trans sending

theorem window_grows {task following : SenderTask FecSender} {label : SenderLabel}
    (reachable : (senderSystem crate fecSenders).Reachable task)
    (waiting : task.mode.phase = .waitingForReports)
    (still : following.mode.phase = .waitingForReports) (fits : SumsFit task label)
    (stepped : task.step crate label.event = some (following, label.frames)) :
    task.mode.repairWindowSymbols ≤ following.mode.repairWindowSymbols := by
  obtain ⟨log, windowed⟩ := reachable_windowed reachable
  cases fec_step_cases windowed.tracked.sending_of_unsent stepped with
  | idle same => rw [same]
  | @control frame following shared handled =>
    rw [handled] at still ⊢
    rcases control_window windowed.tracked.frozen_of_waiting frame with
      ⟨peerId, report, need⟩ | step
    · rw [window_step_eq (first_need_window windowed.offered need) still]
      apply merged_window_le peerId (reachable_window reachable waiting)
      rintro needs rfl
      exact fits frame peerId needs rfl need
    · exact (window_step_eq step still).ge
  | turn turned step => exact (window_step_eq (turn_window step) still).ge

end FecSender

/-! ## Order and growth -/

/-- Valid first reports of distinct quorum peers for an open round lead to one state in every order,
of a plain sender and of an FEC sender; and along every run within a round, whose reports keep the sum
of the deficits below 2^32, the repair window never shrinks and never exceeds what is asked for. -/
theorem FecSender.reports_merge_in_any_order (crate : FountainCrate) :
    (∀ (task : SenderTask PlainSender) (frames reordered : List InboundFrame),
      FirstNeeds task.shared task.mode frames → frames.Perm reordered →
        handleControls (task.shared, task.mode) frames =
          handleControls (task.shared, task.mode) reordered) ∧
    (∀ (task : SenderTask FecSender) (frames reordered : List InboundFrame),
      (senderSystem crate fecSenders).Reachable task →
      FirstNeeds task.shared task.mode frames → frames.Perm reordered →
        handleControls (task.shared, task.mode) frames =
          handleControls (task.shared, task.mode) reordered) ∧
    ∀ (task finish : SenderTask FecSender) (labels : List SenderLabel),
      (senderSystem crate fecSenders).Reachable task → task.mode.phase = .waitingForReports →
      (((senderSystem crate fecSenders).restrict FecSender.SumsFit).through
        fun task => task.mode.phase = .waitingForReports).Run task labels finish →
        task.mode.repairWindowSymbols ≤ finish.mode.repairWindowSymbols ∧
          finish.mode.repairWindowSymbols ≤ FecSender.requiredSum finish.mode.blocks := by
  refine ⟨?_, ?_, ?_⟩
  · intro task frames reordered needs order
    exact PlainSender.needs_commute.any_order trivial needs order
  · intro task frames reordered reachable needs order
    obtain ⟨log, windowed⟩ := reachable_windowed reachable
    exact FecSender.needs_commute.any_order
      ⟨windowed.tracked.rounds.members, windowed.offered⟩ needs order
  · intro task finish labels reachable waiting run
    have grown : (senderSystem crate fecSenders).Reachable finish ∧
        finish.mode.phase = .waitingForReports ∧
        task.mode.repairWindowSymbols ≤ finish.mode.repairWindowSymbols := by
      refine TransitionSystem.run_preserves
        (motive := fun state => (senderSystem crate fecSenders).Reachable state ∧
          state.mode.phase = .waitingForReports ∧
          task.mode.repairWindowSymbols ≤ state.mode.repairWindowSymbols) ?_ run
        ⟨reachable, waiting, le_rfl⟩
      rintro state label next ⟨reached, waiting, grown⟩ ⟨still, fits, stepped⟩
      exact ⟨reached.step stepped, still,
        grown.trans (FecSender.window_grows reached waiting still fits stepped)⟩
    exact ⟨grown.2.2, FecSender.reachable_window_le grown.1 grown.2.1⟩

namespace UnitTransfer

variable {transfer : UnitTransfer} {crate : FountainCrate} {heard : Nat}
  {cache : Option (Nat × List (List Library.BigEndian.Byte))} {emitted : Bool} {reports : ReportMap}
  {window : Nat}

theorem reporting_required : FecSender.requiredSum
    (transfer.reporting heard cache emitted reports window).mode.blocks =
      heard * transfer.perPeer * transfer.deficit := by
  simp [FecSender.requiredSum, reporting, mode, partly, askedBlock, sentBlock]

theorem heard_size (before : HeardFrom heard reports) : reports.size = heard := by
  have size : reports.size = (Finset.range heard).card := by
    apply FecSender.reports_size
    · intro peerId present
      exact Finset.mem_range.mpr ((before peerId).mp present)
    · intro peerId member
      have present := (before peerId).mpr (Finset.mem_range.mp member)
      exact Option.isSome_iff_ne_none.mp (Std.ExtTreeMap.mem_iff_isSome_getElem?.mp present)
  rw [size, Finset.card_range]

theorem reporting_window (before : HeardFrom heard reports)
    (reached : (senderSystem crate fecSenders).Reachable
      (transfer.reporting heard cache emitted reports window)) :
    window = FecSender.repairWindow (heard * transfer.perPeer * transfer.deficit % 2 ^ 32) heard
      transfer.peers := by
  have fits := FecSender.reachable_window reached rfl
  have required : (transfer.reporting heard cache emitted reports window).mode.totalRequiredExtraSymbols =
      heard * transfer.perPeer * transfer.deficit % 2 ^ 32 :=
    congrArg (· % 2 ^ 32) reporting_required
  have members : (transfer.reporting heard cache emitted reports window).shared.activeQuorum.active.card =
      transfer.peers := Finset.card_range _
  rw [required, members] at fits
  have count : (transfer.reporting heard cache emitted reports window).mode.roundReports.size = heard :=
    heard_size before
  rw [count] at fits
  exact fits

theorem first_report {peerId : Nat} (known : peerId < transfer.peers) (unheard : heard ≤ peerId)
    (before : HeardFrom heard reports) : ∃ bytes,
    FirstNeed (transfer.reporting heard cache emitted reports window).shared
      (transfer.reporting heard cache emitted reports window).mode ⟨bytes, some peerId⟩ peerId
      (.fec (transfer.needs peerId)) := by
  have own : (LosslessSessionControl.need 0 (.fec (transfer.needs peerId))).validate = .ok () :=
    needs_valid known
  have nonempty : transfer.needs peerId ≠ [] := by
    simp [needs, transfer.somePerPeer.ne']
  have absent : reports[peerId]? = none :=
    Std.ExtTreeMap.getElem?_eq_none fun present => absurd ((before peerId).mp present) (by omega)
  obtain ⟨bytes, encoded⟩ : ∃ bytes,
      encodeControl 0 (.need 0 (.fec (transfer.needs peerId))) = some bytes :=
    ⟨_, (encode_control_some_iff 0 _ _).mpr ⟨own, rfl⟩⟩
  have decoded := decode_control_encode encoded
  simp only [LosslessSessionControl.canonical, NeedReport.canonical, nonempty, if_false] at decoded
  exact ⟨bytes, ⟨⟨_, decoded⟩, rfl, rfl, Finset.mem_range.mpr known, needs_accepted known, rfl⟩, absent⟩

end UnitTransfer

def twoDeficits : UnitTransfer :=
  ⟨2, 1, 1, by decide, soleDeficit.somePerPeer, soleDeficit.someDeficit, soleDeficit.entriesFit,
    soleDeficit.deficitFits, by decide⟩

theorem two_deficits_merge : ∃ task first second,
    (senderSystem idleCrate fecSenders).Reachable task ∧
    FirstNeeds task.shared task.mode [first, second] ∧
    handleControls (task.shared, task.mode) [first, second] =
      handleControls (task.shared, task.mode) [second, first] ∧
    task.mode.repairWindowSymbols ≤ FecSender.requiredSum task.mode.blocks := by
  obtain ⟨cache, emitted, reports, window, before, reached⟩ :=
    @UnitTransfer.reports_reached twoDeficits idleCrate 0 (by decide)
  obtain ⟨bytes, first⟩ := @UnitTransfer.first_report twoDeficits 0 cache emitted reports window 0
    (by decide) le_rfl before
  obtain ⟨others, second⟩ := @UnitTransfer.first_report twoDeficits 0 cache emitted reports window 1
    (by decide) (by decide) before
  have needs : FirstNeeds (twoDeficits.reporting 0 cache emitted reports window).shared
      (twoDeficits.reporting 0 cache emitted reports window).mode
      [⟨bytes, some 0⟩, ⟨others, some 1⟩] := by
    refine ⟨?_, by simp⟩
    intro frame member
    rcases List.mem_pair.mp member with rfl | rfl
    · exact ⟨0, _, first⟩
    · exact ⟨1, _, second⟩
  have merged := FecSender.reports_merge_in_any_order idleCrate
  exact ⟨_, _, _, reached, needs, merged.2.1 _ _ _ reached needs (.swap _ _ []),
    (merged.2.2 _ _ [] reached rfl .nil).2⟩

/-- The last of the reports that ask for 2^32 symbols together closes the window that the others have
opened. -/
theorem wrapped_report_closes_window : ∃ task label next,
    (senderSystem idleCrate fecSenders).Reachable task ∧
    (senderSystem idleCrate fecSenders).step task label next ∧
    task.mode.phase = .waitingForReports ∧ next.mode.phase = .waitingForReports ∧
    next.mode.repairWindowSymbols < task.mode.repairWindowSymbols := by
  obtain ⟨cache, emitted, reports, window, before, reached⟩ :=
    @UnitTransfer.reports_reached wrappedDeficits idleCrate 31 (by decide)
  obtain ⟨bytes, wider, stepped⟩ :=
    @UnitTransfer.report_heard wrappedDeficits idleCrate 31 (by decide) cache emitted reports before window
  have opened := UnitTransfer.reporting_window before reached
  have closed := UnitTransfer.reporting_window (before.next _) (reachable_step reached stepped)
  refine ⟨_, ⟨.control ⟨bytes, some 31⟩, []⟩, _, reached, stepped, rfl, rfl, ?_⟩
  show wider < window
  rw [opened, closed]
  decide

end Nextmini.Session
