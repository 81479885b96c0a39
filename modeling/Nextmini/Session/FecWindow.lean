import Nextmini.Session.FecRounds

/-!
# The repair window at full quorum

The window is a function of the merged deficits and of the numbers of reports and of peers, from the
first report of a round on. At full quorum it is what was asked for, unless the 32-bit sums have
wrapped or their product with the number of peers has saturated; then the main loop can turn without
doing anything.
-/

namespace Nextmini.Session

open Nextmini.Library
open Nextmini.Messages

set_option autoImplicit false

namespace FecSender

/-- The window that `recalculateRepairWindow` computes. -/
def repairWindow (totalRequired reports quorum : Nat) : Nat :=
  if totalRequired = 0 then 0
  else if clamp32 reports = 0 ∨ clamp32 quorum = 0 then 0
  else
    min (max (min (totalRequired * clamp32 reports) (2 ^ 32 - 1) ⌈/⌉ clamp32 quorum) 1) totalRequired

theorem recalculate_window (shared : SenderShared) (mode : FecSender) :
    mode.recalculateRepairWindow shared =
      { mode with
        repairWindowSymbols := repairWindow mode.totalRequiredExtraSymbols mode.roundReports.size
          shared.activeQuorum.active.card } := by
  simp only [recalculateRepairWindow, repairWindow]
  split_ifs <;> rfl

/-- The window fits the reports of an open round. -/
def WindowKept (shared : SenderShared) (mode : FecSender) : Prop :=
  mode.phase = .waitingForReports → mode.roundReports.size ≠ 0 →
    mode.repairWindowSymbols = repairWindow mode.totalRequiredExtraSymbols mode.roundReports.size
      shared.activeQuorum.active.card

variable {shared after : SenderShared} {mode next : FecSender}

theorem window_same (kept : WindowKept shared mode) (phase : next.phase = mode.phase)
    (reports : next.roundReports = mode.roundReports)
    (window : next.repairWindowSymbols = mode.repairWindowSymbols)
    (required : next.totalRequiredExtraSymbols = mode.totalRequiredExtraSymbols)
    (quorum : after.activeQuorum.active = shared.activeQuorum.active) : WindowKept after next := by
  intro waiting some
  rw [phase] at waiting
  rw [reports] at some
  rw [window, required, reports, quorum]
  exact kept waiting some

theorem window_sending (sending : mode.phase = .sendingData) : WindowKept shared mode := by
  intro waiting
  rw [sending] at waiting
  cases waiting

theorem window_unheard (unheard : mode.roundReports = ∅) : WindowKept shared mode := by
  intro _ some
  rw [unheard] at some
  exact absurd Std.ExtTreeMap.size_empty some

/-- What is asked for does not depend on the other fields of the blocks. -/
theorem total_required_congr
    (same : next.blocks.map FecSendBlock.requiredExtraSymbols =
      mode.blocks.map FecSendBlock.requiredExtraSymbols) :
    next.totalRequiredExtraSymbols = mode.totalRequiredExtraSymbols := by
  rw [totalRequiredExtraSymbols, same]
  rfl

theorem required_of_bare {before later : List FecSendBlock}
    (same : later.map FecSendBlock.bare = before.map FecSendBlock.bare) :
    later.map FecSendBlock.requiredExtraSymbols = before.map FecSendBlock.requiredExtraSymbols := by
  have required := congrArg (List.map FecSendBlock.requiredExtraSymbols) same
  rw [List.map_map, List.map_map] at required
  exact required

theorem window_finish (kept : WindowKept shared mode)
    (step : FinishStep shared mode after next) : WindowKept after next := by
  cases step with
  | mismatch member => exact kept
  | complete all => exact kept
  | pending incomplete owed => exact kept
  | advance incomplete noPlain paid => exact window_sending rfl

theorem window_heard (peerId : Nat) (report : NeedReport) (blocks : List FecSendBlock) :
    WindowKept shared ((mode.heard peerId report blocks mode.repairWindowSymbols).recalculateRepairWindow
      shared) := by
  intro _ _
  rw [recalculate_window]
  rfl

theorem window_turn {crate : FountainCrate} {now : Nat} {frames : List SessionFrame} {turned : Turn}
    (kept : WindowKept shared mode)
    (absorbed : ∀ report ∈ recorded mode.roundReports, Absorbed mode.blocks report)
    (step : TurnStep crate shared mode now after next frames turned) : WindowKept after next := by
  cases step with
  | failed failed => exact kept
  | @sourceBlocked blockId symbolId sound source =>
    obtain ⟨cache, cached⟩ := source_symbol_payload_mode shared mode blockId symbolId
    rw [cached]
    exact kept
  | @source blockId symbolId cursor treeId payload sound source tree sent =>
    obtain ⟨cache, cached⟩ := source_symbol_payload_mode shared mode blockId symbolId
    rw [cached]
    exact window_sending (next_source_symbol_some source).1
  | extraStuck sound extra => exact kept
  | extraBlocked sound extra encoded =>
    obtain ⟨blocks, rfl, same⟩ := encoder_step_blocks encoded
    exact window_same kept rfl rfl rfl (total_required_congr (required_of_bare same)) rfl
  | extra sound extra encoded tree coded =>
    obtain ⟨blocks, rfl, same⟩ := encoder_step_blocks encoded
    refine window_same kept rfl rfl rfl (total_required_congr ?_) rfl
    refine Eq.trans (map_modify blocks _ _ ?_) (required_of_bare same)
    intro block
    rfl
  | openEmpty sound sending empty => exact window_unheard rfl
  | openRound sound sending members => exact window_unheard rfl
  | finish sound waiting count => exact window_finish kept (finish_cases shared absorbed)
  | wait sound done unclosed => exact kept

/-- The tail of a report: a round that closes is closed by reports that are absorbed. -/
theorem window_after_report {peerId : Nat} {report : NeedReport} {blocks : List FecSendBlock}
    (absorbed : ∀ other ∈ recorded (mode.roundReports.insert peerId report), Absorbed blocks other) :
    WindowKept
      ((mode.heard peerId report blocks mode.repairWindowSymbols).afterReport shared).1
      ((mode.heard peerId report blocks mode.repairWindowSymbols).afterReport shared).2 := by
  have kept := @window_heard shared mode peerId report blocks
  obtain ⟨window, widened⟩ :=
    recalculate_result shared (mode.heard peerId report blocks mode.repairWindowSymbols)
  unfold afterReport
  simp only [widened] at kept ⊢
  split_ifs with closes
  · exact window_finish kept (finish_cases shared absorbed)
  · exact kept

theorem window_need {peerId : Nat} {roundId : UInt32} {report : NeedReport}
    (kept : WindowKept shared mode) (notPlain : ∀ ranges, report ≠ .plain ranges)
    (absorbed : ∀ blocks, mode.phase = .waitingForReports → roundId = mode.currentRoundId →
      mode.roundReports[peerId]? = none → MergedInto mode.blocks report blocks →
        ∀ other ∈ recorded (mode.roundReports.insert peerId report), Absorbed blocks other) :
    WindowKept (onNeed shared mode peerId roundId report).1
      (onNeed shared mode peerId roundId report).2 := by
  unfold onNeed
  by_cases waiting : mode.phase = .waitingForReports
  swap
  · rw [if_pos waiting]
    exact kept
  rw [if_neg (not_not_intro waiting)]
  by_cases current : roundId = mode.currentRoundId
  swap
  · rw [if_pos current]
    exact kept
  rw [if_neg (not_not_intro current)]
  split
  next existing present =>
    split_ifs
    · exact kept
    · exact kept
  next absent =>
    cases report with
    | complete => exact window_after_report (absorbed _ waiting current absent .complete)
    | plain ranges => exact absurd rfl (notPlain ranges)
    | fec needs => exact window_after_report (absorbed _ waiting current absent (.deficits needs))

end FecSender

/-! ## Runs -/

/-- A plain report that decodes names a range. -/
theorem decoded_plain_nonempty {bytes : List Library.BigEndian.Byte} {header : LosslessSessionHeader}
    {roundId : UInt32} {ranges : List MissingBlockRange}
    (decoded : decodeControl bytes = some (header, .need roundId (.plain ranges))) : ranges ≠ [] := by
  simp only [decodeControl, Option.bind_eq_bind, Option.bind_eq_some_iff] at decoded
  obtain ⟨⟨front, off⟩, _, decoded⟩ := decoded
  simp only at decoded
  split_ifs at decoded
  obtain ⟨control, read, checked⟩ := Option.bind_eq_some_iff.mp decoded
  obtain ⟨_, same⟩ := validated_some_iff.mp checked
  obtain ⟨-, rfl⟩ := Prod.mk.inj same
  simp only [decodeControlBody] at read
  split_ifs at read
  · obtain ⟨offered, _, impossible⟩ := Option.map_eq_some_iff.mp read
    cases impossible
  · cases read
  · cases read
  · simp only [decodeNeedBody] at read
    split_ifs at read
    obtain ⟨report, counted, valid⟩ := Option.bind_eq_some_iff.mp read
    obtain ⟨_, same⟩ := validated_some_iff.mp valid
    obtain ⟨-, rfl⟩ := LosslessSessionControl.need.inj same
    simp only [decodeReport] at counted
    split_ifs at counted with _ _ _ _ bounds
    · cases counted
    · have entries := NeedReport.plain.inj (Option.some.inj counted)
      rintro rfl
      have length := congrArg List.length entries
      rw [Library.BigEndian.read_many_length] at length
      exact bounds (.inl length)
    · cases counted

theorem accepted_not_plain {manifest : LosslessSessionManifest} {fec : LosslessSessionFecMode}
    (offered : manifest.mode = .fec fec) {bytes : List Library.BigEndian.Byte}
    {header : LosslessSessionHeader} {roundId : UInt32} {report : NeedReport}
    (decoded : decodeControl bytes = some (header, .need roundId report))
    (valid : manifest.validateControl (.need roundId report) = .ok ()) (ranges : List MissingBlockRange) :
    report ≠ .plain ranges := by
  rintro rfl
  have nonempty := decoded_plain_nonempty decoded
  obtain ⟨_, _, checked⟩ := bind_ok_iff.mp valid
  obtain ⟨_, _, checked⟩ := bind_ok_iff.mp checked
  obtain ⟨_, _, checked⟩ := bind_ok_iff.mp checked
  simp [offered, LosslessSessionMode.isFec, nonempty] at checked

structure FecWindowed (log : RoundLog) (shared : SenderShared) (mode : FecSender) : Prop where
  tracked : FecTracked log shared mode
  offered : ∃ fec, shared.manifest.mode = .fec fec
  window : FecSender.WindowKept shared mode

section Windowed

variable {log : RoundLog} {shared : SenderShared} {mode : FecSender}

theorem FecTracked.frozen_of_waiting (tracked : FecTracked log shared mode)
    (waiting : mode.phase = .waitingForReports) : shared.activeQuorum.frozen :=
  tracked.rounds.frozen_of_open (decide_eq_true waiting)

/-- No round is open before the quorum is frozen. -/
theorem FecTracked.sending_of_unfrozen (tracked : FecTracked log shared mode)
    (unfrozen : shared.activeQuorum.frozen = false) : mode.phase = .sendingData := by
  cases phase : mode.phase with
  | sendingData => rfl
  | waitingForReports =>
    rw [tracked.frozen_of_waiting phase] at unfrozen
    cases unfrozen

theorem FecWindowed.need (windowed : FecWindowed log shared mode) {frame : InboundFrame}
    {header : LosslessSessionHeader} {peerId : Nat} {roundId : UInt32} {report : NeedReport}
    (decoded : decodeControl frame.bytes = some (header, .need roundId report))
    (sender : frame.peerId = some peerId) (member : peerId ∈ shared.activeQuorum.active)
    (valid : shared.manifest.validateControl (.need roundId report) = .ok ()) :
    FecSender.WindowKept (FecSender.onNeed shared mode peerId roundId report).1
      (FecSender.onNeed shared mode peerId roundId report).2 := by
  obtain ⟨fec, offered⟩ := windowed.offered
  apply FecSender.window_need windowed.window (accepted_not_plain offered decoded valid)
  intro blocks waiting current absent merged
  subst current
  have heard : (log.extend ⟨.control frame, []⟩).Heard mode.currentRoundId peerId report :=
    RoundLog.heard_now decoded sender []
  have inside (needs : List NeedBlock) (kind : report = .fec needs) :
      ∀ need ∈ needs, need.blockId.toNat < shared.plan.totalBlocks := by
    subst kind
    exact need_blocks_inside windowed.tracked.geometry valid
  exact (@FecTracked.record _ _ _ windowed.tracked _ _ _ _ 0 waiting absent member heard inside
    merged).absorbed

theorem fec_windowed (crate : FountainCrate) : ModeTracking crate FecSender FecWindowed where
  rounds windowed := windowed.tracked.rounds
  ends windowed := windowed.tracked.ends
  extend windowed label := ⟨windowed.tracked.extend label, windowed.offered, windowed.window⟩
  same windowed quorum session :=
    ⟨windowed.tracked.same quorum session, session.manifest ▸ windowed.offered,
      FecSender.window_same windowed.window rfl rfl rfl rfl (congrArg _ quorum)⟩
  ready windowed unfrozen peerId :=
    ⟨windowed.tracked.ready unfrozen peerId, windowed.offered,
      FecSender.window_sending (windowed.tracked.sending_of_unfrozen unfrozen)⟩
  freeze windowed := by
    refine ⟨windowed.tracked.freeze, ?_,
      FecSender.window_same windowed.window rfl rfl rfl rfl (freeze_active _)⟩
    rw [(freeze_session _).manifest]
    exact windowed.offered
  start windowed := windowed
  need windowed decoded sender member valid := by
    obtain ⟨tracked, quorum, session⟩ := windowed.tracked.need decoded sender member valid
    exact ⟨⟨tracked, session.manifest ▸ windowed.offered,
      windowed.need decoded sender member valid⟩, quorum, session⟩
  turn windowed frozen result := by
    have step := FecSender.turn_cases windowed.tracked.sending_of_unsent result
    have effect := windowed.tracked.turn_effect step
    exact ⟨⟨windowed.tracked.turn frozen step, effect.session.manifest ▸ windowed.offered,
      FecSender.window_turn windowed.window windowed.tracked.absorbed step⟩, effect⟩

theorem fec_sender_windowed {task : SenderTask FecSender} (initial : fecSenders task) :
    TaskTracked FecWindowed ⟨[], []⟩ task := by
  have tracked := fec_sender_tracked initial
  obtain ⟨config, treeVisible, request, cfg, built, started⟩ := initial
  obtain ⟨plan, mode, planned, created, rfl⟩ := fec_sender_new started
  obtain ⟨fec, geometry, offered, _, rfl⟩ := fec_sender_some created
  exact ⟨⟨tracked.mode, ⟨fec, offered⟩, FecSender.window_sending rfl⟩, tracked.frozen,
    tracked.waiting, tracked.waitingOpen, tracked.finished, tracked.unfrozen⟩

theorem reachable_windowed {crate : FountainCrate} {task : SenderTask FecSender}
    (reachable : (senderSystem crate fecSenders).Reachable task) :
    ∃ log, FecWindowed log task.shared task.mode := by
  obtain ⟨start, labels, initial, run⟩ := reachable
  exact ⟨_, (run_tracked (fec_windowed crate) (fec_sender_windowed initial) run).mode⟩

end Windowed

/-! ## Full quorum -/

namespace FecSender

/-- Less was sent than asked for, by the sums of the code, and the window has not saturated. -/
def WithinBudget (shared : SenderShared) (mode : FecSender) : Prop :=
  mode.totalEmittedExtraSymbols < mode.totalRequiredExtraSymbols ∧
    mode.totalEmittedExtraSymbols * clamp32 shared.activeQuorum.active.card < 2 ^ 32 - 1

theorem lt_repair_window_iff {emitted required quorum : Nat} (members : quorum ≠ 0) :
    emitted < repairWindow required quorum quorum ↔
      emitted < required ∧ emitted * clamp32 quorum < 2 ^ 32 - 1 := by
  have positive : 0 < clamp32 quorum := by
    simp only [clamp32]
    omega
  rw [repairWindow]
  by_cases none : required = 0
  · rw [if_pos none, none]
    omega
  · rw [if_neg none, if_neg (by omega)]
    generalize clamp32 quorum = peers at positive ⊢
    have wide : 1 ≤ min (required * peers) (2 ^ 32 - 1) := by
      have product : 0 < required * peers := Nat.mul_pos (Nat.pos_of_ne_zero none) positive
      omega
    have atLeastOne : 1 ≤ min (required * peers) (2 ^ 32 - 1) ⌈/⌉ peers := by
      by_contra small
      have bound := (ceilDiv_le_iff_le_mul positive).mp (Nat.lt_one_iff.mp (not_le.mp small)).le
      omega
    have below : emitted < min (required * peers) (2 ^ 32 - 1) ⌈/⌉ peers ↔
        emitted * peers < min (required * peers) (2 ^ 32 - 1) := by
      rw [← not_le, ceilDiv_le_iff_le_mul positive, not_le, mul_comm]
    rw [max_eq_left atLeastOne, lt_min_iff, below, lt_min_iff, Nat.mul_lt_mul_right positive]
    tauto

/-- With a block that is owed symbols, the next one is held back by the window only. -/
theorem next_extra_symbol_iff {mode : FecSender} (pending : mode.hasPendingRepairWork) :
    mode.nextExtraSymbol.isSome ↔ mode.totalEmittedExtraSymbols < mode.repairWindowSymbols := by
  rw [nextExtraSymbol]
  split_ifs with closed
  · exact iff_of_false (by simp) (Nat.not_lt.mpr closed)
  · refine iff_of_true ?_ (Nat.not_le.mp closed)
    have found : (mode.blocks.findIdx? fun block =>
        block.emittedExtraSymbols < block.requiredExtraSymbols).isSome := by
      rw [List.findIdx?_isSome]
      exact pending
    obtain ⟨blockId, search⟩ := Option.isSome_iff_exists.mp found
    have bound := (List.findIdx?_eq_some_iff_getElem.mp search).1
    simp [search, List.getElem?_eq_getElem bound]

variable {crate : FountainCrate} {task : SenderTask FecSender}

theorem reports_size {reports : ReportMap} {members : Finset Nat}
    (known : ∀ peerId ∈ reports, peerId ∈ members)
    (all : ∀ peerId ∈ members, reports[peerId]? ≠ none) : reports.size = members.card := by
  have same : reports.keys.toFinset = members := by
    ext peerId
    rw [List.mem_toFinset, Std.ExtTreeMap.mem_keys]
    constructor
    · exact known peerId
    · intro member
      obtain ⟨report, present⟩ := Option.ne_none_iff_exists'.mp (all peerId member)
      exact Std.ExtTreeMap.mem_iff_isSome_getElem?.mpr (Option.isSome_iff_exists.mpr ⟨report, present⟩)
  rw [← same, List.toFinset_card_of_nodup Std.ExtTreeMap.nodup_keys, Std.ExtTreeMap.length_keys]

theorem pending_asked {log : RoundLog} {shared : SenderShared} {mode : FecSender}
    (tracked : FecTracked log shared mode) (pending : mode.hasPendingRepairWork) :
    ∃ report ∈ recorded mode.roundReports, report ≠ .complete := by
  obtain ⟨block, member, owed⟩ := List.any_eq_true.mp pending
  obtain ⟨blockId, present⟩ := List.getElem?_of_mem member
  exact (tracked.blocks blockId block present).asked
    (Nat.zero_lt_of_lt (of_decide_eq_true owed))

/-- A round that is owed symbols stays as it is when it is to be closed. -/
theorem finish_pending {log : RoundLog} {shared : SenderShared} {mode : FecSender}
    (tracked : FecTracked log shared mode) (pending : mode.hasPendingRepairWork)
    (sound : mode.protocolError = false) : mode.finishReportRound shared = (shared, mode) := by
  obtain ⟨asking, asked, incomplete⟩ := pending_asked tracked pending
  have step := finish_cases shared tracked.absorbed
  apply Prod.ext
  all_goals
    generalize (mode.finishReportRound shared).1 = after at step ⊢
    generalize (mode.finishReportRound shared).2 = next at step ⊢
    cases step with
    | mismatch member => exact absurd member (tracked.matched sound _)
    | complete all => exact absurd (all asking asked) incomplete
    | pending incomplete owed => rfl
    | advance incomplete noPlain paid =>
      rw [pending] at paid
      cases paid

theorem extra_turn_busy {shared : SenderShared} {mode : FecSender} {blockId symbolId : Nat}
    (noSource : mode.nextSourceSymbol = none) (sound : mode.protocolError = false)
    (extra : mode.nextExtraSymbol = some (blockId, symbolId)) (now : Nat)
    (submit : Nat → SendOutcome) :
    mode.turn crate shared now submit ≠ some (shared, mode, [], .again) := by
  intro turned
  rw [turn, if_neg (by simp [sound])] at turned
  simp only [noSource, extra] at turned
  obtain ⟨⟨later, next, sent, done⟩, sending, same⟩ := Option.bind_eq_some_iff.mp turned
  simp only [Option.some.injEq, Prod.mk.injEq] at same
  obtain ⟨-, -, rfl, again⟩ := same
  have notSent : done = false := by
    unfold sendExtraSymbol at sending
    split at sending
    next =>
      cases sending
      rfl
    next =>
      obtain ⟨payload, _, sending⟩ := Option.bind_eq_some_iff.mp sending
      split at sending
      next =>
        cases sending
        rfl
      next => cases sending
  rw [notSent] at again
  cases again

/-- A sender that owes symbols at full quorum keeps turning without a wait exactly when it has no
next symbol. -/
theorem full_quorum_turn {log : RoundLog} {shared : SenderShared} {mode : FecSender}
    (tracked : FecTracked log shared mode) (waiting : mode.phase = .waitingForReports)
    (count : mode.roundReports.size = shared.activeQuorum.active.card)
    (pending : mode.hasPendingRepairWork) (sound : mode.protocolError = false)
    (now : Nat) (submit : Nat → SendOutcome) :
    mode.turn crate shared now submit = some (shared, mode, [], .again) ↔
      mode.nextExtraSymbol = none := by
  have noSource : mode.nextSourceSymbol = none := by
    cases source : mode.nextSourceSymbol with
    | none => rfl
    | some symbol =>
      have sending := (next_source_symbol_some source).1
      rw [waiting] at sending
      cases sending
  constructor
  · intro turned
    cases extra : mode.nextExtraSymbol with
    | none => rfl
    | some symbol =>
      obtain ⟨blockId, symbolId⟩ := symbol
      exact absurd turned (extra_turn_busy noSource sound extra now submit)
  · intro extra
    have unchanged := finish_pending tracked pending sound
    rw [turn, if_neg (by simp [sound])]
    simp only [noSource, extra, tracked.flag.mpr waiting, waiting, count, unchanged]
    simp

end FecSender

end Nextmini.Session
