import Nextmini.Session.RoundDiscipline

/-!
# What a control frame can change

A sender takes in a Ready of a configured receiver before its quorum is frozen, and one report of
each quorum peer for the open round. A second, different report of a peer is an error that ends the
session. Every other frame leaves the sender as it is.
-/

namespace Nextmini.Session

open Nextmini.Library
open Nextmini.Messages

set_option autoImplicit false

/-- A Ready of a configured receiver before the quorum is frozen. -/
def AcceptsReady (shared : SenderShared) (frame : InboundFrame) : Prop :=
  ∃ header peerId, decodeControl frame.bytes = some (header, .ready) ∧
    frame.peerId = some peerId ∧ shared.activeQuorum.frozen = false ∧
    peerId ∈ shared.activeQuorum.configured

section Effects

variable {Mode : Type} [RoundView Mode]

/-- A report of a quorum peer for the open round that the manifest accepts. -/
structure ReportsOpenRound (shared : SenderShared) (mode : Mode) (frame : InboundFrame)
    (peerId : Nat) (report : NeedReport) : Prop where
  decoded : ∃ header,
    decodeControl frame.bytes = some (header, .need (SenderLoop.openRoundId mode) report)
  sender : frame.peerId = some peerId
  frozen : shared.activeQuorum.frozen
  member : peerId ∈ shared.activeQuorum.active
  valid : shared.manifest.validateControl (.need (SenderLoop.openRoundId mode) report) = .ok ()
  opened : RoundView.roundOpen mode

/-- The first report of a quorum peer for the open round. -/
def AcceptsNeed (shared : SenderShared) (mode : Mode) (frame : InboundFrame) : Prop :=
  ∃ peerId report, ReportsOpenRound shared mode frame peerId report ∧
    (RoundView.reports mode)[peerId]? = none

/-- A report that differs from the one recorded for the same peer and round. -/
def ChangesNeed (shared : SenderShared) (mode : Mode) (frame : InboundFrame) : Prop :=
  ∃ peerId report existing, ReportsOpenRound shared mode frame peerId report ∧
    (RoundView.reports mode)[peerId]? = some existing ∧ existing ≠ report

/-- The task has ended aborted, or its next turn ends it so. -/
def EndsAborted (crate : FountainCrate) (task : SenderTask Mode) : Prop :=
  task.stage = .finished .aborted ∨
    task.stage = .transferring ∧
      ∀ now submit, task.step crate (.turn now submit) = some (task.finish .aborted, [])

/-- What an inbound frame can do to a task. -/
structure Noninterference (crate : FountainCrate)
    (system : TransitionSystem (SenderTask Mode) SenderLabel) (task : SenderTask Mode) : Prop where
  changesOnly : ∀ frame, handleControl task.shared task.mode frame ≠ (task.shared, task.mode) →
    AcceptsReady task.shared frame ∨ AcceptsNeed task.shared task.mode frame ∨
      ChangesNeed task.shared task.mode frame
  changedNeed : ∀ frame, ChangesNeed task.shared task.mode frame →
    handleControl task.shared task.mode frame = (task.shared, RoundView.fail task.mode) ∧
      ∀ next labels last, system.step task ⟨.control frame, []⟩ next →
        system.Run next labels last → EndsAborted crate last
  quorum : task.shared.activeQuorum.frozen → ∀ label next, system.step task label next →
    next.shared.activeQuorum = task.shared.activeQuorum

/-- How a mode treats reports that it does not record, and its own protocol error. -/
structure NeedDiscipline (crate : FountainCrate) (Mode : Type) [RoundView Mode] : Prop where
  ignored : ∀ {shared} {mode : Mode} {peerId roundId report},
    RoundView.roundOpen mode = false ∨ roundId ≠ SenderLoop.openRoundId mode ∨
      (RoundView.reports mode)[peerId]? = some report →
    ModeHooks.onNeed shared mode peerId roundId report = (shared, mode)
  changed : ∀ {shared} {mode : Mode} {peerId roundId report existing},
    RoundView.roundOpen mode → roundId = SenderLoop.openRoundId mode →
    (RoundView.reports mode)[peerId]? = some existing → existing ≠ report →
    ModeHooks.onNeed shared mode peerId roundId report = (shared, RoundView.fail mode)
  persists : ∀ {shared} {mode : Mode} {peerId roundId report}, RoundView.protocolError mode →
    RoundView.protocolError (ModeHooks.onNeed shared mode peerId roundId report).2
  failed : ∀ mode : Mode, RoundView.protocolError (RoundView.fail mode)
  failing : ∀ mode : Mode,
    SenderLoop.isComplete (RoundView.fail mode) = SenderLoop.isComplete mode
  aborts : ∀ {shared} {mode : Mode} {now submit}, RoundView.protocolError mode →
    SenderLoop.turn crate shared mode now submit = some (shared, mode, [], .done .aborted)

variable {crate : FountainCrate} {tracked : RoundLog → SenderShared → Mode → Prop}
  {log : RoundLog} {task next : SenderTask Mode}

/-- After a protocol error: ended aborted, or on the way to the next turn. -/
def Failing (task : SenderTask Mode) : Prop :=
  task.stage = .finished .aborted ∨
    task.stage = .transferring ∧ RoundView.protocolError task.mode

theorem failing_step (discipline : NeedDiscipline crate Mode) (failing : Failing task)
    {event : SenderEvent} {frames : List SessionFrame}
    (step : TaskStep crate task event frames next) : Failing next := by
  rcases failing with aborted | ⟨transferring, failed⟩
  · cases step with
    | control stepped =>
      rcases on_control_cases stepped with ⟨_, _, stage, _⟩ | ⟨stage, _⟩ | ⟨stage, _⟩ | ⟨stage, _⟩
      all_goals cases aborted.symm.trans stage
    | negotiate only earlier later =>
      rw [aborted] at earlier
      cases earlier
    | start only stage =>
      rcases stage with stage | ⟨_, _, stage⟩
      all_goals cases aborted.symm.trans stage
    | turn stage result => cases aborted.symm.trans stage
    | solicit stage late => cases aborted.symm.trans stage
    | resumeFeedback stage => cases aborted.symm.trans stage
    | resumeSignal stage => cases aborted.symm.trans stage
    | abort noTurn => exact .inl rfl
  · cases step with
    | @control frame _ stepped =>
      rcases on_control_cases stepped with
        ⟨_, _, stage, _⟩ | ⟨_, rfl⟩ | ⟨stage, _⟩ | ⟨stage, _⟩
      · cases transferring.symm.trans stage
      · refine .inr ⟨transferring, ?_⟩
        have handled := handle_control_cases task.shared task.mode frame
        simp only [SenderTask.handled]
        generalize (handleControl task.shared task.mode frame).1 = shared at handled ⊢
        generalize (handleControl task.shared task.mode frame).2 = mode at handled ⊢
        cases handled with
        | ignore => exact failed
        | ready decoded sender unfrozen known => exact failed
        | need decoded sender member valid => exact discipline.persists failed
      · cases transferring.symm.trans stage
      · cases transferring.symm.trans stage
    | negotiate only earlier later =>
      rw [transferring] at earlier
      cases earlier
    | start only stage =>
      rcases stage with stage | ⟨_, _, stage⟩
      all_goals cases transferring.symm.trans stage
    | turn stage result =>
      rw [discipline.aborts failed] at result
      cases result
      exact .inl rfl
    | solicit stage late => cases transferring.symm.trans stage
    | resumeFeedback stage => cases transferring.symm.trans stage
    | resumeSignal stage => cases transferring.symm.trans stage
    | abort noTurn => exact .inl rfl

theorem failing_ends (discipline : NeedDiscipline crate Mode) (failing : Failing task) :
    EndsAborted crate task := by
  rcases failing with aborted | ⟨transferring, failed⟩
  · exact .inl aborted
  · refine .inr ⟨transferring, ?_⟩
    intro now submit
    simp only [SenderTask.step, SenderTask.onTurn, transferring, discipline.aborts failed]
    rfl

/-- A changed report leads to a failing task from every stage that reads frames. -/
theorem changed_need_fails (discipline : NeedDiscipline crate Mode)
    (before : TaskTracked tracked log task) {frame : InboundFrame}
    (frozen : task.shared.activeQuorum.frozen)
    (handled : handleControl task.shared task.mode frame = (task.shared, RoundView.fail task.mode))
    (stepped : task.onControl frame = some next) : Failing next := by
  have mode : (task.handled frame).mode = RoundView.fail task.mode := by
    rw [SenderTask.handled, handled]
  have resumes (waiting : SenderLoop.isComplete task.mode = false) :
      Failing (task.handled frame).loopHead := by
    unfold SenderTask.loopHead
    rw [mode, discipline.failing, waiting]
    refine .inr ⟨rfl, ?_⟩
    simp only [Bool.false_eq_true, if_false]
    exact mode ▸ discipline.failed task.mode
  rcases on_control_cases stepped with ⟨_, _, stage, rfl⟩ | ⟨stage, rfl⟩ | ⟨stage, rfl⟩ | ⟨stage, rfl⟩
  · have unfrozen := before.unfrozen (by rw [stage]; rfl)
    rw [frozen] at unfrozen
    cases unfrozen
  · exact .inr ⟨stage, mode ▸ discipline.failed task.mode⟩
  · unfold SenderTask.afterFeedback
    split_ifs
    · exact .inl rfl
    · exact resumes (before.waiting (.inl stage))
  · exact resumes (before.waiting (.inr stage))

theorem quorum_kept (modes : ModeTracking crate Mode tracked)
    (before : TaskTracked tracked log task) (frozen : task.shared.activeQuorum.frozen)
    {event : SenderEvent} {frames : List SessionFrame}
    (step : TaskStep crate task event frames next) :
    next.shared.activeQuorum = task.shared.activeQuorum := by
  cases step with
  | @control frame _ stepped =>
    obtain ⟨_, _, quorum, _⟩ := control_tracked modes before.mode frame
    rw [(on_control_state stepped).1]
    exact quorum frozen
  | negotiate only earlier later => rfl
  | start only stage =>
    simp only [SenderTask.startTransfer, loop_head_shared, SenderShared.freezeActiveQuorum, frozen,
      if_true]
  | turn stage result =>
    rw [after_turn_shared]
    exact (modes.turn before.mode frozen result).2.quorum
  | solicit stage late => rw [after_feedback_shared]
  | resumeFeedback stage => rw [after_feedback_shared]
  | resumeSignal stage => rw [loop_head_shared]
  | abort noTurn => rfl

theorem tracked_noninterference (modes : ModeTracking crate Mode tracked)
    (discipline : NeedDiscipline crate Mode) {initial : SenderTask Mode → Prop}
    (before : TaskTracked tracked log task) :
    Noninterference crate (senderSystem crate initial) task where
  changesOnly frame changes := by
    have step := handle_control_cases task.shared task.mode frame
    generalize handleControl task.shared task.mode frame = result at step changes
    obtain ⟨shared, mode⟩ := result
    cases step with
    | ignore => exact absurd rfl changes
    | ready decoded sender unfrozen known =>
      exact .inl ⟨_, _, decoded, sender, unfrozen, known⟩
    | @need header peerId roundId report decoded sender member valid =>
      have relevant : ¬(RoundView.roundOpen task.mode = false ∨
          roundId ≠ SenderLoop.openRoundId task.mode ∨
          (RoundView.reports task.mode)[peerId]? = some report) :=
        fun ignored => changes (discipline.ignored ignored)
      push Not at relevant
      obtain ⟨notClosed, rfl, fresh⟩ := relevant
      have opened : RoundView.roundOpen task.mode = true := by simpa using notClosed
      have reports : ReportsOpenRound task.shared task.mode frame peerId report :=
        ⟨⟨header, decoded⟩, sender, (modes.rounds before.mode).frozen_of_open opened, member, valid,
          opened⟩
      cases present : (RoundView.reports task.mode)[peerId]? with
      | none => exact .inr (.inl ⟨peerId, report, reports, present⟩)
      | some existing =>
        refine .inr (.inr ⟨peerId, report, existing, reports, present, ?_⟩)
        intro same
        exact fresh (same ▸ present)
  changedNeed frame changes := by
    obtain ⟨peerId, report, existing, reports, present, different⟩ := changes
    obtain ⟨header, decoded⟩ := reports.decoded
    have handled : handleControl task.shared task.mode frame =
        (task.shared, RoundView.fail task.mode) := by
      simp only [handleControl, decoded, reports.sender, not_true_eq_false, if_false, reports.member,
        reports.valid]
      exact discipline.changed reports.opened rfl present different
    refine ⟨handled, ?_⟩
    intro next labels last stepped run
    obtain ⟨after, controlled, same⟩ := Option.map_eq_some_iff.mp stepped
    cases same
    have failing := changed_need_fails discipline before reports.frozen handled controlled
    have preserved (task : SenderTask Mode) (label : SenderLabel) (next : SenderTask Mode)
        (holds : Failing task) (step : (senderSystem crate initial).step task label next) :
        Failing next :=
      failing_step discipline holds (task_step_cases step)
    exact failing_ends discipline (TransitionSystem.run_preserves preserved run failing)
  quorum frozen label next step := quorum_kept modes before frozen (task_step_cases step)

end Effects

theorem plain_need_discipline (crate : FountainCrate) : NeedDiscipline crate PlainSender where
  ignored {shared mode peerId roundId report} reason := by
    show (shared, mode.onNeed peerId roundId report) = (shared, mode)
    congr 1
    unfold PlainSender.onNeed
    split_ifs with opened other
    · rfl
    · rcases reason with closed | different | present
      · rw [show mode.feedbackRoundOpen = false from closed] at opened
        cases opened
      · exact absurd different other
      · rw [show mode.roundReports[peerId]? = some report from present]
        simp
    · rfl
  changed {shared mode peerId roundId report existing} opened current present different := by
    have isOpen : mode.feedbackRoundOpen = true := opened
    have isCurrent : roundId = mode.feedbackOpenRoundId := current
    have recorded : mode.roundReports[peerId]? = some existing := present
    show (shared, mode.onNeed peerId roundId report) = (shared, { mode with protocolError := true })
    congr 1
    unfold PlainSender.onNeed
    rw [if_neg (not_not_intro isOpen), if_neg (not_not_intro isCurrent), recorded]
    exact if_pos different
  persists {shared mode peerId roundId report} failed := by
    show (mode.onNeed peerId roundId report).protocolError = true
    have step := PlainSender.on_need_cases mode peerId roundId report
    generalize mode.onNeed peerId roundId report = next at step ⊢
    cases step with
    | ignore reason => exact failed
    | changed opened current present different => rfl
    | complete opened current absent kind => exact failed
    | missing opened current absent kind bound => exact failed
    | mismatch opened current absent kind => rfl
  failed mode := rfl
  failing mode := rfl
  aborts {shared mode now submit} failed := by
    have error : mode.protocolError = true := failed
    exact if_pos error

theorem finish_keeps_error (shared : SenderShared) {mode : FecSender}
    (failed : mode.protocolError) : (mode.finishReportRound shared).2.protocolError := by
  unfold FecSender.finishReportRound
  simp only
  split_ifs
  · rfl
  · exact failed
  · exact failed
  · exact failed

theorem fec_need_discipline (crate : FountainCrate) : NeedDiscipline crate FecSender where
  ignored {shared mode peerId roundId report} reason := by
    show FecSender.onNeed shared mode peerId roundId report = (shared, mode)
    unfold FecSender.onNeed
    split_ifs with sending other
    · rfl
    · rfl
    · rcases reason with closed | different | present
      · exact absurd (of_decide_eq_false closed) sending
      · exact absurd different other
      · rw [show mode.roundReports[peerId]? = some report from present]
        simp
  changed {shared mode peerId roundId report existing} opened current present different := by
    have waiting : mode.phase = .waitingForReports := of_decide_eq_true opened
    have isCurrent : roundId = mode.currentRoundId := current
    have recorded : mode.roundReports[peerId]? = some existing := present
    show FecSender.onNeed shared mode peerId roundId report =
      (shared, { mode with protocolError := true })
    unfold FecSender.onNeed
    rw [if_neg (not_not_intro waiting), if_neg (not_not_intro isCurrent), recorded]
    exact if_pos different
  persists {shared mode peerId roundId report} failed := by
    have error : mode.protocolError = true := failed
    show (FecSender.onNeed shared mode peerId roundId report).2.protocolError = true
    have step := FecSender.on_need_cases shared mode peerId roundId report
    generalize (FecSender.onNeed shared mode peerId roundId report).1 = after at step
    generalize (FecSender.onNeed shared mode peerId roundId report).2 = next at step ⊢
    cases step with
    | ignore reason => exact error
    | changed waiting current present different => rfl
    | mismatch waiting current absent kind => rfl
    | record waiting current absent merged => exact error
    | recordLast waiting current absent merged count => exact finish_keeps_error shared error
  failed mode := rfl
  failing mode := rfl
  aborts {shared mode now submit} failed := by
    have error : mode.protocolError = true := failed
    exact if_pos error

theorem sender_control_noninterference (crate : FountainCrate) :
    (∀ task, (senderSystem crate plainSenders).Reachable task →
        Noninterference crate (senderSystem crate plainSenders) task) ∧
      ∀ task, (senderSystem crate fecSenders).Reachable task →
        Noninterference crate (senderSystem crate fecSenders) task := by
  constructor
  · rintro task ⟨start, labels, initial, run⟩
    exact tracked_noninterference (plain_tracking crate) (plain_need_discipline crate)
      (run_tracked (plain_tracking crate) (plain_sender_tracked initial) run)
  · rintro task ⟨start, labels, initial, run⟩
    exact tracked_noninterference (fec_tracking crate) (fec_need_discipline crate)
      (run_tracked (fec_tracking crate) (fec_sender_tracked initial) run)

/-- A second, different report of the sole receiver is neither a Ready nor a first report, and still
it changes the sender: it sets the protocol error. -/
theorem changed_report_sets_error : ∃ task frame,
    (senderSystem idleCrate plainSenders).Reachable task ∧ ¬AcceptsReady task.shared frame ∧
      ¬AcceptsNeed task.shared task.mode frame ∧
      (handleControl task.shared task.mode frame).2.protocolError ≠ task.mode.protocolError := by
  obtain ⟨start, labels, initial, run, _⟩ := sole_block_begins
  obtain ⟨bytes, heard⟩ := hears_report 0
  have opening : (senderSystem idleCrate plainSenders).step (betweenRounds 0)
      ⟨.turn 0 closedIngress, [.control (.sourceDone 0)]⟩ (withinRound 0) := opens_round 0
  have hearing : (senderSystem idleCrate plainSenders).step (withinRound 0)
      ⟨.control ⟨bytes, some 7⟩, []⟩ (withReport 0) := heard
  have between : (senderSystem idleCrate plainSenders).Reachable (betweenRounds 0) :=
    ⟨start, labels, initial, run⟩
  have reachable : (senderSystem idleCrate plainSenders).Reachable (withReport 0) :=
    (between.step opening).step hearing
  have decoded : (decodeControl ((encodeControl 0 (.need 0 .complete)).getD [])).map Prod.snd =
      some (.need 0 .complete) := by decide +kernel
  have present : (RoundView.reports (withReport 0).mode)[7]? = some soleBlockReport := by
    simp [RoundView.reports, withReport]
  refine ⟨withReport 0, ⟨(encodeControl 0 (.need 0 .complete)).getD [], some 7⟩, reachable, ?_, ?_,
    ?_⟩
  · rintro ⟨header, peerId, ready, _⟩
    rw [ready] at decoded
    cases decoded
  · rintro ⟨peerId, report, reports, absent⟩
    cases reports.sender
    rw [present] at absent
    cases absent
  · decide +kernel

end Nextmini.Session
