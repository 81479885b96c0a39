import Nextmini.Session.RoundLog

/-!
# Rounds over a whole run of a sender

From an invariant of a mode that every report and every turn keeps to what holds of every step of
every run of the sender task: when a `SourceDone` is sent, and when the run may end completed.
-/

namespace Nextmini.Session

open Nextmini.Library
open Nextmini.Messages

set_option autoImplicit false

/-- A mode invariant that ties the mode's rounds to the log of the run. -/
structure ModeTracking (crate : FountainCrate) (Mode : Type) [RoundView Mode]
    (tracked : RoundLog → SenderShared → Mode → Prop) : Prop where
  rounds : ∀ {log shared mode}, tracked log shared mode → RoundsTracked log shared mode
  ends : ∀ {log shared mode}, tracked log shared mode → SenderLoop.isComplete mode →
    EndsWell log shared.activeQuorum.active
  extend : ∀ {log shared mode}, tracked log shared mode →
    ∀ label, tracked (log.extend label) shared mode
  same : ∀ {log shared after mode}, tracked log shared mode →
    after.activeQuorum = shared.activeQuorum → SameSession shared after → tracked log after mode
  ready : ∀ {log shared mode}, tracked log shared mode → shared.activeQuorum.frozen = false →
    ∀ peerId, tracked log
      { shared with activeQuorum := shared.activeQuorum.recordReady peerId } mode
  freeze : ∀ {log shared mode}, tracked log shared mode →
    tracked log shared.freezeActiveQuorum mode
  start : ∀ {log shared mode}, tracked log shared mode →
    tracked log shared (SenderLoop.beginTransfer shared mode)
  need : ∀ {log shared mode frame header peerId roundId report}, tracked log shared mode →
    decodeControl frame.bytes = some (header, .need roundId report) →
    frame.peerId = some peerId → peerId ∈ shared.activeQuorum.active →
    shared.manifest.validateControl (.need roundId report) = .ok () →
    tracked (log.extend ⟨.control frame, []⟩) (ModeHooks.onNeed shared mode peerId roundId report).1
        (ModeHooks.onNeed shared mode peerId roundId report).2 ∧
      (ModeHooks.onNeed shared mode peerId roundId report).1.activeQuorum = shared.activeQuorum ∧
      SameSession shared (ModeHooks.onNeed shared mode peerId roundId report).1
  turn : ∀ {log shared mode now submit after next frames turned}, tracked log shared mode →
    shared.activeQuorum.frozen →
    SenderLoop.turn crate shared mode now submit = some (after, next, frames, turned) →
    tracked (log.observe ⟨.turn now submit, frames⟩) after next ∧
      TurnEffect shared mode after next frames turned

def SenderStage.started : SenderStage → Bool
  | .transferring => true
  | .awaitingFeedback => true
  | .awaitingSignal => true
  | .finished .completed => true
  | _ => false

structure TaskTracked {Mode : Type} [RoundView Mode]
    (tracked : RoundLog → SenderShared → Mode → Prop) (log : RoundLog) (task : SenderTask Mode) :
    Prop where
  mode : tracked log task.shared task.mode
  frozen : task.stage.started → task.shared.activeQuorum.frozen
  waiting : task.stage = .awaitingFeedback ∨ task.stage = .awaitingSignal →
    SenderLoop.isComplete task.mode = false
  waitingOpen : task.stage = .awaitingFeedback → RoundView.roundOpen task.mode
  finished : task.stage = .finished .completed → SenderLoop.isComplete task.mode
  unfrozen : task.stage.negotiates → task.shared.activeQuorum.frozen = false

section Tasks

variable {Mode : Type} [RoundView Mode] {crate : FountainCrate}
  {tracked : RoundLog → SenderShared → Mode → Prop} {log : RoundLog} {task next : SenderTask Mode}

theorem loop_head_tracked (mode : tracked log task.shared task.mode)
    (frozen : task.shared.activeQuorum.frozen) : TaskTracked tracked log task.loopHead := by
  unfold SenderTask.loopHead
  split_ifs with complete
  · exact ⟨mode, fun _ => frozen, by simp [SenderTask.finish], by simp [SenderTask.finish],
      fun _ => complete, by simp [SenderTask.finish, SenderStage.negotiates]⟩
  · exact ⟨mode, fun _ => frozen, by simp, by simp, by simp, by simp [SenderStage.negotiates]⟩

theorem aborted_tracked (mode : tracked log task.shared task.mode) :
    TaskTracked tracked log (task.finish .aborted) :=
  ⟨mode, by simp [SenderTask.finish, SenderStage.started], by simp [SenderTask.finish],
    by simp [SenderTask.finish], by simp [SenderTask.finish],
    by simp [SenderTask.finish, SenderStage.negotiates]⟩

theorem after_feedback_tracked (mode : tracked log task.shared task.mode)
    (frozen : task.shared.activeQuorum.frozen) : TaskTracked tracked log task.afterFeedback := by
  unfold SenderTask.afterFeedback
  split_ifs
  · exact aborted_tracked mode
  · exact loop_head_tracked mode frozen

theorem after_turn_tracked {shared : SenderShared} {before : Mode} {frames : List SessionFrame}
    {turned : Turn} (mode : tracked log task.shared task.mode)
    (frozen : task.shared.activeQuorum.frozen)
    (effect : TurnEffect shared before task.shared task.mode frames turned) :
    TaskTracked tracked log (task.afterTurn turned) := by
  cases turned with
  | again => exact loop_head_tracked mode frozen
  | waitFeedback =>
    simp only [SenderTask.afterTurn]
    split_ifs
    · exact aborted_tracked mode
    · exact ⟨mode, fun _ => frozen, fun _ => effect.waiting (.inl rfl),
        fun _ => effect.waitingOpen rfl, by simp, by simp [SenderStage.negotiates]⟩
  | waitSignal =>
    exact ⟨mode, fun _ => frozen, fun _ => effect.waiting (.inr rfl), by simp [SenderTask.afterTurn],
      by simp [SenderTask.afterTurn], by simp [SenderTask.afterTurn, SenderStage.negotiates]⟩
  | done outcome =>
    cases outcome with
    | aborted => exact aborted_tracked mode
    | completed =>
      exact ⟨mode, fun _ => frozen, by simp [SenderTask.afterTurn, SenderTask.finish],
        by simp [SenderTask.afterTurn, SenderTask.finish], fun _ => effect.ended rfl,
        by simp [SenderTask.afterTurn, SenderTask.finish, SenderStage.negotiates]⟩

/-- What handling a frame leaves of the quorum and of the session. -/
theorem control_tracked (modes : ModeTracking crate Mode tracked)
    (mode : tracked log task.shared task.mode) (frame : InboundFrame) :
    tracked (log.extend ⟨.control frame, []⟩) (task.handled frame).shared
        (task.handled frame).mode ∧
      (task.handled frame).shared.activeQuorum.frozen = task.shared.activeQuorum.frozen ∧
      (task.shared.activeQuorum.frozen →
        (task.handled frame).shared.activeQuorum = task.shared.activeQuorum) ∧
      SameSession task.shared (task.handled frame).shared := by
  have step := handle_control_cases task.shared task.mode frame
  unfold SenderTask.handled
  simp only
  generalize (handleControl task.shared task.mode frame).1 = shared at step ⊢
  generalize (handleControl task.shared task.mode frame).2 = after at step ⊢
  cases step with
  | ignore => exact ⟨modes.extend mode _, rfl, fun _ => rfl, .refl _⟩
  | ready decoded sender unfrozen known =>
    refine ⟨modes.ready (modes.extend mode _) unfrozen _, ?_, ?_, ⟨rfl, rfl, rfl, rfl⟩⟩
    · simp only [ActiveSessionQuorum.recordReady]
      split_ifs <;> rfl
    · rw [unfrozen]
      intro impossible
      cases impossible
  | need decoded sender member valid =>
    obtain ⟨now, quorum, session⟩ := modes.need mode decoded sender member valid
    exact ⟨now, by rw [quorum], fun _ => quorum, session⟩

theorem manifest_opens_nothing {event : SenderEvent} {frames : List SessionFrame}
    (manifest : LosslessSessionManifest)
    (manifestOnly : ∀ frame ∈ frames, frame = .control (.manifest manifest)) :
    RoundLog.opening ⟨event, frames⟩ = none := by
  unfold RoundLog.opening
  split
  · rw [List.findSome?_eq_none_iff]
    intro frame member
    rw [manifestOnly frame member]
    rfl
  · rfl

theorem task_step_tracked (modes : ModeTracking crate Mode tracked)
    (before : TaskTracked tracked log task) {event : SenderEvent} {frames : List SessionFrame}
    (step : TaskStep crate task event frames next) :
    TaskTracked tracked (log.observe ⟨event, frames⟩) next := by
  cases step with
  | @control frame _ stepped =>
    rw [RoundLog.observe_quiet rfl]
    obtain ⟨mode, sameFrozen, quorum, session⟩ := control_tracked modes before.mode frame
    have frozen (started : task.stage.started) :
        (task.handled frame).shared.activeQuorum.frozen := by
      rw [quorum (before.frozen started)]
      exact before.frozen started
    rcases on_control_cases stepped with
      ⟨_, _, stage, rfl⟩ | ⟨stage, rfl⟩ | ⟨stage, rfl⟩ | ⟨stage, rfl⟩
    · refine ⟨mode, by simp [SenderStage.started], by simp, by simp, by simp, fun _ => ?_⟩
      exact sameFrozen.trans (before.unfrozen (by rw [stage]; rfl))
    · have same : (task.handled frame).stage = .transferring := stage
      exact ⟨mode, fun _ => frozen (by rw [stage]; rfl), by simp [same], by simp [same],
        by simp [same], by simp [same, SenderStage.negotiates]⟩
    · exact after_feedback_tracked mode (frozen (by rw [stage]; rfl))
    · exact loop_head_tracked mode (frozen (by rw [stage]; rfl))
  | @negotiate _ _ stage manifestOnly earlier later =>
    rw [RoundLog.observe_quiet (manifest_opens_nothing _ manifestOnly)]
    refine ⟨modes.extend before.mode _, ?_, ?_, ?_, ?_, fun _ => before.unfrozen earlier⟩
    all_goals cases stage <;> simp [SenderStage.started, SenderStage.negotiates] at later ⊢
  | start manifestOnly stage =>
    rw [RoundLog.observe_quiet (manifest_opens_nothing _ manifestOnly)]
    exact loop_head_tracked (modes.start (modes.freeze (modes.extend before.mode _)))
      (freeze_frozen task.shared)
  | @turn now submit shared mode _ turned stage result =>
    obtain ⟨now, effect⟩ := modes.turn before.mode (before.frozen (by rw [stage]; rfl)) result
    have frozen : shared.activeQuorum.frozen := by
      rw [effect.quorum]
      exact before.frozen (by rw [stage]; rfl)
    exact after_turn_tracked now frozen effect
  | @solicit now stage late =>
    rw [RoundLog.observe_quiet rfl]
    have mode := modes.extend before.mode ⟨.wake now,
      [.control (.sourceDone (SenderLoop.openRoundId task.mode))]⟩
    exact after_feedback_tracked (modes.same mode rfl ⟨rfl, rfl, rfl, rfl⟩)
      (before.frozen (by rw [stage]; rfl))
  | resumeFeedback stage =>
    rw [RoundLog.observe_quiet rfl]
    exact after_feedback_tracked (modes.extend before.mode _) (before.frozen (by rw [stage]; rfl))
  | resumeSignal stage =>
    rw [RoundLog.observe_quiet rfl]
    exact loop_head_tracked (modes.extend before.mode _) (before.frozen (by rw [stage]; rfl))
  | abort noTurn =>
    have quiet : RoundLog.opening ⟨event, []⟩ = none :=
      manifest_opens_nothing task.shared.manifest (by simp)
    rw [RoundLog.observe_quiet quiet]
    exact aborted_tracked (modes.extend before.mode _)

theorem run_tracked (modes : ModeTracking crate Mode tracked)
    {initial : SenderTask Mode → Prop} {start : SenderTask Mode} {labels : List SenderLabel}
    (initially : TaskTracked tracked ⟨[], []⟩ start)
    (run : (senderSystem crate initial).Run start labels task) :
    TaskTracked tracked (RoundLog.ofRun labels) task := by
  refine TransitionSystem.history_of_run
    (motive := fun labels task => TaskTracked tracked (RoundLog.ofRun labels) task) run initially ?_
  intro before state label next _ holds step
  rw [RoundLog.of_run_snoc]
  exact task_step_tracked modes holds (task_step_cases step)

end Tasks

end Nextmini.Session
