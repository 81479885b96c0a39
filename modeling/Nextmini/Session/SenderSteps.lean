import Nextmini.Session.SessionSender

/-!
# What a sender step can do

The inversion of one step of a sender task, and of the handling of one control frame, for both
modes at once.
-/

namespace Nextmini.Session

open Nextmini.Library Nextmini.Library.BigEndian
open Nextmini.Messages

set_option autoImplicit false

/-- What handling one control frame does: nothing, record a Ready, or pass a valid report of a
quorum peer to the mode. -/
inductive ControlStep {Mode : Type} [ModeHooks Mode] (shared : SenderShared) (mode : Mode)
    (frame : InboundFrame) : SenderShared → Mode → Prop
  | ignore : ControlStep shared mode frame shared mode
  | ready {header : LosslessSessionHeader} {peerId : Nat} :
      decodeControl frame.bytes = some (header, .ready) → frame.peerId = some peerId →
        shared.activeQuorum.frozen = false → peerId ∈ shared.activeQuorum.configured →
        ControlStep shared mode frame
          { shared with activeQuorum := shared.activeQuorum.recordReady peerId } mode
  | need {header : LosslessSessionHeader} {peerId : Nat} {roundId : UInt32}
      {report : NeedReport} :
      decodeControl frame.bytes = some (header, .need roundId report) →
        frame.peerId = some peerId → peerId ∈ shared.activeQuorum.active →
        shared.manifest.validateControl (.need roundId report) = .ok () →
        ControlStep shared mode frame (ModeHooks.onNeed shared mode peerId roundId report).1
          (ModeHooks.onNeed shared mode peerId roundId report).2

theorem handle_control_cases {Mode : Type} [ModeHooks Mode] (shared : SenderShared) (mode : Mode)
    (frame : InboundFrame) :
    ControlStep shared mode frame (handleControl shared mode frame).1
      (handleControl shared mode frame).2 := by
  unfold handleControl
  split
  next => exact .ignore
  next header control decoded =>
    cases control with
    | manifest manifest => exact .ignore
    | sourceDone roundId => exact .ignore
    | ready =>
      cases sender : frame.peerId with
      | none => exact .ignore
      | some peerId =>
        by_cases frozen : shared.activeQuorum.frozen
        · simp only [frozen, if_true]
          exact .ignore
        · simp only [frozen]
          by_cases known : peerId ∈ shared.activeQuorum.configured
          · exact .ready decoded sender (Bool.eq_false_iff.mpr frozen) known
          · have unchanged : shared.activeQuorum.recordReady peerId = shared.activeQuorum := by
              rw [ActiveSessionQuorum.recordReady, if_pos (.inr known)]
            simp only [unchanged]
            exact .ignore
    | need roundId report =>
      cases sender : frame.peerId with
      | none => exact .ignore
      | some peerId =>
        by_cases member : peerId ∈ shared.activeQuorum.active
        · simp only [member, not_true_eq_false, if_false]
          split
          next => exact .ignore
          next valid => exact .need decoded sender member valid
        · simp only [member, not_false_eq_true, if_true]
          exact .ignore

/-! ## Steps of the task -/

theorem plain_sender_new {cfg : SenderConfig} {task : SenderTask PlainSender}
    (started : SessionSender.new cfg = some (.plain task)) :
    ∃ plan, BlockPlan.new cfg.manifest.totalBytes cfg.manifest.blockSize.toNat = .ok plan ∧
      task = ⟨senderShared cfg plan, .default, .starting⟩ := by
  unfold SessionSender.new at started
  split at started
  next => cases started
  next plan planned =>
    split at started
    · cases started
      exact ⟨plan, planned, rfl⟩
    · obtain ⟨_, _, impossible⟩ := Option.map_eq_some_iff.mp started
      cases impossible

theorem fec_sender_new {cfg : SenderConfig} {task : SenderTask FecSender}
    (started : SessionSender.new cfg = some (.fec task)) :
    ∃ plan mode, BlockPlan.new cfg.manifest.totalBytes cfg.manifest.blockSize.toNat = .ok plan ∧
      FecSender.new cfg.manifest plan = some mode ∧
      task = ⟨senderShared cfg plan, mode, .starting⟩ := by
  unfold SessionSender.new at started
  split at started
  next => cases started
  next plan planned =>
    split at started
    · cases started
    · obtain ⟨mode, created, same⟩ := Option.map_eq_some_iff.mp started
      cases same
      exact ⟨plan, mode, planned, created, rfl⟩

theorem send_frame_some {sessionId : UInt64} {frame : SessionFrame} {sent : List SessionFrame}
    (sending : sendFrame sessionId frame = some sent) :
    sent = [frame] ∧ ∃ bytes, frame.encode sessionId = some bytes := by
  obtain ⟨bytes, encoded, rfl⟩ := Option.map_eq_some_iff.mp sending
  exact ⟨rfl, bytes, encoded⟩

variable {Mode : Type} [SenderLoop Mode]

/-- The stages before the quorum is frozen. -/
def SenderStage.negotiates : SenderStage → Bool
  | .starting => true
  | .negotiating _ _ => true
  | .awaitingReady _ _ => true
  | _ => false

inductive TaskStep (crate : FountainCrate) (task : SenderTask Mode) :
    SenderEvent → List SessionFrame → SenderTask Mode → Prop
  | control {frame : InboundFrame} {next : SenderTask Mode} :
      task.onControl frame = some next → TaskStep crate task (.control frame) [] next
  | negotiate {event : SenderEvent} {frames : List SessionFrame} {stage : SenderStage} :
      (∀ frame ∈ frames, frame = .control (.manifest task.shared.manifest)) →
        task.stage.negotiates → stage.negotiates →
        TaskStep crate task event frames { task with stage := stage }
  | start {event : SenderEvent} {frames : List SessionFrame} :
      (∀ frame ∈ frames, frame = .control (.manifest task.shared.manifest)) →
        (task.stage = .starting ∨ ∃ deadline nextManifestAt,
          task.stage = .negotiating deadline nextManifestAt) →
        TaskStep crate task event frames task.startTransfer
  | turn {now : Nat} {submit : Nat → SendOutcome} {shared : SenderShared} {mode : Mode}
      {frames : List SessionFrame} {next : Turn} :
      task.stage = .transferring →
        SenderLoop.turn crate task.shared task.mode now submit =
          some (shared, mode, frames, next) →
        TaskStep crate task (.turn now submit) frames
          (SenderTask.afterTurn { task with shared := shared, mode := mode } next)
  | solicit {now : Nat} :
      task.stage = .awaitingFeedback → task.shared.quorumLiveness.timedOut now = false →
        TaskStep crate task (.wake now)
          [.control (.sourceDone (SenderLoop.openRoundId task.mode))]
          (SenderTask.afterFeedback { task with
            shared := { task.shared with
              quorumLiveness := task.shared.quorumLiveness.noteSolicitation now } })
  | resumeFeedback {now : Nat} :
      task.stage = .awaitingFeedback → TaskStep crate task (.wake now) [] task.afterFeedback
  | resumeSignal {now : Nat} :
      task.stage = .awaitingSignal → TaskStep crate task (.wake now) [] task.loopHead
  | abort {event : SenderEvent} :
      (∀ now submit, event ≠ .turn now submit) →
        TaskStep crate task event [] (task.finish .aborted)

omit [SenderLoop Mode] in
theorem advertise_frames {task : SenderTask Mode} {now before after : Nat}
    {sent : List SessionFrame} (advertised : task.advertise now before = some (sent, after)) :
    ∀ frame ∈ sent, frame = .control (.manifest task.shared.manifest) := by
  unfold SenderTask.advertise at advertised
  split_ifs at advertised
  · obtain ⟨out, sending, same⟩ := Option.map_eq_some_iff.mp advertised
    obtain ⟨rfl, -⟩ := send_frame_some sending
    cases same
    simp
  · cases advertised
    simp

theorem on_turn_cases {crate : FountainCrate} {task next : SenderTask Mode} {now : Nat}
    {submit : Nat → SendOutcome} {frames : List SessionFrame}
    (stepped : task.onTurn crate now submit = some (next, frames)) :
    TaskStep crate task (.turn now submit) frames next := by
  unfold SenderTask.onTurn at stepped
  split at stepped
  next starting =>
    split_ifs at stepped
    · cases stepped
      exact .start (by simp) (.inl starting)
    · cases stepped
      exact .negotiate (by simp) (by rw [starting]; rfl) rfl
  next deadline nextManifestAt negotiating =>
    unfold SenderTask.negotiate at stepped
    split_ifs at stepped
    · obtain ⟨⟨sent, after⟩, advertised, same⟩ := Option.bind_eq_some_iff.mp stepped
      cases same
      exact .start (advertise_frames advertised) (.inr ⟨_, _, negotiating⟩)
    · obtain ⟨⟨sent, after⟩, advertised, same⟩ := Option.bind_eq_some_iff.mp stepped
      cases same
      exact .negotiate (advertise_frames advertised) (by rw [negotiating]; rfl) rfl
    · cases stepped
      exact .start (by simp) (.inr ⟨_, _, negotiating⟩)
  next transferring =>
    obtain ⟨⟨shared, mode, sent, turned⟩, result, same⟩ := Option.bind_eq_some_iff.mp stepped
    cases same
    exact .turn transferring result
  next => cases stepped

theorem on_wake_cases {crate : FountainCrate} {task next : SenderTask Mode} {now : Nat}
    {frames : List SessionFrame} (stepped : task.onWake now = some (next, frames)) :
    TaskStep crate task (.wake now) frames next := by
  unfold SenderTask.onWake at stepped
  split at stepped
  next deadline nextManifestAt waiting =>
    cases stepped
    exact .negotiate (by simp) (by rw [waiting]; rfl) rfl
  next waiting =>
    split_ifs at stepped with late due
    · cases stepped
      exact .abort (by simp)
    · obtain ⟨sent, sending, same⟩ := Option.bind_eq_some_iff.mp stepped
      obtain ⟨rfl, -⟩ := send_frame_some sending
      cases same
      exact .solicit waiting (Bool.eq_false_iff.mpr late)
    · cases stepped
      exact .resumeFeedback waiting
  next waiting =>
    cases stepped
    exact .resumeSignal waiting
  next => cases stepped

theorem task_step_cases {crate : FountainCrate} {task next : SenderTask Mode} {event : SenderEvent}
    {frames : List SessionFrame} (stepped : task.step crate event = some (next, frames)) :
    TaskStep crate task event frames next := by
  cases event with
  | control frame =>
    obtain ⟨handled, control, same⟩ := Option.map_eq_some_iff.mp stepped
    cases same
    exact .control control
  | turn now submit => exact on_turn_cases stepped
  | wake now => exact on_wake_cases stepped
  | closed =>
    obtain ⟨handled, closing, same⟩ := Option.map_eq_some_iff.mp stepped
    cases same
    unfold SenderTask.onClosed at closing
    split at closing
    · cases closing
      exact .abort (by simp)
    · cases closing
      exact .abort (by simp)
    · cases closing
      exact .abort (by simp)
    · cases closing

/-! ## Shared state and mode after a control frame -/

omit [SenderLoop Mode] in
@[simp] theorem finish_shared (task : SenderTask Mode) (outcome : SessionOutcome) :
    (task.finish outcome).shared = task.shared := rfl

omit [SenderLoop Mode] in
@[simp] theorem finish_mode (task : SenderTask Mode) (outcome : SessionOutcome) :
    (task.finish outcome).mode = task.mode := rfl

@[simp] theorem loop_head_shared (task : SenderTask Mode) : task.loopHead.shared = task.shared := by
  unfold SenderTask.loopHead
  split_ifs <;> rfl

@[simp] theorem loop_head_mode (task : SenderTask Mode) : task.loopHead.mode = task.mode := by
  unfold SenderTask.loopHead
  split_ifs <;> rfl

@[simp] theorem after_feedback_shared (task : SenderTask Mode) :
    task.afterFeedback.shared = task.shared := by
  unfold SenderTask.afterFeedback
  split_ifs <;> simp

@[simp] theorem after_feedback_mode (task : SenderTask Mode) :
    task.afterFeedback.mode = task.mode := by
  unfold SenderTask.afterFeedback
  split_ifs <;> simp

@[simp] theorem after_turn_shared (task : SenderTask Mode) (turned : Turn) :
    (task.afterTurn turned).shared = task.shared := by
  cases turned with
  | again => simp [SenderTask.afterTurn]
  | waitFeedback =>
    simp only [SenderTask.afterTurn]
    split_ifs <;> rfl
  | waitSignal => rfl
  | done outcome => rfl

@[simp] theorem after_turn_mode (task : SenderTask Mode) (turned : Turn) :
    (task.afterTurn turned).mode = task.mode := by
  cases turned with
  | again => simp [SenderTask.afterTurn]
  | waitFeedback =>
    simp only [SenderTask.afterTurn]
    split_ifs <;> rfl
  | waitSignal => rfl
  | done outcome => rfl

/-- A task that has handled a frame, before the stage moves on. -/
def SenderTask.handled (task : SenderTask Mode) (frame : InboundFrame) : SenderTask Mode :=
  { task with
    shared := (handleControl task.shared task.mode frame).1
    mode := (handleControl task.shared task.mode frame).2 }

theorem on_control_cases {task next : SenderTask Mode} {frame : InboundFrame}
    (stepped : task.onControl frame = some next) :
    (∃ deadline nextManifestAt, task.stage = .awaitingReady deadline nextManifestAt ∧
        next = { task.handled frame with stage := .negotiating deadline nextManifestAt }) ∨
      (task.stage = .transferring ∧ next = task.handled frame) ∨
      (task.stage = .awaitingFeedback ∧ next = (task.handled frame).afterFeedback) ∨
      (task.stage = .awaitingSignal ∧ next = (task.handled frame).loopHead) := by
  unfold SenderTask.onControl at stepped
  simp only at stepped
  split at stepped
  next deadline nextManifestAt waiting =>
    cases stepped
    exact .inl ⟨_, _, waiting, rfl⟩
  next waiting =>
    cases stepped
    exact .inr (.inl ⟨waiting, rfl⟩)
  next waiting =>
    cases stepped
    exact .inr (.inr (.inl ⟨waiting, rfl⟩))
  next waiting =>
    cases stepped
    exact .inr (.inr (.inr ⟨waiting, rfl⟩))
  next => cases stepped

theorem on_control_state {task next : SenderTask Mode} {frame : InboundFrame}
    (stepped : task.onControl frame = some next) :
    next.shared = (handleControl task.shared task.mode frame).1 ∧
      next.mode = (handleControl task.shared task.mode frame).2 := by
  rcases on_control_cases stepped with ⟨_, _, _, rfl⟩ | ⟨_, rfl⟩ | ⟨_, rfl⟩ | ⟨_, rfl⟩
  · exact ⟨rfl, rfl⟩
  · exact ⟨rfl, rfl⟩
  · simp [SenderTask.handled]
  · simp [SenderTask.handled]

end Nextmini.Session
