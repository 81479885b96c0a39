import Nextmini.Session.AnswerableReceivers

/-!
# Handing the answers over

Where the `SourceDone` frames for a completed receiver's last round are: in the queue of the runtime,
on their way into the inbox, or in it. Each that leaves these places is answered, by the task while
it is in its loop and by the runtime after that, if no such frame is in the inbox when the loop ends
or gets there before the task has ended.
-/

namespace Nextmini.Session

open Nextmini.Library
open Nextmini.Messages

set_option autoImplicit false

/-- The frame is the `SourceDone` of the round. -/
def asks (roundId : UInt32) (frame : InboundFrame) : Bool :=
  (decodeControl frame.bytes).map Prod.snd = some (.sourceDone roundId)

theorem asks_iff {roundId : UInt32} {frame : InboundFrame} :
    asks roundId frame = true ↔
      ∃ header, decodeControl frame.bytes = some (header, .sourceDone roundId) := by
  simp [asks, Option.map_eq_some_iff]

def SessionTask.inboxAsks (task : SessionTask) (roundId : UInt32) : Nat :=
  task.inbox.items.countP (asks roundId)

def Delivery.asksFor (sessionId : UInt64) (roundId : UInt32) (delivery : Delivery) : Bool :=
  delivery.session = sessionId ∧ asks roundId delivery.frame = true

def RuntimeMessage.asksFor (sessionId : UInt64) (roundId : UInt32) : RuntimeMessage → Bool
  | .deliver session frame => session = sessionId ∧ asks roundId frame = true
  | _ => false

/-- How many `SourceDone` frames of the round have been submitted for the session and are not yet
answered. -/
def LosslessRuntime.waiting (runtime : LosslessRuntime) (sessionId : UInt64) (roundId : UInt32)
    (task : SessionTask) : Nat :=
  task.inboxAsks roundId +
    (if runtime.delivering.any (Delivery.asksFor sessionId roundId) then 1 else 0) +
    runtime.messages.countP (RuntimeMessage.asksFor sessionId roundId)

/-- How many complete answers for the round a step sends for the session. -/
def RuntimeOutput.answers (sessionId : UInt64) (roundId : UInt32) (output : RuntimeOutput) : Nat :=
  output.sent.count (sessionId, .need roundId .complete)

def RuntimeEvent.submits (sessionId : UInt64) (roundId : UInt32) : RuntimeEvent → Nat
  | .submitted message => if message.asksFor sessionId roundId then 1 else 0
  | _ => 0

theorem answers_of_sent (sessionId session : UInt64) (roundId : UInt32)
    (sent : List LosslessSessionControl) :
    (RuntimeOutput.ofSent session sent).answers sessionId roundId =
      if session = sessionId then sent.count (.need roundId .complete) else 0 := by
  rw [RuntimeOutput.answers, RuntimeOutput.ofSent]
  by_cases own : session = sessionId
  · subst own
    rw [if_pos rfl]
    exact List.count_map_of_injective sent _ (fun _ _ same => (Prod.mk.inj same).2) _
  · rw [if_neg own, List.count_eq_zero]
    intro member
    rcases List.mem_map.mp member with ⟨_, _, same⟩
    exact own (Prod.mk.inj same).1

/-! ## Answers of a completed receiver -/

theorem complete_answer_count (lastRoundId asked : UInt32) :
    (completeAnswer lastRoundId asked).count (.need lastRoundId .complete) =
      if asked = lastRoundId then 1 else 0 := by
  rw [completeAnswer]
  by_cases same : asked = lastRoundId
  · subst same
    simp
  · rw [if_neg same]
    split_ifs
    · rfl
    · rw [List.count_eq_zero, List.mem_singleton]
      intro equal
      cases equal
      exact same rfl

theorem completed_answers {crate : FountainCrate} {host : Host} {receiver next : SessionReceiver}
    {roundId : UInt32} {manifest : LosslessSessionManifest} {plan : BlockPlan} {mode : ReceiverMode}
    {frame : InboundFrame} {sent : List LosslessSessionControl}
    (completed : Completed receiver roundId manifest plan mode)
    (received : receiver.receiveFrame crate host frame = some (next, sent)) :
    sent.count (.need roundId .complete) = if asks roundId frame then 1 else 0 := by
  by_cases asking : ∃ header asked, decodeControl frame.bytes = some (header, .sourceDone asked)
  · rcases asking with ⟨header, asked, decoded⟩
    rcases completed_hears_source_done crate host completed decoded with ⟨_, taken, _⟩
    rw [taken] at received
    cases received
    rw [complete_answer_count, asks, decoded]
    simp
  · have other : ∀ header asked, decodeControl frame.bytes ≠ some (header, .sourceDone asked) :=
      fun header asked decoded => asking ⟨header, asked, decoded⟩
    have silent : ¬asks roundId frame = true := by
      rw [asks_iff]
      intro asked
      rcases asked with ⟨header, decoded⟩
      exact other header roundId decoded
    rcases completed_hears_other crate host completed other with ⟨_, taken, unreported⟩
    rw [taken] at received
    cases received
    rw [if_neg silent]
    exact List.count_eq_zero.mpr (unreported roundId .complete)

theorem replay_answers {sessionId : UInt64} {replay : CompletedReceiverReplay}
    {frame : InboundFrame} {sent : List LosslessSessionControl} {answered : Bool}
    (complete : replay.report = .complete)
    (replayed : replayCompletedReceiver sessionId (some replay) frame = some (sent, answered)) :
    sent.count (.need replay.roundId .complete) = if asks replay.roundId frame then 1 else 0 := by
  by_cases asking : ∃ header asked, decodeControl frame.bytes = some (header, .sourceDone asked)
  · rcases asking with ⟨header, asked, decoded⟩
    rcases @replay_answered sessionId replay complete frame header asked decoded with
      ⟨_, expected⟩
    rw [expected] at replayed
    cases replayed
    rw [replayAnswer, asks, decoded]
    by_cases same : asked = replay.roundId
    · simp [same]
    · simp [same]
  · have silent : ¬asks replay.roundId frame = true := by
      rw [asks_iff]
      intro asked
      rcases asked with ⟨header, decoded⟩
      exact asking ⟨header, _, decoded⟩
    rw [if_neg silent]
    have unanswered : sent = [] := by
      simp only [replayCompletedReceiver] at replayed
      split at replayed
      next other header asked _ decoded => exact absurd ⟨header, asked, decoded⟩ asking
      next =>
        cases replayed
        rfl
    rw [unanswered]
    rfl

/-! ## Frames that nobody reads -/

/-- No `SourceDone` of the receiver's last round is in the inbox of the session's task when its passive
timer fires, and none gets there between the end of its loop and its own end. -/
structure NoFrameStranded (sessionId : UInt64) (runtime : LosslessRuntime) (event : RuntimeEvent) :
    Prop where
  leaving : ∀ (id : TaskId) task receiver roundId, event = .task id .passiveTimeout →
    runtime.tasks[id]? = some task → task.sessionId = sessionId → task.body = .receiver receiver →
      receiver.lastRound = some roundId → task.inboxAsks roundId = 0
  accepting : ∀ delivery task receiver roundId, event = .accepted →
    runtime.delivering = some delivery → runtime.tasks[delivery.task]? = some task →
      task.sessionId = sessionId → task.stage ≠ .running → task.body = .receiver receiver →
        receiver.lastRound = some roundId → asks roundId delivery.frame = false

def handoffSystem (crate : FountainCrate) (config : LosslessConfig) (sessionId : UInt64) :
    TransitionSystem LosslessRuntime RuntimeLabel :=
  (undisturbedSystem crate config sessionId).restrict fun runtime label =>
    NoFrameStranded sessionId runtime label.event

/-- Once the loop has ended, the inbox holds no `SourceDone` of the receiver's last round. -/
def DryTask (task : SessionTask) : Prop :=
  ∀ receiver roundId, task.stage ≠ .running → task.body = .receiver receiver →
    receiver.lastRound = some roundId → task.inboxAsks roundId = 0

def Dry (sessionId : UInt64) (runtime : LosslessRuntime) : Prop :=
  ∀ (id : TaskId) task, runtime.tasks[id]? = some task → task.sessionId = sessionId → DryTask task

section Handoff

variable {crate : FountainCrate} {config : LosslessConfig} {host : RuntimeHost}
  {runtime next : LosslessRuntime} {event : RuntimeEvent} {output : RuntimeOutput}
  {sessionId : UInt64} {id : TaskId} {task later : SessionTask}

theorem dry_of_same (dry : DryTask task) (inbox : later.inbox = task.inbox)
    (body : later.body = task.body) (stopped : later.stage ≠ .running → task.stage ≠ .running) :
    DryTask later := by
  intro receiver roundId ended same last
  rw [body] at same
  rw [SessionTask.inboxAsks, inbox]
  exact dry receiver roundId (stopped ended) same last

theorem dry_finished (task : SessionTask) (outcome : SessionOutcome) : DryTask (task.finish outcome) := by
  intro receiver roundId _ _ _
  rfl

theorem dry_moved {kind : TaskEvent}
    (moved : TaskMoved crate host.toHost runtime id task kind later output) : DryTask later := by
  cases moved with
  | skipped running => exact fun _ _ stopped => absurd running stopped
  | received running => exact fun _ _ stopped => absurd running stopped
  | panicked => exact dry_finished _ _
  | left => exact dry_finished _ _
  | resumed => exact dry_finished _ _
  | senderEnded => exact dry_finished _ _
  | cancelled => exact dry_finished _ _

theorem dry_changed (unstranded : NoFrameStranded sessionId runtime event) (dry : DryTask task)
    (found : runtime.tasks[id]? = some task) (session : task.sessionId = sessionId)
    (changed : TaskChanged crate host runtime id task event later) : DryTask later := by
  cases changed with
  | same => exact dry
  | aborted => exact dry_of_same dry rfl rfl fun stopped => stopped
  | acknowledged front awaiting =>
    exact dry_of_same dry rfl rfl fun _ => by
      rw [awaiting]
      nofun
  | exited => exact dry_of_same dry rfl rfl fun stopped => stopped
  | @accepted delivery inbox sending here opened pushed =>
    subst here
    intro receiver roundId stopped body last
    have unasked := unstranded.accepting delivery task receiver roundId rfl sending found session
      stopped body last
    have before := dry receiver roundId stopped body last
    rw [SessionTask.inboxAsks] at before ⊢
    rw [ArrayQueue.push_items pushed, List.countP_append, before, List.countP_singleton, unasked]
    rfl
  | moved moved => exact dry_moved moved
  | @handedOver kind receiver replay running body leaves replayed =>
    intro other roundId _ same last
    cases same
    cases kind with
    | passiveTimeout => exact unstranded.leaving id task receiver roundId rfl found session body last
    | channelClosed =>
      have empty := List.isEmpty_iff.mp leaves.1
      rw [SessionTask.inboxAsks, empty]
      rfl
    | received | resumed | senderEnded outcome | cancelled | reported => cases leaves
  | reported ended =>
    exact dry_of_same dry rfl rfl fun _ => by
      rw [ended]
      nofun

theorem dry_step (dry : Dry sessionId runtime) (unstranded : NoFrameStranded sessionId runtime event)
    (step : RuntimeStep crate config host runtime event next output) : Dry sessionId next := by
  intro id later after session
  rcases task_before step after with ⟨task, found, changed⟩ | ⟨_, _, _, body, _, rfl⟩
  · have same : task.sessionId = sessionId := by
      have owner := owner_kept (owner_of_found found) step
      rw [owner_of_found after, session] at owner
      exact (Option.some.inj owner).symm
    exact dry_changed unstranded (dry id task found same) found same changed
  · intro receiver roundId stopped
    exact absurd rfl stopped

theorem dry_of_reachable (reachable : (handoffSystem crate config sessionId).Reachable runtime) :
    Owned runtime ∧ Held sessionId runtime ∧ Dry sessionId runtime := by
  apply TransitionSystem.invariant_of_reachable (motive := fun runtime =>
    Owned runtime ∧ Held sessionId runtime ∧ Dry sessionId runtime) _ _ reachable
  · intro state initial
    cases initial
    refine ⟨owned_new, held_new sessionId, ?_⟩
    intro id task found
    cases found
  · intro state label next before taken
    rcases before with ⟨owned, held, dry⟩
    rcases taken with ⟨unstranded, quiet, host, stepped⟩
    have step := step_cases stepped
    exact ⟨owned_step owned step, held_step owned held quiet step, dry_step dry unstranded step⟩

/-! ## None is lost -/

theorem supported_of_asks {roundId : UInt32} {frame : InboundFrame}
    (unsupported : LosslessRuntime.unsupportedVersion frame = true) : asks roundId frame = false := by
  apply Bool.eq_false_of_not_eq_true
  rw [asks_iff]
  intro asked
  rcases asked with ⟨header, decoded⟩
  rw [supported_of_decoded decoded] at unsupported
  cases unsupported

/-- The runtime's own answer for a completed receiver whose replay it keeps. -/
theorem registry_answers {receiver : SessionReceiver} {roundId : UInt32}
    {manifest : LosslessSessionManifest} {plan : BlockPlan} {mode : ReceiverMode}
    {frame : InboundFrame} {sent : List LosslessSessionControl} {answered : Bool}
    (stands : Stands sessionId runtime id task) (body : task.body = .receiver receiver)
    (completed : Completed receiver roundId manifest plan mode)
    (started : task.stage ≠ .running) (handed : task.stage ≠ .awaitingAck)
    (replayed : replayCompletedReceiver sessionId (runtime.completedReceivers sessionId) frame =
      some (sent, answered)) :
    sent.count (.need roundId .complete) = if asks roundId frame then 1 else 0 := by
  rcases completed_replay completed with ⟨replay, stored, sameRound, complete⟩
  rw [stands.registered receiver body (reported_of_completed completed) started handed, stored]
    at replayed
  have counted := replay_answers complete replayed
  rw [sameRound] at counted
  exact counted

theorem handled_waiting {receiver : SessionReceiver} {roundId : UInt32}
    {manifest : LosslessSessionManifest} {plan : BlockPlan} {mode : ReceiverMode}
    {message : RuntimeMessage} {tail : List RuntimeMessage}
    (stands : Stands sessionId runtime id task) (body : task.body = .receiver receiver)
    (completed : Completed receiver roundId manifest plan mode) (idle : runtime.delivering = none)
    (front : runtime.messages = message :: tail)
    (handled : MessageHandled config { runtime with messages := tail } message next output)
    (inbox : later.inbox = task.inbox) :
    next.waiting sessionId roundId later + output.answers sessionId roundId =
      runtime.waiting sessionId roundId task := by
  have kept := handled_messages handled
  have silent (reply : Option (Except StartError Unit)) :
      RuntimeOutput.answers sessionId roundId ⟨[], reply⟩ = 0 := rfl
  have unchanged (delivering : next.delivering = none) (quiet : output.answers sessionId roundId = 0)
      (other : message.asksFor sessionId roundId = false) :
      next.waiting sessionId roundId later + output.answers sessionId roundId =
        runtime.waiting sessionId roundId task := by
    simp only [LosslessRuntime.waiting, SessionTask.inboxAsks, inbox, delivering, idle, kept, front,
      quiet, List.countP_cons, other, Bool.false_eq_true, if_false, Option.any_none, Nat.add_zero]
  have request {started : UInt64} (requested : message.requests = some started) :
      message.asksFor sessionId roundId = false := by
    cases message with
    | deliver => cases requested
    | _ => rfl
  cases handled with
  | alreadyActive requested active => exact unchanged idle (silent _) (request requested)
  | preflight requested inactive => exact unchanged idle (silent _) (request requested)
  | started starts inactive fresh =>
    exact unchanged idle (silent _) (request (requests_of_starts starts))
  | aborted => exact unchanged ((abort_session_delivering _ _).trans idle) (silent _) rfl
  | registered => exact unchanged idle (silent _) rfl
  | exited => exact unchanged ((finish_session_delivering _ _ _).trans idle) (silent _) rfl
  | topologySet => exact unchanged idle (silent _) rfl
  | @dropped session frame unsupported =>
    apply unchanged idle (silent _)
    simp [RuntimeMessage.asksFor, @supported_of_asks roundId frame unsupported]
  | @sending session frame place supported active =>
    have quiet : RuntimeOutput.none.answers sessionId roundId = 0 := rfl
    have same : Delivery.asksFor sessionId roundId ⟨place, session, frame⟩ =
        RuntimeMessage.asksFor sessionId roundId (.deliver session frame) := rfl
    simp only [LosslessRuntime.waiting, SessionTask.inboxAsks, inbox, idle, front, List.countP_cons,
      Option.any_some, Option.any_none, same, quiet, Bool.false_eq_true, if_false]
    omega
  | @replayed session frame sent answered supported inactive replayed =>
    by_cases own : session = sessionId
    · subst own
      have exited : task.stage = .reported := by
        by_contra unreported
        have entry := stands.entry unreported
        rw [entry] at inactive
        cases inactive
      have counted := registry_answers stands body completed (by rw [exited]; nofun)
        (by rw [exited]; nofun) replayed
      simp only [LosslessRuntime.waiting, SessionTask.inboxAsks, inbox, idle, front,
        List.countP_cons, Option.any_none, RuntimeMessage.asksFor, answers_of_sent, if_true, counted]
      simp only [true_and, Bool.decide_eq_true]
      omega
    · apply unchanged idle
      · rw [answers_of_sent, if_neg own]
      · simp [RuntimeMessage.asksFor, own]

/-- A step of the task itself, which reads a frame or changes nothing that waits. -/
theorem moved_waiting {receiver : SessionReceiver} {roundId : UInt32}
    {manifest : LosslessSessionManifest} {plan : BlockPlan} {mode : ReceiverMode} {kind : TaskEvent}
    (owned : Owned runtime) (stands : Stands sessionId runtime id task) (dry : DryTask task)
    (body : task.body = .receiver receiver)
    (completed : Completed receiver roundId manifest plan mode)
    (moved : TaskMoved crate host.toHost runtime id task kind later output) :
    later.inboxAsks roundId + output.answers sessionId roundId = task.inboxAsks roundId := by
  have quiet : RuntimeOutput.none.answers sessionId roundId = 0 := rfl
  have emptied (stopped : task.stage ≠ .running) (outcome : SessionOutcome) :
      (task.finish outcome).inboxAsks roundId + RuntimeOutput.none.answers sessionId roundId =
        task.inboxAsks roundId := by
    rw [dry receiver roundId stopped body (last_round_of_completed completed)]
    rfl
  cases moved with
  | skipped running other | senderEnded running other =>
    rw [body] at other
    cases other
  | @received other next frame rest sent running same popped received =>
    rw [body] at same
    cases same
    have sound := owned.sound task (List.mem_of_getElem? stands.found) receiver body
    rcases sound.answering with ⟨given, answering⟩
    have session := received_session answering received
    rw [answers_of_sent, session, sound.session, stands.session, if_pos rfl,
      completed_answers completed received, SessionTask.inboxAsks, SessionTask.inboxAsks,
      ArrayQueue.pop_items popped, List.countP_cons]
  | panicked running same popped panicked =>
    rw [body] at same
    cases same
    rcases completed_receives crate host.toHost completed _ with ⟨_, _, _, _, taken, _⟩
    rw [taken] at panicked
    cases panicked
  | left running same leaves none =>
    rw [body] at same
    cases same
    rcases completed_replay completed with ⟨replay, present, _⟩
    have finished : receiver.finishSession.completedReplay = receiver.completedReplay := rfl
    rw [finished, present] at none
    cases none
  | resumed acknowledged => exact emptied (by rw [acknowledged]; nofun) _
  | cancelled requested opened =>
    rw [stands.unaborted] at requested
    cases requested

/-- The places of a session's frames apart from the task. -/
theorem waiting_elsewhere {roundId : UInt32} {messages : List RuntimeMessage} {first last : Nat}
    (delivering : next.delivering = runtime.delivering)
    (queued : next.messages = runtime.messages ++ messages)
    (inbox : later.inboxAsks roundId + first = task.inboxAsks roundId)
    (new : messages.countP (RuntimeMessage.asksFor sessionId roundId) = last) :
    next.waiting sessionId roundId later + first = runtime.waiting sessionId roundId task + last := by
  rw [LosslessRuntime.waiting, LosslessRuntime.waiting, delivering, queued, List.countP_append, new]
  omega

/-- A delivery is the session's exactly if it goes to the session's task. -/
theorem delivery_own_iff {delivery : Delivery} (owned : Owned runtime)
    (stands : Stands sessionId runtime id task) (sending : runtime.delivering = some delivery) :
    delivery.task = id ↔ delivery.session = sessionId := by
  have owner := owned.delivery delivery sending
  constructor
  · intro here
    rw [here, owner_of_found stands.found, stands.session] at owner
    exact (Option.some.inj owner).symm
  · intro own
    rw [own] at owner
    exact stands.sole delivery.task owner

theorem delivery_asks_own {delivery : Delivery} {roundId : UInt32}
    (own : delivery.session = sessionId) :
    delivery.asksFor sessionId roundId = asks roundId delivery.frame := by
  simp [Delivery.asksFor, own]

theorem delivery_asks_other {delivery : Delivery} {roundId : UInt32}
    (other : delivery.session ≠ sessionId) : delivery.asksFor sessionId roundId = false := by
  simp [Delivery.asksFor, other]

/-- Other tasks answer for other sessions. -/
theorem other_silent {place : TaskId} {other changed : SessionTask} {kind : TaskEvent}
    (owned : Owned runtime) (stands : Stands sessionId runtime id task) (away : place ≠ id)
    (found : runtime.tasks[place]? = some other)
    (moved : TaskMoved crate host.toHost runtime place other kind changed output) (roundId : UInt32) :
    output.answers sessionId roundId = 0 := by
  cases moved with
  | @received receiver next frame rest sent running body popped received =>
    have sound := owned.sound other (List.mem_of_getElem? found) receiver body
    rcases sound.answering with ⟨given, answering⟩
    have session := received_session answering received
    have apart : other.sessionId ≠ sessionId := by
      intro own
      have owner := owner_of_found found
      rw [own] at owner
      exact away (stands.sole place owner)
    rw [answers_of_sent, session, sound.session, if_neg apart]
  | _ => rfl

theorem waiting_step {receiver : SessionReceiver} {roundId : UInt32}
    {manifest : LosslessSessionManifest} {plan : BlockPlan} {mode : ReceiverMode}
    (owned : Owned runtime) (stands : Stands sessionId runtime id task) (dry : DryTask task)
    (body : task.body = .receiver receiver)
    (completed : Completed receiver roundId manifest plan mode)
    (step : RuntimeStep crate config host runtime event next output)
    (after : next.tasks[id]? = some later) :
    next.waiting sessionId roundId later + output.answers sessionId roundId =
      runtime.waiting sessionId roundId task + event.submits sessionId roundId := by
  have found := stands.found
  have quiet : RuntimeOutput.none.answers sessionId roundId = 0 := rfl
  cases step with
  | submitted outside =>
    rw [LosslessRuntime.post, found] at after
    cases after
    exact waiting_elsewhere rfl rfl rfl List.countP_singleton
  | @handled message tail next output idle front handled =>
    have whole : RuntimeStep crate config host runtime .handled next output :=
      .handled idle front handled
    rcases task_after whole found with ⟨changed, reached, change⟩
    rw [after] at reached
    cases reached
    have inbox : later.inbox = task.inbox := by
      cases change <;> rfl
    exact handled_waiting stands body completed idle front handled inbox
  | @accepted delivery other inbox sending present opened pushed =>
    have own := delivery_own_iff owned stands sending
    rcases found_set_cases found present after with ⟨rfl, rfl, rfl⟩ | ⟨here, rfl⟩
    · simp only [LosslessRuntime.waiting, LosslessRuntime.setTask, SessionTask.inboxAsks, sending,
        Option.any_some, Option.any_none, ArrayQueue.push_items pushed, List.countP_append,
        List.countP_singleton, delivery_asks_own (own.mp rfl), quiet, RuntimeEvent.submits,
        Bool.false_eq_true, if_false]
      omega
    · have apart : delivery.session ≠ sessionId := fun session => here (own.mpr session)
      simp only [LosslessRuntime.waiting, LosslessRuntime.setTask, sending, Option.any_some,
        Option.any_none, delivery_asks_other apart, quiet, RuntimeEvent.submits, Bool.false_eq_true,
        if_false]
  | @refused delivery other sent answered sending present closed replayed =>
    have own := delivery_own_iff owned stands sending
    rw [found] at after
    cases after
    by_cases session : delivery.session = sessionId
    · have here := own.mpr session
      rw [here, found] at present
      cases present
      rcases stage_of_closed closed with ⟨started, handed⟩
      rw [session] at replayed
      have counted := registry_answers stands body completed started handed replayed
      simp only [LosslessRuntime.waiting, sending, Option.any_some, Option.any_none,
        delivery_asks_own session, answers_of_sent, session, if_true, counted,
        RuntimeEvent.submits, Bool.false_eq_true, if_false]
      omega
    · simp only [LosslessRuntime.waiting, sending, Option.any_some, Option.any_none,
        delivery_asks_other session, answers_of_sent, session, if_false, RuntimeEvent.submits,
        Bool.false_eq_true]
  | @moved place other changed kind output present moved =>
    rcases found_set_cases found present after with ⟨rfl, rfl, rfl⟩ | ⟨here, rfl⟩
    · exact waiting_elsewhere rfl (List.append_nil _).symm
        (moved_waiting owned stands dry body completed moved) rfl
    · rw [other_silent owned stands here present moved]
      rfl
  | @handedOver place other finishing replay kind present running same leaves replayed =>
    rcases found_set_cases found present after with ⟨rfl, rfl, rfl⟩ | ⟨here, rfl⟩
    · exact waiting_elsewhere rfl rfl rfl rfl
    · exact waiting_elsewhere rfl rfl rfl rfl
  | @reported place other outcome present ended =>
    rcases found_set_cases found present after with ⟨rfl, rfl, rfl⟩ | ⟨here, rfl⟩
    · exact waiting_elsewhere rfl rfl rfl rfl
    · exact waiting_elsewhere rfl rfl rfl rfl

end Handoff

/-! ## Whole runs -/

def answersGiven (sessionId : UInt64) (roundId : UInt32) (labels : List RuntimeLabel) : Nat :=
  (labels.map fun label => label.output.answers sessionId roundId).sum

def asksSubmitted (sessionId : UInt64) (roundId : UInt32) (labels : List RuntimeLabel) : Nat :=
  (labels.map fun label => label.event.submits sessionId roundId).sum

section Runs

variable {crate : FountainCrate} {config : LosslessConfig} {runtime finish : LosslessRuntime}
  {sessionId : UInt64} {id : TaskId} {task : SessionTask} {receiver : SessionReceiver}
  {roundId : UInt32}

/-- Where a run has taken a completed receiver: its last round is not lower, and as long as it is the
same, the answers make up for what has been submitted and does not wait any more. -/
def Accounted (sessionId : UInt64) (id : TaskId) (roundId : UInt32) (before : Nat)
    (labels : List RuntimeLabel) (runtime : LosslessRuntime) : Prop :=
  ∃ task receiver lastRoundId, runtime.tasks[id]? = some task ∧ task.sessionId = sessionId ∧
    task.body = .receiver receiver ∧ receiver.reportedComplete = true ∧
    receiver.lastRound = some lastRoundId ∧ roundId ≤ lastRoundId ∧
    (lastRoundId = roundId → runtime.waiting sessionId roundId task +
      answersGiven sessionId roundId labels = before + asksSubmitted sessionId roundId labels)

theorem accounted_step {before : Nat} {labels : List RuntimeLabel} {next : LosslessRuntime}
    {label : RuntimeLabel}
    (reachable : (handoffSystem crate config sessionId).Reachable runtime)
    (accounted : Accounted sessionId id roundId before labels runtime)
    (taken : (handoffSystem crate config sessionId).step runtime label next) :
    Accounted sessionId id roundId before (labels ++ [label]) next := by
  rcases dry_of_reachable reachable with ⟨owned, held, dry⟩
  rcases accounted with ⟨task, receiver, lastRoundId, found, session, body, reported, last, above,
    balance⟩
  rcases taken with ⟨_, quiet, host, stepped⟩
  have step := step_cases stepped
  have stands := stands_of_found held found session
  rcases stands_step owned stands quiet step with ⟨later, after, stays⟩
  rcases stays receiver lastRoundId body reported last with
    ⟨other, laterRoundId, sameBody, stillReported, laterLast, higher⟩
  refine ⟨later, other, laterRoundId, after.found, after.session, sameBody, stillReported, laterLast,
    UInt32.le_trans above higher, ?_⟩
  intro same
  subst same
  have unmoved : lastRoundId = laterRoundId := UInt32.le_antisymm higher above
  subst unmoved
  have sound := owned.sound task (List.mem_of_getElem? found)
  rcases completed_of_task sound body reported with ⟨sameRoundId, manifest, plan, mode, completed⟩
  rw [last_round_of_completed completed] at last
  cases last
  have counted := waiting_step owned stands (dry id task found session) body completed step after.found
  have earlier := balance rfl
  simp only [answersGiven, asksSubmitted, List.map_append, List.map_cons, List.map_nil,
    List.sum_append, List.sum_cons, List.sum_nil] at earlier ⊢
  omega

/-- Over runs in which no `SourceDone` of a completed receiver's last round is in its inbox when its
loop ends or gets there before its end, each that is submitted is answered once, unless it still
waits: in the queue, on its way to the inbox, or in the inbox of the task while that is in its
loop. -/
theorem handoff_without_gap {labels : List RuntimeLabel} {later : SessionTask}
    {after : SessionReceiver} (reachable : (handoffSystem crate config sessionId).Reachable runtime)
    (run : (handoffSystem crate config sessionId).Run runtime labels finish)
    (found : runtime.tasks[id]? = some task) (session : task.sessionId = sessionId)
    (body : task.body = .receiver receiver) (reported : receiver.reportedComplete = true)
    (last : receiver.lastRound = some roundId) (present : finish.tasks[id]? = some later)
    (laterBody : later.body = .receiver after) (same : after.lastRound = some roundId) :
    finish.waiting sessionId roundId later + answersGiven sessionId roundId labels =
        runtime.waiting sessionId roundId task + asksSubmitted sessionId roundId labels ∧
      (later.stage ≠ .running → later.inboxAsks roundId = 0) := by
  have accounted : Accounted sessionId id roundId (runtime.waiting sessionId roundId task) labels
      finish := by
    apply TransitionSystem.history_of_run run
    · exact ⟨task, receiver, roundId, found, session, body, reported, last, UInt32.le_refl _,
        fun _ => rfl⟩
    · intro before state label next ran accounted taken
      exact accounted_step (reachable.run ran) accounted taken
  rcases accounted with ⟨other, final, lastRoundId, foundFinal, sessionFinal, bodyFinal, _, lastFinal, _,
    balance⟩
  rw [present] at foundFinal
  cases foundFinal
  rw [laterBody] at bodyFinal
  cases bodyFinal
  rw [same] at lastFinal
  cases lastFinal
  refine ⟨balance rfl, ?_⟩
  intro stopped
  have dry := (dry_of_reachable (reachable.run run)).2.2
  exact dry id later present sessionFinal after roundId stopped laterBody same

end Runs

/-- The condition of `NoFrameStranded`, checked: the inbox is empty when a timer fires, and only a task
in its loop gets frames. -/
def unstranded (runtime : LosslessRuntime) : RuntimeEvent → Bool
  | .task id .passiveTimeout => (runtime.tasks[id]?).all fun task => task.inbox.isEmpty
  | .accepted => runtime.delivering.all fun delivery =>
      (runtime.tasks[delivery.task]?).all fun task => task.stage = .running
  | _ => true

theorem no_frame_stranded_of_check {sessionId : UInt64} {runtime : LosslessRuntime}
    {event : RuntimeEvent} (checked : unstranded runtime event = true) :
    NoFrameStranded sessionId runtime event where
  leaving id task receiver roundId same found _ _ _ := by
    subst same
    rw [unstranded, found] at checked
    have empty : task.inbox.items = [] := List.isEmpty_iff.mp checked
    rw [SessionTask.inboxAsks, empty]
    rfl
  accepting delivery task receiver roundId same sending found _ stopped _ _ := by
    subst same
    rw [unstranded, sending, Option.all_some, found] at checked
    exact absurd (of_decide_eq_true checked) stopped

def handoffStep (runtime : LosslessRuntime) (event : RuntimeEvent) :
    Option (LosslessRuntime × RuntimeOutput) :=
  if unstranded runtime event then undisturbedStep runtime event else none

theorem handoff_step_taken {runtime next : LosslessRuntime} {event : RuntimeEvent}
    {output : RuntimeOutput} (stepped : handoffStep runtime event = some (next, output)) :
    (handoffSystem idleCrate plainConfig 7).step runtime ⟨event, output⟩ next := by
  rw [handoffStep] at stepped
  split_ifs at stepped with checked
  exact ⟨no_frame_stranded_of_check checked, undisturbed_step_taken stepped⟩

theorem handoff_run {start finish : LosslessRuntime} {events : List RuntimeEvent}
    {outputs : List (RuntimeEvent × RuntimeOutput)}
    (executed : TransitionSystem.execute handoffStep start events = some (finish, outputs)) :
    (handoffSystem idleCrate plainConfig 7).Run start
      (outputs.map fun output => ⟨output.1, output.2⟩) finish :=
  TransitionSystem.run_of_execute RuntimeLabel.mk (fun _ _ _ _ => handoff_step_taken) executed

/-- Two more copies of the `SourceDone`: the live receiver takes the first, the runtime the second. -/
def duplicateEvents : List RuntimeEvent :=
  frameEvents (.sourceDone 0) ++ handoverEvents ++
    [.submitted (.deliver 7 (controlFrame (.sourceDone 0))), .handled]

theorem first_receiver_some {runtime : LosslessRuntime} {session : UInt64} {reported : Bool}
    {lastRound : Option UInt32} {frame : Option InboundFrame}
    (first : firstReceiver runtime = some (session, reported, lastRound, frame)) :
    ∃ task receiver, runtime.tasks[0]? = some task ∧ task.sessionId = session ∧
      task.body = .receiver receiver ∧ receiver.reportedComplete = reported ∧
      receiver.lastRound = lastRound := by
  rcases Option.bind_eq_some_iff.mp first with ⟨task, found, same⟩
  split at same
  next => cases same
  next receiver body =>
    simp only [Option.some.injEq, Prod.mk.injEq] at same
    rcases same with ⟨same, complete, last, _⟩
    exact ⟨task, receiver, found, same, body, complete, last⟩

theorem duplicates_answered : ∃ runtime labels finish task,
    (handoffSystem idleCrate plainConfig 7).Reachable runtime ∧
      (handoffSystem idleCrate plainConfig 7).Run runtime labels finish ∧
      finish.tasks[0]? = some task ∧ asksSubmitted 7 0 labels = 2 ∧
      finish.waiting 7 0 task + answersGiven 7 0 labels = 2 := by
  have started : (TransitionSystem.execute handoffStep .new completionEvents).bind (fun result =>
      firstReceiver result.1) = some (7, true, some 0, none) := by
    decide +kernel
  have goneOn : ((TransitionSystem.execute handoffStep .new completionEvents).bind fun result =>
      (TransitionSystem.execute handoffStep result.1 duplicateEvents).bind fun later =>
        firstReceiver later.1) = some (7, true, some 0, none) := by
    decide +kernel
  have counted : ((TransitionSystem.execute handoffStep .new completionEvents).bind fun result =>
      (TransitionSystem.execute handoffStep result.1 duplicateEvents).map fun later =>
        (asksSubmitted 7 0 (later.2.map fun output => ⟨output.1, output.2⟩),
          (result.1.tasks[0]?).map (result.1.waiting 7 0))) = some (2, some 0) := by
    decide +kernel
  rcases Option.bind_eq_some_iff.mp started with ⟨⟨runtime, outputs⟩, executed, first⟩
  rw [executed, Option.bind_some] at goneOn counted
  rcases Option.bind_eq_some_iff.mp goneOn with ⟨⟨finish, later⟩, finished, last⟩
  rw [finished, Option.map_some, Option.some.injEq, Prod.mk.injEq] at counted
  rcases counted with ⟨submitted, none⟩
  rcases first_receiver_some first with ⟨task, receiver, found, session, body, reported, lastRound⟩
  rcases first_receiver_some last with ⟨final, after, present, _, laterBody, _, sameRound⟩
  rw [found, Option.map_some, Option.some.injEq] at none
  have reachable : (handoffSystem idleCrate plainConfig 7).Reachable runtime :=
    ⟨.new, _, rfl, handoff_run executed⟩
  have balance := (handoff_without_gap reachable (handoff_run finished) found session body reported
    lastRound present laterBody sameRound).1
  rw [none, submitted] at balance
  exact ⟨runtime, _, finish, final, reachable, handoff_run finished, present, submitted, balance⟩

/-- A copy of the `SourceDone` is queued when the receiver leaves its loop. It gets into the inbox
before the replay is registered, and is dropped with the inbox. -/
def strandingEvents : List RuntimeEvent :=
  completionEvents ++
    [.submitted (.deliver 7 (controlFrame (.sourceDone 0))), .task 0 .passiveTimeout, .handled,
      .accepted, .handled, .task 0 .resumed, .task 0 .reported, .handled]

theorem accepted_frame_unanswered : ∃ labels runtime,
    (undisturbedSystem idleCrate plainConfig 7).Run .new labels runtime ∧
      asksSubmitted 7 0 labels = 2 ∧ answersOf labels = [(7, .ready), (7, .need 0 .complete)] ∧
      runtime.messages = [] ∧ runtime.delivering.isNone ∧
      runtime.tasks.map (fun task => (task.stage, task.inbox.length)) = [(.reported, 0)] := by
  have evaluated : (TransitionSystem.execute undisturbedStep .new strandingEvents).map (fun result =>
      (asksSubmitted 7 0 (result.2.map fun output => ⟨output.1, output.2⟩),
        answersOf (result.2.map fun output => ⟨output.1, output.2⟩), result.1.messages)) =
      some (2, [(7, .ready), (7, .need 0 .complete)], []) := by
    decide +kernel
  have idle : (TransitionSystem.execute undisturbedStep .new strandingEvents).map (fun result =>
      (result.1.delivering.isNone,
        result.1.tasks.map fun task => (task.stage, task.inbox.length))) =
      some (true, [(.reported, 0)]) := by
    decide +kernel
  rcases Option.map_eq_some_iff.mp evaluated with ⟨⟨runtime, outputs⟩, executed, same⟩
  rw [executed, Option.map_some, Option.some.injEq, Prod.mk.injEq] at idle
  simp only [Prod.mk.injEq] at same
  rcases same with ⟨submitted, answers, messages⟩
  exact ⟨_, runtime, undisturbed_run executed, submitted, answers, messages, idle.1, idle.2⟩

end Nextmini.Session
