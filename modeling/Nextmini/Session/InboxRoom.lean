import Nextmini.Session.SessionStarts
import Nextmini.Session.SessionTasks

/-!
# Room in the inboxes

The runtime waits while the inbox it sends into is full, and a receiver that has left its loop reads
no more frames until the runtime has acknowledged its replay. The two wait for each other when the
acknowledgement stands behind more frames than the inbox has room for. They do not when the room is
there at the end of the loop.
-/

namespace Nextmini.Session

open Nextmini.Library
open Nextmini.Messages

set_option autoImplicit false

/-- The runtime waits for room in the inbox of a receiver that waits for its acknowledgement. -/
def Deadlocked (runtime : LosslessRuntime) : Prop :=
  ∃ delivery task, runtime.delivering = some delivery ∧
    runtime.tasks[delivery.task]? = some task ∧ task.stage = .awaitingAck ∧
    task.inbox.length = inboxCapacity

namespace RuntimeMessage

/-- The message takes the entry of the session out. -/
def ends (sessionId : UInt64) : RuntimeMessage → Bool
  | .abort other | .sessionExited other _ _ => other = sessionId
  | _ => false

/-- The message is a frame for the inbox of the session. -/
def fills (sessionId : UInt64) : RuntimeMessage → Bool
  | .deliver other frame => other = sessionId ∧ LosslessRuntime.unsupportedVersion frame = false
  | _ => false

end RuntimeMessage

/-- How many of the messages go into the inbox of the session as long as it is active. -/
def framesAhead (sessionId : UInt64) : List RuntimeMessage → Nat
  | [] => 0
  | message :: rest =>
      if message.ends sessionId then 0
      else (if message.fills sessionId then 1 else 0) + framesAhead sessionId rest

/-- What is in the inbox of a task, on its way there, and queued for it among the messages. -/
def LosslessRuntime.load (runtime : LosslessRuntime) (id : TaskId) (task : SessionTask)
    (messages : List RuntimeMessage) : Nat :=
  task.inbox.length + (if runtime.delivering.map Delivery.task = some id then 1 else 0) +
    (if runtime.sessions task.sessionId = some id then framesAhead task.sessionId messages else 0)

/-- When a passive timer fires, there is room for all that is queued for its receiver. -/
def LeavesWithRoom (runtime : LosslessRuntime) (event : RuntimeEvent) : Prop :=
  ∀ id task, event = .task id .passiveTimeout → runtime.tasks[id]? = some task →
    runtime.load id task runtime.messages ≤ inboxCapacity

def roomySystem (crate : FountainCrate) (config : LosslessConfig) :
    TransitionSystem LosslessRuntime RuntimeLabel :=
  (runtimeSystem crate config).restrict fun runtime label => LeavesWithRoom runtime label.event

/-- The handed-over replay of the task is in the queue, and there is room for all that stands before
it. -/
def AckPending (runtime : LosslessRuntime) (id : TaskId) (task : SessionTask) : Prop :=
  ∃ replay ahead rest, runtime.messages = ahead ++ .receiverCompleted task.sessionId replay id :: rest ∧
    runtime.load id task ahead ≤ inboxCapacity

def Roomy (runtime : LosslessRuntime) : Prop :=
  ∀ id task, runtime.tasks[id]? = some task → task.stage = .awaitingAck → AckPending runtime id task

section Room

variable {crate : FountainCrate} {config : LosslessConfig} {host : RuntimeHost}
  {runtime next : LosslessRuntime} {event : RuntimeEvent} {output : RuntimeOutput}
  {id : TaskId} {task later : SessionTask}

theorem not_deadlocked (roomy : Roomy runtime) : ¬Deadlocked runtime := by
  intro stuck
  rcases stuck with ⟨delivery, task, delivering, found, awaiting, full⟩
  rcases roomy delivery.task task found awaiting with ⟨replay, ahead, rest, _, bounded⟩
  rw [LosslessRuntime.load, delivering, full] at bounded
  simp only [Option.map_some, if_true] at bounded
  omega

theorem frames_ahead_rest {sessionId : UInt64} {message : RuntimeMessage}
    (going : message.ends sessionId = false) (rest : List RuntimeMessage) :
    framesAhead sessionId rest ≤ framesAhead sessionId (message :: rest) := by
  simp only [framesAhead, going, Bool.false_eq_true, if_false]
  exact Nat.le_add_left _ _

/-- A step that leaves the inbox, the delivery and the entry as they were leaves the load, or less. -/
theorem load_le {messages fewer : List RuntimeMessage}
    (inbox : later.inbox = task.inbox) (session : later.sessionId = task.sessionId)
    (delivering : next.delivering.map Delivery.task = some id →
      runtime.delivering.map Delivery.task = some id)
    (entry : next.sessions task.sessionId = some id → runtime.sessions task.sessionId = some id ∧
      framesAhead task.sessionId fewer ≤ framesAhead task.sessionId messages) :
    next.load id later fewer ≤ runtime.load id task messages := by
  rw [LosslessRuntime.load, LosslessRuntime.load, inbox, session]
  apply Nat.add_le_add
  · apply Nat.add_le_add_left
    split_ifs with after before
    · exact Nat.le_refl _
    · exact absurd (delivering after) before
    · exact Nat.zero_le _
    · exact Nat.le_refl _
  · split_ifs with after before
    · exact (entry after).2
    · exact absurd (entry after).1 before
    · exact Nat.zero_le _
    · exact Nat.le_refl _

theorem request_goes_on {message : RuntimeMessage} {started : UInt64}
    (requested : message.requests = some started) (sessionId : UInt64) :
    message.ends sessionId = false := by
  cases message with
  | abort other => cases requested
  | sessionExited other outcome place => cases requested
  | _ => rfl

theorem entry_kept {message : RuntimeMessage} {sessionId : UInt64} {ahead : List RuntimeMessage}
    (going : message.ends sessionId = false)
    (same : next.sessions sessionId = some id → runtime.sessions sessionId = some id) :
    next.sessions sessionId = some id → runtime.sessions sessionId = some id ∧
      framesAhead sessionId ahead ≤ framesAhead sessionId (message :: ahead) := by
  intro entry
  exact ⟨same entry, frames_ahead_rest going ahead⟩

/-- A frame that is handled goes from the queue on its way to the inbox. -/
theorem handled_load {message : RuntimeMessage} {tail ahead : List RuntimeMessage}
    (owned : Owned runtime) (found : runtime.tasks[id]? = some task) (idle : runtime.delivering = none)
    (handled : MessageHandled config { runtime with messages := tail } message next output)
    (inbox : later.inbox = task.inbox) (session : later.sessionId = task.sessionId) :
    next.load id later ahead ≤ runtime.load id task (message :: ahead) := by
  have unsent (none : next.delivering = none) : next.delivering.map Delivery.task = some id →
      runtime.delivering.map Delivery.task = some id := by
    rw [none]
    nofun
  cases handled with
  | alreadyActive requested active =>
    exact load_le inbox session (unsent idle) (entry_kept (request_goes_on requested _) fun entry =>
      entry)
  | preflight requested inactive =>
    exact load_le inbox session (unsent idle) (entry_kept (request_goes_on requested _) fun entry =>
      entry)
  | @started message started body starts inactive fresh =>
    apply load_le inbox session (unsent idle)
    apply entry_kept (request_goes_on (requests_of_starts starts) _)
    intro entry
    have inside := (List.getElem?_eq_some_iff.mp found).1
    by_cases own : task.sessionId = started
    · simp only [LosslessRuntime.spawn, LosslessRuntime.forgetReplay, own, Function.update_self,
        Option.some.injEq] at entry
      exact absurd entry.symm (Nat.ne_of_lt inside)
    · simpa [LosslessRuntime.spawn, LosslessRuntime.forgetReplay, own] using entry
  | @aborted other =>
    have still : ({ runtime with messages := tail }.abortSession other).delivering = none :=
      (abort_session_delivering _ _).trans idle
    apply load_le inbox session (unsent still)
    intro entry
    have before := remove_session_entries entry
    refine ⟨before, frames_ahead_rest ?_ ahead⟩
    apply decide_eq_false
    intro own
    rw [← own, LosslessRuntime.abortSession, LosslessRuntime.forgetReplay, session_removed] at entry
    cases entry
  | dropped unsupported =>
    exact load_le inbox session (unsent idle) (entry_kept rfl fun entry => entry)
  | @sending other frame place supported active =>
    by_cases here : place = id
    · subst here
      have owner := owned.entries other place active
      rw [owner_of_found found] at owner
      have own := Option.some.inj owner
      simp only [LosslessRuntime.load, idle, inbox, session, Option.map_none, Option.map_some,
        reduceCtorEq, if_false, if_true, own, framesAhead, RuntimeMessage.ends,
        RuntimeMessage.fills, Bool.false_eq_true, supported, and_self, decide_true]
      split_ifs
      · omega
      · contradiction
    · apply load_le inbox session
      · intro sent
        exact absurd (Option.some.inj sent) here
      · exact entry_kept rfl fun entry => entry
  | replayed supported inactive answer =>
    exact load_le inbox session (unsent idle) (entry_kept rfl fun entry => entry)
  | registered =>
    exact load_le inbox session (unsent idle) (entry_kept rfl fun entry => entry)
  | @exited other outcome place =>
    have still : ({ runtime with messages := tail }.finishSession other outcome).delivering = none :=
      (finish_session_delivering _ _ _).trans idle
    apply load_le inbox session (unsent still)
    intro entry
    have before := finish_session_entries entry
    refine ⟨before, frames_ahead_rest ?_ ahead⟩
    apply decide_eq_false
    intro own
    rw [← own, session_finished] at entry
    cases entry
  | topologySet =>
    exact load_le inbox session (unsent idle) (entry_kept rfl fun entry => entry)

/-- More messages at the end of the queue change nothing for the task. -/
theorem pending_of_more {new : List RuntimeMessage} (pending : AckPending runtime id task)
    (messages : next.messages = runtime.messages ++ new)
    (less : ∀ ahead, next.load id later ahead ≤ runtime.load id task ahead)
    (session : later.sessionId = task.sessionId) : AckPending next id later := by
  rcases pending with ⟨replay, ahead, rest, queued, bounded⟩
  refine ⟨replay, ahead, rest ++ new, ?_, Nat.le_trans (less ahead) bounded⟩
  rw [messages, queued, session, List.append_assoc, List.cons_append]

/-- A task that waits for its acknowledgement and goes on waiting. -/
theorem pending_step (owned : Owned runtime)
    (step : RuntimeStep crate config host runtime event next output)
    (found : runtime.tasks[id]? = some task) (awaiting : task.stage = .awaitingAck)
    (pending : AckPending runtime id task) (after : next.tasks[id]? = some later)
    (still : later.stage = .awaitingAck) : AckPending next id later := by
  have kept (entries : next.sessions = runtime.sessions)
      (less : next.delivering.map Delivery.task = some id →
        runtime.delivering.map Delivery.task = some id) (ahead : List RuntimeMessage) :
      next.load id task ahead ≤ runtime.load id task ahead := by
    apply load_le rfl rfl less
    intro entry
    rw [entries] at entry
    exact ⟨entry, Nat.le_refl _⟩
  have handed (idle : next.delivering = none) (sent : next.delivering.map Delivery.task = some id) :
      runtime.delivering.map Delivery.task = some id := by
    rw [idle] at sent
    cases sent
  cases step with
  | submitted outside =>
    rw [LosslessRuntime.post, found] at after
    cases after
    exact pending_of_more pending rfl (kept rfl fun sent => sent) rfl
  | @handled message tail next output idle front handled =>
    rcases pending with ⟨replay, ahead, rest, queued, bounded⟩
    have whole : RuntimeStep crate config host runtime .handled next output :=
      .handled idle front handled
    rcases task_after whole found with ⟨changed, reached, change⟩
    rw [after] at reached
    cases reached
    rw [front] at queued
    cases ahead with
    | nil =>
      cases queued
      cases handled with
      | registered =>
        simp only [LosslessRuntime.registerReplay, List.getElem?_modify, found,
          Option.map_eq_map, Option.map_some, if_true, awaiting] at after
        cases after
        cases still
      | alreadyActive requested | preflight requested => cases requested
      | started starts => cases starts
    | cons first ahead =>
      cases queued
      have inbox : later.inbox = task.inbox := by
        cases change <;> rfl
      have session : later.sessionId = task.sessionId := by
        cases change <;> rfl
      refine ⟨replay, ahead, rest, ?_, ?_⟩
      · rw [handled_messages handled, session]
        rfl
      · exact Nat.le_trans (handled_load owned found idle handled inbox session) bounded
  | @accepted delivery other inbox sending present opened pushed =>
    rcases found_set_cases found present after with ⟨here, rfl, rfl⟩ | ⟨_, rfl⟩
    · refine pending_of_more pending (List.append_nil _).symm ?_ rfl
      intro ahead
      simp only [LosslessRuntime.load, LosslessRuntime.setTask, sending, here,
        ArrayQueue.length_push pushed, Option.map_none, Option.map_some, if_true, reduceCtorEq,
        if_false]
      omega
    · exact pending_of_more pending (List.append_nil _).symm (kept rfl (handed rfl)) rfl
  | refused sending present closed replayed =>
    rw [found] at after
    cases after
    exact pending_of_more pending (List.append_nil _).symm (kept rfl (handed rfl)) rfl
  | @moved place other changed event output present moved =>
    rcases found_set_cases found present after with ⟨rfl, rfl, rfl⟩ | ⟨_, rfl⟩
    · cases moved with
      | cancelled requested opened => cases still
      | resumed acknowledged =>
        rw [awaiting] at acknowledged
        cases acknowledged
      | skipped running | received running | panicked running | left running | senderEnded running =>
        rw [awaiting] at running
        cases running
    · exact pending_of_more pending (List.append_nil _).symm (kept rfl fun sent => sent) rfl
  | @handedOver place other receiver replay event present running body leaves replayed =>
    rcases found_set_cases found present after with ⟨rfl, rfl, rfl⟩ | ⟨_, rfl⟩
    · rw [awaiting] at running
      cases running
    · exact pending_of_more pending rfl (kept rfl fun sent => sent) rfl
  | @reported place other outcome present ended =>
    rcases found_set_cases found present after with ⟨rfl, rfl, rfl⟩ | ⟨_, rfl⟩
    · rw [awaiting] at ended
      cases ended
    · exact pending_of_more pending rfl (kept rfl fun sent => sent) rfl

/-- A receiver that leaves its loop with a replay has room for what is queued. -/
theorem leaves_with_room {receiver : SessionReceiver} {kind : TaskEvent}
    (found : runtime.tasks[id]? = some task) (leaves : runtime.Leaves id task receiver kind)
    (room : LeavesWithRoom runtime (.task id kind)) :
    runtime.load id task runtime.messages ≤ inboxCapacity := by
  cases kind with
  | passiveTimeout => exact room id task rfl found
  | channelClosed =>
    rcases leaves with ⟨empty, unlisted, unsent⟩
    rw [LosslessRuntime.load, if_neg unlisted, if_neg unsent, ArrayQueue.is_empty_iff.mp empty]
    exact Nat.zero_le _
  | received | resumed | senderEnded outcome | cancelled | reported => cases leaves

theorem roomy_step (owned : Owned runtime) (roomy : Roomy runtime)
    (room : LeavesWithRoom runtime event)
    (step : RuntimeStep crate config host runtime event next output) : Roomy next := by
  intro id later after still
  rcases task_before step after with ⟨task, found, changed⟩ | ⟨_, _, _, _, _, rfl⟩
  · by_cases awaiting : task.stage = .awaitingAck
    · exact pending_step owned step found awaiting (roomy id task found awaiting) after still
    · have otherwise (same : later.stage = task.stage) : AckPending next id later := by
        rw [same] at still
        exact absurd still awaiting
      cases step with
      | submitted | accepted | refused => cases changed <;> exact otherwise rfl
      | handled =>
        cases changed with
        | acknowledged => cases still
        | _ => exact otherwise rfl
      | @moved place other changed kind output present moved =>
        rcases found_set_cases found present after with ⟨rfl, rfl, rfl⟩ | ⟨here, rfl⟩
        · cases moved with
          | skipped | received => exact otherwise rfl
          | _ => cases still
        · exact otherwise rfl
      | @handedOver place other receiver replay kind present running body leaves replayed =>
        rcases found_set_cases found present after with ⟨rfl, rfl, rfl⟩ | ⟨here, rfl⟩
        · have session := (owned.sound other (List.mem_of_getElem? found) receiver body).session
          refine ⟨replay, runtime.messages, [], ?_, leaves_with_room found leaves room⟩
          rw [← session]
          rfl
        · exact otherwise rfl
      | @reported place other outcome present ended =>
        rcases found_set_cases found present after with ⟨rfl, rfl, rfl⟩ | ⟨here, rfl⟩
        · cases still
        · exact otherwise rfl
  · cases still

theorem roomy_of_reachable (reachable : (roomySystem crate config).Reachable runtime) :
    Owned runtime ∧ Roomy runtime := by
  apply TransitionSystem.invariant_of_reachable (motive := fun runtime =>
    Owned runtime ∧ Roomy runtime) _ _ reachable
  · intro state initial
    cases initial
    refine ⟨owned_new, ?_⟩
    intro id task found
    cases found
  · intro state label next before taken
    rcases before with ⟨owned, roomy⟩
    rcases taken with ⟨room, host, stepped⟩
    have step := step_cases stepped
    exact ⟨owned_step owned step, roomy_step owned roomy room step⟩

/-- Over runs in which a receiver leaves its loop only when its inbox has room for all that is queued
for it, the runtime never waits for a receiver that waits for the runtime. -/
theorem runtime_not_deadlocked (reachable : (roomySystem crate config).Reachable runtime) :
    ¬Deadlocked runtime :=
  not_deadlocked (roomy_of_reachable reachable).2

/-! ## An inbox that fills up -/

/-- A handle sends the same message any number of times. -/
theorem submits_copies (host : RuntimeHost) {message : RuntimeMessage}
    (outside : message.fromHandle = true) (count : Nat) : ∃ labels,
    (runtimeSystem crate config).Run runtime labels
      { runtime with messages := runtime.messages ++ List.replicate count message } := by
  induction count with
  | zero =>
    refine ⟨[], ?_⟩
    rw [List.replicate_zero, List.append_nil]
    exact .nil
  | succ count induction =>
    rcases induction with ⟨labels, run⟩
    refine ⟨labels ++ [⟨.submitted message, .none⟩], .snoc run ⟨host, ?_⟩⟩
    rw [List.replicate_succ', ← List.append_assoc, LosslessRuntime.step, if_pos outside]
    rfl

theorem takes_frames (host : RuntimeHost) {sessionId : UInt64} {frame : InboundFrame}
    {rest : List RuntimeMessage} (supported : LosslessRuntime.unsupportedVersion frame = false)
    (opened : task.closed = false) (count : Nat)
    (idle : runtime.delivering = none) (entry : runtime.sessions sessionId = some id)
    (found : runtime.tasks[id]? = some task)
    (queued : runtime.messages = List.replicate count (.deliver sessionId frame) ++ rest)
    (room : task.inbox.length + count ≤ inboxCapacity) : ∃ labels next inbox,
    (runtimeSystem crate config).Run runtime labels next ∧ next.delivering = none ∧
      next.sessions sessionId = some id ∧ next.messages = rest ∧
      next.tasks[id]? = some { task with inbox := inbox } ∧
      inbox.length = task.inbox.length + count := by
  induction count generalizing runtime task with
  | zero => exact ⟨[], runtime, task.inbox, .nil, idle, entry, queued, found, rfl⟩
  | succ count induction =>
    have front : runtime.messages = .deliver sessionId frame ::
        (List.replicate count (.deliver sessionId frame) ++ rest) := queued
    have free : task.inbox.length < inboxCapacity := by omega
    rcases ArrayQueue.push_of_room free frame with ⟨inbox, pushed⟩
    have longer := ArrayQueue.length_push pushed
    let sending : LosslessRuntime :=
      { runtime with
        messages := List.replicate count (.deliver sessionId frame) ++ rest
        delivering := some ⟨id, sessionId, frame⟩ }
    have taken : (runtimeSystem crate config).step runtime ⟨.handled, .none⟩ sending := by
      refine ⟨host, ?_⟩
      simp only [LosslessRuntime.step, idle, front, LosslessRuntime.handleMessage,
        LosslessRuntime.deliverFrame, supported, Bool.false_eq_true, if_false, entry]
      rfl
    let placed : LosslessRuntime :=
      LosslessRuntime.setTask { sending with delivering := none } id { task with inbox := inbox }
    have accepted : (runtimeSystem crate config).step sending ⟨.accepted, .none⟩ placed := by
      refine ⟨host, ?_⟩
      have present : sending.tasks[id]? = some task := found
      simp only [LosslessRuntime.step, sending, Option.bind_eq_bind, Option.bind_some, found, opened,
        Bool.false_eq_true, if_false, pushed]
      rfl
    have here : placed.tasks[id]? = some { task with inbox := inbox } :=
      List.getElem?_set_self (List.getElem?_eq_some_iff.mp found).1
    rcases @induction placed { task with inbox := inbox } opened rfl entry here rfl
      (by simp only [longer]; omega) with ⟨labels, next, last, run, still, listed, after, reached, length⟩
    refine ⟨_, next, last, .cons taken (.cons accepted run), still, listed, after, reached, ?_⟩
    simp only [longer] at length
    omega

theorem passive_timeout_taken (host : RuntimeHost) {receiver : SessionReceiver}
    {replay : CompletedReceiverReplay} (found : runtime.tasks[id]? = some task)
    (running : task.stage = .running) (body : task.body = .receiver receiver)
    (passive : receiver.lifecycle = .passiveComplete)
    (replayed : receiver.finishSession.completedReplay = some replay) :
    (runtimeSystem crate config).step runtime ⟨.task id .passiveTimeout, .none⟩
      ((runtime.setTask id
        { task with body := .receiver receiver.finishSession, stage := .awaitingAck }).post
        (.receiverCompleted receiver.shared.sessionId replay id)) := by
  refine ⟨host, ?_⟩
  simp only [LosslessRuntime.step, found, Option.bind_eq_bind, Option.bind_some,
    LosslessRuntime.taskStep, running, body, passive, if_true, LosslessRuntime.leaveLoop, replayed]
  rfl

/-- Behind more frames than its inbox has room for, the acknowledgement never comes. -/
theorem frames_deadlock (host : RuntimeHost) {sessionId : UInt64} {frame : InboundFrame}
    {rest : List RuntimeMessage} (supported : LosslessRuntime.unsupportedVersion frame = false)
    (idle : runtime.delivering = none) (entry : runtime.sessions sessionId = some id)
    (found : runtime.tasks[id]? = some task) (awaiting : task.stage = .awaitingAck)
    (queued : runtime.messages =
      List.replicate (inboxCapacity - task.inbox.length + 1) (.deliver sessionId frame) ++ rest) :
    ∃ labels next, (runtimeSystem crate config).Run runtime labels next ∧ Deadlocked next := by
  have opened : task.closed = false := by
    rw [SessionTask.closed, awaiting]
  have bounded : task.inbox.length ≤ inboxCapacity := task.inbox.bounded
  rw [List.replicate_succ', List.append_assoc] at queued
  have room : task.inbox.length + (inboxCapacity - task.inbox.length) ≤ inboxCapacity := by
    omega
  rcases @takes_frames crate config runtime id task host sessionId frame _ supported opened
    (inboxCapacity - task.inbox.length) idle entry found queued room with
    ⟨labels, next, inbox, run, still, listed, left, reached, length⟩
  let stuck : LosslessRuntime :=
    { next with messages := rest, delivering := some ⟨id, sessionId, frame⟩ }
  have taken : (runtimeSystem crate config).step next ⟨.handled, .none⟩ stuck := by
    refine ⟨host, ?_⟩
    simp only [LosslessRuntime.step, still, left, List.singleton_append, LosslessRuntime.handleMessage,
      LosslessRuntime.deliverFrame, supported, Bool.false_eq_true, if_false, listed]
    rfl
  refine ⟨_, stuck, .snoc run taken, _, _, rfl, reached, awaiting, ?_⟩
  rw [length]
  omega

end Room

/-- The room that `LeavesWithRoom` asks for, checked. -/
def hasRoom (runtime : LosslessRuntime) : RuntimeEvent → Bool
  | .task id .passiveTimeout =>
      (runtime.tasks[id]?).all fun task => runtime.load id task runtime.messages ≤ inboxCapacity
  | _ => true

theorem leaves_with_room_of_check {runtime : LosslessRuntime} {event : RuntimeEvent}
    (room : hasRoom runtime event = true) : LeavesWithRoom runtime event := by
  intro id task same found
  subst same
  rw [hasRoom, found] at room
  exact of_decide_eq_true room

def roomyStep (runtime : LosslessRuntime) (event : RuntimeEvent) :
    Option (LosslessRuntime × RuntimeOutput) :=
  if hasRoom runtime event then runtime.step idleCrate plainConfig grantingHost event else none

theorem roomy_step_taken {runtime next : LosslessRuntime} {event : RuntimeEvent}
    {output : RuntimeOutput} (stepped : roomyStep runtime event = some (next, output)) :
    (roomySystem idleCrate plainConfig).step runtime ⟨event, output⟩ next := by
  rw [roomyStep] at stepped
  split_ifs at stepped with room
  exact ⟨leaves_with_room_of_check room, grantingHost, stepped⟩

/-- A receiver leaves its loop with one frame in its inbox and one more on its way there. -/
theorem one_frame_has_room : ∃ runtime, (roomySystem idleCrate plainConfig).Reachable runtime ∧
    runtime.tasks.map (fun task => (task.stage, task.inbox.length)) = [(.awaitingAck, 1)] ∧
    runtime.delivering.isSome ∧ ¬Deadlocked runtime := by
  let frame := controlFrame (.sourceDone 0)
  let events : List RuntimeEvent := completionEvents ++
    [.submitted (.deliver 7 frame), .handled, .accepted, .submitted (.deliver 7 frame), .handled,
      .task 0 .passiveTimeout]
  have evaluated : (TransitionSystem.execute roomyStep .new events).map (fun result =>
      (result.1.tasks.map fun task => (task.stage, task.inbox.length), result.1.delivering.isSome)) =
        some ([(.awaitingAck, 1)], true) := by
    decide +kernel
  rcases Option.map_eq_some_iff.mp evaluated with ⟨⟨runtime, outputs⟩, executed, same⟩
  rcases Prod.mk.inj same with ⟨stages, sending⟩
  have reachable : (roomySystem idleCrate plainConfig).Reachable runtime :=
    ⟨.new, _, rfl, TransitionSystem.run_of_execute RuntimeLabel.mk
      (fun _ _ _ _ => roomy_step_taken) executed⟩
  exact ⟨runtime, reachable, stages, sending, runtime_not_deadlocked reachable⟩

/-- What the end of the first receiver's loop would find. -/
def atTheEnd (runtime : LosslessRuntime) :
    Option (TaskStage × Nat × ReceiverLifecycle × Option CompletedReceiverReplay) :=
  runtime.tasks[0]?.bind fun task =>
    match task.body with
    | .sender .. => none
    | .receiver receiver => some (task.stage, task.inbox.length, receiver.lifecycle,
        receiver.finishSession.completedReplay)

theorem passive_end {runtime : LosslessRuntime} {length : Nat} {replay : CompletedReceiverReplay}
    (ended : atTheEnd runtime = some (.running, length, .passiveComplete, some replay)) :
    ∃ task receiver, runtime.tasks[0]? = some task ∧ task.stage = .running ∧
      task.inbox.length = length ∧ task.body = .receiver receiver ∧
      receiver.lifecycle = .passiveComplete ∧
      receiver.finishSession.completedReplay = some replay := by
  rcases Option.bind_eq_some_iff.mp ended with ⟨task, found, same⟩
  split at same
  next => cases same
  next receiver body =>
    simp only [Option.some.injEq, Prod.mk.injEq] at same
    rcases same with ⟨running, count, passive, replayed⟩
    exact ⟨task, receiver, found, running, count, body, passive, replayed⟩

/-- A receiver's passive timer fires while 1025 frames are queued for it. -/
theorem queued_frames_deadlock : ∃ runtime, (runtimeSystem idleCrate plainConfig).Reachable runtime ∧
    Deadlocked runtime := by
  have first : (executed completionEvents).bind (fun result => atTheEnd result.1) =
      some (.running, 0, .passiveComplete, some (.plain 0 .complete)) := by
    decide +kernel
  have second : (executed completionEvents).map (fun result =>
      (result.1.sessions 7, result.1.messages, result.1.delivering.isNone)) =
        some (some 0, [], true) := by
    decide +kernel
  have supported : LosslessRuntime.unsupportedVersion (controlFrame (.sourceDone 0)) = false := by
    decide +kernel
  rcases Option.bind_eq_some_iff.mp first with ⟨⟨runtime, outputs⟩, finished, ended⟩
  rw [finished, Option.map_some] at second
  simp only [Option.some.injEq, Prod.mk.injEq, Option.isNone_iff_eq_none] at second
  rcases second with ⟨entry, messages, idle⟩
  rcases passive_end ended with ⟨task, receiver, found, running, empty, body, passive, replayed⟩
  have reachable : (runtimeSystem idleCrate plainConfig).Reachable runtime :=
    ⟨.new, _, rfl, run_of_events finished⟩
  let message : RuntimeMessage := .deliver 7 (controlFrame (.sourceDone 0))
  rcases @submits_copies idleCrate plainConfig runtime grantingHost message rfl
    (inboxCapacity - task.inbox.length + 1) with ⟨labels, submitted⟩
  have queued := reachable.run submitted
  rw [messages, List.nil_append] at queued
  let waiting : SessionTask :=
    { task with body := .receiver receiver.finishSession, stage := .awaitingAck }
  let full : LosslessRuntime :=
    { runtime with messages := List.replicate (inboxCapacity - task.inbox.length + 1) message }
  let behind : LosslessRuntime := (full.setTask 0 waiting).post
    (.receiverCompleted receiver.shared.sessionId (.plain 0 .complete) 0)
  have left : (runtimeSystem idleCrate plainConfig).Reachable behind :=
    queued.step (passive_timeout_taken grantingHost found running body passive replayed)
  have present : behind.tasks[0]? = some waiting :=
    List.getElem?_set_self (List.getElem?_eq_some_iff.mp found).1
  rcases @frames_deadlock idleCrate plainConfig behind 0 waiting grantingHost 7
    (controlFrame (.sourceDone 0)) _ supported idle entry present rfl rfl with ⟨more, stuck, run, dead⟩
  exact ⟨stuck, left.run run, dead⟩

end Nextmini.Session
