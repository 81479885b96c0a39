import Nextmini.Session.RuntimeSteps

/-!
# Tasks and their sessions

Every reference the runtime holds to a task leads to a task of the right session: the entries, the
delivery under way and the messages that tasks and watchers have posted. A receiver's task keeps to
what a receiver standing alone keeps to, and nothing but the end of its loop finishes its receiver.
-/

namespace Nextmini.Session

open Nextmini.Library
open Nextmini.Messages

set_option autoImplicit false

variable {crate : FountainCrate} {config : LosslessConfig} {host : RuntimeHost}
  {runtime next : LosslessRuntime} {event : RuntimeEvent} {output : RuntimeOutput}

/-! ## Sessions of tasks -/

def LosslessRuntime.owner (runtime : LosslessRuntime) (id : TaskId) : Option UInt64 :=
  (runtime.tasks[id]?).map SessionTask.sessionId

theorem owner_of_found {id : TaskId} {task : SessionTask} (found : runtime.tasks[id]? = some task) :
    runtime.owner id = some task.sessionId := by
  rw [LosslessRuntime.owner, found]
  rfl

theorem found_of_owner {id : TaskId} {sessionId : UInt64} (owned : runtime.owner id = some sessionId) :
    ∃ task, runtime.tasks[id]? = some task ∧ task.sessionId = sessionId :=
  Option.map_eq_some_iff.mp owned

theorem sessions_set {tasks : List SessionTask} {id : TaskId} {task later : SessionTask}
    (found : tasks[id]? = some task) (same : later.sessionId = task.sessionId) (other : TaskId) :
    ((tasks.set id later)[other]?).map SessionTask.sessionId =
      (tasks[other]?).map SessionTask.sessionId := by
  by_cases here : id = other
  · rw [← here, List.getElem?_set_self (List.getElem?_eq_some_iff.mp found).1, found, Option.map_some,
      Option.map_some, same]
  · rw [List.getElem?_set_ne here]

theorem sessions_modify {change : SessionTask → SessionTask}
    (same : ∀ task, (change task).sessionId = task.sessionId) (tasks : List SessionTask)
    (id other : TaskId) :
    ((tasks.modify id change)[other]?).map SessionTask.sessionId =
      (tasks[other]?).map SessionTask.sessionId := by
  rw [List.getElem?_modify]
  cases tasks[other]? with
  | none => rfl
  | some task =>
    by_cases here : id = other
    · simp [here, same task]
    · simp [here]

theorem remove_session_tasks (runtime : LosslessRuntime) (sessionId : UInt64)
    (change : SessionTask → SessionTask) :
    (runtime.removeSession sessionId change).tasks =
      match runtime.sessions sessionId with
      | none => runtime.tasks
      | some task => runtime.tasks.modify task change := by
  rw [LosslessRuntime.removeSession]
  cases runtime.sessions sessionId <;> rfl

theorem finish_session_tasks (runtime : LosslessRuntime) (sessionId : UInt64)
    (outcome : SessionOutcome) :
    (runtime.finishSession sessionId outcome).tasks =
      (runtime.removeSession sessionId fun task =>
        { task with state := .finished outcome }).tasks := by
  simp only [LosslessRuntime.finishSession]
  split_ifs <;> rfl

theorem owner_remove_session (runtime : LosslessRuntime) (sessionId : UInt64)
    {change : SessionTask → SessionTask} (same : ∀ task, (change task).sessionId = task.sessionId)
    (other : TaskId) : (runtime.removeSession sessionId change).owner other = runtime.owner other := by
  rw [LosslessRuntime.owner, remove_session_tasks]
  cases runtime.sessions sessionId with
  | none => rfl
  | some task => exact sessions_modify same runtime.tasks task other

theorem moved_session {id : TaskId} {task later : SessionTask} {event : TaskEvent}
    (moved : TaskMoved crate host.toHost runtime id task event later output) :
    later.sessionId = task.sessionId := by
  cases moved <;> rfl

theorem requests_of_starts {message : RuntimeMessage} {sessionId : UInt64}
    (starts : message.Starts config sessionId) : message.requests = some sessionId := by
  cases message with
  | startSender request => exact congrArg some starts.1
  | startReceiver request => exact congrArg some starts
  | _ => cases starts

/-- A message starts a task of a session that is not active. -/
structure Spawned (config : LosslessConfig) (runtime next : LosslessRuntime) (sessionId : UInt64)
    (message : RuntimeMessage) (rest : List RuntimeMessage) (body : TaskBody) : Prop where
  front : runtime.messages = message :: rest
  starts : message.Starts config sessionId
  inactive : runtime.sessions sessionId = none
  fresh : body.Fresh sessionId
  result : next = ({ runtime with messages := rest }.forgetReplay sessionId).spawn sessionId body

theorem spawned_owner {sessionId : UInt64} {message : RuntimeMessage} {rest : List RuntimeMessage}
    {body : TaskBody} (spawned : Spawned config runtime next sessionId message rest body) :
    next.owner runtime.tasks.length = some sessionId := by
  rw [spawned.result]
  simp [LosslessRuntime.owner, LosslessRuntime.spawn, LosslessRuntime.forgetReplay,
    SessionTask.spawn]

/-- A step changes the session of no task, and a new task comes with a start. -/
theorem owner_after (step : RuntimeStep crate config host runtime event next output) (id : TaskId) :
    next.owner id = runtime.owner id ∨
      event = .handled ∧ id = runtime.tasks.length ∧ ∃ sessionId message rest body,
        Spawned config runtime next sessionId message rest body := by
  cases step with
  | submitted outside => exact .inl rfl
  | handled idle front handled =>
    cases handled with
    | @started message sessionId body starts inactive fresh =>
      rcases Nat.lt_trichotomy id runtime.tasks.length with inside | new | beyond
      · left
        simp only [LosslessRuntime.owner, LosslessRuntime.spawn, LosslessRuntime.forgetReplay,
          List.getElem?_append_left inside]
      · right
        exact ⟨rfl, new, sessionId, _, _, body, front, starts, inactive, fresh, rfl⟩
      · left
        have before : runtime.tasks[id]? = none := List.getElem?_eq_none (Nat.le_of_lt beyond)
        have after : (runtime.tasks ++ [SessionTask.spawn sessionId body])[id]? = none := by
          apply List.getElem?_eq_none
          rw [List.length_append, List.length_singleton]
          exact beyond
        simp only [LosslessRuntime.owner, LosslessRuntime.spawn, LosslessRuntime.forgetReplay,
          before, after]
    | aborted =>
      left
      apply owner_remove_session
      intro task
      rfl
    | registered =>
      left
      apply sessions_modify
      intro task
      split_ifs <;> rfl
    | exited =>
      left
      rw [LosslessRuntime.owner, finish_session_tasks]
      apply owner_remove_session
      intro task
      rfl
    | _ => exact .inl rfl
  | accepted sending found opened pushed =>
    left
    apply sessions_set found
    rfl
  | refused sending found closed replayed => exact .inl rfl
  | moved found moved => exact .inl (sessions_set found (moved_session moved) id)
  | handedOver found running body leaves replay =>
    left
    apply sessions_set found
    rfl
  | reported found ended =>
    left
    apply sessions_set found
    rfl

theorem owner_kept {id : TaskId} {sessionId : UInt64} (owned : runtime.owner id = some sessionId)
    (step : RuntimeStep crate config host runtime event next output) :
    next.owner id = some sessionId := by
  rcases owner_after step id with same | ⟨_, new, _⟩
  · rwa [same]
  · rcases found_of_owner owned with ⟨task, found, _⟩
    have inside := (List.getElem?_eq_some_iff.mp found).1
    exact absurd new (Nat.ne_of_lt inside)

/-! ## One task over a step -/

/-- What a step can do to one task. -/
inductive TaskChanged (crate : FountainCrate) (host : RuntimeHost) (runtime : LosslessRuntime)
    (id : TaskId) (task : SessionTask) : RuntimeEvent → SessionTask → Prop
  | same {event : RuntimeEvent} : TaskChanged crate host runtime id task event task
  | aborted {sessionId : UInt64} : runtime.messages.head? = some (.abort sessionId) →
      runtime.sessions sessionId = some id →
        TaskChanged crate host runtime id task .handled
          { task with abortRequested := true, state := .finished .aborted }
  | acknowledged {sessionId : UInt64} {replay : CompletedReceiverReplay} :
      runtime.messages.head? = some (.receiverCompleted sessionId replay id) →
      task.stage = .awaitingAck →
        TaskChanged crate host runtime id task .handled { task with stage := .acknowledged }
  | exited {sessionId : UInt64} {outcome : SessionOutcome} {place : TaskId} :
      runtime.messages.head? = some (.sessionExited sessionId outcome place) →
      runtime.sessions sessionId = some id →
        TaskChanged crate host runtime id task .handled { task with state := .finished outcome }
  | accepted {delivery : Delivery} {inbox : ArrayQueue InboundFrame inboxCapacity} :
      runtime.delivering = some delivery → delivery.task = id → task.closed = false →
      task.inbox.push delivery.frame = some inbox →
        TaskChanged crate host runtime id task .accepted { task with inbox := inbox }
  | moved {event : TaskEvent} {later : SessionTask} {output : RuntimeOutput} :
      TaskMoved crate host.toHost runtime id task event later output →
        TaskChanged crate host runtime id task (.task id event) later
  | handedOver {event : TaskEvent} {receiver : SessionReceiver} {replay : CompletedReceiverReplay} :
      task.stage = .running → task.body = .receiver receiver →
      runtime.Leaves id task receiver event → receiver.finishSession.completedReplay = some replay →
        TaskChanged crate host runtime id task (.task id event)
          { task with body := .receiver receiver.finishSession, stage := .awaitingAck }
  | reported {outcome : SessionOutcome} : task.stage = .ended outcome →
      TaskChanged crate host runtime id task (.task id .reported) { task with stage := .reported }

/-- A task whose entry is removed is the one that the entry leads to. -/
theorem found_remove_session {id : TaskId} {task : SessionTask} (sessionId : UInt64)
    (change : SessionTask → SessionTask) (found : runtime.tasks[id]? = some task) :
    (runtime.removeSession sessionId change).tasks[id]? =
      some (if runtime.sessions sessionId = some id then change task else task) := by
  rw [remove_session_tasks]
  cases entry : runtime.sessions sessionId with
  | none => simp [found]
  | some place =>
    simp only [List.getElem?_modify, found, Option.map_eq_map, Option.map_some,
      Option.some.injEq]

theorem found_set {tasks : List SessionTask} {place id : TaskId} {other task : SessionTask}
    (found : tasks[id]? = some task) :
    (tasks.set place other)[id]? = some (if place = id then other else task) := by
  by_cases here : place = id
  · rw [if_pos here, ← here, List.getElem?_set_self]
    rw [here]
    exact (List.getElem?_eq_some_iff.mp found).1
  · rw [if_neg here, List.getElem?_set_ne here, found]

/-- A task that is replaced is the one that was found, or that one stays. -/
theorem found_set_cases {tasks : List SessionTask} {place id : TaskId}
    {other changed task later : SessionTask} (found : tasks[id]? = some task)
    (present : tasks[place]? = some other) (after : (tasks.set place changed)[id]? = some later) :
    place = id ∧ other = task ∧ later = changed ∨ place ≠ id ∧ later = task := by
  rw [found_set found] at after
  split_ifs at after with here
  · rw [here, found] at present
    cases present
    cases after
    exact .inl ⟨here, rfl, rfl⟩
  · cases after
    exact .inr ⟨here, rfl⟩

theorem stage_of_closed {task : SessionTask} (closed : task.closed = true) :
    task.stage ≠ .running ∧ task.stage ≠ .awaitingAck := by
  rw [SessionTask.closed] at closed
  constructor
  · intro running
    rw [running] at closed
    cases closed
  · intro awaiting
    rw [awaiting] at closed
    cases closed

theorem task_after {id : TaskId} {task : SessionTask}
    (step : RuntimeStep crate config host runtime event next output)
    (found : runtime.tasks[id]? = some task) :
    ∃ later, next.tasks[id]? = some later ∧ TaskChanged crate host runtime id task event later := by
  have placed {place : TaskId} {other later : SessionTask} {event : RuntimeEvent}
      (present : runtime.tasks[place]? = some other)
      (changed : TaskChanged crate host runtime place other event later) :
      ∃ after, (runtime.tasks.set place later)[id]? = some after ∧
        TaskChanged crate host runtime id task event after := by
    rw [found_set found]
    by_cases here : place = id
    · subst here
      rw [found] at present
      cases present
      rw [if_pos rfl]
      exact ⟨later, rfl, changed⟩
    · rw [if_neg here]
      exact ⟨task, rfl, .same⟩
  cases step with
  | submitted outside => exact ⟨task, found, .same⟩
  | @handled message rest next output idle front handled =>
    have head : runtime.messages.head? = some message := by
      rw [front]
      rfl
    cases handled with
    | started starts inactive fresh =>
      refine ⟨task, ?_, .same⟩
      have inside := (List.getElem?_eq_some_iff.mp found).1
      simp only [LosslessRuntime.spawn, LosslessRuntime.forgetReplay,
        List.getElem?_append_left inside, found]
    | @aborted sessionId =>
      refine ⟨_, @found_remove_session { runtime with messages := rest } id task sessionId _ found,
        ?_⟩
      split_ifs with entry
      · exact .aborted head entry
      · exact .same
    | @registered sessionId replay ack =>
      simp only [LosslessRuntime.registerReplay, List.getElem?_modify, found,
        Option.map_eq_map, Option.map_some]
      refine ⟨_, rfl, ?_⟩
      split_ifs with here awaiting
      · subst here
        exact .acknowledged head awaiting
      · exact .same
      · exact .same
    | @exited sessionId outcome place =>
      rw [finish_session_tasks]
      refine ⟨_, @found_remove_session { runtime with messages := rest } id task sessionId _ found,
        ?_⟩
      split_ifs with entry
      · exact .exited head entry
      · exact .same
    | _ => exact ⟨task, found, .same⟩
  | @accepted delivery other inbox sending present opened pushed =>
    apply placed present
    exact .accepted sending rfl opened pushed
  | refused sending present closed replayed => exact ⟨task, found, .same⟩
  | moved present moved => exact placed present (.moved moved)
  | handedOver present running body leaves replay =>
    exact placed present (.handedOver running body leaves replay)
  | reported present ended => exact placed present (.reported ended)

/-- Every task is an earlier one or has just been started. -/
theorem task_before {id : TaskId} {later : SessionTask}
    (step : RuntimeStep crate config host runtime event next output)
    (found : next.tasks[id]? = some later) :
    (∃ task, runtime.tasks[id]? = some task ∧ TaskChanged crate host runtime id task event later) ∨
      ∃ sessionId message rest body, Spawned config runtime next sessionId message rest body ∧
        later = .spawn sessionId body := by
  rcases owner_after step id with same | ⟨_, new, sessionId, message, rest, body, spawned⟩
  · left
    rw [owner_of_found found] at same
    rcases found_of_owner same.symm with ⟨task, present, _⟩
    rcases task_after step present with ⟨after, reached, changed⟩
    rw [found] at reached
    cases reached
    exact ⟨task, present, changed⟩
  · right
    rw [spawned.result, new] at found
    have placed : some (SessionTask.spawn sessionId body) = some later := by
      rw [← found]
      simp [LosslessRuntime.spawn, LosslessRuntime.forgetReplay]
    exact ⟨sessionId, message, rest, body, spawned, (Option.some.inj placed).symm⟩

/-! ## Receivers of tasks -/

/-- The receiver of a task is the session's, its mode remembers the answers it has given, and it is in
its loop while the task runs. -/
structure SoundReceiver (task : SessionTask) (receiver : SessionReceiver) : Prop where
  session : receiver.shared.sessionId = task.sessionId
  answering : ∃ given, Answering given ⟨receiver, none⟩
  inLoop : task.stage = .running → receiver.lifecycle ≠ .sessionFinished

def SoundTask (task : SessionTask) : Prop :=
  ∀ receiver, task.body = .receiver receiver → SoundReceiver task receiver

theorem sound_of_same {task later : SessionTask} (sound : SoundTask task)
    (sameBody : later.body = task.body) (sameSession : later.sessionId = task.sessionId)
    (running : later.stage = .running → task.stage = .running) : SoundTask later := by
  intro receiver body
  rw [sameBody] at body
  rcases sound receiver body with ⟨session, answering, inLoop⟩
  exact ⟨session.trans sameSession.symm, answering, fun stage => inLoop (running stage)⟩

theorem sound_spawn {sessionId : UInt64} {body : TaskBody} (fresh : body.Fresh sessionId) :
    SoundTask (.spawn sessionId body) := by
  intro receiver same
  rw [SessionTask.spawn] at same
  subst same
  rcases fresh with ⟨cfg, rfl, session⟩
  exact ⟨session, ⟨[], new_receiver_answering cfg⟩, nofun⟩

theorem answering_finished {given : List Answer} {receiver : SessionReceiver}
    (answering : Answering given ⟨receiver, none⟩) : Answering given ⟨receiver.finishSession, none⟩ := by
  rcases answering_leave answering with ⟨consistent, ordered, cacheIs, silentBefore, full, _, valid,
    canonical⟩
  exact ⟨consistent, ordered, cacheIs, silentBefore, full, nofun, valid, canonical⟩

theorem received_session {receiver later : SessionReceiver} {frame : InboundFrame}
    {sent : List LosslessSessionControl} {given : List Answer}
    (answering : Answering given ⟨receiver, none⟩)
    (received : receiver.receiveFrame crate host.toHost frame = some (later, sent)) :
    later.shared.sessionId = receiver.shared.sessionId :=
  (receive_frame_consistent answering.consistent received).2.session

theorem received_in_loop {receiver later : SessionReceiver} {frame : InboundFrame}
    {sent : List LosslessSessionControl}
    (received : receiver.receiveFrame crate host.toHost frame = some (later, sent))
    (inLoop : receiver.lifecycle ≠ .sessionFinished) : later.lifecycle ≠ .sessionFinished := by
  rcases SessionReceiver.receive_frame_cases received with ⟨middle, step, rfl⟩
  have same : middle.lifecycle = receiver.lifecycle := by
    cases step <;> rfl
  rw [SessionReceiver.markPassive]
  split_ifs
  · intro finished
    cases finished
  · rwa [same]

theorem sound_moved {id : TaskId} {task later : SessionTask} {event : TaskEvent}
    (sound : SoundTask task)
    (moved : TaskMoved crate host.toHost runtime id task event later output) : SoundTask later := by
  cases moved with
  | skipped running body popped => exact sound_of_same sound rfl rfl fun running => running
  | received running body popped received =>
    rcases sound _ body with ⟨session, ⟨given, answering⟩, inLoop⟩
    intro receiver same
    cases same
    have looping := inLoop running
    exact ⟨(received_session answering received).trans session,
      ⟨_, answering_of_receiver answering (decide_eq_true looping) received⟩,
      fun _ => received_in_loop received looping⟩
  | panicked running body popped panicked => exact sound_of_same sound rfl rfl nofun
  | left running body leaves none =>
    rcases sound _ body with ⟨session, ⟨given, answering⟩, inLoop⟩
    intro receiver same
    cases same
    exact ⟨session, ⟨given, answering_finished answering⟩, nofun⟩
  | resumed acknowledged => exact sound_of_same sound rfl rfl nofun
  | senderEnded running body => exact sound_of_same sound rfl rfl nofun
  | cancelled requested opened => exact sound_of_same sound rfl rfl nofun

theorem sound_changed {id : TaskId} {task later : SessionTask} (sound : SoundTask task)
    (changed : TaskChanged crate host runtime id task event later) : SoundTask later := by
  cases changed with
  | same => exact sound
  | aborted => exact sound_of_same sound rfl rfl fun running => running
  | acknowledged => exact sound_of_same sound rfl rfl nofun
  | exited => exact sound_of_same sound rfl rfl fun running => running
  | accepted => exact sound_of_same sound rfl rfl fun running => running
  | moved moved => exact sound_moved sound moved
  | handedOver running body leaves replay =>
    rcases sound _ body with ⟨session, ⟨given, answering⟩, inLoop⟩
    intro receiver same
    cases same
    exact ⟨session, ⟨given, answering_finished answering⟩, nofun⟩
  | reported => exact sound_of_same sound rfl rfl nofun

theorem sound_step (sound : ∀ task ∈ runtime.tasks, SoundTask task)
    (step : RuntimeStep crate config host runtime event next output) :
    ∀ task ∈ next.tasks, SoundTask task := by
  intro later member
  rcases List.mem_iff_getElem?.mp member with ⟨id, found⟩
  rcases task_before step found with ⟨task, present, changed⟩ | ⟨_, _, _, _, spawned, rfl⟩
  · exact sound_changed (sound task (List.mem_of_getElem? present)) changed
  · exact sound_spawn spawned.fresh

/-! ## What the runtime holds of tasks -/

theorem remove_session_entries {sessionId other : UInt64} {id : TaskId}
    {change : SessionTask → SessionTask}
    (entry : (runtime.removeSession sessionId change).sessions other = some id) :
    runtime.sessions other = some id := by
  rw [LosslessRuntime.removeSession] at entry
  split at entry
  next => exact entry
  next =>
    by_cases same : other = sessionId
    · simp [same] at entry
    · simpa [same] using entry

theorem finish_session_entries {sessionId other : UInt64} {id : TaskId} {outcome : SessionOutcome}
    (entry : (runtime.finishSession sessionId outcome).sessions other = some id) :
    runtime.sessions other = some id := by
  simp only [LosslessRuntime.finishSession] at entry
  split_ifs at entry
  · exact remove_session_entries entry
  · exact remove_session_entries entry

/-- An entry is an earlier one or that of a new task. -/
theorem entry_after {sessionId : UInt64} {id : TaskId}
    (step : RuntimeStep crate config host runtime event next output)
    (entry : next.sessions sessionId = some id) :
    runtime.sessions sessionId = some id ∨ next.owner id = some sessionId := by
  cases step with
  | handled idle front handled =>
    cases handled with
    | @started message started body starts inactive fresh =>
      by_cases same : sessionId = started
      · have new : id = runtime.tasks.length := by
          simpa [LosslessRuntime.spawn, LosslessRuntime.forgetReplay, same, eq_comm] using entry
        right
        simp [LosslessRuntime.owner, LosslessRuntime.spawn, LosslessRuntime.forgetReplay, new,
          SessionTask.spawn, same]
      · left
        simpa [LosslessRuntime.spawn, LosslessRuntime.forgetReplay, same] using entry
    | aborted =>
      have before := remove_session_entries entry
      exact .inl before
    | exited =>
      have before := finish_session_entries entry
      exact .inl before
    | _ => exact .inl entry
  | _ => exact .inl entry

theorem sessions_removed {sessionId other : UInt64} (apart : other ≠ sessionId)
    (runtime : LosslessRuntime) (change : SessionTask → SessionTask) :
    (runtime.removeSession other change).sessions sessionId = runtime.sessions sessionId := by
  rw [LosslessRuntime.removeSession]
  split
  next => rfl
  next => simp [apart.symm]

theorem session_removed (runtime : LosslessRuntime) (sessionId : UInt64)
    (change : SessionTask → SessionTask) :
    (runtime.removeSession sessionId change).sessions sessionId = none := by
  rw [LosslessRuntime.removeSession]
  split
  next none => exact none
  next => simp

theorem session_finished (runtime : LosslessRuntime) (sessionId : UInt64) (outcome : SessionOutcome) :
    (runtime.finishSession sessionId outcome).sessions sessionId = none := by
  simp only [LosslessRuntime.finishSession]
  split_ifs
  · exact session_removed ..
  · exact session_removed ..

theorem registry_removed (runtime : LosslessRuntime) (other : UInt64)
    (change : SessionTask → SessionTask) :
    (runtime.removeSession other change).completedReceivers = runtime.completedReceivers := by
  rw [LosslessRuntime.removeSession]
  split <;> rfl

/-- Only a message about the session changes its entry or its replay. -/
theorem session_after (sessionId : UInt64)
    (step : RuntimeStep crate config host runtime event next output) :
    (next.sessions sessionId = runtime.sessions sessionId ∧
        next.completedReceivers sessionId = runtime.completedReceivers sessionId) ∨
      event = .handled ∧ ∃ message ∈ runtime.messages.head?,
        message = .abort sessionId ∨ message.requests = some sessionId ∨
          ∃ id, message.sender = some (sessionId, id) := by
  cases step with
  | @handled message rest next output idle front handled =>
    have head : message ∈ runtime.messages.head? := by
      rw [front]
      rfl
    cases handled with
    | @preflight message other reason requested inactive =>
      by_cases own : other = sessionId
      · subst own
        exact .inr ⟨rfl, message, head, .inr (.inl requested)⟩
      · left
        simp [LosslessRuntime.forgetReplay, Ne.symm own]
    | @started message other body starts inactive fresh =>
      by_cases own : other = sessionId
      · subst own
        exact .inr ⟨rfl, message, head, .inr (.inl (requests_of_starts starts))⟩
      · left
        simp [LosslessRuntime.spawn, LosslessRuntime.forgetReplay, Ne.symm own]
    | @aborted other =>
      by_cases own : other = sessionId
      · subst own
        exact .inr ⟨rfl, _, head, .inl rfl⟩
      · left
        constructor
        · exact sessions_removed own _ _
        · simp only [LosslessRuntime.abortSession, LosslessRuntime.forgetReplay,
            registry_removed, Function.update_of_ne (Ne.symm own)]
    | @registered other replay ack =>
      by_cases own : other = sessionId
      · subst own
        exact .inr ⟨rfl, _, head, .inr (.inr ⟨ack, rfl⟩)⟩
      · left
        simp [LosslessRuntime.registerReplay, Ne.symm own]
    | @exited other outcome place =>
      by_cases own : other = sessionId
      · subst own
        exact .inr ⟨rfl, _, head, .inr (.inr ⟨place, rfl⟩)⟩
      · left
        constructor
        · simp only [LosslessRuntime.finishSession]
          split_ifs
          · exact sessions_removed own _ _
          · exact sessions_removed own _ _
        · simp only [LosslessRuntime.finishSession]
          split_ifs
          · rw [registry_removed]
          · simp only [LosslessRuntime.forgetReplay, registry_removed,
              Function.update_of_ne (Ne.symm own)]
    | _ => exact .inl ⟨rfl, rfl⟩
  | _ => exact .inl ⟨rfl, rfl⟩

theorem remove_session_messages (runtime : LosslessRuntime) (sessionId : UInt64)
    (change : SessionTask → SessionTask) :
    (runtime.removeSession sessionId change).messages = runtime.messages := by
  rw [LosslessRuntime.removeSession]
  split <;> rfl

theorem finish_session_messages (runtime : LosslessRuntime) (sessionId : UInt64)
    (outcome : SessionOutcome) :
    (runtime.finishSession sessionId outcome).messages = runtime.messages := by
  simp only [LosslessRuntime.finishSession]
  split_ifs
  · exact remove_session_messages ..
  · exact remove_session_messages ..

theorem from_handle_unsent {message : RuntimeMessage} (outside : message.fromHandle = true) :
    message.sender = none := by
  cases message with
  | receiverCompleted sessionId replay ack => cases outside
  | sessionExited sessionId outcome task => cases outside
  | _ => rfl

theorem handled_messages {message : RuntimeMessage}
    (handled : MessageHandled config runtime message next output) :
    next.messages = runtime.messages := by
  cases handled with
  | aborted => exact remove_session_messages ..
  | exited => exact finish_session_messages ..
  | _ => rfl

/-- A message of a task or its watcher is an earlier one, or has just been posted by that task, whose
exit had not been posted before. -/
theorem message_after {message : RuntimeMessage} {sessionId : UInt64} {id : TaskId}
    (sound : ∀ task ∈ runtime.tasks, SoundTask task)
    (step : RuntimeStep crate config host runtime event next output)
    (sender : message.sender = some (sessionId, id)) (member : message ∈ next.messages) :
    message ∈ runtime.messages ∨ ∃ task, runtime.tasks[id]? = some task ∧
      task.sessionId = sessionId ∧ task.stage ≠ .reported := by
  cases step with
  | submitted outside =>
    rcases List.mem_append.mp member with before | new
    · exact .inl before
    · rw [List.mem_singleton.mp new, from_handle_unsent outside] at sender
      cases sender
  | handled idle front handled =>
    rw [handled_messages handled] at member
    rw [front]
    exact .inl (List.mem_cons_of_mem _ member)
  | handedOver found running body leaves replay =>
    rcases List.mem_append.mp member with before | new
    · exact .inl before
    · rw [List.mem_singleton.mp new] at sender
      cases sender
      have session := (sound _ (List.mem_of_getElem? found) _ body).session
      exact .inr ⟨_, found, session.symm, by rw [running]; nofun⟩
  | reported found ended =>
    rcases List.mem_append.mp member with before | new
    · exact .inl before
    · rw [List.mem_singleton.mp new] at sender
      cases sender
      exact .inr ⟨_, found, rfl, by rw [ended]; nofun⟩
  | _ => exact .inl member

theorem remove_session_delivering (runtime : LosslessRuntime) (sessionId : UInt64)
    (change : SessionTask → SessionTask) :
    (runtime.removeSession sessionId change).delivering = runtime.delivering := by
  rw [LosslessRuntime.removeSession]
  split <;> rfl

theorem abort_session_delivering (runtime : LosslessRuntime) (sessionId : UInt64) :
    (runtime.abortSession sessionId).delivering = runtime.delivering :=
  remove_session_delivering ..

theorem finish_session_delivering (runtime : LosslessRuntime) (sessionId : UInt64)
    (outcome : SessionOutcome) :
    (runtime.finishSession sessionId outcome).delivering = runtime.delivering := by
  simp only [LosslessRuntime.finishSession]
  split_ifs
  · exact remove_session_delivering ..
  · exact remove_session_delivering ..

/-- A delivery is an earlier one, or goes to the task of the session's entry. -/
theorem delivery_after {delivery : Delivery}
    (step : RuntimeStep crate config host runtime event next output)
    (delivering : next.delivering = some delivery) :
    runtime.delivering = some delivery ∨ runtime.sessions delivery.session = some delivery.task := by
  cases step with
  | handled idle front handled =>
    cases handled with
    | sending supported active =>
      cases delivering
      exact .inr active
    | aborted =>
      rw [abort_session_delivering] at delivering
      exact .inl delivering
    | exited =>
      rw [finish_session_delivering] at delivering
      exact .inl delivering
    | _ => exact .inl delivering
  | accepted sending found opened pushed => cases delivering
  | refused sending found closed replayed => cases delivering
  | _ => exact .inl delivering

/-- What the runtime holds of tasks leads to tasks of the right session. -/
structure Owned (runtime : LosslessRuntime) : Prop where
  sound : ∀ task ∈ runtime.tasks, SoundTask task
  entries : ∀ sessionId id, runtime.sessions sessionId = some id → runtime.owner id = some sessionId
  senders : ∀ message ∈ runtime.messages, ∀ sessionId id,
    message.sender = some (sessionId, id) → runtime.owner id = some sessionId
  delivery : ∀ delivery, runtime.delivering = some delivery →
    runtime.owner delivery.task = some delivery.session

theorem owned_new : Owned .new where
  sound task member := absurd member List.not_mem_nil
  entries sessionId id entry := by cases entry
  senders message member := absurd member List.not_mem_nil
  delivery delivery delivering := by cases delivering

theorem owned_step (owned : Owned runtime)
    (step : RuntimeStep crate config host runtime event next output) : Owned next where
  sound := sound_step owned.sound step
  entries sessionId id entry := by
    rcases entry_after step entry with before | new
    · exact owner_kept (owned.entries sessionId id before) step
    · exact new
  senders message member sessionId id sender := by
    rcases message_after owned.sound step sender member with before | ⟨task, found, session, _⟩
    · exact owner_kept (owned.senders message before sessionId id sender) step
    · rw [← session]
      exact owner_kept (owner_of_found found) step
  delivery delivery delivering := by
    rcases delivery_after step delivering with before | entry
    · exact owner_kept (owned.delivery delivery before) step
    · exact owner_kept (owned.entries _ _ entry) step

end Nextmini.Session
