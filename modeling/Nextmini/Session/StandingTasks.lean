import Nextmini.Session.CompletedReceivers
import Nextmini.Session.SessionTasks

/-!
# The task of a session

Where the only task of a session stands between the start of its loop and its exit, and what it has
posted meanwhile. As long as the session is neither aborted nor started again, a receiver that has
reported completion stays completed, and its replay is stored before the task can end.
-/

namespace Nextmini.Session

open Nextmini.Library
open Nextmini.Messages

set_option autoImplicit false

def SessionTask.reportedComplete (task : SessionTask) : Bool :=
  match task.body with
  | .sender .. => false
  | .receiver receiver => receiver.reportedComplete

/-- No abort of the session is handled, and no start once the session has had a task, unless it is
refused because that task is active. -/
def Undisturbed (sessionId : UInt64) (runtime : LosslessRuntime) (event : RuntimeEvent) : Prop :=
  event = .handled → ∀ message ∈ runtime.messages.head?,
    message ≠ .abort sessionId ∧
      (message.requests = some sessionId → runtime.sessions sessionId = none →
        ∀ task ∈ runtime.tasks, task.sessionId ≠ sessionId)

/-- Where the only task of a session stands: whatever it has posted is about its own receiver, and
once a completed receiver's replay is acknowledged, the runtime keeps it. -/
structure Stands (sessionId : UInt64) (runtime : LosslessRuntime) (id : TaskId) (task : SessionTask) :
    Prop where
  found : runtime.tasks[id]? = some task
  session : task.sessionId = sessionId
  sole : ∀ other, runtime.owner other = some sessionId → other = id
  unaborted : task.abortRequested = false
  entry : task.stage ≠ .reported → runtime.sessions sessionId = some id
  handedOver : ∀ replay, .receiverCompleted sessionId replay id ∈ runtime.messages →
    task.stage ≠ .running ∧ ∃ receiver, task.body = .receiver receiver ∧
      receiver.completedReplay = some replay
  exited : ∀ outcome, .sessionExited sessionId outcome id ∈ runtime.messages →
    task.stage = .reported ∧ (task.reportedComplete = true → outcome = .completed)
  ended : ∀ outcome, task.stage = .ended outcome → task.reportedComplete = true →
    outcome = .completed
  registered : ∀ receiver, task.body = .receiver receiver → receiver.reportedComplete = true →
    task.stage ≠ .running → task.stage ≠ .awaitingAck →
      runtime.completedReceivers sessionId = receiver.completedReplay

/-- A receiver that has reported completion still has, and its last round is not lower. -/
def StaysCompleted (task later : SessionTask) : Prop :=
  ∀ receiver roundId, task.body = .receiver receiver → receiver.reportedComplete = true →
    receiver.lastRound = some roundId → ∃ after lastRoundId, later.body = .receiver after ∧
      after.reportedComplete = true ∧ after.lastRound = some lastRoundId ∧ roundId ≤ lastRoundId

theorem stays_completed_of_same {task later : SessionTask} (same : later.body = task.body) :
    StaysCompleted task later := by
  intro receiver roundId body reported last
  exact ⟨receiver, roundId, same.trans body, reported, last, UInt32.le_refl _⟩

theorem stays_completed_finished {task later : SessionTask} {receiver : SessionReceiver}
    (body : task.body = .receiver receiver) (after : later.body = .receiver receiver.finishSession) :
    StaysCompleted task later := by
  intro other roundId same reported last
  rw [body] at same
  cases same
  exact ⟨receiver.finishSession, roundId, after, reported, last, UInt32.le_refl _⟩

section Standing

variable {crate : FountainCrate} {config : LosslessConfig} {host : RuntimeHost}
  {runtime next : LosslessRuntime} {event : RuntimeEvent} {output : RuntimeOutput}
  {sessionId : UInt64} {id : TaskId} {task : SessionTask}

theorem sole_after (stands : Stands sessionId runtime id task)
    (quiet : Undisturbed sessionId runtime event)
    (step : RuntimeStep crate config host runtime event next output) (other : TaskId)
    (owned : next.owner other = some sessionId) : other = id := by
  rcases owner_after step other with same | ⟨handled, new, started, message, rest, body, spawned⟩
  · rw [same] at owned
    exact stands.sole other owned
  · rw [new, spawned_owner spawned] at owned
    cases owned
    have requested := requests_of_starts spawned.starts
    have apart := (quiet handled message (by rw [spawned.front]; rfl)).2 requested spawned.inactive
    exact absurd stands.session (apart task (List.mem_of_getElem? stands.found))

/-- What a step at other sessions leaves of the session's task. -/
theorem stands_of_same (stands : Stands sessionId runtime id task)
    (found : next.tasks[id]? = some task)
    (sole : ∀ other, next.owner other = some sessionId → other = id)
    (entry : next.sessions sessionId = runtime.sessions sessionId)
    (registry : next.completedReceivers sessionId = runtime.completedReceivers sessionId)
    (messages : ∀ message ∈ next.messages, message.sender = some (sessionId, id) →
      message ∈ runtime.messages) : Stands sessionId next id task where
  found := found
  session := stands.session
  sole := sole
  unaborted := stands.unaborted
  entry unreported := entry.trans (stands.entry unreported)
  handedOver replay member := stands.handedOver replay (messages _ member rfl)
  exited outcome member := stands.exited outcome (messages _ member rfl)
  ended := stands.ended
  registered receiver body reported started handed :=
    registry.trans (stands.registered receiver body reported started handed)

/-- A removed entry of another session leads to another task. -/
theorem found_removed (owned : Owned runtime) (stands : Stands sessionId runtime id task)
    {other : UInt64} (apart : other ≠ sessionId) (change : SessionTask → SessionTask) :
    (runtime.removeSession other change).tasks[id]? = some task := by
  have away : runtime.sessions other ≠ some id := by
    intro entry
    have first := owned.entries other id entry
    rw [owner_of_found stands.found, stands.session] at first
    exact apart (Option.some.inj first).symm
  rw [found_remove_session other change stands.found, if_neg away]

/-- The acknowledged task keeps its receiver, and the replay it has handed over is stored. -/
theorem stands_registered {runtime : LosslessRuntime} {replay : CompletedReceiverReplay}
    (stands : Stands sessionId runtime id task)
    (handed : task.stage ≠ .running ∧ ∃ receiver, task.body = .receiver receiver ∧
      receiver.completedReplay = some replay)
    (sole : ∀ other, (runtime.registerReplay sessionId replay id).owner other = some sessionId →
      other = id) :
    ∃ later, Stands sessionId (runtime.registerReplay sessionId replay id) id later ∧
      StaysCompleted task later := by
  have found : (runtime.registerReplay sessionId replay id).tasks[id]? =
      some (if task.stage = .awaitingAck then { task with stage := .acknowledged } else task) := by
    simp only [LosslessRuntime.registerReplay, List.getElem?_modify, if_pos, stands.found]
    rfl
  have stored : (runtime.registerReplay sessionId replay id).completedReceivers sessionId =
      some replay := by
    simp [LosslessRuntime.registerReplay]
  rcases handed with ⟨stopped, receiver, body, replayed⟩
  by_cases awaiting : task.stage = .awaitingAck
  · rw [if_pos awaiting] at found
    refine ⟨_, ⟨found, stands.session, sole, stands.unaborted, ?_, ?_, ?_, ?_, ?_⟩,
      stays_completed_of_same rfl⟩
    · intro _
      apply stands.entry
      rw [awaiting]
      decide
    · intro other member
      have acknowledged : TaskStage.acknowledged ≠ .running := by decide
      exact ⟨acknowledged, (stands.handedOver other member).2⟩
    · intro outcome member
      have reported := (stands.exited outcome member).1
      rw [awaiting] at reported
      cases reported
    · intro outcome ended
      cases ended
    · intro other same _ _ _
      rw [body] at same
      cases same
      rw [stored, replayed]
  · rw [if_neg awaiting] at found
    refine ⟨task, ⟨found, stands.session, sole, stands.unaborted, stands.entry, stands.handedOver,
      stands.exited, stands.ended, ?_⟩, stays_completed_of_same rfl⟩
    intro other same _ _ _
    rw [body] at same
    cases same
    rw [stored, replayed]

/-- The exit of a completed receiver leaves its replay. -/
theorem stands_exited {runtime : LosslessRuntime} {outcome : SessionOutcome}
    (owned : Owned runtime) (stands : Stands sessionId runtime id task)
    (exit : task.stage = .reported ∧ (task.reportedComplete = true → outcome = .completed))
    (sole : ∀ other, (runtime.finishSession sessionId outcome).owner other = some sessionId →
      other = id) :
    ∃ later, Stands sessionId (runtime.finishSession sessionId outcome) id later ∧
      StaysCompleted task later := by
  have found : ∃ later, (runtime.finishSession sessionId outcome).tasks[id]? = some later ∧
      later.sessionId = task.sessionId ∧ later.abortRequested = task.abortRequested ∧
      later.stage = task.stage ∧ later.body = task.body := by
    rw [finish_session_tasks, remove_session_tasks]
    cases entry : runtime.sessions sessionId with
    | none => exact ⟨task, stands.found, rfl, rfl, rfl, rfl⟩
    | some place =>
      have here : place = id := stands.sole place (owned.entries sessionId place entry)
      refine ⟨{ task with state := .finished outcome }, ?_, rfl, rfl, rfl, rfl⟩
      simp only [List.getElem?_modify, if_pos here, stands.found]
      rfl
  have messages := finish_session_messages runtime sessionId outcome
  rcases found with ⟨later, found, session, abort, stage, body⟩
  rcases exit with ⟨reported, completed⟩
  have sameReported : later.reportedComplete = task.reportedComplete := by
    rw [SessionTask.reportedComplete, body]
    rfl
  refine ⟨later, ⟨found, session.trans stands.session, sole, abort.trans stands.unaborted, ?_, ?_, ?_,
    ?_, ?_⟩, stays_completed_of_same body⟩
  · intro unreported
    exact absurd (stage.trans reported) unreported
  · intro replay member
    rw [messages] at member
    rw [stage, body]
    exact stands.handedOver replay member
  · intro other member
    rw [messages] at member
    rw [stage, sameReported]
    exact stands.exited other member
  · intro other ended
    rw [stage, reported] at ended
    cases ended
  · intro receiver same complete started handed
    rw [stage] at started handed
    rw [body] at same
    have kept : outcome = .completed := by
      apply completed
      rw [SessionTask.reportedComplete, same]
      exact complete
    rw [← stands.registered receiver same complete started handed, LosslessRuntime.finishSession,
      if_pos kept, registry_removed]

theorem stands_handled {message : RuntimeMessage} {rest : List RuntimeMessage}
    (owned : Owned runtime) (stands : Stands sessionId runtime id task)
    (quiet : Undisturbed sessionId runtime .handled) (front : runtime.messages = message :: rest)
    (sole : ∀ other, next.owner other = some sessionId → other = id)
    (handled : MessageHandled config { runtime with messages := rest } message next output) :
    ∃ later, Stands sessionId next id later ∧ StaysCompleted task later := by
  have fewer : ∀ message ∈ rest, message ∈ runtime.messages := by
    intro other member
    rw [front]
    exact List.mem_cons_of_mem _ member
  have before : Stands sessionId { runtime with messages := rest } id task :=
    stands_of_same stands stands.found stands.sole rfl rfl fun message member _ => fewer message member
  have ownedBefore : Owned { runtime with messages := rest } :=
    ⟨owned.sound, owned.entries, fun message member => owned.senders message (fewer message member),
      owned.delivery⟩
  have first : message ∈ runtime.messages := by
    rw [front]
    exact List.mem_cons_self
  have quiet := quiet rfl message (by rw [front]; rfl)
  have unstarted {started : UInt64} (requested : message.requests = some started)
      (inactive : runtime.sessions started = none) : started ≠ sessionId := by
    rintro rfl
    exact quiet.2 requested inactive task (List.mem_of_getElem? stands.found) stands.session
  have same : StaysCompleted task task := stays_completed_of_same rfl
  have kept := handled_messages handled
  have messages : ∀ message ∈ next.messages, message.sender = some (sessionId, id) →
      message ∈ rest := by
    intro message member _
    rw [kept] at member
    exact member
  cases handled with
  | preflight requested inactive =>
    have apart := unstarted requested inactive
    refine ⟨task, stands_of_same before before.found sole rfl ?_ messages, same⟩
    simp [LosslessRuntime.forgetReplay, apart.symm]
  | started starts inactive fresh =>
    have apart := unstarted (requests_of_starts starts) inactive
    have inside := (List.getElem?_eq_some_iff.mp stands.found).1
    refine ⟨task, stands_of_same before ?_ sole ?_ ?_ messages, same⟩
    · simp only [LosslessRuntime.spawn, LosslessRuntime.forgetReplay,
        List.getElem?_append_left inside]
      exact stands.found
    · simp [LosslessRuntime.spawn, LosslessRuntime.forgetReplay, apart.symm]
    · simp [LosslessRuntime.spawn, LosslessRuntime.forgetReplay, apart.symm]
  | @aborted other =>
    have apart : other ≠ sessionId := by
      rintro rfl
      exact quiet.1 rfl
    refine ⟨task, stands_of_same before (found_removed ownedBefore before apart _) sole
      (sessions_removed apart _ _) ?_ messages, same⟩
    simp only [LosslessRuntime.abortSession, LosslessRuntime.forgetReplay, registry_removed,
      Function.update_of_ne apart.symm]
  | @registered other replay ack =>
    by_cases own : other = sessionId
    · subst own
      have here := stands.sole ack (owned.senders _ first other ack rfl)
      subst here
      exact stands_registered before (stands.handedOver replay first) sole
    · have away : ack ≠ id := by
        rintro rfl
        have owner := owned.senders _ first other ack rfl
        rw [owner_of_found stands.found, stands.session] at owner
        exact own (Option.some.inj owner).symm
      refine ⟨task, stands_of_same before ?_ sole rfl ?_ messages, same⟩
      · simp only [LosslessRuntime.registerReplay, List.getElem?_modify, if_neg away, stands.found]
        rfl
      · simp [LosslessRuntime.registerReplay, Ne.symm own]
  | @exited other outcome place =>
    by_cases own : other = sessionId
    · subst own
      have here := stands.sole place (owned.senders _ first other place rfl)
      subst here
      exact stands_exited ownedBefore before (stands.exited outcome first) sole
    · refine ⟨task, stands_of_same before ?_ sole ?_ ?_ messages, same⟩
      · rw [finish_session_tasks]
        exact found_removed ownedBefore before own _
      · simp only [LosslessRuntime.finishSession]
        split_ifs
        · exact sessions_removed own _ _
        · exact sessions_removed own _ _
      · simp only [LosslessRuntime.finishSession]
        split_ifs
        · rw [registry_removed]
        · simp only [LosslessRuntime.forgetReplay, registry_removed,
            Function.update_of_ne (Ne.symm own)]
  | _ => exact ⟨task, stands_of_same before before.found sole rfl rfl messages, same⟩

/-- A change of the task itself, with everything it has posted before. -/
theorem stands_changed {later : SessionTask} (stands : Stands sessionId runtime id task)
    (sole : ∀ other, next.owner other = some sessionId → other = id)
    (tasks : next.tasks = runtime.tasks.set id later)
    (entries : next.sessions = runtime.sessions)
    (registry : next.completedReceivers = runtime.completedReceivers)
    (session : later.sessionId = task.sessionId) (abort : later.abortRequested = task.abortRequested)
    (live : later.stage ≠ .reported → task.stage ≠ .reported)
    (handedOver : ∀ replay, .receiverCompleted sessionId replay id ∈ next.messages →
      later.stage ≠ .running ∧ ∃ receiver, later.body = .receiver receiver ∧
        receiver.completedReplay = some replay)
    (exited : ∀ outcome, .sessionExited sessionId outcome id ∈ next.messages →
      later.stage = .reported ∧ (later.reportedComplete = true → outcome = .completed))
    (ended : ∀ outcome, later.stage = .ended outcome → later.reportedComplete = true →
      outcome = .completed)
    (registered : ∀ receiver, later.body = .receiver receiver → receiver.reportedComplete = true →
      later.stage ≠ .running → later.stage ≠ .awaitingAck →
        runtime.completedReceivers sessionId = receiver.completedReplay) :
    Stands sessionId next id later where
  found := by rw [tasks, found_set stands.found, if_pos rfl]
  session := session.trans stands.session
  sole := sole
  unaborted := abort.trans stands.unaborted
  entry unreported := by
    rw [entries]
    exact stands.entry (live unreported)
  handedOver := handedOver
  exited := exited
  ended := ended
  registered receiver body reported started handed := by
    rw [registry]
    exact registered receiver body reported started handed

theorem running_unposted (stands : Stands sessionId runtime id task) (running : task.stage = .running) :
    (∀ replay, .receiverCompleted sessionId replay id ∉ runtime.messages) ∧
      ∀ outcome, .sessionExited sessionId outcome id ∉ runtime.messages := by
  constructor
  · intro replay member
    exact (stands.handedOver replay member).1 running
  · intro outcome member
    have reported := (stands.exited outcome member).1
    rw [running] at reported
    cases reported

theorem completed_of_task {receiver : SessionReceiver} (sound : SoundTask task)
    (body : task.body = .receiver receiver) (reported : receiver.reportedComplete = true) :
    ∃ roundId manifest plan mode, Completed receiver roundId manifest plan mode := by
  rcases (sound receiver body).answering with ⟨given, answering⟩
  exact completed_of_reported answering reported

theorem reported_of_completed {receiver : SessionReceiver} {roundId : UInt32}
    {manifest : LosslessSessionManifest} {plan : BlockPlan} {mode : ReceiverMode}
    (completed : Completed receiver roundId manifest plan mode) : receiver.reportedComplete = true := by
  rw [SessionReceiver.reportedComplete, completed.installed.modeIs]
  simp only [completed.cache, completeCache]

theorem stands_moved {later : SessionTask} {event : TaskEvent} (owned : Owned runtime)
    (stands : Stands sessionId runtime id task)
    (sole : ∀ other, (runtime.setTask id later).owner other = some sessionId → other = id)
    (moved : TaskMoved crate host.toHost runtime id task event later output) :
    Stands sessionId (runtime.setTask id later) id later ∧ StaysCompleted task later := by
  have sound : SoundTask task := owned.sound task (List.mem_of_getElem? stands.found)
  cases moved with
  | skipped running body popped =>
    rcases running_unposted stands running with ⟨unhanded, unexited⟩
    refine ⟨stands_changed stands sole rfl rfl rfl rfl rfl ?_ ?_ ?_ ?_ ?_,
      stays_completed_of_same rfl⟩
    · exact fun unreported => unreported
    · exact fun replay member => absurd member (unhanded replay)
    · exact fun outcome member => absurd member (unexited outcome)
    · exact stands.ended
    · exact stands.registered
  | @received receiver after frame rest sent running body popped received =>
    rcases running_unposted stands running with ⟨unhanded, unexited⟩
    refine ⟨stands_changed stands sole rfl rfl rfl rfl rfl ?_ ?_ ?_ ?_ ?_, ?_⟩
    · exact fun unreported => unreported
    · exact fun replay member => absurd member (unhanded replay)
    · exact fun outcome member => absurd member (unexited outcome)
    · intro outcome ended
      rw [running] at ended
      cases ended
    · exact fun other same complete started => absurd running started
    · intro other roundId same complete last
      rw [body] at same
      cases same
      rcases completed_of_task sound body complete with ⟨lastRoundId, manifest, plan, mode, completed⟩
      rw [last_round_of_completed completed] at last
      cases last
      rcases completed_receives crate host.toHost completed frame with
        ⟨expected, _, laterRoundId, _, taken, stays, above, _⟩
      rw [taken] at received
      cases received
      exact ⟨_, laterRoundId, rfl, reported_of_completed stays, last_round_of_completed stays, above⟩
  | @panicked receiver frame rest running body popped panicked =>
    rcases running_unposted stands running with ⟨unhanded, unexited⟩
    have incomplete : receiver.reportedComplete ≠ true := by
      intro complete
      rcases completed_of_task sound body complete with ⟨lastRoundId, manifest, plan, mode, completed⟩
      rcases completed_receives crate host.toHost completed frame with ⟨_, _, _, _, taken, _⟩
      rw [taken] at panicked
      cases panicked
    refine ⟨stands_changed stands sole rfl rfl rfl rfl rfl ?_ ?_ ?_ ?_ ?_,
      stays_completed_of_same rfl⟩
    · intro _
      rw [running]
      nofun
    · exact fun replay member => absurd member (unhanded replay)
    · exact fun outcome member => absurd member (unexited outcome)
    · intro outcome _ complete
      rw [SessionTask.reportedComplete, SessionTask.finish, body] at complete
      exact absurd complete incomplete
    · intro other same complete
      rw [SessionTask.finish, body] at same
      cases same
      exact absurd complete incomplete
  | @left receiver event running body leaves none =>
    rcases running_unposted stands running with ⟨unhanded, unexited⟩
    have incomplete : receiver.reportedComplete ≠ true := by
      intro complete
      rcases completed_of_task sound body complete with ⟨lastRoundId, manifest, plan, mode, completed⟩
      rcases completed_replay completed with ⟨replay, present, _⟩
      have same : receiver.finishSession.completedReplay = receiver.completedReplay := rfl
      rw [same, present] at none
      cases none
    refine ⟨stands_changed stands sole rfl rfl rfl rfl rfl ?_ ?_ ?_ ?_ ?_,
      stays_completed_finished body rfl⟩
    · intro _
      rw [running]
      nofun
    · exact fun replay member => absurd member (unhanded replay)
    · exact fun outcome member => absurd member (unexited outcome)
    · intro outcome ended _
      cases ended
      rfl
    · intro other same complete
      cases same
      exact absurd complete incomplete
  | resumed acknowledged =>
    refine ⟨stands_changed stands sole rfl rfl rfl rfl rfl ?_ ?_ ?_ ?_ ?_,
      stays_completed_of_same rfl⟩
    · intro _
      rw [acknowledged]
      nofun
    · exact fun replay member => ⟨nofun, (stands.handedOver replay member).2⟩
    · intro outcome member
      have reported := (stands.exited outcome member).1
      rw [acknowledged] at reported
      cases reported
    · intro outcome ended _
      cases ended
      rfl
    · intro receiver body complete _ _
      exact stands.registered receiver body complete (by rw [acknowledged]; nofun)
        (by rw [acknowledged]; nofun)
  | @senderEnded cfg gate outcome running body =>
    rcases running_unposted stands running with ⟨unhanded, unexited⟩
    refine ⟨stands_changed stands sole rfl rfl rfl rfl rfl ?_ ?_ ?_ ?_ ?_,
      stays_completed_of_same rfl⟩
    · intro _
      rw [running]
      nofun
    · exact fun replay member => absurd member (unhanded replay)
    · exact fun outcome member => absurd member (unexited outcome)
    · intro other _ complete
      rw [SessionTask.reportedComplete, SessionTask.finish, body] at complete
      cases complete
    · intro receiver same
      rw [SessionTask.finish, body] at same
      cases same
  | cancelled requested opened =>
    rw [stands.unaborted] at requested
    cases requested

theorem stands_handed_over {receiver : SessionReceiver} {replay : CompletedReceiverReplay}
    (stands : Stands sessionId runtime id task)
    (running : task.stage = .running) (body : task.body = .receiver receiver)
    (replayed : receiver.finishSession.completedReplay = some replay)
    (nextIs : next = (runtime.setTask id
      { task with body := .receiver receiver.finishSession, stage := .awaitingAck }).post
        (.receiverCompleted receiver.shared.sessionId replay id))
    (sole : ∀ other, next.owner other = some sessionId → other = id) :
    ∃ later, Stands sessionId next id later ∧ StaysCompleted task later := by
  rcases running_unposted stands running with ⟨unhanded, unexited⟩
  have posted : next.messages = runtime.messages ++
      [.receiverCompleted receiver.shared.sessionId replay id] := by
    rw [nextIs]
    rfl
  let later : SessionTask :=
    { task with body := .receiver receiver.finishSession, stage := .awaitingAck }
  have tasks : next.tasks = runtime.tasks.set id later := by
    rw [nextIs]
    rfl
  refine ⟨later, stands_changed stands sole tasks (by rw [nextIs]; rfl) (by rw [nextIs]; rfl) rfl rfl
    ?_ ?_ ?_ nofun ?_, stays_completed_finished body rfl⟩
  · intro _
    rw [running]
    nofun
  · intro other member
    rw [posted, List.mem_append, List.mem_singleton] at member
    rcases member with before | new
    · exact absurd before (unhanded other)
    · cases new
      exact ⟨nofun, _, rfl, replayed⟩
  · intro outcome member
    rw [posted, List.mem_append, List.mem_singleton] at member
    rcases member with before | new
    · exact absurd before (unexited outcome)
    · cases new
  · exact fun other same complete started handed => absurd rfl handed

theorem stands_reported {outcome : SessionOutcome} (stands : Stands sessionId runtime id task)
    (ended : task.stage = .ended outcome)
    (nextIs : next = (runtime.setTask id { task with stage := .reported }).post
      (.sessionExited task.sessionId outcome id))
    (sole : ∀ other, next.owner other = some sessionId → other = id) :
    ∃ later, Stands sessionId next id later ∧ StaysCompleted task later := by
  have posted : next.messages = runtime.messages ++ [.sessionExited task.sessionId outcome id] := by
    rw [nextIs]
    rfl
  let later : SessionTask := { task with stage := .reported }
  have tasks : next.tasks = runtime.tasks.set id later := by
    rw [nextIs]
    rfl
  refine ⟨later, stands_changed stands sole tasks (by rw [nextIs]; rfl) (by rw [nextIs]; rfl) rfl rfl
    ?_ ?_ ?_ nofun ?_, stays_completed_of_same rfl⟩
  · intro unreported
    exact absurd rfl unreported
  · intro replay member
    rw [posted, List.mem_append, List.mem_singleton] at member
    rcases member with before | new
    · exact ⟨nofun, (stands.handedOver replay before).2⟩
    · cases new
  · intro other member
    rw [posted, List.mem_append, List.mem_singleton] at member
    rcases member with before | new
    · have reported := (stands.exited other before).1
      rw [ended] at reported
      cases reported
    · cases new
      exact ⟨rfl, stands.ended _ ended⟩
  · intro receiver body complete _ _
    exact stands.registered receiver body complete (by rw [ended]; nofun) (by rw [ended]; nofun)

/-- Another task that changes and posts messages leaves the session's task as it was. -/
theorem stands_away {place : TaskId} {later : SessionTask} {posted : List RuntimeMessage}
    (stands : Stands sessionId runtime id task) (away : place ≠ id)
    (sole : ∀ other, next.owner other = some sessionId → other = id)
    (tasks : next.tasks = runtime.tasks.set place later)
    (entries : next.sessions = runtime.sessions)
    (registry : next.completedReceivers = runtime.completedReceivers)
    (messages : next.messages = runtime.messages ++ posted)
    (senders : ∀ message ∈ posted, message.sender ≠ some (sessionId, id)) :
    Stands sessionId next id task := by
  have found : next.tasks[id]? = some task := by
    rw [tasks, found_set stands.found, if_neg away]
  refine stands_of_same stands found sole (congrFun entries _) (congrFun registry _) ?_
  intro message member sender
  rw [messages] at member
  rcases List.mem_append.mp member with before | new
  · exact before
  · exact absurd sender (senders message new)

/-- The session's task stands on over every step that leaves the session undisturbed, and a receiver
that has reported completion stays completed. -/
theorem stands_step (owned : Owned runtime) (stands : Stands sessionId runtime id task)
    (quiet : Undisturbed sessionId runtime event)
    (step : RuntimeStep crate config host runtime event next output) :
    ∃ later, Stands sessionId next id later ∧ StaysCompleted task later := by
  have sole := sole_after stands quiet step
  have same : StaysCompleted task task := stays_completed_of_same rfl
  cases step with
  | submitted outside =>
    refine ⟨task, stands_of_same stands stands.found sole rfl rfl ?_, same⟩
    intro message member sender
    rcases List.mem_append.mp member with before | new
    · exact before
    · rw [List.mem_singleton.mp new, from_handle_unsent outside] at sender
      cases sender
  | handled idle front handled => exact stands_handled owned stands quiet front sole handled
  | @accepted delivery other inbox sending found opened pushed =>
    by_cases own : delivery.task = id
    · rw [own, stands.found] at found
      cases found
      rw [own] at sole ⊢
      exact ⟨{ task with inbox := inbox }, stands_changed stands sole rfl rfl rfl rfl rfl
        (fun unreported => unreported) stands.handedOver stands.exited stands.ended
        stands.registered, stays_completed_of_same rfl⟩
    · exact ⟨task, stands_away stands own sole rfl rfl rfl (List.append_nil _).symm nofun, same⟩
  | refused sending found closed replayed =>
    exact ⟨task, stands_of_same stands stands.found sole rfl rfl (fun _ member _ => member), same⟩
  | @moved place other later event output found moved =>
    by_cases own : place = id
    · subst own
      rw [stands.found] at found
      cases found
      exact ⟨later, stands_moved owned stands sole moved⟩
    · exact ⟨task, stands_away stands own sole rfl rfl rfl (List.append_nil _).symm nofun, same⟩
  | @handedOver place other receiver replay event found running body leaves replayed =>
    by_cases own : place = id
    · subst own
      rw [stands.found] at found
      cases found
      exact stands_handed_over stands running body replayed rfl sole
    · refine ⟨task, stands_away stands own sole rfl rfl rfl rfl ?_, same⟩
      rintro message new sender
      rw [List.mem_singleton.mp new] at sender
      cases sender
      exact own rfl
  | @reported place other outcome found ended =>
    by_cases own : place = id
    · subst own
      rw [stands.found] at found
      cases found
      exact stands_reported stands ended rfl sole
    · refine ⟨task, stands_away stands own sole rfl rfl rfl rfl ?_, same⟩
      rintro message new sender
      rw [List.mem_singleton.mp new] at sender
      cases sender
      exact own rfl

end Standing

end Nextmini.Session
