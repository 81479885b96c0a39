import Nextmini.Session.SessionStarts
import Nextmini.Session.SessionTasks

/-!
# Incarnations of a session

A session id may be started again after an abort, while the aborted task has still to be cancelled
and its exit to be posted. The runtime takes every report for one of the session that is active now.
It is so when each start comes after the exits of all earlier tasks under its id were handled.
-/

namespace Nextmini.Session

open Nextmini.Library
open Nextmini.Messages

set_option autoImplicit false

/-- The exit of the task was posted, and nothing that it or its watcher posted is left in the queue. -/
def Settled (runtime : LosslessRuntime) (sessionId : UInt64) (id : TaskId) : Prop :=
  (runtime.tasks[id]?).map SessionTask.stage = some .reported ∧
    ∀ message ∈ runtime.messages, message.sender ≠ some (sessionId, id)

/-- A start that may get through is handled when all earlier tasks of its session are settled. -/
def StartsSettled (config : LosslessConfig) (runtime : LosslessRuntime) (event : RuntimeEvent) : Prop :=
  event = .handled → ∀ message ∈ runtime.messages.head?, ∀ sessionId, message.Starts config sessionId →
    runtime.sessions sessionId = none → ∀ id, runtime.owner id = some sessionId →
      Settled runtime sessionId id

def settledSystem (crate : FountainCrate) (config : LosslessConfig) :
    TransitionSystem LosslessRuntime RuntimeLabel :=
  (runtimeSystem crate config).restrict fun runtime label => StartsSettled config runtime label.event

/-- Only the latest task of a session may have something left to report. -/
def InOrder (runtime : LosslessRuntime) : Prop :=
  ∀ sessionId id later, runtime.owner id = some sessionId → runtime.owner later = some sessionId →
    id < later → Settled runtime sessionId id

/-- What a message has to be to concern the latest task of a session. -/
inductive Concerns (sessionId : UInt64) (id : TaskId) : RuntimeMessage → Prop
  | aborted : Concerns sessionId id (.abort sessionId)
  | requested {message : RuntimeMessage} : message.requests = some sessionId →
      Concerns sessionId id message
  | reported {message : RuntimeMessage} : message.sender = some (sessionId, id) →
      Concerns sessionId id message

section Incarnations

variable {crate : FountainCrate} {config : LosslessConfig} {host : RuntimeHost}
  {runtime next : LosslessRuntime} {event : RuntimeEvent} {output : RuntimeOutput}
  {sessionId : UInt64} {id : TaskId}

theorem stage_reported_kept {task later : SessionTask} (reported : task.stage = .reported)
    (changed : TaskChanged crate host runtime id task event later) : later.stage = .reported := by
  cases changed with
  | same => exact reported
  | aborted => exact reported
  | acknowledged front awaiting =>
    rw [reported] at awaiting
    cases awaiting
  | exited => exact reported
  | accepted => exact reported
  | moved moved =>
    cases moved with
    | resumed acknowledged =>
      rw [reported] at acknowledged
      cases acknowledged
    | cancelled requested opened =>
      rw [SessionTask.closed, reported] at opened
      cases opened
    | skipped running | received running | panicked running | left running | senderEnded running =>
      rw [reported] at running
      cases running
  | handedOver running =>
    rw [reported] at running
    cases running
  | reported ended => rfl

theorem settled_step (owned : Owned runtime) (settled : Settled runtime sessionId id)
    (step : RuntimeStep crate config host runtime event next output) : Settled next sessionId id := by
  rcases settled with ⟨stage, silent⟩
  rcases Option.map_eq_some_iff.mp stage with ⟨task, found, reported⟩
  constructor
  · rcases task_after step found with ⟨later, after, changed⟩
    rw [after, Option.map_some, stage_reported_kept reported changed]
  · intro message member sender
    rcases message_after owned.sound step sender member with before | ⟨other, present, _, unreported⟩
    · exact silent message before sender
    · rw [found] at present
      cases present
      exact unreported reported

theorem in_order_step (owned : Owned runtime) (ordered : InOrder runtime)
    (quiet : StartsSettled config runtime event)
    (step : RuntimeStep crate config host runtime event next output) : InOrder next := by
  intro sessionId id later first second earlier
  rcases owner_after step id with same | ⟨_, new, _⟩
  · rw [same] at first
    apply settled_step owned _ step
    rcases owner_after step later with kept | ⟨handled, new, _, message, _, _, spawned⟩
    · rw [kept] at second
      exact ordered sessionId id later first second earlier
    · rw [new, spawned_owner spawned] at second
      cases second
      have front : message ∈ runtime.messages.head? := by
        rw [spawned.front]
        rfl
      exact quiet handled message front sessionId spawned.starts spawned.inactive id first
  · rcases owner_after step later with kept | ⟨_, last, _⟩
    · rw [kept] at second
      rcases found_of_owner second with ⟨task, found, _⟩
      have inside := (List.getElem?_eq_some_iff.mp found).1
      rw [new] at earlier
      exact absurd inside (Nat.not_lt.mpr (Nat.le_of_lt earlier))
    · rw [new, last] at earlier
      exact absurd earlier (Nat.lt_irrefl _)

theorem in_order_of_reachable (reachable : (settledSystem crate config).Reachable runtime) :
    Owned runtime ∧ InOrder runtime := by
  apply TransitionSystem.invariant_of_reachable (motive := fun runtime =>
    Owned runtime ∧ InOrder runtime) _ _ reachable
  · intro state initial
    cases initial
    refine ⟨owned_new, ?_⟩
    intro sessionId id later first
    cases first
  · intro state label next before taken
    rcases before with ⟨owned, ordered⟩
    rcases taken with ⟨quiet, host, stepped⟩
    have step := step_cases stepped
    exact ⟨owned_step owned step, in_order_step owned ordered quiet step⟩

/-! ## What changes a session -/

/-- Only an abort or an exit that the runtime takes for that of its session changes what a task's
watch channel says. -/
theorem state_after {task later : SessionTask} (owned : Owned runtime)
    (found : runtime.tasks[id]? = some task) (session : task.sessionId = sessionId)
    (changed : TaskChanged crate host runtime id task event later) :
    later.state = task.state ∨
      event = .handled ∧ ∃ message ∈ runtime.messages.head?,
        message = .abort sessionId ∨ ∃ place, message.sender = some (sessionId, place) := by
  have entered {other : UInt64} (entry : runtime.sessions other = some id) : other = sessionId := by
    have owner := owned.entries other id entry
    rw [owner_of_found found, session] at owner
    exact (Option.some.inj owner).symm
  cases changed with
  | aborted front entry =>
    have own := entered entry
    subst own
    exact .inr ⟨rfl, _, front, .inl rfl⟩
  | @exited other outcome place front entry =>
    have own := entered entry
    subst own
    exact .inr ⟨rfl, _, front, .inr ⟨place, rfl⟩⟩
  | moved moved =>
    left
    cases moved <;> rfl
  | _ => exact .inl rfl

/-- A report that is handled comes from the latest task of its session. -/
theorem sender_latest {message : RuntimeMessage} {place : TaskId} (owned : Owned runtime)
    (ordered : InOrder runtime) (owner : runtime.owner id = some sessionId)
    (latest : ∀ other, runtime.owner other = some sessionId → other ≤ id)
    (front : message ∈ runtime.messages.head?) (sender : message.sender = some (sessionId, place)) :
    place = id := by
  have member : message ∈ runtime.messages := List.mem_of_mem_head? front
  have first := owned.senders message member sessionId place sender
  rcases Nat.lt_or_eq_of_le (latest place first) with earlier | same
  · have settled := ordered sessionId place id first owner earlier
    exact absurd sender (settled.2 message member)
  · exact same

/-- Over runs in which a session is started only after the exits of its earlier tasks were handled,
what the runtime holds of a session and what its latest task's watch channel says change only by an
abort of the session, a request to start it, and the reports of that task itself. -/
theorem incarnations_isolated {label : RuntimeLabel}
    (reachable : (settledSystem crate config).Reachable runtime)
    (taken : (settledSystem crate config).step runtime label next)
    (owner : runtime.owner id = some sessionId)
    (latest : ∀ other, runtime.owner other = some sessionId → other ≤ id) :
    (next.sessions sessionId = runtime.sessions sessionId ∧
        next.completedReceivers sessionId = runtime.completedReceivers sessionId ∧
        (next.tasks[id]?).map SessionTask.state = (runtime.tasks[id]?).map SessionTask.state) ∨
      label.event = .handled ∧ ∃ message ∈ runtime.messages.head?, Concerns sessionId id message := by
  rcases in_order_of_reachable reachable with ⟨owned, ordered⟩
  rcases taken with ⟨_, host, stepped⟩
  have step := step_cases stepped
  rcases found_of_owner owner with ⟨task, found, session⟩
  rcases task_after step found with ⟨later, after, changed⟩
  have reported {message : RuntimeMessage} {place : TaskId} (front : message ∈ runtime.messages.head?)
      (sender : message.sender = some (sessionId, place)) : Concerns sessionId id message := by
    rw [sender_latest owned ordered owner latest front sender] at sender
    exact .reported sender
  rcases state_after owned found session changed with sameState | ⟨handled, message, front, about⟩
  · rcases session_after sessionId step with ⟨sameEntry, sameReplay⟩ | ⟨handled, message, front, about⟩
    · left
      refine ⟨sameEntry, sameReplay, ?_⟩
      rw [after, found, Option.map_some, Option.map_some, sameState]
    · right
      refine ⟨handled, message, front, ?_⟩
      rcases about with rfl | requested | ⟨place, sender⟩
      · exact .aborted
      · exact .requested requested
      · exact reported front sender
  · right
    refine ⟨handled, message, front, ?_⟩
    rcases about with rfl | ⟨place, sender⟩
    · exact .aborted
    · exact reported front sender

end Incarnations

/-- The steps in which a request waits until all tasks so far are settled. -/
def settledStep (runtime : LosslessRuntime) (event : RuntimeEvent) :
    Option (LosslessRuntime × RuntimeOutput) :=
  if event = .handled → ∀ message ∈ runtime.messages.head?, message.requests.isSome →
      ∀ id < runtime.tasks.length, (runtime.tasks[id]?).map SessionTask.stage = some .reported ∧
        ∀ message ∈ runtime.messages, message.sender.map Prod.snd ≠ some id then
    runtime.step idleCrate plainConfig grantingHost event
  else none

theorem settled_step_taken {runtime next : LosslessRuntime} {event : RuntimeEvent}
    {output : RuntimeOutput} (stepped : settledStep runtime event = some (next, output)) :
    (settledSystem idleCrate plainConfig).step runtime ⟨event, output⟩ next := by
  rw [settledStep] at stepped
  split_ifs at stepped with waits
  refine ⟨?_, grantingHost, stepped⟩
  intro handled message front sessionId starts _ id owner
  rcases found_of_owner owner with ⟨task, found, _⟩
  have requested : message.requests.isSome := by
    rw [requests_of_starts starts]
    rfl
  have settled := waits handled message front requested id (List.getElem?_eq_some_iff.mp found).1
  refine ⟨settled.1, ?_⟩
  intro other member sender
  apply settled.2 other member
  rw [sender]
  rfl

def cancelledEvents : List RuntimeEvent :=
  [.submitted (.startReceiver ⟨7, none⟩), .handled, .submitted (.abort 7), .handled]

/-- It is started again once its first exit was handled, and is about to be aborted again. -/
theorem second_abort_concerns : ∃ runtime label next,
    (settledSystem idleCrate plainConfig).Reachable runtime ∧
      (settledSystem idleCrate plainConfig).step runtime label next ∧
      runtime.tasks.map SessionTask.sessionId = [7, 7] ∧ label.event = .handled ∧
      ∃ message ∈ runtime.messages.head?, Concerns 7 1 message := by
  let events : List RuntimeEvent := cancelledEvents ++
    [.task 0 .cancelled, .task 0 .reported, .handled, .submitted (.startReceiver ⟨7, none⟩), .handled,
      .submitted (.abort 7)]
  have evaluated : (TransitionSystem.execute settledStep .new events).map (fun result =>
      (result.1.tasks.map SessionTask.sessionId, result.1.sessions 7,
        (settledStep result.1 .handled).map fun result => result.1.sessions 7)) =
        some ([7, 7], some 1, some none) := by
    decide +kernel
  rcases Option.map_eq_some_iff.mp evaluated with ⟨⟨runtime, outputs⟩, executed, same⟩
  simp only [Prod.mk.injEq] at same
  rcases same with ⟨sessions, entry, handling⟩
  rcases Option.map_eq_some_iff.mp handling with ⟨⟨next, output⟩, stepped, removed⟩
  have reachable : (settledSystem idleCrate plainConfig).Reachable runtime :=
    ⟨.new, _, rfl, TransitionSystem.run_of_execute RuntimeLabel.mk
      (fun _ _ _ _ => settled_step_taken) executed⟩
  have taken := settled_step_taken stepped
  have owners (id : TaskId) : runtime.owner id = ([7, 7] : List UInt64)[id]? := by
    rw [LosslessRuntime.owner, ← sessions, List.getElem?_map]
  have latest (other : TaskId) (owner : runtime.owner other = some 7) : other ≤ 1 := by
    rw [owners] at owner
    exact Nat.le_of_lt_succ (List.getElem?_eq_some_iff.mp owner).1
  rcases incarnations_isolated reachable taken (owners 1) latest with ⟨sameEntry, _⟩ | concerned
  · rw [entry, removed] at sameEntry
    cases sameEntry
  · exact ⟨runtime, _, next, reachable, taken, sessions, concerned⟩

/-- The exit of the aborted task comes after the second start. It takes the entry of the second task,
which is still running, and its watch channel says that it is aborted. -/
theorem stale_exit_finishes : ∃ runtime label next,
    (runtimeSystem idleCrate plainConfig).Reachable runtime ∧
      (runtimeSystem idleCrate plainConfig).step runtime label next ∧ label.event = .handled ∧
      runtime.messages = [.sessionExited 7 .aborted 0] ∧
      runtime.tasks.map (fun task => (task.sessionId, task.state)) =
        [(7, .finished .aborted), (7, .running)] ∧
      runtime.sessions 7 = some 1 ∧ next.sessions 7 = none ∧
      next.tasks.map (fun task => (task.stage, task.state)) =
        [(.reported, .finished .aborted), (.running, .finished .aborted)] := by
  let events : List RuntimeEvent := cancelledEvents ++
    [.submitted (.startReceiver ⟨7, none⟩), .handled, .task 0 .cancelled, .task 0 .reported]
  have before : (executed events).map (fun result => (result.1.messages,
      result.1.tasks.map fun task => (task.sessionId, task.state))) =
        some ([.sessionExited 7 .aborted 0], [(7, .finished .aborted), (7, .running)]) := by
    decide +kernel
  have after : ((executed events).bind fun result =>
      (result.1.step idleCrate plainConfig grantingHost .handled).map fun handled =>
        (result.1.sessions 7, handled.1.sessions 7,
          handled.1.tasks.map fun task => (task.stage, task.state))) =
        some (some 1, none, [(.reported, .finished .aborted), (.running, .finished .aborted)]) := by
    decide +kernel
  rcases Option.map_eq_some_iff.mp before with ⟨⟨runtime, outputs⟩, finished, same⟩
  rw [finished, Option.bind_some] at after
  rcases Option.map_eq_some_iff.mp after with ⟨⟨next, output⟩, stepped, handled⟩
  simp only [Prod.mk.injEq] at same handled
  rcases same with ⟨messages, tasks⟩
  rcases handled with ⟨entry, removed, later⟩
  exact ⟨runtime, ⟨.handled, output⟩, next, ⟨.new, _, rfl, run_of_events finished⟩,
    ⟨grantingHost, stepped⟩, rfl, messages, tasks, entry, removed, later⟩

end Nextmini.Session
