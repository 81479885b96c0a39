import Nextmini.Session.ReceiverRounds
import Nextmini.Session.Runtime

/-!
# Steps of the lossless runtime

What a turn of the command loop, a step of one task and a step of the whole runtime can do, and what
every task keeps over all of them.
-/

namespace Nextmini.Session

open Nextmini.Library
open Nextmini.Messages

set_option autoImplicit false

variable {crate : FountainCrate} {config : LosslessConfig}

/-! ## Messages -/

/-- The session that a message asks the runtime to start. -/
def RuntimeMessage.requests : RuntimeMessage → Option UInt64
  | .startSender request => some request.sessionId
  | .startReceiver request => some request.sessionId
  | _ => none

/-- The message starts a task where its session is not active. -/
def RuntimeMessage.Starts (config : LosslessConfig) (sessionId : UInt64) : RuntimeMessage → Prop
  | .startSender request =>
      request.sessionId = sessionId ∧
        ∃ treeVisible cfg, senderConfig config treeVisible request = .ok cfg
  | .startReceiver request => request.sessionId = sessionId
  | _ => False

def TaskBody.Fresh (sessionId : UInt64) : TaskBody → Prop
  | .sender .. => True
  | .receiver fresh => ∃ cfg : ReceiverConfig, fresh = .new cfg ∧ cfg.sessionId = sessionId

/-- What handling a message does to the runtime that has taken it from the queue. -/
inductive MessageHandled (config : LosslessConfig) (runtime : LosslessRuntime) :
    RuntimeMessage → LosslessRuntime → RuntimeOutput → Prop
  | alreadyActive {message : RuntimeMessage} {sessionId : UInt64} {task : TaskId} :
      message.requests = some sessionId → runtime.sessions sessionId = some task →
        MessageHandled config runtime message runtime
          ⟨[], some (.error (.sessionAlreadyActive sessionId))⟩
  | preflight {message : RuntimeMessage} {sessionId : UInt64} {reason : PreflightError} :
      message.requests = some sessionId → runtime.sessions sessionId = none →
        MessageHandled config runtime message (runtime.forgetReplay sessionId)
          ⟨[], some (.error (.preflight reason))⟩
  | started {message : RuntimeMessage} {sessionId : UInt64} {body : TaskBody} :
      message.Starts config sessionId → runtime.sessions sessionId = none → body.Fresh sessionId →
        MessageHandled config runtime message ((runtime.forgetReplay sessionId).spawn sessionId body)
          ⟨[], some (.ok ())⟩
  | aborted {sessionId : UInt64} :
      MessageHandled config runtime (.abort sessionId) (runtime.abortSession sessionId) .none
  | dropped {session : UInt64} {frame : InboundFrame} :
      LosslessRuntime.unsupportedVersion frame = true →
        MessageHandled config runtime (.deliver session frame) runtime .none
  | sending {session : UInt64} {frame : InboundFrame} {task : TaskId} :
      LosslessRuntime.unsupportedVersion frame = false → runtime.sessions session = some task →
        MessageHandled config runtime (.deliver session frame)
          { runtime with delivering := some ⟨task, session, frame⟩ } .none
  | replayed {session : UInt64} {frame : InboundFrame} {sent : List LosslessSessionControl}
      {answered : Bool} :
      LosslessRuntime.unsupportedVersion frame = false → runtime.sessions session = none →
        replayCompletedReceiver session (runtime.completedReceivers session) frame =
          some (sent, answered) →
        MessageHandled config runtime (.deliver session frame) runtime (.ofSent session sent)
  | registered {sessionId : UInt64} {replay : CompletedReceiverReplay} {ack : TaskId} :
      MessageHandled config runtime (.receiverCompleted sessionId replay ack)
        (runtime.registerReplay sessionId replay ack) .none
  | exited {sessionId : UInt64} {outcome : SessionOutcome} {task : TaskId} :
      MessageHandled config runtime (.sessionExited sessionId outcome task)
        (runtime.finishSession sessionId outcome) .none
  | topologySet {ready : Bool} :
      MessageHandled config runtime (.setTopologyReady ready)
        { runtime with topologyReady := ready } .none

theorem replay_frame_some {runtime next : LosslessRuntime} {session : UInt64}
    {frame : InboundFrame} {output : RuntimeOutput}
    (replayed : runtime.replayFrame session frame = some (next, output)) :
    ∃ sent answered, replayCompletedReceiver session (runtime.completedReceivers session) frame =
      some (sent, answered) ∧ next = runtime ∧ output = .ofSent session sent := by
  rcases Option.bind_eq_some_iff.mp replayed with ⟨⟨sent, answered⟩, replay, same⟩
  cases same
  exact ⟨sent, answered, replay, rfl, rfl⟩

theorem handle_message_cases {runtime next : LosslessRuntime} {treeVisible : Bool}
    {message : RuntimeMessage} {output : RuntimeOutput}
    (handling : runtime.handleMessage config treeVisible message = some (next, output)) :
    MessageHandled config runtime message next output := by
  cases message with
  | startSender request =>
    simp only [LosslessRuntime.handleMessage, LosslessRuntime.startSenderSession] at handling
    cases active : runtime.sessions request.sessionId with
    | some task =>
      simp only [active, Option.isSome_some, if_true] at handling
      cases handling
      exact .alreadyActive rfl active
    | none =>
      simp only [active, Option.isSome_none, Bool.false_eq_true, if_false] at handling
      cases built : senderConfig config treeVisible request with
      | error reason =>
        rw [built] at handling
        cases handling
        exact .preflight rfl active
      | ok cfg =>
        rw [built] at handling
        cases handling
        exact .started ⟨rfl, treeVisible, cfg, built⟩ active trivial
  | startReceiver request =>
    simp only [LosslessRuntime.handleMessage, LosslessRuntime.startReceiverSession] at handling
    cases active : runtime.sessions request.sessionId with
    | some task =>
      simp only [active, Option.isSome_some, if_true] at handling
      cases handling
      exact .alreadyActive rfl active
    | none =>
      simp only [active, Option.isSome_none, Bool.false_eq_true, if_false] at handling
      cases handling
      exact .started rfl active ⟨_, rfl, rfl⟩
  | abort sessionId =>
    cases handling
    exact .aborted
  | deliver session frame =>
    simp only [LosslessRuntime.handleMessage, LosslessRuntime.deliverFrame] at handling
    split_ifs at handling with unsupported
    · cases handling
      exact .dropped unsupported
    · have supported := Bool.eq_false_of_not_eq_true unsupported
      cases active : runtime.sessions session with
      | some task =>
        rw [active] at handling
        cases handling
        exact .sending supported active
      | none =>
        rw [active] at handling
        rcases replay_frame_some handling with ⟨sent, answered, replayed, rfl, rfl⟩
        exact .replayed supported active replayed
  | receiverCompleted sessionId replay ack =>
    cases handling
    exact .registered
  | sessionExited sessionId outcome task =>
    cases handling
    exact .exited
  | setTopologyReady ready =>
    cases handling
    exact .topologySet

/-! ## Tasks -/

def LosslessRuntime.Leaves (runtime : LosslessRuntime) (id : TaskId) (task : SessionTask)
    (receiver : SessionReceiver) : TaskEvent → Prop
  | .passiveTimeout => receiver.lifecycle = .passiveComplete
  | .channelClosed => task.inbox.isEmpty ∧ runtime.sessions task.sessionId ≠ some id ∧
      runtime.delivering.map Delivery.task ≠ some id
  | _ => False

/-- The steps that change nothing but one task. -/
inductive TaskMoved (crate : FountainCrate) (host : Host) (runtime : LosslessRuntime) (id : TaskId)
    (task : SessionTask) : TaskEvent → SessionTask → RuntimeOutput → Prop
  | skipped {cfg : SenderConfig} {gate : Bool} {frame : InboundFrame}
      {rest : ArrayQueue InboundFrame inboxCapacity} :
      task.stage = .running → task.body = .sender cfg gate → task.inbox.pop = some (frame, rest) →
        TaskMoved crate host runtime id task .received { task with inbox := rest } .none
  | received {receiver next : SessionReceiver} {frame : InboundFrame}
      {rest : ArrayQueue InboundFrame inboxCapacity} {sent : List LosslessSessionControl} :
      task.stage = .running → task.body = .receiver receiver →
        task.inbox.pop = some (frame, rest) →
        receiver.receiveFrame crate host frame = some (next, sent) →
        TaskMoved crate host runtime id task .received
          { task with inbox := rest, body := .receiver next } (.ofSent next.shared.sessionId sent)
  | panicked {receiver : SessionReceiver} {frame : InboundFrame}
      {rest : ArrayQueue InboundFrame inboxCapacity} :
      task.stage = .running → task.body = .receiver receiver →
        task.inbox.pop = some (frame, rest) → receiver.receiveFrame crate host frame = none →
        TaskMoved crate host runtime id task .received (task.finish .aborted) .none
  | left {receiver : SessionReceiver} {event : TaskEvent} :
      task.stage = .running → task.body = .receiver receiver →
        runtime.Leaves id task receiver event → receiver.finishSession.completedReplay = none →
        TaskMoved crate host runtime id task event
          ({ task with body := .receiver receiver.finishSession }.finish .completed) .none
  | resumed : task.stage = .acknowledged →
      TaskMoved crate host runtime id task .resumed (task.finish .completed) .none
  | senderEnded {cfg : SenderConfig} {gate : Bool} {outcome : SessionOutcome} :
      task.stage = .running → task.body = .sender cfg gate →
        TaskMoved crate host runtime id task (.senderEnded outcome) (task.finish outcome) .none
  | cancelled : task.abortRequested = true → task.closed = false →
      TaskMoved crate host runtime id task .cancelled (task.finish .aborted) .none

inductive RuntimeStep (crate : FountainCrate) (config : LosslessConfig) (host : RuntimeHost)
    (runtime : LosslessRuntime) : RuntimeEvent → LosslessRuntime → RuntimeOutput → Prop
  | submitted {message : RuntimeMessage} : message.fromHandle = true →
      RuntimeStep crate config host runtime (.submitted message) (runtime.post message) .none
  | handled {message : RuntimeMessage} {rest : List RuntimeMessage} {next : LosslessRuntime}
      {output : RuntimeOutput} :
      runtime.delivering = none → runtime.messages = message :: rest →
        MessageHandled config { runtime with messages := rest } message next output →
        RuntimeStep crate config host runtime .handled next output
  | accepted {delivery : Delivery} {task : SessionTask}
      {inbox : ArrayQueue InboundFrame inboxCapacity} :
      runtime.delivering = some delivery → runtime.tasks[delivery.task]? = some task →
        task.closed = false → task.inbox.push delivery.frame = some inbox →
        RuntimeStep crate config host runtime .accepted
          (LosslessRuntime.setTask { runtime with delivering := none } delivery.task
            { task with inbox := inbox }) .none
  | refused {delivery : Delivery} {task : SessionTask} {sent : List LosslessSessionControl}
      {answered : Bool} :
      runtime.delivering = some delivery → runtime.tasks[delivery.task]? = some task →
        task.closed = true →
        replayCompletedReceiver delivery.session (runtime.completedReceivers delivery.session)
          delivery.frame = some (sent, answered) →
        RuntimeStep crate config host runtime .refused { runtime with delivering := none }
          (.ofSent delivery.session sent)
  | moved {id : TaskId} {task later : SessionTask} {event : TaskEvent} {output : RuntimeOutput} :
      runtime.tasks[id]? = some task →
        TaskMoved crate host.toHost runtime id task event later output →
        RuntimeStep crate config host runtime (.task id event) (runtime.setTask id later) output
  | handedOver {id : TaskId} {task : SessionTask} {receiver : SessionReceiver}
      {replay : CompletedReceiverReplay} {event : TaskEvent} :
      runtime.tasks[id]? = some task → task.stage = .running → task.body = .receiver receiver →
        runtime.Leaves id task receiver event →
        receiver.finishSession.completedReplay = some replay →
        RuntimeStep crate config host runtime (.task id event)
          ((runtime.setTask id
            { task with body := .receiver receiver.finishSession, stage := .awaitingAck }).post
            (.receiverCompleted receiver.shared.sessionId replay id)) .none
  | reported {id : TaskId} {task : SessionTask} {outcome : SessionOutcome} :
      runtime.tasks[id]? = some task → task.stage = .ended outcome →
        RuntimeStep crate config host runtime (.task id .reported)
          ((runtime.setTask id { task with stage := .reported }).post
            (.sessionExited task.sessionId outcome id)) .none

theorem leave_loop_cases {host : RuntimeHost} {runtime : LosslessRuntime} {id : TaskId}
    {task : SessionTask} {receiver : SessionReceiver} {event : TaskEvent}
    (found : runtime.tasks[id]? = some task) (running : task.stage = .running)
    (body : task.body = .receiver receiver) (leaves : runtime.Leaves id task receiver event) :
    RuntimeStep crate config host runtime (.task id event) (runtime.leaveLoop id task receiver)
      .none := by
  rw [LosslessRuntime.leaveLoop]
  cases replay : receiver.finishSession.completedReplay with
  | none => exact .moved found (.left running body leaves replay)
  | some replay => exact .handedOver found running body leaves replay

theorem runtime_task_step_cases {host : RuntimeHost} {runtime next : LosslessRuntime} {id : TaskId}
    {task : SessionTask} {event : TaskEvent} {output : RuntimeOutput}
    (found : runtime.tasks[id]? = some task)
    (stepped : runtime.taskStep crate host.toHost id task event = some (next, output)) :
    RuntimeStep crate config host runtime (.task id event) next output := by
  cases event with
  | received =>
    simp only [LosslessRuntime.taskStep] at stepped
    split_ifs at stepped with running
    rw [LosslessRuntime.receiveFrame] at stepped
    split at stepped
    next => cases stepped
    next frame rest cfg gate popped body =>
      cases stepped
      exact .moved found (.skipped running body popped)
    next frame rest receiver popped body =>
      cases received : receiver.receiveFrame crate host.toHost frame with
      | none =>
        rw [received] at stepped
        cases stepped
        exact .moved found (.panicked running body popped received)
      | some result =>
        rw [received] at stepped
        cases stepped
        exact .moved found (.received running body popped received)
  | passiveTimeout =>
    simp only [LosslessRuntime.taskStep] at stepped
    split at stepped
    next receiver running body =>
      split_ifs at stepped with passive
      cases stepped
      exact leave_loop_cases found running body passive
    next => cases stepped
  | channelClosed =>
    simp only [LosslessRuntime.taskStep] at stepped
    split at stepped
    next receiver running body =>
      split_ifs at stepped with closed
      cases stepped
      exact leave_loop_cases found running body closed
    next => cases stepped
  | resumed =>
    simp only [LosslessRuntime.taskStep] at stepped
    split_ifs at stepped with acknowledged
    cases stepped
    exact .moved found (.resumed acknowledged)
  | senderEnded outcome =>
    simp only [LosslessRuntime.taskStep] at stepped
    split at stepped
    next cfg gate running body =>
      cases stepped
      exact .moved found (.senderEnded running body)
    next => cases stepped
  | cancelled =>
    simp only [LosslessRuntime.taskStep] at stepped
    split_ifs at stepped with aborting
    cases stepped
    exact .moved found (.cancelled aborting.1 (Bool.eq_false_of_not_eq_true aborting.2))
  | reported =>
    simp only [LosslessRuntime.taskStep] at stepped
    split at stepped
    next outcome ended =>
      cases stepped
      exact .reported found ended
    next => cases stepped

theorem step_cases {host : RuntimeHost} {runtime next : LosslessRuntime} {event : RuntimeEvent}
    {output : RuntimeOutput} (stepped : runtime.step crate config host event = some (next, output)) :
    RuntimeStep crate config host runtime event next output := by
  cases event with
  | submitted message =>
    simp only [LosslessRuntime.step] at stepped
    split_ifs at stepped with outside
    cases stepped
    exact .submitted outside
  | handled =>
    simp only [LosslessRuntime.step] at stepped
    split at stepped
    next message rest idle front => exact .handled idle front (handle_message_cases stepped)
    next => cases stepped
  | accepted =>
    rcases Option.bind_eq_some_iff.mp stepped with ⟨delivery, sending, stepped⟩
    rcases Option.bind_eq_some_iff.mp stepped with ⟨task, found, stepped⟩
    split_ifs at stepped with closed
    rcases Option.bind_eq_some_iff.mp stepped with ⟨inbox, pushed, same⟩
    cases same
    exact .accepted sending found (Bool.eq_false_of_not_eq_true closed) pushed
  | refused =>
    rcases Option.bind_eq_some_iff.mp stepped with ⟨delivery, sending, stepped⟩
    rcases Option.bind_eq_some_iff.mp stepped with ⟨task, found, stepped⟩
    split_ifs at stepped with closed
    rcases replay_frame_some stepped with ⟨sent, answered, replayed, rfl, rfl⟩
    exact .refused sending found closed replayed
  | task id event =>
    rcases Option.bind_eq_some_iff.mp stepped with ⟨task, found, stepped⟩
    exact runtime_task_step_cases found stepped

end Nextmini.Session
