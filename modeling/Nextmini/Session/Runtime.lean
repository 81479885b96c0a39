import Mathlib.Logic.Function.Basic
import Nextmini.Library.ArrayQueue
import Nextmini.Session.ReceiverTask
import Nextmini.Session.SenderPolicy

/-!
# Lossless runtime

The actor that owns the sessions of a node. It takes the messages of one unbounded queue in turn:
starts, aborts, inbound frames, and what the tasks of its sessions report. Frames go into the bounded
inbox of a task, and the actor waits while that inbox is full. A receiver that has left its loop
hands its replay over and waits for the acknowledgement; its inbox is open until the task has ended.
Behind each task a watcher posts the exit.

The tasks run beside the actor, and each of their steps may come at any point. What a sender does
with its frames and how it ends is left open here. Transport routes and clocks are left out.
-/

namespace Nextmini.Session

open Nextmini.Library Nextmini.Library.BigEndian
open Nextmini.Messages

set_option autoImplicit false

inductive SessionState where
  | running
  | finished (outcome : SessionOutcome)
  deriving DecidableEq, Repr

inductive StartError where
  | sessionAlreadyActive (sessionId : UInt64)
  | preflight (error : PreflightError)
  deriving DecidableEq, Repr

structure ReceiverRequest where
  sessionId : UInt64
  sinkBuffer : Option (List Byte)
  deriving DecidableEq, Repr

/-- Tasks are numbered in the order in which they were spawned. -/
abbrev TaskId := Nat

/-- The task of an exit is known to its watcher only; the runtime does not look at it. -/
inductive RuntimeMessage where
  | startSender (request : SenderRequest)
  | startReceiver (request : ReceiverRequest)
  | abort (sessionId : UInt64)
  | deliver (session : UInt64) (frame : InboundFrame)
  | receiverCompleted (sessionId : UInt64) (replay : CompletedReceiverReplay) (ack : TaskId)
  | sessionExited (sessionId : UInt64) (outcome : SessionOutcome) (task : TaskId)
  | setTopologyReady (ready : Bool)
  deriving DecidableEq, Repr

namespace RuntimeMessage

/-- The messages that a handle of the runtime sends. -/
def fromHandle : RuntimeMessage → Bool
  | .receiverCompleted .. | .sessionExited .. => false
  | _ => true

def sender : RuntimeMessage → Option (UInt64 × TaskId)
  | .receiverCompleted sessionId _ task | .sessionExited sessionId _ task => some (sessionId, task)
  | _ => none

end RuntimeMessage

/-! ## Tasks -/

def inboxCapacity : Nat := 1024

inductive TaskBody where
  | sender (config : SenderConfig) (topologyGate : Bool)
  | receiver (receiver : SessionReceiver)

/-- Between `awaitingAck` and `ended` nothing is read from the inbox any more. `reported`: the watcher
has posted the exit. -/
inductive TaskStage where
  | running
  | awaitingAck
  | acknowledged
  | ended (outcome : SessionOutcome)
  | reported
  deriving DecidableEq, Repr

/-- A task with the parts of its session's entry: the inbox, whether the abort handle was used, and
what the watch channel says. -/
structure SessionTask where
  sessionId : UInt64
  body : TaskBody
  inbox : ArrayQueue InboundFrame inboxCapacity
  stage : TaskStage
  abortRequested : Bool
  state : SessionState

namespace SessionTask

def spawn (sessionId : UInt64) (body : TaskBody) : SessionTask where
  sessionId := sessionId
  body := body
  inbox := .empty
  stage := .running
  abortRequested := false
  state := .running

def closed (task : SessionTask) : Bool :=
  match task.stage with
  | .running | .awaitingAck | .acknowledged => false
  | .ended _ | .reported => true

/-- The end of a task drops its inbox with what is in it. -/
def finish (task : SessionTask) (outcome : SessionOutcome) : SessionTask :=
  { task with stage := .ended outcome, inbox := .empty }

end SessionTask

/-! ## The actor -/

/-- A frame that the runtime is sending into the inbox of a task. -/
structure Delivery where
  task : TaskId
  session : UInt64
  frame : InboundFrame

structure LosslessRuntime where
  sessions : UInt64 → Option TaskId
  completedReceivers : UInt64 → Option CompletedReceiverReplay
  topologyReady : Bool
  messages : List RuntimeMessage
  delivering : Option Delivery
  tasks : List SessionTask

/-- What a step gives out: control messages with their sessions, and the reply to a start. -/
structure RuntimeOutput where
  sent : List (UInt64 × LosslessSessionControl)
  reply : Option (Except StartError Unit)

def RuntimeOutput.none : RuntimeOutput := ⟨[], .none⟩

def RuntimeOutput.ofSent (sessionId : UInt64) (sent : List LosslessSessionControl) :
    RuntimeOutput :=
  ⟨sent.map (sessionId, ·), .none⟩

namespace LosslessRuntime

def new : LosslessRuntime where
  sessions _ := none
  completedReceivers _ := none
  topologyReady := false
  messages := []
  delivering := none
  tasks := []

variable (runtime : LosslessRuntime)

def forgetReplay (sessionId : UInt64) : LosslessRuntime :=
  { runtime with
    completedReceivers := Function.update runtime.completedReceivers sessionId none }

def spawn (sessionId : UInt64) (body : TaskBody) : LosslessRuntime :=
  { runtime with
    tasks := runtime.tasks ++ [.spawn sessionId body]
    sessions := Function.update runtime.sessions sessionId (some runtime.tasks.length) }

/-- `treeVisible`: the processor ingress lets the trees be told apart. -/
def startSenderSession (config : LosslessConfig) (treeVisible : Bool) (request : SenderRequest) :
    LosslessRuntime × Except StartError Unit :=
  if (runtime.sessions request.sessionId).isSome then
    (runtime, .error (.sessionAlreadyActive request.sessionId))
  else
    let cleared := runtime.forgetReplay request.sessionId
    match senderConfig config treeVisible request with
    | .error reason => (cleared, .error (.preflight reason))
    | .ok cfg => (cleared.spawn request.sessionId (.sender cfg !runtime.topologyReady), .ok ())

def startReceiverSession (config : LosslessConfig) (request : ReceiverRequest) :
    LosslessRuntime × Except StartError Unit :=
  if (runtime.sessions request.sessionId).isSome then
    (runtime, .error (.sessionAlreadyActive request.sessionId))
  else
    let cleared := runtime.forgetReplay request.sessionId
    let cfg : ReceiverConfig := ⟨request.sessionId, request.sinkBuffer, config.fecEnabled⟩
    (cleared.spawn request.sessionId (.receiver (.new cfg)), .ok ())

/-- Take the entry of a session out, if there is one, and change its task. -/
def removeSession (sessionId : UInt64) (change : SessionTask → SessionTask) : LosslessRuntime :=
  match runtime.sessions sessionId with
  | none => runtime
  | some task =>
      { runtime with
        sessions := Function.update runtime.sessions sessionId none
        tasks := runtime.tasks.modify task change }

def abortSession (sessionId : UInt64) : LosslessRuntime :=
  (runtime.removeSession sessionId fun task =>
    { task with abortRequested := true, state := .finished .aborted }).forgetReplay sessionId

def finishSession (sessionId : UInt64) (outcome : SessionOutcome) : LosslessRuntime :=
  let removed := runtime.removeSession sessionId fun task => { task with state := .finished outcome }
  if outcome = .completed then removed else removed.forgetReplay sessionId

def registerReplay (sessionId : UInt64) (replay : CompletedReceiverReplay) (ack : TaskId) :
    LosslessRuntime :=
  { runtime with
    completedReceivers := Function.update runtime.completedReceivers sessionId (some replay)
    tasks := runtime.tasks.modify ack fun task =>
      if task.stage = .awaitingAck then { task with stage := .acknowledged } else task }

def unsupportedVersion (frame : InboundFrame) : Bool :=
  match peekHeader frame.bytes with
  | none => false
  | some header => header.version ≠ losslessSessionVersion

/-- The answer for a frame that no live task takes. -/
def replayFrame (session : UInt64) (frame : InboundFrame) :
    Option (LosslessRuntime × RuntimeOutput) := do
  let (sent, _) ← replayCompletedReceiver session (runtime.completedReceivers session) frame
  some (runtime, .ofSent session sent)

/-- `deliver_frame`, up to where it waits for room in an inbox. -/
def deliverFrame (session : UInt64) (frame : InboundFrame) :
    Option (LosslessRuntime × RuntimeOutput) :=
  if unsupportedVersion frame then some (runtime, .none)
  else
    match runtime.sessions session with
    | some task => some ({ runtime with delivering := some ⟨task, session, frame⟩ }, .none)
    | none => runtime.replayFrame session frame

def handleMessage (config : LosslessConfig) (treeVisible : Bool) :
    RuntimeMessage → Option (LosslessRuntime × RuntimeOutput)
  | .startSender request =>
      let (next, reply) := runtime.startSenderSession config treeVisible request
      some (next, ⟨[], some reply⟩)
  | .startReceiver request =>
      let (next, reply) := runtime.startReceiverSession config request
      some (next, ⟨[], some reply⟩)
  | .abort sessionId => some (runtime.abortSession sessionId, .none)
  | .deliver session frame => runtime.deliverFrame session frame
  | .receiverCompleted sessionId replay ack =>
      some (runtime.registerReplay sessionId replay ack, .none)
  | .sessionExited sessionId outcome _ => some (runtime.finishSession sessionId outcome, .none)
  | .setTopologyReady ready => some ({ runtime with topologyReady := ready }, .none)

def post (message : RuntimeMessage) : LosslessRuntime :=
  { runtime with messages := runtime.messages ++ [message] }

def setTask (id : TaskId) (task : SessionTask) : LosslessRuntime :=
  { runtime with tasks := runtime.tasks.set id task }

end LosslessRuntime

/-! ## Steps -/

inductive TaskEvent where
  | received
  | passiveTimeout
  | channelClosed
  | resumed
  | senderEnded (outcome : SessionOutcome)
  | cancelled
  | reported
  deriving DecidableEq, Repr

inductive RuntimeEvent where
  | submitted (message : RuntimeMessage)
  | handled
  | accepted
  | refused
  | task (id : TaskId) (event : TaskEvent)
  deriving DecidableEq, Repr

/-- The host's part in a step: the memory it grants, and what its ingress shows. -/
structure RuntimeHost extends Host where
  treeVisible : Bool

namespace LosslessRuntime

variable (runtime : LosslessRuntime)

/-- The end of a receiver's loop. A completed receiver hands its replay over. -/
def leaveLoop (id : TaskId) (task : SessionTask) (receiver : SessionReceiver) : LosslessRuntime :=
  let finished := receiver.finishSession
  match finished.completedReplay with
  | none => runtime.setTask id ({ task with body := .receiver finished }.finish .completed)
  | some replay =>
      (runtime.setTask id { task with body := .receiver finished, stage := .awaitingAck }).post
        (.receiverCompleted finished.shared.sessionId replay id)

def receiveFrame (crate : FountainCrate) (host : Host) (id : TaskId) (task : SessionTask) :
    Option (LosslessRuntime × RuntimeOutput) :=
  match task.inbox.pop, task.body with
  | none, _ => none
  | some (_, rest), .sender .. => some (runtime.setTask id { task with inbox := rest }, .none)
  | some (frame, rest), .receiver receiver =>
      match receiver.receiveFrame crate host frame with
      | none => some (runtime.setTask id (task.finish .aborted), .none)
      | some (next, sent) =>
          some (runtime.setTask id { task with inbox := rest, body := .receiver next },
            .ofSent next.shared.sessionId sent)

/-- The step of one task; `none` where the event does not happen. -/
def taskStep (crate : FountainCrate) (host : Host) (id : TaskId) (task : SessionTask) :
    TaskEvent → Option (LosslessRuntime × RuntimeOutput)
  | .received => if task.stage = .running then runtime.receiveFrame crate host id task else none
  | .passiveTimeout =>
      match task.stage, task.body with
      | .running, .receiver receiver =>
          if receiver.lifecycle = .passiveComplete then
            some (runtime.leaveLoop id task receiver, .none)
          else none
      | _, _ => none
  -- the senders of an inbox are held by the entry of its session and by a delivery
  | .channelClosed =>
      match task.stage, task.body with
      | .running, .receiver receiver =>
          if task.inbox.isEmpty ∧ runtime.sessions task.sessionId ≠ some id ∧
              runtime.delivering.map Delivery.task ≠ some id then
            some (runtime.leaveLoop id task receiver, .none)
          else none
      | _, _ => none
  | .resumed =>
      if task.stage = .acknowledged then some (runtime.setTask id (task.finish .completed), .none)
      else none
  | .senderEnded outcome =>
      match task.stage, task.body with
      | .running, .sender .. => some (runtime.setTask id (task.finish outcome), .none)
      | _, _ => none
  | .cancelled =>
      if task.abortRequested ∧ ¬task.closed then
        some (runtime.setTask id (task.finish .aborted), .none)
      else none
  | .reported =>
      match task.stage with
      | .ended outcome =>
          some ((runtime.setTask id { task with stage := .reported }).post
            (.sessionExited task.sessionId outcome id), .none)
      | _ => none

def step (crate : FountainCrate) (config : LosslessConfig) (host : RuntimeHost) :
    RuntimeEvent → Option (LosslessRuntime × RuntimeOutput)
  | .submitted message => if message.fromHandle then some (runtime.post message, .none) else none
  | .handled =>
      match runtime.delivering, runtime.messages with
      | none, message :: rest =>
          handleMessage { runtime with messages := rest } config host.treeVisible message
      | _, _ => none
  | .accepted => do
      let delivery ← runtime.delivering
      let task ← runtime.tasks[delivery.task]?
      if task.closed then none
      else do
        let inbox ← task.inbox.push delivery.frame
        some (setTask { runtime with delivering := none } delivery.task
          { task with inbox := inbox }, .none)
  | .refused => do
      let delivery ← runtime.delivering
      let task ← runtime.tasks[delivery.task]?
      if task.closed then
        replayFrame { runtime with delivering := none } delivery.session delivery.frame
      else none
  | .task id event => do
      let task ← runtime.tasks[id]?
      runtime.taskStep crate host.toHost id task event

end LosslessRuntime

structure RuntimeLabel where
  event : RuntimeEvent
  output : RuntimeOutput

/-- The runs of a node's lossless runtime with the tasks of its sessions. -/
def runtimeSystem (crate : FountainCrate) (config : LosslessConfig) :
    TransitionSystem LosslessRuntime RuntimeLabel where
  initial runtime := runtime = .new
  step runtime label next :=
    ∃ host, runtime.step crate config host label.event = some (next, label.output)

end Nextmini.Session
