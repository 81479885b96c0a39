import Nextmini.Library.TransitionSystem
import Nextmini.Session.Receiver

/-!
# Receiver task and completed replay

A receiver session over its whole life: the receive loop, the end of the loop by the passive
timeout or by a closed channel, and after it the replay that the runtime keeps of a completed
receiver and answers with.
-/

namespace Nextmini.Session

open Nextmini.Library
open Nextmini.Messages

set_option autoImplicit false

inductive ReceiverEvent where
  | frame (frame : InboundFrame)
  | passiveTimeout
  | channelClosed
  deriving DecidableEq, Repr

structure ReceiverLabel where
  event : ReceiverEvent
  sent : List LosslessSessionControl

structure ReceiverTask where
  receiver : SessionReceiver
  replay : Option CompletedReceiverReplay

def CompletedReceiverReplay.roundId : CompletedReceiverReplay → UInt32
  | .plain roundId _ => roundId
  | .fec roundId _ => roundId

def CompletedReceiverReplay.report : CompletedReceiverReplay → NeedReport
  | .plain _ report => report
  | .fec _ report => report

/-- The answer of the runtime for a completed receiver: the messages sent, and whether the frame
was answered. The outer `none` is a panic of the encoder. -/
def replayCompletedReceiver (sessionId : UInt64) (replay : Option CompletedReceiverReplay)
    (frame : InboundFrame) : Option (List LosslessSessionControl × Bool) :=
  match replay, decodeControl frame.bytes with
  | some replay, some (_, .sourceDone roundId) =>
      if roundId ≠ replay.roundId then some ([], false)
      else do
        let sent ← sendControl sessionId (.need roundId replay.report)
        some (sent, true)
  | _, _ => some ([], false)

namespace ReceiverTask

def new (cfg : ReceiverConfig) : ReceiverTask where
  receiver := .new cfg
  replay := none

def inLoop (task : ReceiverTask) : Bool := task.receiver.lifecycle ≠ .sessionFinished

/-- The end of the loop; a receiver that has reported completion leaves its replay behind. -/
def leaveLoop (task : ReceiverTask) : ReceiverTask where
  receiver := task.receiver.finishSession
  replay := task.receiver.finishSession.completedReplay

/-- `none`: the event does not happen where the task stands, or handling it panics. -/
def step (crate : FountainCrate) (host : Host) (task : ReceiverTask) :
    ReceiverEvent → Option (ReceiverTask × List LosslessSessionControl)
  | .frame frame =>
      if task.inLoop then do
        let (receiver, sent) ← task.receiver.receiveFrame crate host frame
        some ({ task with receiver := receiver }, sent)
      else do
        let (sent, _) ← replayCompletedReceiver task.receiver.shared.sessionId task.replay frame
        some (task, sent)
  | .passiveTimeout =>
      if task.receiver.lifecycle = .passiveComplete then some (task.leaveLoop, []) else none
  | .channelClosed => if task.inLoop then some (task.leaveLoop, []) else none

end ReceiverTask

/-- The runs of one receiver, whatever frames it is given and whichever reservations its host
grants at each step. -/
def receiverSystem (crate : FountainCrate) : TransitionSystem ReceiverTask ReceiverLabel where
  initial task := ∃ cfg, task = .new cfg
  step task label next := ∃ host, task.step crate host label.event = some (next, label.sent)

end Nextmini.Session
