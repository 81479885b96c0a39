import Nextmini.Library.TransitionSystem
import Nextmini.Session.FecSender
import Nextmini.Session.PlainSender
import Nextmini.Session.SenderPolicy

/-!
# Sender task

The task that runs one sender session: the Ready negotiation, then the main loop of the mode,
with its waits. A task stands at the places where the code can be suspended or reads its channel;
one step handles one frame, one expired timer, or one turn of a loop. Time and the answers of the
processor ingress come with the steps.
-/

namespace Nextmini.Session

open Nextmini.Library Nextmini.Library.BigEndian
open Nextmini.Messages

set_option autoImplicit false

def manifestRetryInterval : Nat := 250

/-- The mode-specific parts of the main loop. -/
class SenderLoop (Mode : Type) extends ModeHooks Mode where
  /-- The loop runs while this is false. -/
  isComplete : Mode → Bool
  /-- The round whose feedback is waited for. -/
  openRoundId : Mode → UInt32
  /-- Before the first turn. -/
  beginTransfer : SenderShared → Mode → Mode
  /-- The check right after a wait for feedback. -/
  failsAfterWait : Mode → Bool
  /-- One turn after the queued frames are drained. -/
  turn : FountainCrate → SenderShared → Mode → Nat → (Nat → SendOutcome) →
    Option (SenderShared × Mode × List SessionFrame × Turn)

instance : SenderLoop PlainSender where
  isComplete mode := mode.complete
  openRoundId mode := mode.feedbackOpenRoundId
  beginTransfer shared mode := mode.ensureInitialRound shared
  failsAfterWait mode := mode.protocolError
  turn _ shared mode now _ := mode.turn shared now

instance : SenderLoop FecSender where
  isComplete mode := mode.roundComplete
  openRoundId mode := mode.currentRoundId
  beginTransfer _ mode := mode
  failsAfterWait _ := false
  turn crate shared mode now submit := mode.turn crate shared now submit

inductive SenderStage where
  | starting
  | negotiating (deadline nextManifestAt : Nat)
  | awaitingReady (deadline nextManifestAt : Nat)
  | transferring
  | awaitingFeedback
  | awaitingSignal
  | finished (outcome : SessionOutcome)
  deriving DecidableEq, Repr

inductive SenderEvent where
  | control (frame : InboundFrame)
  | turn (now : Nat) (submit : Nat → SendOutcome)
  | wake (now : Nat)
  | closed

structure SenderTask (Mode : Type) where
  shared : SenderShared
  mode : Mode
  stage : SenderStage

namespace SenderTask

variable {Mode : Type} [SenderLoop Mode]

def finish (task : SenderTask Mode) (outcome : SessionOutcome) : SenderTask Mode :=
  { task with stage := .finished outcome }

def loopHead (task : SenderTask Mode) : SenderTask Mode :=
  if SenderLoop.isComplete task.mode then task.finish .completed
  else { task with stage := .transferring }

def startTransfer (task : SenderTask Mode) : SenderTask Mode :=
  let shared := task.shared.freezeActiveQuorum
  loopHead { task with
    shared := shared
    mode := SenderLoop.beginTransfer shared task.mode }

/-- Send the manifest when it is due: the frames, and when the next one is due. -/
def advertise (task : SenderTask Mode) (now nextManifestAt : Nat) :
    Option (List SessionFrame × Nat) :=
  if nextManifestAt ≤ now then task.shared.sendManifest.map (·, now + manifestRetryInterval)
  else some ([], nextManifestAt)

/-- One turn of the negotiation loop up to its wait. -/
def negotiate (task : SenderTask Mode) (now deadline nextManifestAt : Nat) :
    Option (SenderTask Mode × List SessionFrame) :=
  if task.shared.activeQuorum.active.card < task.shared.activeQuorum.configured.card then do
    let (sent, nextManifestAt) ← task.advertise now nextManifestAt
    if deadline ≤ now then some (task.startTransfer, sent)
    else some ({ task with stage := .awaitingReady deadline nextManifestAt }, sent)
  else some (task.startTransfer, [])

def afterFeedback (task : SenderTask Mode) : SenderTask Mode :=
  if SenderLoop.failsAfterWait task.mode then task.finish .aborted else task.loopHead

/-- A wait for feedback with no running clock ends the session. -/
def afterTurn (task : SenderTask Mode) : Turn → SenderTask Mode
  | .again => task.loopHead
  | .waitFeedback =>
      if task.shared.quorumLiveness.timeoutAt = none then task.finish .aborted
      else { task with stage := .awaitingFeedback }
  | .waitSignal => { task with stage := .awaitingSignal }
  | .done outcome => task.finish outcome

def onControl (task : SenderTask Mode) (frame : InboundFrame) : Option (SenderTask Mode) :=
  let (shared, mode) := handleControl task.shared task.mode frame
  let handled : SenderTask Mode := { task with shared := shared, mode := mode }
  match task.stage with
  | .awaitingReady deadline nextManifestAt =>
      some { handled with stage := .negotiating deadline nextManifestAt }
  | .transferring => some handled
  | .awaitingFeedback => some handled.afterFeedback
  | .awaitingSignal => some handled.loopHead
  | _ => none

def onTurn (crate : FountainCrate) (task : SenderTask Mode) (now : Nat)
    (submit : Nat → SendOutcome) : Option (SenderTask Mode × List SessionFrame) :=
  match task.stage with
  | .starting =>
      if task.shared.activeQuorum.configured = ∅ then some (task.startTransfer, [])
      else some ({ task with stage := .negotiating (now + task.shared.readyGrace) now }, [])
  | .negotiating deadline nextManifestAt => task.negotiate now deadline nextManifestAt
  | .transferring => do
      let (shared, mode, sent, next) ←
        SenderLoop.turn crate task.shared task.mode now submit
      some (afterTurn { task with shared := shared, mode := mode } next, sent)
  | _ => none

def onWake (task : SenderTask Mode) (now : Nat) : Option (SenderTask Mode × List SessionFrame) :=
  match task.stage with
  | .awaitingReady deadline nextManifestAt =>
      some ({ task with stage := .negotiating deadline nextManifestAt }, [])
  | .awaitingFeedback =>
      if task.shared.quorumLiveness.timedOut now then some (task.finish .aborted, [])
      else if task.shared.quorumLiveness.shouldSolicit now then do
        let sent ← task.shared.sendSourceDone (SenderLoop.openRoundId task.mode)
        let shared :=
          { task.shared with
            quorumLiveness := task.shared.quorumLiveness.noteSolicitation now }
        some (afterFeedback { task with shared := shared }, sent)
      else some (task.afterFeedback, [])
  | .awaitingSignal => some (task.loopHead, [])
  | _ => none

def onClosed (task : SenderTask Mode) : Option (SenderTask Mode) :=
  match task.stage with
  | .awaitingReady _ _ => some (task.finish .aborted)
  | .awaitingFeedback => some (task.finish .aborted)
  | .awaitingSignal => some (task.finish .aborted)
  | _ => none

/-- `none`: the event does not happen where the task stands, or handling it panics. -/
def step (crate : FountainCrate) (task : SenderTask Mode) :
    SenderEvent → Option (SenderTask Mode × List SessionFrame)
  | .control frame => (task.onControl frame).map (·, [])
  | .turn now submit => task.onTurn crate now submit
  | .wake now => task.onWake now
  | .closed => task.onClosed.map (·, [])

end SenderTask

structure SenderLabel where
  event : SenderEvent
  frames : List SessionFrame

/-! ## Starting a sender -/

def quorumSolicitationInterval : Nat := 250

def senderShared (cfg : SenderConfig) (plan : BlockPlan) : SenderShared where
  sessionId := cfg.sessionId
  manifest := cfg.manifest
  activeQuorum := .new cfg.receiverIds
  quorumLiveness := .new quorumSolicitationInterval cfg.peerReportTimeoutMs
  plan := plan
  source := ⟨cfg.sourceBuffer⟩
  readyGrace := cfg.readyGraceMs
  payloadEmitted := false

inductive SessionSender where
  | plain (task : SenderTask PlainSender)
  | fec (task : SenderTask FecSender)

/-- `none`: the task ends aborted before it starts. -/
def SessionSender.new (cfg : SenderConfig) : Option SessionSender :=
  match BlockPlan.new cfg.manifest.totalBytes cfg.manifest.blockSize.toNat with
  | .error _ => none
  | .ok plan =>
      match cfg.manifest.mode with
      | .plain => some (.plain ⟨senderShared cfg plan, .default, .starting⟩)
      | .fec _ => (FecSender.new cfg.manifest plan).map fun mode =>
          .fec ⟨senderShared cfg plan, mode, .starting⟩

/-- A sender session as the runtime starts it for a request it accepts. -/
def Starts (config : LosslessConfig) (treeVisible : Bool) (request : SenderRequest)
    (sender : SessionSender) : Prop :=
  ∃ cfg, senderConfig config treeVisible request = .ok cfg ∧ SessionSender.new cfg = some sender

/-- The runs of a sender task, whatever the frames, the timers and the ingress do. -/
def senderSystem {Mode : Type} [SenderLoop Mode] (crate : FountainCrate)
    (initial : SenderTask Mode → Prop) : TransitionSystem (SenderTask Mode) SenderLabel where
  initial := initial
  step task label next := task.step crate label.event = some (next, label.frames)

theorem reachable_step {Mode : Type} [SenderLoop Mode] {crate : FountainCrate}
    {initial : SenderTask Mode → Prop} {task next : SenderTask Mode} {event : SenderEvent}
    {frames : List SessionFrame} (reached : (senderSystem crate initial).Reachable task)
    (stepped : task.step crate event = some (next, frames)) :
    (senderSystem crate initial).Reachable next := by
  have step : (senderSystem crate initial).step task ⟨event, frames⟩ next := stepped
  exact reached.step step

def plainSenders : SenderTask PlainSender → Prop := fun task =>
  ∃ config treeVisible request, Starts config treeVisible request (.plain task)

def fecSenders : SenderTask FecSender → Prop := fun task =>
  ∃ config treeVisible request, Starts config treeVisible request (.fec task)

end Nextmini.Session
