import Nextmini.Session.SenderShared

/-!
# Plain sender

Burst 0 sends every block once; after each `SourceDone` the sender collects one report per quorum
peer and retransmits the union of the missing blocks as the next burst, which it may begin while
the round is still open.
-/

namespace Nextmini.Session

open Nextmini.Messages

set_option autoImplicit false

structure PlainSender where
  sourceBlocks : List Nat
  sourceCursor : Nat
  feedbackOpenRoundId : UInt32
  currentBurstId : UInt32
  feedbackRoundOpen : Bool
  roundReports : ReportMap
  requiredBlocks : Finset Nat
  emittedBlocks : Finset Nat
  queuedRetransmitBlocks : Finset Nat
  nextBurstNonempty : Bool
  protocolError : Bool
  complete : Bool
  initialized : Bool
  deriving DecidableEq

namespace PlainSender

def default : PlainSender where
  sourceBlocks := []
  sourceCursor := 0
  feedbackOpenRoundId := 0
  currentBurstId := 0
  feedbackRoundOpen := false
  roundReports := ∅
  requiredBlocks := ∅
  emittedBlocks := ∅
  queuedRetransmitBlocks := ∅
  nextBurstNonempty := false
  protocolError := false
  complete := false
  initialized := false

def missingBlocks (ranges : List MissingBlockRange) : List Nat :=
  ranges.flatMap fun range =>
    List.range' range.startBlockId.toNat (range.endBlockId.toNat - range.startBlockId.toNat)

/-- The loop of `on_need` over one report's missing blocks: the sender and whether any block was
newly required. -/
def requireBlocks : List Nat → PlainSender × Bool → PlainSender × Bool
  | [], state => state
  | blockId :: rest, (mode, useful) =>
      if blockId ∈ mode.requiredBlocks then requireBlocks rest (mode, useful)
      else
        let queued :=
          if blockId ∈ mode.emittedBlocks then mode.queuedRetransmitBlocks
          else insert blockId mode.queuedRetransmitBlocks
        requireBlocks rest
          ({ mode with
              requiredBlocks := insert blockId mode.requiredBlocks
              queuedRetransmitBlocks := queued }, true)

def onNeed (mode : PlainSender) (peerId : Nat) (roundId : UInt32) (report : NeedReport) :
    PlainSender :=
  if ¬mode.feedbackRoundOpen then mode
  else if roundId ≠ mode.feedbackOpenRoundId then mode
  else
    match mode.roundReports[peerId]? with
    | some existing =>
        if existing ≠ report then { mode with protocolError := true } else mode
    | none =>
        let heard := { mode with roundReports := mode.roundReports.insert peerId report }
        match report with
        | .complete => heard
        | .plain ranges =>
            let (required, useful) := requireBlocks (missingBlocks ranges) (heard, false)
            if useful then
              { required with
                currentBurstId := nextRoundId mode.feedbackOpenRoundId
                nextBurstNonempty := true }
            else required
        | .fec _ => { heard with protocolError := true }

instance : ModeHooks PlainSender where
  onNeed shared mode peerId roundId report := (shared, mode.onNeed peerId roundId report)

def ensureInitialRound (shared : SenderShared) (mode : PlainSender) : PlainSender :=
  if mode.initialized then mode
  else { mode with sourceBlocks := List.range shared.plan.totalBlocks, initialized := true }

def nextSourceBlock (mode : PlainSender) : Option (Nat × PlainSender) :=
  match mode.sourceBlocks[mode.sourceCursor]? with
  | none => none
  | some blockId => some (blockId, { mode with sourceCursor := mode.sourceCursor + 1 })

/-- `pop_first` on the queued blocks. -/
def nextRetransmitBlock (mode : PlainSender) : Option (Nat × PlainSender) :=
  if queued : mode.queuedRetransmitBlocks.Nonempty then
    let blockId := mode.queuedRetransmitBlocks.min' queued
    some (blockId, { mode with
      queuedRetransmitBlocks := mode.queuedRetransmitBlocks.erase blockId })
  else none

def roundCanClose (shared : SenderShared) (mode : PlainSender) : Bool :=
  mode.roundReports.size = shared.activeQuorum.active.card ∧
    mode.requiredBlocks ⊆ mode.emittedBlocks

def advanceRound (mode : PlainSender) : PlainSender :=
  { mode with
    feedbackOpenRoundId := nextRoundId mode.feedbackOpenRoundId
    currentBurstId := nextRoundId mode.feedbackOpenRoundId
    feedbackRoundOpen := false
    roundReports := ∅
    requiredBlocks := ∅
    emittedBlocks := ∅
    queuedRetransmitBlocks := ∅
    nextBurstNonempty := false }

def sendBlock (shared : SenderShared) (blockId : Nat) :
    Option (SenderShared × List SessionFrame) :=
  match shared.plan.blockSpan blockId with
  | none => some (shared, [])
  | some span => do
      let sent ←
        sendFrame shared.sessionId (.blockData blockId (shared.source.blockPayload span))
      some (shared.markPayloadEmitted, sent)

def allComplete (mode : PlainSender) : Bool :=
  (recorded mode.roundReports).all (· = .complete)

/-- One turn of the main loop after the queued controls are drained; `none` is a panic. -/
def turn (shared : SenderShared) (mode : PlainSender) (now : Nat) :
    Option (SenderShared × PlainSender × List SessionFrame × Turn) :=
  if mode.protocolError then some (shared, mode, [], .done .aborted)
  else if mode.complete then some (shared, mode, [], .done .completed)
  else
    match mode.nextSourceBlock with
    | some (blockId, mode) => do
        let (shared, sent) ← sendBlock shared blockId
        some (shared, mode, sent, .again)
    | none =>
        match mode.nextRetransmitBlock with
        | some (blockId, mode) => do
            let (shared, sent) ← sendBlock shared blockId
            let mode := { mode with emittedBlocks := insert blockId mode.emittedBlocks }
            some (shared, mode, sent, .again)
        | none =>
            if ¬mode.feedbackRoundOpen then do
              let sent ← shared.sendSourceDone mode.feedbackOpenRoundId
              let mode := { mode with feedbackRoundOpen := true }
              if shared.activeQuorumIsEmpty then
                some (shared, { mode with complete := true }, sent, .done .completed)
              else some (shared.startQuorumFeedbackWait now, mode, sent, .again)
            else if mode.roundCanClose shared ∧ mode.allComplete then
              some (shared.clearQuorumFeedbackWait, { mode with complete := true }, [],
                .done .completed)
            else if mode.roundCanClose shared ∧ mode.nextBurstNonempty then
              some (shared.clearQuorumFeedbackWait, mode.advanceRound, [], .again)
            else some (shared, mode, [], .waitFeedback)

end PlainSender

end Nextmini.Session
