import Nextmini.Session.SenderShared

/-!
# FEC sender

All source symbols of all blocks go first. After each `SourceDone` the sender merges the reported
deficits by block and sends repair symbols inside a window that widens with the number of
reports. The round closes when every quorum peer has reported and the merged deficits are covered.

The symbol totals are 32-bit sums that wrap in a release build. The scratch buffer of the frame
encoder is left out: it always holds the frame that is sent.
-/

namespace Nextmini.Session

open Nextmini.Library.BigEndian
open Nextmini.Messages

set_option autoImplicit false

inductive RoundPhase where
  | sendingData
  | waitingForReports
  deriving DecidableEq, Repr

/-- The answer of the processor ingress to one non-blocking submission. -/
inductive SendOutcome where
  | queued
  | wouldBlock
  | closed
  deriving DecidableEq, Repr

structure FecSendBlock where
  nextSourceSymbol : Nat
  nextFountainSymbol : Nat
  requiredExtraSymbols : Nat
  emittedExtraSymbols : Nat
  encoder : Option Encoder
  deriving DecidableEq, Repr

structure FecSender where
  blocks : List FecSendBlock
  symbolsPerBlock : UInt16
  treeIds : List UInt16
  geometry : SymbolGeometry
  nextTreeRr : Nat
  currentSourceCache : Option (Nat × List (List Byte))
  roundSourceDoneSent : Bool
  currentRoundId : UInt32
  phase : RoundPhase
  roundComplete : Bool
  roundReports : ReportMap
  repairWindowSymbols : Nat
  protocolError : Bool
  deriving DecidableEq

namespace FecSender

/-- `none` is an error of the constructor. -/
def new (manifest : LosslessSessionManifest) (plan : BlockPlan) : Option FecSender :=
  match manifest.mode with
  | .plain => none
  | .fec fec =>
      match plan.symbolGeometry fec.symbolsPerBlock with
      | .error _ => none
      | .ok geometry =>
          some
            { blocks := List.replicate plan.totalBlocks
                ⟨0, fec.symbolsPerBlock.toNat, 0, 0, none⟩
              symbolsPerBlock := fec.symbolsPerBlock
              treeIds := fec.treeIds
              geometry := geometry
              nextTreeRr := 0
              currentSourceCache := none
              roundSourceDoneSent := false
              currentRoundId := 0
              phase := .sendingData
              roundComplete := false
              roundReports := ∅
              repairWindowSymbols := 0
              protocolError := false }

/-! ## Scheduling -/

def hasPendingRepairWork (mode : FecSender) : Bool :=
  mode.blocks.any fun block => block.emittedExtraSymbols < block.requiredExtraSymbols

def totalRequiredExtraSymbols (mode : FecSender) : Nat :=
  (mode.blocks.map FecSendBlock.requiredExtraSymbols).sum % 2 ^ 32

def totalEmittedExtraSymbols (mode : FecSender) : Nat :=
  (mode.blocks.map FecSendBlock.emittedExtraSymbols).sum % 2 ^ 32

def nextSourceSymbol (mode : FecSender) : Option (Nat × Nat) := do
  let blockId ← mode.blocks.findIdx? fun block =>
    block.nextSourceSymbol < mode.symbolsPerBlock.toNat ∧ mode.phase = .sendingData
  let block ← mode.blocks[blockId]?
  some (blockId, block.nextSourceSymbol)

def nextExtraSymbol (mode : FecSender) : Option (Nat × Nat) :=
  if mode.repairWindowSymbols ≤ mode.totalEmittedExtraSymbols then none
  else do
    let blockId ← mode.blocks.findIdx? fun block =>
      block.emittedExtraSymbols < block.requiredExtraSymbols
    let block ← mode.blocks[blockId]?
    some (blockId, block.nextFountainSymbol)

/-- `u32::try_from(n).unwrap_or(u32::MAX)`. -/
def clamp32 (value : Nat) : Nat := min value (2 ^ 32 - 1)

def recalculateRepairWindow (shared : SenderShared) (mode : FecSender) : FecSender :=
  let totalRequired := mode.totalRequiredExtraSymbols
  if totalRequired = 0 then { mode with repairWindowSymbols := 0 }
  else
    let reportCount := clamp32 mode.roundReports.size
    let quorumSize := clamp32 shared.activeQuorum.active.card
    if reportCount = 0 ∨ quorumSize = 0 then { mode with repairWindowSymbols := 0 }
    else
      let speculativeWindow := max (min (totalRequired * reportCount) (2 ^ 32 - 1) ⌈/⌉ quorumSize) 1
      { mode with repairWindowSymbols := min speculativeWindow totalRequired }

/-! ## Rounds -/

/-- The inner loop over one report's blocks; an id beyond the plan is skipped. -/
def mergeDeficits (blocks : List FecSendBlock) (needs : List NeedBlock) : List FecSendBlock :=
  needs.foldl (fun blocks need =>
    blocks.modify need.blockId.toNat fun block =>
      { block with
        requiredExtraSymbols := max block.requiredExtraSymbols need.deficitSymbols.toNat }) blocks

/-- The loop of `finish_report_round` over the recorded reports: the merged blocks, whether all
reports were complete, and whether a plain report ended the loop early. -/
def mergeReports : List NeedReport → List FecSendBlock → Bool → List FecSendBlock × Bool × Bool
  | [], blocks, allComplete => (blocks, allComplete, false)
  | .complete :: rest, blocks, allComplete => mergeReports rest blocks allComplete
  | .fec needs :: rest, blocks, _ => mergeReports rest (mergeDeficits blocks needs) false
  | .plain _ :: _, blocks, allComplete => (blocks, allComplete, true)

def resetRepair (block : FecSendBlock) : FecSendBlock :=
  { block with requiredExtraSymbols := 0, emittedExtraSymbols := 0 }

def finishReportRound (shared : SenderShared) (mode : FecSender) : SenderShared × FecSender :=
  let (blocks, allComplete, mismatch) := mergeReports (recorded mode.roundReports) mode.blocks true
  let merged := { mode with blocks := blocks }
  if mismatch then (shared, { merged with protocolError := true })
  else if allComplete then (shared, { merged with roundComplete := true })
  else if merged.hasPendingRepairWork then (shared, merged)
  else
    (shared.clearQuorumFeedbackWait,
      { merged with
        roundReports := ∅
        repairWindowSymbols := 0
        phase := .sendingData
        currentRoundId := nextRoundId mode.currentRoundId
        roundSourceDoneSent := false
        blocks := blocks.map resetRepair })

def beginReportRound (shared : SenderShared) (mode : FecSender) :
    Option (FecSender × List SessionFrame) :=
  if mode.phase = .waitingForReports then some (mode, [])
  else do
    let sent ← shared.sendSourceDone mode.currentRoundId
    some ({ mode with roundReports := ∅, phase := .waitingForReports }, sent)

/-- The tail of `on_need` after a report was recorded: widen the window, and close the round when
the last report left nothing to repair. -/
def afterReport (shared : SenderShared) (mode : FecSender) : SenderShared × FecSender :=
  let widened := mode.recalculateRepairWindow shared
  if widened.roundReports.size = shared.activeQuorum.active.card ∧ ¬widened.hasPendingRepairWork then
    widened.finishReportRound shared
  else (shared, widened)

def onNeed (shared : SenderShared) (mode : FecSender) (peerId : Nat) (roundId : UInt32)
    (report : NeedReport) : SenderShared × FecSender :=
  if mode.phase ≠ .waitingForReports then (shared, mode)
  else if roundId ≠ mode.currentRoundId then (shared, mode)
  else
    match mode.roundReports[peerId]? with
    | some existing =>
        if existing ≠ report then (shared, { mode with protocolError := true })
        else (shared, mode)
    | none =>
        let heard := { mode with roundReports := mode.roundReports.insert peerId report }
        match report with
        | .complete => heard.afterReport shared
        | .fec needs =>
            { heard with blocks := mergeDeficits heard.blocks needs }.afterReport shared
        | .plain _ => (shared, { heard with protocolError := true })

instance : ModeHooks FecSender where
  onNeed := onNeed

/-! ## Sending symbols -/

/-- The payload of a source symbol, from the cache of the block's symbols; `none` for a block or a
symbol that does not exist. -/
def sourceSymbolPayload (shared : SenderShared) (mode : FecSender) (blockId symbolId : Nat) :
    FecSender × Option (List Byte) :=
  let cached := match mode.currentSourceCache with
    | some (cachedBlockId, symbols) => if cachedBlockId = blockId then some symbols else none
    | none => none
  match cached with
  | some symbols => (mode, symbols[symbolId]?)
  | none =>
      match shared.plan.blockSpan blockId with
      | none => (mode, none)
      | some span =>
          let symbols := shared.source.sourceSymbols span mode.geometry
          ({ mode with currentSourceCache := some (blockId, symbols) }, symbols[symbolId]?)

/-- Build the block's encoder if there is none yet. -/
def ensureEncoder (shared : SenderShared) (mode : FecSender) (blockId : Nat) :
    Option (FecSender × Encoder) := do
  let block ← mode.blocks[blockId]?
  match block.encoder with
  | some encoder => some (mode, encoder)
  | none =>
      let span ← shared.plan.blockSpan blockId
      let sourceBlock := shared.source.paddedSymbolBytes span mode.geometry
      let params : BlockParams :=
        ⟨mode.symbolsPerBlock.toNat, mode.geometry.symbolSize,
          blockSeed shared.sessionId (UInt64.ofNat blockId)⟩
      let encoder ← Encoder.fromBlock params sourceBlock
      some ({ mode with
        blocks := mode.blocks.modify blockId fun block =>
          { block with encoder := some encoder } }, encoder)

/-- The first tree from the round-robin cursor on whose ingress accepts the frame. -/
def acceptingTree (mode : FecSender) (submit : Nat → SendOutcome) : Option Nat :=
  ((List.range mode.treeIds.length).find? fun offset => submit offset = .queued).map
    fun offset => (mode.nextTreeRr + offset) % mode.treeIds.length

/-- The frame and the new cursor, if some tree accepted the symbol. -/
def trySendSymbol (mode : FecSender) (submit : Nat → SendOutcome) (blockId symbolId : Nat)
    (payload : List Byte) : Option (FecSender × SessionFrame) := do
  let idx ← mode.acceptingTree submit
  let treeId ← mode.treeIds[idx]?
  some ({ mode with nextTreeRr := (idx + 1) % mode.treeIds.length },
    .blockSymbol blockId symbolId treeId payload)

/-- The boolean of the code is whether the symbol was sent. -/
def sendSourceSymbol (shared : SenderShared) (mode : FecSender) (submit : Nat → SendOutcome)
    (blockId symbolId : Nat) : SenderShared × FecSender × List SessionFrame × Bool :=
  let (mode, payload) := mode.sourceSymbolPayload shared blockId symbolId
  match payload with
  | none => (shared, mode, [], false)
  | some payload =>
      match mode.trySendSymbol submit blockId symbolId payload with
      | none => (shared, mode, [], false)
      | some (mode, frame) =>
          (shared.markPayloadEmitted,
            { mode with blocks := mode.blocks.modify blockId fun block =>
                { block with nextSourceSymbol := block.nextSourceSymbol + 1 } }, [frame], true)

/-- `none` is the panic of the crate on an encoding symbol id of more than 24 bits. -/
def sendExtraSymbol (crate : FountainCrate) (shared : SenderShared) (mode : FecSender)
    (submit : Nat → SendOutcome) (blockId symbolId : Nat) :
    Option (SenderShared × FecSender × List SessionFrame × Bool) :=
  match mode.ensureEncoder shared blockId with
  | none => some (shared, mode, [], false)
  | some (mode, encoder) => do
      let payload ← encoder.codedSymbol crate symbolId
      match mode.trySendSymbol submit blockId symbolId payload with
      | none => some (shared, mode, [], false)
      | some (mode, frame) =>
          some (shared.markPayloadEmitted,
            { mode with blocks := mode.blocks.modify blockId fun block =>
                { block with
                  emittedExtraSymbols := min (block.emittedExtraSymbols + 1) (2 ^ 16 - 1)
                  nextFountainSymbol := block.nextFountainSymbol + 1 } }, [frame], true)

def turnAfterSend (sent : Bool) : Turn := if sent then .again else .waitSignal

/-- One turn of the main loop after the queued controls are drained; `none` is a panic. The code
asks for an extra symbol twice in a row, and the second question has the first one's answer. -/
def turn (crate : FountainCrate) (shared : SenderShared) (mode : FecSender) (now : Nat)
    (submit : Nat → SendOutcome) :
    Option (SenderShared × FecSender × List SessionFrame × Turn) :=
  if mode.protocolError then some (shared, mode, [], .done .aborted)
  else
    match mode.nextSourceSymbol with
    | some (blockId, symbolId) =>
        let (shared, mode, frames, sent) := mode.sendSourceSymbol shared submit blockId symbolId
        let mode := if sent then { mode with roundSourceDoneSent := false } else mode
        some (shared, mode, frames, turnAfterSend sent)
    | none =>
        match mode.nextExtraSymbol with
        | some (blockId, symbolId) => do
            let (shared, mode, frames, sent) ←
              mode.sendExtraSymbol crate shared submit blockId symbolId
            some (shared, mode, frames, turnAfterSend sent)
        | none =>
            if ¬mode.roundSourceDoneSent then do
              let (mode, frames) ← mode.beginReportRound shared
              let mode := { mode with roundSourceDoneSent := true }
              if shared.activeQuorumIsEmpty then
                some (shared, { mode with roundComplete := true }, frames, .done .completed)
              else some (shared.startQuorumFeedbackWait now, mode, frames, .again)
            else if mode.phase = .waitingForReports ∧
                mode.roundReports.size = shared.activeQuorum.active.card then
              let (shared, mode) := mode.finishReportRound shared
              some (shared, mode, [], .again)
            else some (shared, mode, [], .waitFeedback)

end FecSender

end Nextmini.Session
