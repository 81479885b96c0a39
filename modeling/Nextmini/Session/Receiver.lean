import Nextmini.Messages.BlockFrames
import Nextmini.Session.FecAdapter
import Mathlib.Data.Finset.Max
import Std.Data.ExtTreeMap

/-!
# Receiver task

The receiver installs the first valid manifest, records completed blocks, and answers each
`SourceDone` with one report that it keeps for replay. Handling a frame may panic: a report that
does not validate is rejected by the encoder's `expect`, and `none` is that panic.

Whether a reservation of memory succeeds is up to the host. Clocks, logging and progress markers
are left out.
-/

namespace Nextmini.Session

open Nextmini.Library.BigEndian Nextmini.Library.BufferPatch
open Nextmini.Messages

set_option autoImplicit false

/-- The places where the receiver reserves memory that a frame or a manifest asks for. -/
inductive ReserveSite where
  | sink
  | systematicBlock
  | symbolPadding
  | decodedBlock
  deriving DecidableEq, Repr

/-- `try_reserve_exact`: whether that many more bytes can be reserved. -/
structure Host where
  tryReserve : ReserveSite → Nat → Bool

def roomyHost : Host := ⟨fun _ _ => true⟩

structure InboundFrame where
  bytes : List Byte
  peerId : Option Nat
  deriving DecidableEq, Repr

structure ReceiverConfig where
  sessionId : UInt64
  sinkBuffer : Option (List Byte)
  fecEnabled : Bool
  deriving DecidableEq, Repr

structure ReceiverShared where
  sessionId : UInt64
  fecEnabled : Bool
  sinkBuffer : Option (List Byte)
  manifest : Option LosslessSessionManifest
  plan : Option BlockPlan
  completeBlocks : Finset Nat

def sendControl (sessionId : UInt64) (control : LosslessSessionControl) :
    Option (List LosslessSessionControl) :=
  (encodeControl sessionId control).map fun _ => [control]

namespace ReceiverShared

def hasAllBlocks (shared : ReceiverShared) : Bool :=
  match shared.plan with
  | none => false
  | some plan => shared.completeBlocks.card = plan.totalBlocks

def growSink (sink : List Byte) (objectLen : Nat) : List Byte :=
  if sink.length < objectLen then sink ++ List.replicate (objectLen - sink.length) 0 else sink

/-- Copy one completed block into the sink buffer, if there is one. -/
def writeBlock (shared : ReceiverShared) (blockId : Nat) (payload : List Byte) :
    ReceiverShared :=
  match shared.plan with
  | none => shared
  | some plan =>
      match plan.blockSpan blockId with
      | none => shared
      | some span =>
          match shared.sinkBuffer with
          | none => shared
          | some sink =>
              let grown := growSink sink plan.totalBytes
              let start := span.offset
              let stop := start + min payload.length span.len
              if stop ≤ grown.length then
                { shared with sinkBuffer := some (overwrite grown start (payload.take (stop - start))) }
              else { shared with sinkBuffer := some grown }

/-- `none` is a failed reservation. -/
def ensureSinkBufferLen (host : Host) (shared : ReceiverShared) (objectLen : Nat) :
    Option ReceiverShared :=
  match shared.sinkBuffer with
  | none => some shared
  | some sink =>
      if sink.length < objectLen then
        if host.tryReserve .sink (objectLen - sink.length) then
          some { shared with sinkBuffer := some (growSink sink objectLen) }
        else none
      else some shared

/-- The loop of `plain_need` from `nextMissing` on. Every turn moves `nextMissing` up, so as many
turns as there are blocks are enough. -/
def missingRanges (completeBlocks : Finset Nat) (totalBlocks : Nat) : Nat → Nat → List (Nat × Nat)
  | 0, _ => []
  | fuel + 1, nextMissing =>
      if nextMissing < totalBlocks then
        if nextMissing ∈ completeBlocks then
          missingRanges completeBlocks totalBlocks fuel (nextMissing + 1)
        else
          let endBlockId := (completeBlocks.filter (nextMissing < ·)).min.untopD totalBlocks
          (nextMissing, endBlockId) :: missingRanges completeBlocks totalBlocks fuel endBlockId
      else []

def toBlockRange (range : Nat × Nat) : MissingBlockRange where
  startBlockId := UInt64.ofNat range.1
  endBlockId := UInt64.ofNat range.2

def plainNeed (shared : ReceiverShared) : Option NeedReport :=
  match shared.plan with
  | none => none
  | some plan =>
      if plan.totalBlocks = 0 then some .complete
      else if shared.completeBlocks.card = plan.totalBlocks then some .complete
      else some (.plain
        ((missingRanges shared.completeBlocks plan.totalBlocks plan.totalBlocks 0).map toBlockRange))

end ReceiverShared

/-! ## Answering SourceDone -/

/-- What both modes remember of the last answered `SourceDone`. -/
structure NeedCache where
  completeReported : Bool
  lastSourceDoneRoundId : Option UInt32
  lastRoundNeed : Option NeedReport
  deriving DecidableEq, Repr

def NeedCache.empty : NeedCache where
  completeReported := false
  lastSourceDoneRoundId := none
  lastRoundNeed := none

def answerRound (sessionId : UInt64) (snapshot : Option NeedReport) (cache : NeedCache)
    (roundId : UInt32) : Option (NeedCache × List LosslessSessionControl) :=
  match snapshot with
  | none => some (cache, [])
  | some report => do
      let sent ← sendControl sessionId (.need roundId report)
      some (⟨report = .complete, some roundId, some report⟩, sent)

/-- The common body of `handle_source_done` of both modes: a stale round is dropped, the last
round is answered from the cache, a later one with a new snapshot. -/
def answerSourceDone (sessionId : UInt64) (snapshot : Option NeedReport) (cache : NeedCache)
    (roundId : UInt32) : Option (NeedCache × List LosslessSessionControl) :=
  match cache.lastSourceDoneRoundId with
  | none => answerRound sessionId snapshot cache roundId
  | some lastRoundId =>
      if roundId < lastRoundId then some (cache, [])
      else if roundId = lastRoundId then
        match cache.lastRoundNeed with
        | none => some (cache, [])
        | some report => do
            let sent ← sendControl sessionId (.need lastRoundId report)
            some ({ cache with completeReported := report = .complete }, sent)
      else answerRound sessionId snapshot cache roundId

/-! ## Plain mode -/

structure PlainReceiver extends NeedCache
  deriving DecidableEq, Repr

namespace PlainReceiver

def handleBlockDataFrame (shared : ReceiverShared) (bytes : List Byte) : ReceiverShared :=
  match shared.manifest with
  | none => shared
  | some manifest =>
      if manifest.mode ≠ .plain then shared
      else
        match decodeBlockData bytes with
        | none => shared
        | some (_, data, payload) =>
            match manifest.validateBlockData data payload.length with
            | .error _ => shared
            | .ok () =>
                if data.blockId.toNat ∈ shared.completeBlocks then shared
                else
                  let written := shared.writeBlock data.blockId.toNat payload
                  { written with
                    completeBlocks := insert data.blockId.toNat written.completeBlocks }

def handleSourceDone (shared : ReceiverShared) (mode : PlainReceiver) (roundId : UInt32) :
    Option (PlainReceiver × List LosslessSessionControl) := do
  let (cache, sent) ← answerSourceDone shared.sessionId shared.plainNeed mode.toNeedCache roundId
  some (⟨cache⟩, sent)

end PlainReceiver

/-! ## FEC mode -/

abbrev SymbolMap := Std.ExtTreeMap Nat (List Byte)

structure FecBlockState where
  symbols : SymbolMap

structure FecReceiver extends NeedCache where
  geometry : SymbolGeometry
  blocks : Std.ExtTreeMap Nat FecBlockState

namespace FecReceiver

def new (geometry : SymbolGeometry) : FecReceiver where
  toNeedCache := .empty
  geometry := geometry
  blocks := ∅

/-- The fast path of the decoder: all source symbols are there. -/
def systematicBlockPayload (host : Host) (blockState : FecBlockState)
    (sourceSymbols symbolSize blockLen : Nat) : Option (List Byte) :=
  if 2 ^ 64 ≤ sourceSymbols * symbolSize then none
  else if ¬host.tryReserve .systematicBlock (sourceSymbols * symbolSize) then none
  else do
    let symbols ← (List.range sourceSymbols).mapM fun symbolId => do
      let payload ← blockState.symbols[symbolId]?
      some (resizeZero payload symbolSize)
    some (symbols.flatten.take blockLen)

def completeBlock (mode : FecReceiver) (shared : ReceiverShared) (blockId : Nat)
    (block : List Byte) : FecReceiver × ReceiverShared :=
  let written := shared.writeBlock blockId block
  ({ mode with blocks := mode.blocks.erase blockId },
    { written with completeBlocks := insert blockId written.completeBlocks })

/-- One symbol in decoder input format: padded to the symbol size, and marked as a source or a
coded symbol by its id. -/
def decoderInput (decoder : Decoder) (sourceSymbols : Nat) (symbolId : Nat)
    (payload : List Byte) : Option EncodingPacket :=
  let padded := resizeZero payload decoder.symbolSize
  if symbolId < sourceSymbols then decoder.sourceSymbol symbolId padded
  else some (decoder.codedSymbol symbolId padded)

/-- The outer `none` is a panic; the inner one says that the block cannot be decoded yet. -/
def decodeBlock (crate : FountainCrate) (host : Host) (sessionId : UInt64) (blockId : Nat)
    (geometry : SymbolGeometry) (sourceSymbols blockLen : Nat) (blockState : FecBlockState) :
    Option (Option (List Byte)) :=
  let params : BlockParams :=
    ⟨sourceSymbols, geometry.symbolSize, blockSeed sessionId (UInt64.ofNat blockId)⟩
  let decoder := Decoder.fromBlock params
  if ∃ symbol ∈ blockState.symbols.toList,
      ¬host.tryReserve .symbolPadding (geometry.symbolSize - symbol.2.length) then some none
  else do
    let received ← blockState.symbols.toList.mapM fun symbol =>
      decoderInput decoder sourceSymbols symbol.1 symbol.2
    match ← decoder.decode crate received with
    | none => some none
    | some output =>
        if 2 ^ 64 ≤ output.length * geometry.symbolSize then some none
        else if ¬host.tryReserve .decodedBlock (output.length * geometry.symbolSize) then some none
        else some (some (output.flatten.take blockLen))

def tryDecodeFecBlock (crate : FountainCrate) (host : Host) (mode : FecReceiver)
    (shared : ReceiverShared) (blockId : Nat) (fecMode : LosslessSessionFecMode) :
    Option (FecReceiver × ReceiverShared) :=
  match shared.plan, mode.blocks[blockId]? with
  | some plan, some blockState =>
      let sourceSymbols := fecMode.symbolsPerBlock.toNat
      if blockState.symbols.size < sourceSymbols then some (mode, shared)
      else
        match plan.blockLen blockId with
        | none => some (mode, shared)
        | some blockLen =>
            match systematicBlockPayload host blockState sourceSymbols mode.geometry.symbolSize
                blockLen with
            | some block => some (mode.completeBlock shared blockId block)
            | none => do
                match ← decodeBlock crate host shared.sessionId blockId mode.geometry
                    sourceSymbols blockLen blockState with
                | none => some (mode, shared)
                | some block => some (mode.completeBlock shared blockId block)
  | _, _ => some (mode, shared)

def handleBlockSymbolFrame (crate : FountainCrate) (host : Host) (mode : FecReceiver)
    (shared : ReceiverShared) (bytes : List Byte) : Option (FecReceiver × ReceiverShared) :=
  match shared.manifest with
  | none => some (mode, shared)
  | some manifest =>
      match manifest.mode with
      | .plain => some (mode, shared)
      | .fec fecMode =>
          match decodeBlockSymbol bytes with
          | none => some (mode, shared)
          | some (_, symbol, payload) =>
              match manifest.validateBlockSymbol symbol with
              | .error _ => some (mode, shared)
              | .ok () =>
                  let blockId := symbol.blockId.toNat
                  if blockId ∈ shared.completeBlocks then some (mode, shared)
                  else
                    let state := (mode.blocks[blockId]?).getD ⟨∅⟩
                    if symbol.symbolId.toNat ∈ state.symbols then
                      some ({ mode with blocks := mode.blocks.insert blockId state }, shared)
                    else
                      let grown : FecBlockState :=
                        ⟨state.symbols.insert symbol.symbolId.toNat payload⟩
                      tryDecodeFecBlock crate host
                        { mode with blocks := mode.blocks.insert blockId grown } shared blockId
                        fecMode

/-- Symbols still needed for a block; at least one for an incomplete block. -/
def blockDeficit (mode : FecReceiver) (shared : ReceiverShared) (blockId : Nat) : UInt16 :=
  match shared.manifest with
  | none => 1
  | some manifest =>
      match manifest.mode with
      | .plain => 1
      | .fec fecMode =>
          let present := ((mode.blocks[blockId]?).map fun state => state.symbols.size).getD 0
          let total := fecMode.symbolsPerBlock.toNat
          if total ≤ present then 1
          else UInt16.ofNat (max (min (total - present) (2 ^ 16 - 1)) 1)

def needReport (mode : FecReceiver) (shared : ReceiverShared) : Option NeedReport :=
  match shared.plan with
  | none => none
  | some plan =>
      if plan.totalBlocks = 0 ∨ shared.hasAllBlocks then some .complete
      else some (.fec (((List.range plan.totalBlocks).filter (· ∉ shared.completeBlocks)).map
        fun blockId => ⟨UInt64.ofNat blockId, mode.blockDeficit shared blockId⟩))

def handleSourceDone (shared : ReceiverShared) (mode : FecReceiver) (roundId : UInt32) :
    Option (FecReceiver × List LosslessSessionControl) := do
  let (cache, sent) ←
    answerSourceDone shared.sessionId (mode.needReport shared) mode.toNeedCache roundId
  some ({ mode with toNeedCache := cache }, sent)

end FecReceiver

/-! ## Receiver task -/

inductive ReceiverMode where
  | plain (mode : PlainReceiver)
  | fec (mode : FecReceiver)

def ReceiverMode.cache : ReceiverMode → NeedCache
  | .plain mode => mode.toNeedCache
  | .fec mode => mode.toNeedCache

inductive ReceiverLifecycle where
  | active
  | passiveComplete
  | sessionFinished
  deriving DecidableEq, Repr

/-- What the runtime keeps of a completed receiver. -/
inductive CompletedReceiverReplay where
  | plain (roundId : UInt32) (report : NeedReport)
  | fec (roundId : UInt32) (report : NeedReport)
  deriving DecidableEq, Repr

structure SessionReceiver where
  shared : ReceiverShared
  mode : Option ReceiverMode
  lifecycle : ReceiverLifecycle

namespace SessionReceiver

def new (cfg : ReceiverConfig) : SessionReceiver where
  shared :=
    { sessionId := cfg.sessionId
      fecEnabled := cfg.fecEnabled
      sinkBuffer := cfg.sinkBuffer
      manifest := none
      plan := none
      completeBlocks := ∅ }
  mode := none
  lifecycle := .active

def reportedComplete (receiver : SessionReceiver) : Bool :=
  match receiver.mode with
  | none => false
  | some mode => mode.cache.completeReported

def finishSession (receiver : SessionReceiver) : SessionReceiver :=
  { receiver with lifecycle := .sessionFinished }

def enterPassiveComplete (receiver : SessionReceiver) : SessionReceiver :=
  { receiver with lifecycle := .passiveComplete }

def receiverMode (plan : BlockPlan) : LosslessSessionMode → Option ReceiverMode
  | .plain => some (.plain ⟨.empty⟩)
  | .fec fec =>
      match plan.symbolGeometry fec.symbolsPerBlock with
      | .error _ => none
      | .ok geometry => some (.fec (.new geometry))

/-- Install the first valid manifest; one equal to it is answered with another Ready, any other
one is ignored. -/
def installManifest (host : Host) (receiver : SessionReceiver)
    (manifest : LosslessSessionManifest) :
    Option (SessionReceiver × List LosslessSessionControl) :=
  match receiver.shared.manifest with
  | some existing =>
      if existing = manifest then do
        let sent ← sendControl receiver.shared.sessionId .ready
        some (receiver, sent)
      else some (receiver, [])
  | none =>
      if manifest.mode.isFec ∧ ¬receiver.shared.fecEnabled then some (receiver, [])
      else
        match BlockPlan.new manifest.totalBytes manifest.blockSize.toNat with
        | .error _ => some (receiver, [])
        | .ok plan =>
            match receiverMode plan manifest.mode with
            | none => some (receiver, [])
            | some mode =>
                match receiver.shared.ensureSinkBufferLen host plan.totalBytes with
                | none => some (receiver, [])
                | some shared => do
                    let sent ← sendControl shared.sessionId .ready
                    some
                      ({ receiver with
                          shared := { shared with plan := some plan, manifest := some manifest }
                          mode := some mode }, sent)

def handleSourceDone (receiver : SessionReceiver) (roundId : UInt32) :
    Option (SessionReceiver × List LosslessSessionControl) :=
  match receiver.mode with
  | none => some (receiver, [])
  | some (.plain mode) => do
      let (mode, sent) ← mode.handleSourceDone receiver.shared roundId
      some ({ receiver with mode := some (.plain mode) }, sent)
  | some (.fec mode) => do
      let (mode, sent) ← mode.handleSourceDone receiver.shared roundId
      some ({ receiver with mode := some (.fec mode) }, sent)

def handleControlFrame (host : Host) (receiver : SessionReceiver)
    (control : LosslessSessionControl) :
    Option (SessionReceiver × List LosslessSessionControl) :=
  match control with
  | .manifest manifest => receiver.installManifest host manifest
  | .ready => some (receiver, [])
  | .need _ _ => some (receiver, [])
  | .sourceDone roundId => receiver.handleSourceDone roundId

def handleBlockDataFrame (receiver : SessionReceiver) (bytes : List Byte) : SessionReceiver :=
  match receiver.mode with
  | some (.plain _) =>
      { receiver with shared := PlainReceiver.handleBlockDataFrame receiver.shared bytes }
  | _ => receiver

def handleBlockSymbolFrame (crate : FountainCrate) (host : Host) (receiver : SessionReceiver)
    (bytes : List Byte) : Option SessionReceiver :=
  match receiver.mode with
  | some (.fec mode) => do
      let (mode, shared) ← mode.handleBlockSymbolFrame crate host receiver.shared bytes
      some { receiver with shared := shared, mode := some (.fec mode) }
  | _ => some receiver

def dispatchFrame (crate : FountainCrate) (host : Host) (receiver : SessionReceiver)
    (frame : InboundFrame) : Option (SessionReceiver × List LosslessSessionControl) :=
  match decodeControl frame.bytes with
  | some (_, control) => receiver.handleControlFrame host control
  | none =>
      if (decodeBlockData frame.bytes).isSome then
        some (receiver.handleBlockDataFrame frame.bytes, [])
      else if (decodeBlockSymbol frame.bytes).isSome then do
        let receiver ← receiver.handleBlockSymbolFrame crate host frame.bytes
        some (receiver, [])
      else some (receiver, [])

def receiveFrame (crate : FountainCrate) (host : Host) (receiver : SessionReceiver)
    (frame : InboundFrame) : Option (SessionReceiver × List LosslessSessionControl) := do
  let (receiver, sent) ← receiver.dispatchFrame crate host frame
  if receiver.reportedComplete then some (receiver.enterPassiveComplete, sent)
  else some (receiver, sent)

def completedReplay (receiver : SessionReceiver) : Option CompletedReceiverReplay :=
  match receiver.mode with
  | some (.plain mode) =>
      if mode.completeReported then mode.lastSourceDoneRoundId.map (.plain · .complete) else none
  | some (.fec mode) =>
      if mode.completeReported then mode.lastSourceDoneRoundId.map (.fec · .complete) else none
  | none => none

end SessionReceiver

end Nextmini.Session
