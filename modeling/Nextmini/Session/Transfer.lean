import Nextmini.Messages.BlockFrames
import Nextmini.Session.RoundLog

/-!
# Frames of one transfer

A transfer is what a sender session is about: its manifest, the geometry and the source. A frame is
genuine when it carries that manifest, a block of the source, or a symbol of one of its blocks. What
a receiver reads from a genuine frame is what the sender put into it.
-/

namespace Nextmini.Session

open Nextmini.Library.BigEndian
open Nextmini.Messages

set_option autoImplicit false

structure Transfer where
  sessionId : UInt64
  manifest : LosslessSessionManifest
  plan : BlockPlan
  source : BlockSource
  deriving DecidableEq

def SenderShared.transfer (shared : SenderShared) : Transfer :=
  ⟨shared.sessionId, shared.manifest, shared.plan, shared.source⟩

theorem SameSession.transfer {before after : SenderShared} (session : SameSession before after) :
    after.transfer = before.transfer := by
  simp only [SenderShared.transfer, session.sessionId, session.manifest, session.plan,
    session.source]

namespace Transfer

def object (transfer : Transfer) : List Byte := transfer.source.object transfer.plan.totalBytes

def blockParams (transfer : Transfer) (sourceSymbols symbolSize blockId : Nat) : BlockParams :=
  ⟨sourceSymbols, symbolSize, blockSeed transfer.sessionId (UInt64.ofNat blockId)⟩

/-- The payload is the block that the plan places there. -/
def IsBlock (transfer : Transfer) (blockId : Nat) (payload : List Byte) : Prop :=
  ∃ span, transfer.plan.blockSpan blockId = some span ∧
    payload = transfer.source.blockPayload span

/-- The payload is the symbol of the block with that id. -/
def IsSymbol (crate : FountainCrate) (transfer : Transfer) (blockId symbolId : Nat)
    (payload : List Byte) : Prop :=
  ∃ fec geometry span, transfer.manifest.mode = .fec fec ∧
    transfer.plan.symbolGeometry fec.symbolsPerBlock = .ok geometry ∧
    transfer.plan.blockSpan blockId = some span ∧
    payload = genuineSymbol crate
      (transfer.blockParams fec.symbolsPerBlock.toNat geometry.symbolSize blockId)
      (transfer.source.paddedSymbolBytes span geometry) symbolId

def Genuine (crate : FountainCrate) (transfer : Transfer) : SessionFrame → Prop
  | .control (.manifest manifest) => manifest = transfer.manifest
  | .control _ => True
  | .blockData blockId payload => transfer.IsBlock blockId payload
  | .blockSymbol blockId symbolId _ payload =>
      symbolId < 2 ^ 32 ∧ transfer.IsSymbol crate blockId symbolId payload

end Transfer

theorem block_span_inside {plan : BlockPlan} {blockId : Nat} {span : BlockSpan}
    (placed : plan.blockSpan blockId = some span) : blockId < plan.totalBlocks := by
  obtain ⟨offset, placed, _⟩ := Option.bind_eq_some_iff.mp placed
  unfold BlockPlan.blockOffset at placed
  split_ifs at placed with outside
  simpa [BlockPlan.containsBlock] using outside

/-- Block ids of a plan survive the wire. -/
theorem block_id_roundtrip {plan : BlockPlan} {blockId : Nat} {span : BlockSpan}
    (placed : plan.blockSpan blockId = some span) : (UInt64.ofNat blockId).toNat = blockId :=
  UInt64.toNat_ofNat_of_lt' ((block_span_inside placed).trans plan.total_blocks_lt)

section Decoding

variable {crate : FountainCrate} {transfer : Transfer} {frame : SessionFrame} {sessionId : UInt64}
  {bytes : List Byte} {header : LosslessSessionHeader}

theorem genuine_manifest (genuine : transfer.Genuine crate frame)
    (encoded : frame.encode sessionId = some bytes) {manifest : LosslessSessionManifest}
    (decoded : decodeControl bytes = some (header, .manifest manifest)) :
    manifest = transfer.manifest := by
  cases frame with
  | control message =>
    rw [decode_control_encode encoded] at decoded
    cases message with
    | manifest offered =>
      cases decoded
      exact genuine
    | ready => cases decoded
    | sourceDone roundId => cases decoded
    | need roundId report => cases decoded
  | blockData blockId payload =>
    rw [decode_control_block_data encoded] at decoded
    cases decoded
  | blockSymbol blockId symbolId treeId payload =>
    cases encoded
    rw [decode_control_block_symbol] at decoded
    cases decoded

theorem genuine_block_data (genuine : transfer.Genuine crate frame)
    (encoded : frame.encode sessionId = some bytes) {data : LosslessSessionBlockData}
    {payload : List Byte} (decoded : decodeBlockData bytes = some (header, data, payload)) :
    transfer.IsBlock data.blockId.toNat payload := by
  cases frame with
  | control message =>
    rw [decode_block_data_control encoded] at decoded
    cases decoded
  | blockData blockId sent =>
    rw [decode_block_data_encode encoded] at decoded
    cases decoded
    obtain ⟨span, placed, same⟩ := genuine
    rw [block_id_roundtrip placed]
    exact ⟨span, placed, same⟩
  | blockSymbol blockId symbolId treeId sent =>
    cases encoded
    rw [decode_block_data_block_symbol] at decoded
    cases decoded

theorem genuine_block_symbol (genuine : transfer.Genuine crate frame)
    (encoded : frame.encode sessionId = some bytes) {symbol : LosslessSessionBlockSymbol}
    {payload : List Byte} (decoded : decodeBlockSymbol bytes = some (header, symbol, payload)) :
    transfer.IsSymbol crate symbol.blockId.toNat symbol.symbolId.toNat payload := by
  cases frame with
  | control message =>
    rw [decode_block_symbol_control encoded] at decoded
    cases decoded
  | blockData blockId sent =>
    rw [decode_block_symbol_block_data encoded] at decoded
    cases decoded
  | blockSymbol blockId symbolId treeId sent =>
    cases encoded
    obtain ⟨small, fec, geometry, span, mode, laidOut, placed, same⟩ := genuine
    obtain ⟨rfl, rfl⟩ := decode_block_symbol_sent decoded
    simp only [block_id_roundtrip placed, UInt32.toNat_ofNat_of_lt' small]
    exact ⟨fec, geometry, span, mode, laidOut, placed, same⟩

end Decoding

end Nextmini.Session
