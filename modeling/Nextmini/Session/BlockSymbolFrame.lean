import Nextmini.Library.BufferPatch
import Nextmini.Messages.CanonicalFrames
import Nextmini.Session.FecAdapter

/-!
# Scratch frames of the FEC sender

The sender writes each symbol frame into one buffer that it keeps, and changes the tree id in place
when it tries the next tree. The result is the frame of the library's encoder, whatever the buffer
held before.
-/

namespace Nextmini.Session

open Nextmini.Library.BigEndian Nextmini.Library.BufferPatch
open Nextmini.Messages

set_option autoImplicit false

def blockSymbolTreeIdOffset : Nat := headerLen + 8 + 4

def encodeInto (buf : List Byte) (sessionId blockId : UInt64) (symbolId : UInt32)
    (treeId : UInt16) (payload : List Byte) : List Byte :=
  let bodyLen := blockSymbolFixedBodyLen + payload.length
  let frameLen := headerLen + bodyLen
  let resized := resizeZero buf frameLen
  let headed := overwrite resized 0 (frameHeader .blockSymbol 0 sessionId bodyLen).encodeInto
  let pos := headerLen
  let withBlock := overwrite headed pos (encode64 blockId)
  let withSymbol := overwrite withBlock (pos + 8) (encode32 symbolId)
  let withTree := overwrite withSymbol (pos + 8 + 4) (encode16 treeId)
  let withReserved := overwrite withTree (pos + 8 + 4 + 2) (encode16 0)
  overwrite withReserved (pos + 8 + 4 + 2 + 2) payload

/-- `none` leaves the buffer as it is; the sender's `expect` panics then. -/
def patchTreeId (buf : List Byte) (treeId : UInt16) : Option (List Byte) := do
  let (header, off) ← LosslessSessionHeader.decodeFrom buf
  if header.kind ≠ .blockSymbol ∨ header.ctrlKind ≠ 0 then none
  else if header.bodyLen.toNat < blockSymbolFixedBodyLen ∨
      buf.length < off + header.bodyLen.toNat then none
  else some (overwrite buf (off + (blockSymbolTreeIdOffset - headerLen)) (encode16 treeId))

variable (sessionId blockId : UInt64) (symbolId : UInt32) (payload : List Byte)

/-- The buffer after the frame was written for the first tree and patched for each of the others. -/
def scratchFrame (prior : List Byte) (initialTreeId : UInt16) (treeIds : List UInt16) :
    Option (List Byte) :=
  treeIds.foldlM patchTreeId (encodeInto prior sessionId blockId symbolId initialTreeId payload)

theorem encode_into_eq (prior : List Byte) (treeId : UInt16) :
    encodeInto prior sessionId blockId symbolId treeId payload =
      encodeBlockSymbol sessionId blockId symbolId treeId payload := by
  have size : (resizeZero prior
      (headerLen + (blockSymbolFixedBodyLen + payload.length))).length =
        headerLen + (blockSymbolFixedBodyLen + payload.length) := by
    simp only [resizeZero, List.length_append, List.length_take, List.length_replicate]
    omega
  simp only [encodeInto, encodeBlockSymbol]
  generalize resizeZero prior (headerLen + (blockSymbolFixedBodyLen + payload.length)) = buf at size
  have start : buf = [] ++ buf := rfl
  rw [start, overwrite_behind List.length_nil.symm, overwrite_behind (by simp), overwrite_behind (by simp),
    overwrite_behind (by simp), overwrite_behind (by simp), overwrite_behind (by simp)]
  have nothing : (((((buf.drop (frameHeader .blockSymbol 0 sessionId
      (blockSymbolFixedBodyLen + payload.length)).encodeInto.length).drop
        (encode64 blockId).length).drop (encode32 symbolId).length).drop
          (encode16 treeId).length).drop (encode16 0).length).drop payload.length = [] := by
    apply List.drop_eq_nil_of_le
    simp [size, blockSymbolFixedBodyLen]
    omega
  rw [nothing]
  simp

theorem patch_encoded (fits : blockSymbolFixedBodyLen + payload.length < 2 ^ 32)
    (treeId other : UInt16) :
    patchTreeId (encodeBlockSymbol sessionId blockId symbolId treeId payload) other =
      some (encodeBlockSymbol sessionId blockId symbolId other payload) := by
  have length : (UInt32.ofNat (blockSymbolFixedBodyLen + payload.length)).toNat =
      blockSymbolFixedBodyLen + payload.length := UInt32.toNat_ofNat_of_lt' fits
  have patched : overwrite (encodeBlockSymbol sessionId blockId symbolId treeId payload)
      (headerLen + (blockSymbolTreeIdOffset - headerLen)) (encode16 other) =
        encodeBlockSymbol sessionId blockId symbolId other payload := by
    have split (id : UInt16) : encodeBlockSymbol sessionId blockId symbolId id payload =
        ((frameHeader .blockSymbol 0 sessionId
          (blockSymbolFixedBodyLen + payload.length)).encodeInto ++ encode64 blockId ++
            encode32 symbolId) ++ (encode16 id ++ (encode16 0 ++ payload)) := by
      simp [encodeBlockSymbol]
    have skipped : (encode16 treeId ++ (encode16 0 ++ payload)).drop (encode16 other).length =
        encode16 0 ++ payload := by
      rw [encode16_length, ← encode16_length treeId, List.drop_left]
    rw [split treeId, overwrite_behind (by simp [blockSymbolTreeIdOffset, headerLen]), skipped, split other]
    simp
  rw [patchTreeId, decode_header_block_symbol]
  simp only [Option.bind_eq_bind, Option.bind_some, frameHeader, length, patched]
  simp

theorem scratch_frame_eq (fits : blockSymbolFixedBodyLen + payload.length < 2 ^ 32)
    (prior : List Byte) (initialTreeId : UInt16) (treeIds : List UInt16) :
    scratchFrame sessionId blockId symbolId payload prior initialTreeId treeIds =
      some (encodeBlockSymbol sessionId blockId symbolId (treeIds.getLastD initialTreeId)
        payload) := by
  rw [scratchFrame, encode_into_eq]
  induction treeIds generalizing initialTreeId with
  | nil => rfl
  | cons treeId rest induction =>
    rw [List.foldlM_cons, patch_encoded _ _ _ _ fits, List.getLastD_cons]
    exact induction treeId

/-! ## Frames of one kind -/

/-- A frame is read by one decoder at most. -/
structure ReadOnce (buf : List Byte) : Prop where
  control : (decodeControl buf).isSome → decodeBlockData buf = none ∧ decodeBlockSymbol buf = none
  blockData : (decodeBlockData buf).isSome → decodeControl buf = none ∧ decodeBlockSymbol buf = none
  blockSymbol : (decodeBlockSymbol buf).isSome →
    decodeControl buf = none ∧ decodeBlockData buf = none

theorem read_once (buf : List Byte) : ReadOnce buf := by
  cases decoded : LosslessSessionHeader.decodeFrom buf with
  | none =>
    have control : decodeControl buf = none := by simp [decodeControl, decoded]
    have data : decodeBlockData buf = none := by simp [decodeBlockData, decoded]
    have symbol : decodeBlockSymbol buf = none := by simp [decodeBlockSymbol, decoded]
    constructor <;> simp [control, data, symbol]
  | some both =>
    rcases both with ⟨header, off⟩
    have notControl := @decode_control_other_kind _ _ _ decoded
    have notData := @decode_block_data_other_kind _ _ _ decoded
    have notSymbol := @decode_block_symbol_other_kind _ _ _ decoded
    cases kind : header.kind with
    | blockData =>
      have control := notControl (by simp [kind])
      have symbol := notSymbol (by simp [kind])
      constructor <;> simp [control, symbol]
    | blockSymbol =>
      have control := notControl (by simp [kind])
      have data := notData (by simp [kind])
      constructor <;> simp [control, data]
    | control =>
      have data := notData (by simp [kind])
      have symbol := notSymbol (by simp [kind])
      constructor <;> simp [data, symbol]

/-! ## The scratch encoder and the library's -/

/-- For a given symbol the scratch buffer is always the library's frame and is read back as it was
written, and no frame is read by two decoders, exactly when the body length fits its `u32`. -/
theorem scratch_frames_faithful_iff :
    ((∀ prior initialTreeId treeIds, ∃ frame header,
        scratchFrame sessionId blockId symbolId payload prior initialTreeId treeIds = some frame ∧
          frame = encodeBlockSymbol sessionId blockId symbolId (treeIds.getLastD initialTreeId)
            payload ∧
          decodeBlockSymbol frame =
            some (header, ⟨blockId, symbolId, treeIds.getLastD initialTreeId⟩, payload) ∧
          header.sessionId = sessionId) ∧
      ∀ buf, ReadOnce buf) ↔
      blockSymbolFixedBodyLen + payload.length < 2 ^ 32 := by
  constructor
  · rintro ⟨faithful, -⟩
    rcases faithful [] 0 [] with ⟨frame, header, -, rfl, decoded, -⟩
    by_contra overflows
    rw [decode_block_symbol_overflow _ _ _ _ _ overflows] at decoded
    cases decoded
  · intro fits
    constructor
    · intro prior initialTreeId treeIds
      exact ⟨_, _, scratch_frame_eq _ _ _ _ fits prior initialTreeId treeIds, rfl,
        decode_block_symbol_encode _ _ _ _ _ fits, rfl⟩
    · exact read_once

/-- A body of `2 ^ 32` bytes is written with length zero: the frame takes no other tree id and is not
read by anyone. -/
theorem wrapping_frame_refused (wraps : blockSymbolFixedBodyLen + payload.length = 2 ^ 32)
    (prior : List Byte) (treeId other : UInt16) :
    scratchFrame sessionId blockId symbolId payload prior treeId [other] = none ∧
      decodeBlockSymbol (encodeInto prior sessionId blockId symbolId treeId payload) = none := by
  have refused :
      patchTreeId (encodeBlockSymbol sessionId blockId symbolId treeId payload) other = none := by
    rw [patchTreeId, decode_header_block_symbol, wraps]
    simp [frameHeader, blockSymbolFixedBodyLen]
  constructor
  · rw [scratchFrame, encode_into_eq, List.foldlM_cons, refused]
    rfl
  · rw [encode_into_eq]
    exact decode_block_symbol_overflow _ _ _ _ _ (by omega)

theorem four_gigabyte_symbol_refused : ∃ payload : List Byte, payload.length = 2 ^ 32 - 16 ∧
    scratchFrame 7 0 0 payload [] 1 [2] = none ∧
      decodeBlockSymbol (encodeInto [] 7 0 0 1 payload) = none := by
  have present (length : Nat) : ∃ payload : List Byte, payload.length = length :=
    ⟨List.replicate length 0, List.length_replicate⟩
  rcases present (2 ^ 32 - 16) with ⟨payload, length⟩
  have wraps : blockSymbolFixedBodyLen + payload.length = 2 ^ 32 := by
    rw [length, blockSymbolFixedBodyLen]
    norm_num
  exact ⟨payload, length, wrapping_frame_refused 7 0 0 payload wraps [] 1 2⟩

end Nextmini.Session
