import Nextmini.Messages.ControlRoundTrip

/-!
# Block frames

Data frames of plain sessions and symbol frames of FEC sessions: a header, the fixed fields and
the payload up to the end of the frame. A frame of one kind is never read as one of another.
-/

namespace Nextmini.Messages

open Nextmini.Library.BigEndian

set_option autoImplicit false

def blockDataFixedBodyLen : Nat := 8
def blockSymbolFixedBodyLen : Nat := 8 + 4 + 2 + 2

/-- From `2^32 - 8` payload bytes on the body length does not fit its `u32`, the buffer allocated
from it is shorter than the payload, and copying the payload panics. -/
def encodeBlockData (sessionId blockId : UInt64) (payload : List Byte) : Option (List Byte) :=
  let bodyLen := blockDataFixedBodyLen + payload.length
  if bodyLen < 2 ^ 32 then
    some ((frameHeader .blockData 0 sessionId bodyLen).encodeInto ++ encode64 blockId ++ payload)
  else none

def encodeBlockSymbol (sessionId blockId : UInt64) (symbolId : UInt32) (treeId : UInt16)
    (payload : List Byte) : List Byte :=
  let bodyLen := blockSymbolFixedBodyLen + payload.length
  (frameHeader .blockSymbol 0 sessionId bodyLen).encodeInto ++
    (encode64 blockId ++ encode32 symbolId ++ encode16 treeId ++ encode16 0) ++ payload

def decodeBlockData (buf : List Byte) :
    Option (LosslessSessionHeader × LosslessSessionBlockData × List Byte) := do
  let (header, off) ← LosslessSessionHeader.decodeFrom buf
  if header.kind ≠ .blockData ∨ header.ctrlKind ≠ 0 then none
  else if header.bodyLen.toNat < blockDataFixedBodyLen then none
  else
    let payloadEnd := off + header.bodyLen.toNat
    if buf.length ≠ payloadEnd then none
    else some (header, ⟨decode64 (slice buf off (off + 8))⟩, slice buf (off + 8) payloadEnd)

def decodeBlockSymbol (buf : List Byte) :
    Option (LosslessSessionHeader × LosslessSessionBlockSymbol × List Byte) := do
  let (header, off) ← LosslessSessionHeader.decodeFrom buf
  if header.kind ≠ .blockSymbol ∨ header.ctrlKind ≠ 0 then none
  else if header.bodyLen.toNat < blockSymbolFixedBodyLen then none
  else
    let payloadEnd := off + header.bodyLen.toNat
    if buf.length ≠ payloadEnd then none
    else
      let symbol : LosslessSessionBlockSymbol :=
        { blockId := decode64 (slice buf off (off + 8))
          symbolId := decode32 (slice buf (off + 8) (off + 12))
          treeId := decode16 (slice buf (off + 12) (off + 14)) }
      some (header, symbol, slice buf (off + 16) payloadEnd)

theorem encode_block_data_some_iff (sessionId blockId : UInt64) (payload bytes : List Byte) :
    encodeBlockData sessionId blockId payload = some bytes ↔
      blockDataFixedBodyLen + payload.length < 2 ^ 32 ∧
        (frameHeader .blockData 0 sessionId (blockDataFixedBodyLen + payload.length)).encodeInto ++
          encode64 blockId ++ payload = bytes := by
  simp only [encodeBlockData]
  split_ifs with fits
  · simp only [Option.some.injEq, fits, true_and]
  · simp only [fits, false_and]

theorem slice_to_end (front back : List Byte) (stop : Nat)
    (whole : stop = front.length + back.length) :
    slice (front ++ back) front.length stop = back := by
  subst whole
  have middle := slice_append front back []
  rwa [List.append_nil] at middle

theorem decode_block_data_encode {sessionId blockId : UInt64} {payload bytes : List Byte}
    (encoded : encodeBlockData sessionId blockId payload = some bytes) :
    decodeBlockData bytes =
      some (frameHeader .blockData 0 sessionId (blockDataFixedBodyLen + payload.length),
        ⟨blockId⟩, payload) := by
  obtain ⟨fits, rfl⟩ := (encode_block_data_some_iff sessionId blockId payload bytes).mp encoded
  have length : (UInt32.ofNat (blockDataFixedBodyLen + payload.length)).toNat =
      blockDataFixedBodyLen + payload.length := UInt32.toNat_ofNat_of_lt' fits
  have block : slice ((frameHeader .blockData 0 sessionId
      (blockDataFixedBodyLen + payload.length)).encodeInto ++ encode64 blockId ++ payload)
        headerLen (headerLen + 8) = encode64 blockId := by
    have middle := slice_append (frameHeader .blockData 0 sessionId
      (blockDataFixedBodyLen + payload.length)).encodeInto (encode64 blockId) payload
    rwa [encode_header_length, encode64_length] at middle
  have rest : slice ((frameHeader .blockData 0 sessionId
      (blockDataFixedBodyLen + payload.length)).encodeInto ++ encode64 blockId ++ payload)
        (headerLen + 8) (headerLen + (blockDataFixedBodyLen + payload.length)) = payload := by
    have front : ((frameHeader .blockData 0 sessionId
        (blockDataFixedBodyLen + payload.length)).encodeInto ++ encode64 blockId).length =
          headerLen + 8 := by simp
    rw [← front]
    apply slice_to_end
    rw [front, blockDataFixedBodyLen]
    omega
  rw [decodeBlockData, List.append_assoc, decode_header_encode, ← List.append_assoc]
  simp only [Option.bind_eq_bind, Option.bind_some, frameHeader, length] at block rest ⊢
  rw [block, rest, decode64_encode]
  simp [blockDataFixedBodyLen, headerLen]

@[simp] theorem encode_block_symbol_length (sessionId blockId : UInt64) (symbolId : UInt32)
    (treeId : UInt16) (payload : List Byte) :
    (encodeBlockSymbol sessionId blockId symbolId treeId payload).length =
      headerLen + (blockSymbolFixedBodyLen + payload.length) := by
  simp [encodeBlockSymbol, blockSymbolFixedBodyLen]
  omega

theorem decode_header_block_symbol (sessionId blockId : UInt64) (symbolId : UInt32)
    (treeId : UInt16) (payload : List Byte) :
    LosslessSessionHeader.decodeFrom
        (encodeBlockSymbol sessionId blockId symbolId treeId payload) =
      some (frameHeader .blockSymbol 0 sessionId (blockSymbolFixedBodyLen + payload.length),
        headerLen) := by
  rw [encodeBlockSymbol, List.append_assoc, decode_header_encode]

theorem decode_block_symbol_encode (sessionId blockId : UInt64) (symbolId : UInt32)
    (treeId : UInt16) (payload : List Byte)
    (fits : blockSymbolFixedBodyLen + payload.length < 2 ^ 32) :
    decodeBlockSymbol (encodeBlockSymbol sessionId blockId symbolId treeId payload) =
      some (frameHeader .blockSymbol 0 sessionId (blockSymbolFixedBodyLen + payload.length),
        ⟨blockId, symbolId, treeId⟩, payload) := by
  have length : (UInt32.ofNat (blockSymbolFixedBodyLen + payload.length)).toNat =
      blockSymbolFixedBodyLen + payload.length := UInt32.toNat_ofNat_of_lt' fits
  have block : slice (encodeBlockSymbol sessionId blockId symbolId treeId payload) headerLen
      (headerLen + 8) = encode64 blockId := rfl
  have symbol : slice (encodeBlockSymbol sessionId blockId symbolId treeId payload)
      (headerLen + 8) (headerLen + 12) = encode32 symbolId := rfl
  have tree : slice (encodeBlockSymbol sessionId blockId symbolId treeId payload)
      (headerLen + 12) (headerLen + 14) = encode16 treeId := rfl
  have rest : slice (encodeBlockSymbol sessionId blockId symbolId treeId payload)
      (headerLen + 16) (headerLen + (blockSymbolFixedBodyLen + payload.length)) = payload := by
    have front : ((frameHeader .blockSymbol 0 sessionId
        (blockSymbolFixedBodyLen + payload.length)).encodeInto ++
          (encode64 blockId ++ encode32 symbolId ++ encode16 treeId ++ encode16 0)).length =
        headerLen + 16 := by simp
    rw [encodeBlockSymbol, ← front]
    apply slice_to_end
    rw [front, blockSymbolFixedBodyLen]
    omega
  rw [decodeBlockSymbol, decode_header_block_symbol]
  simp only [Option.bind_eq_bind, Option.bind_some, frameHeader, length]
  rw [encode_block_symbol_length, block, symbol, tree, rest, decode64_encode, decode32_encode, decode16_encode]
  simp [blockSymbolFixedBodyLen]

/-! ## Frames of different kinds -/

theorem decode_control_other_kind {buf : List Byte} {header : LosslessSessionHeader} {off : Nat}
    (decoded : LosslessSessionHeader.decodeFrom buf = some (header, off))
    (other : header.kind ≠ .control) : decodeControl buf = none := by
  simp [decodeControl, decoded, other]

theorem decode_block_data_other_kind {buf : List Byte} {header : LosslessSessionHeader}
    {off : Nat} (decoded : LosslessSessionHeader.decodeFrom buf = some (header, off))
    (other : header.kind ≠ .blockData) : decodeBlockData buf = none := by
  simp [decodeBlockData, decoded, other]

theorem decode_control_block_data {sessionId blockId : UInt64} {payload bytes : List Byte}
    (encoded : encodeBlockData sessionId blockId payload = some bytes) :
    decodeControl bytes = none := by
  obtain ⟨-, rfl⟩ := (encode_block_data_some_iff sessionId blockId payload bytes).mp encoded
  rw [List.append_assoc]
  exact decode_control_other_kind (decode_header_encode ..) (by simp [frameHeader])

theorem decode_control_block_symbol (sessionId blockId : UInt64) (symbolId : UInt32)
    (treeId : UInt16) (payload : List Byte) :
    decodeControl (encodeBlockSymbol sessionId blockId symbolId treeId payload) = none := by
  rw [encodeBlockSymbol, List.append_assoc]
  exact decode_control_other_kind (decode_header_encode ..) (by simp [frameHeader])

theorem decode_block_data_block_symbol (sessionId blockId : UInt64) (symbolId : UInt32)
    (treeId : UInt16) (payload : List Byte) :
    decodeBlockData (encodeBlockSymbol sessionId blockId symbolId treeId payload) = none := by
  rw [encodeBlockSymbol, List.append_assoc]
  exact decode_block_data_other_kind (decode_header_encode ..) (by simp [frameHeader])

theorem decode_block_symbol_other_kind {buf : List Byte} {header : LosslessSessionHeader}
    {off : Nat} (decoded : LosslessSessionHeader.decodeFrom buf = some (header, off))
    (other : header.kind ≠ .blockSymbol) : decodeBlockSymbol buf = none := by
  simp [decodeBlockSymbol, decoded, other]

theorem decode_block_symbol_block_data {sessionId blockId : UInt64} {payload bytes : List Byte}
    (encoded : encodeBlockData sessionId blockId payload = some bytes) :
    decodeBlockSymbol bytes = none := by
  obtain ⟨-, rfl⟩ := (encode_block_data_some_iff sessionId blockId payload bytes).mp encoded
  rw [List.append_assoc]
  exact decode_block_symbol_other_kind (decode_header_encode ..) (by simp [frameHeader])

theorem decode_block_data_control {sessionId : UInt64} {control : LosslessSessionControl}
    {bytes : List Byte} (encoded : encodeControl sessionId control = some bytes) :
    decodeBlockData bytes = none := by
  obtain ⟨-, rfl⟩ := (encode_control_some_iff sessionId control bytes).mp encoded
  exact decode_block_data_other_kind (decode_header_encode ..) (by simp [frameHeader])

theorem decode_block_symbol_control {sessionId : UInt64} {control : LosslessSessionControl}
    {bytes : List Byte} (encoded : encodeControl sessionId control = some bytes) :
    decodeBlockSymbol bytes = none := by
  obtain ⟨-, rfl⟩ := (encode_control_some_iff sessionId control bytes).mp encoded
  exact decode_block_symbol_other_kind (decode_header_encode ..) (by simp [frameHeader])

/-- A symbol frame whose body length overflows its `u32` is not read at all. -/
theorem decode_block_symbol_overflow (sessionId blockId : UInt64) (symbolId : UInt32)
    (treeId : UInt16) (payload : List Byte)
    (overflows : ¬blockSymbolFixedBodyLen + payload.length < 2 ^ 32) :
    decodeBlockSymbol (encodeBlockSymbol sessionId blockId symbolId treeId payload) = none := by
  have short := (frameHeader .blockSymbol 0 sessionId
    (blockSymbolFixedBodyLen + payload.length)).bodyLen.toNat_lt
  rw [decodeBlockSymbol, decode_header_block_symbol]
  simp only [Option.bind_eq_bind, Option.bind_some, encode_block_symbol_length]
  split_ifs with kind tooShort whole
  · rfl
  · rfl
  · rfl
  · omega

/-- A symbol frame that is read at all is read as it was sent. -/
theorem decode_block_symbol_sent {sessionId blockId : UInt64} {symbolId : UInt32}
    {treeId : UInt16} {payload received : List Byte} {header : LosslessSessionHeader}
    {symbol : LosslessSessionBlockSymbol}
    (decoded : decodeBlockSymbol (encodeBlockSymbol sessionId blockId symbolId treeId payload) =
      some (header, symbol, received)) :
    symbol = ⟨blockId, symbolId, treeId⟩ ∧ received = payload := by
  by_cases fits : blockSymbolFixedBodyLen + payload.length < 2 ^ 32
  · rw [decode_block_symbol_encode _ _ _ _ _ fits] at decoded
    cases decoded
    exact ⟨rfl, rfl⟩
  · rw [decode_block_symbol_overflow _ _ _ _ _ fits] at decoded
    cases decoded

end Nextmini.Messages
