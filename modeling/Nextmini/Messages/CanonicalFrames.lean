import Nextmini.Messages.BlockFrames

/-!
# Canonical frames

What a decoder accepted, encoded again. The decoders pin every byte of a frame but its reserved
ones, which the encoders write as zero, and a control frame may be followed by further bytes. So
the second encoding is the accepted frame with its reserved bytes cleared.
-/

namespace Nextmini.Messages

open Nextmini.Library.BigEndian

set_option autoImplicit false

def clearBytes (offsets : List Nat) (bytes : List Byte) : List Byte :=
  offsets.foldl (fun cleared offset => cleared.set offset 0) bytes

def headerReserved : List Nat := [7]
def manifestReserved : List Nat := [3, 26, 27]
def blockSymbolReserved : List Nat := [14, 15]

def LosslessSessionControl.reserved : LosslessSessionControl → List Nat
  | .manifest _ => manifestReserved
  | .ready => []
  | .sourceDone _ => []
  | .need _ _ => []

/-- A frame with the reserved bytes of its header and of its body set to zero. -/
def clearReserved (bodyReserved : List Nat) (frame : List Byte) : List Byte :=
  clearBytes headerReserved (frame.take headerLen) ++ clearBytes bodyReserved (frame.drop headerLen)

/-! ## Slices of an accepted frame -/

theorem slice_one (bytes : List Byte) (start : Nat) (inside : start < bytes.length) :
    slice bytes start (start + 1) = [bytes.getD start 0] := by
  rw [slice, List.take_succ_eq_append_getElem inside, List.drop_append_of_le_length (by simp; omega),
    List.drop_of_length_le (by simp), List.nil_append]
  simp [inside]

theorem slice_whole (bytes : List Byte) : slice bytes 0 bytes.length = bytes := by
  simp [slice]

theorem slice_take (bytes : List Byte) (stop : Nat) : slice bytes 0 stop = bytes.take stop := by
  simp [slice]

theorem slice_drop (bytes : List Byte) (start : Nat) :
    slice bytes start bytes.length = bytes.drop start := by
  simp [slice]

theorem encode16_slice (bytes : List Byte) (start : Nat) (inside : start + 2 ≤ bytes.length) :
    encode16 (decode16 (slice bytes start (start + 2))) = slice bytes start (start + 2) := by
  apply encode16_decode
  rw [slice_length _ _ _ inside, Nat.add_sub_cancel_left]

theorem encode32_slice (bytes : List Byte) (start : Nat) (inside : start + 4 ≤ bytes.length) :
    encode32 (decode32 (slice bytes start (start + 4))) = slice bytes start (start + 4) := by
  apply encode32_decode
  rw [slice_length _ _ _ inside, Nat.add_sub_cancel_left]

theorem encode64_slice (bytes : List Byte) (start : Nat) (inside : start + 8 ≤ bytes.length) :
    encode64 (decode64 (slice bytes start (start + 8))) = slice bytes start (start + 8) := by
  apply encode64_decode
  rw [slice_length _ _ _ inside, Nat.add_sub_cancel_left]

/-! ## Header -/

theorem kind_from_wire_some {raw : UInt8} {kind : LosslessSessionKind}
    (known : kindFromWire raw = some kind) : kind.toWire = raw := by
  simp only [kindFromWire] at known
  split_ifs at known with data symbol control
  · cases known
    exact data.symm
  · cases known
    exact symbol.symm
  · cases known
    exact control.symm

theorem decode_header_some {buf : List Byte} {header : LosslessSessionHeader} {off : Nat}
    (decoded : LosslessSessionHeader.decodeFrom buf = some (header, off)) :
    off = headerLen ∧ headerLen ≤ buf.length ∧
      header = frameHeader header.kind header.ctrlKind header.sessionId header.bodyLen.toNat ∧
        header.encodeInto = clearBytes headerReserved (buf.take headerLen) := by
  simp only [LosslessSessionHeader.decodeFrom, Option.bind_eq_bind,
    Option.bind_eq_some_iff] at decoded
  rcases decoded with ⟨raw, peeked, decoded⟩
  split_ifs at decoded with version
  rcases Option.bind_eq_some_iff.mp decoded with ⟨kind, known, same⟩
  simp only [peekHeader] at peeked
  split_ifs at peeked with short magic
  rw [not_not] at version magic
  cases peeked
  cases same
  have enough : headerLen ≤ buf.length := Nat.not_lt.mp short
  have bound : 20 ≤ buf.length := enough
  refine ⟨rfl, enough, ?_, ?_⟩
  · simp only at version
    simp only [frameHeader, magic, version, UInt32.ofNat_toNat]
  · have split : buf.take headerLen = slice buf 0 4 ++ [buf.getD 4 0] ++ [buf.getD 5 0] ++
        [buf.getD 6 0] ++ [buf.getD 7 0] ++ slice buf 8 16 ++ slice buf 16 20 := by
      rw [← slice_one buf 4 (by omega), ← slice_one buf 5 (by omega), ← slice_one buf 6 (by omega),
        ← slice_one buf 7 (by omega)]
      simp only [slice_append_slice, Nat.reduceAdd, Nat.reduceLeDiff, Nat.zero_le]
      exact (slice_take buf 20).symm
    have front : (slice buf 0 4).length = 4 := slice_length _ _ _ (by omega)
    rw [split]
    simp only [LosslessSessionHeader.encodeInto, encode32_slice buf 0 (by omega),
      encode64_slice buf 8 (by omega), encode32_slice buf 16 (by omega), kind_from_wire_some known,
      clearBytes, headerReserved, List.foldl_cons, List.foldl_nil]
    simp [front]

/-! ## Control bodies -/

theorem mode_kind_from_wire {raw : UInt8} {kind : LosslessSessionModeKind}
    (known : LosslessSessionModeKind.fromWire raw = some kind) : kind.toWire = raw := by
  simp only [LosslessSessionModeKind.fromWire] at known
  split_ifs at known with plain fec
  · cases known
    exact plain.symm
  · cases known
    exact fec.symm

/-- A mode is read from the three fields it is written to. -/
theorem decode_mode_some {kind : LosslessSessionModeKind} {scheme : UInt8}
    {symbolsPerBlock : UInt16} {treeIds : List UInt16} {mode : LosslessSessionMode}
    (decoded : decodeMode kind scheme symbolsPerBlock treeIds = some mode) :
    mode.kind = kind ∧ manifestFecFields mode = ⟨scheme, symbolsPerBlock, treeIds⟩ := by
  cases kind with
  | plain =>
    simp only [decodeMode] at decoded
    split_ifs at decoded with foreign
    simp only [not_or, not_not] at foreign
    rcases foreign with ⟨noScheme, noSymbols, noTrees⟩
    cases decoded
    subst noScheme noSymbols noTrees
    exact ⟨rfl, rfl⟩
  | fec =>
    cases decoded
    exact ⟨rfl, rfl⟩

theorem encode_manifest_body_decode {body : List Byte} {manifest : LosslessSessionManifest}
    (decoded : decodeManifestBody body = some manifest) :
    encodeManifestBody manifest = clearBytes manifestReserved body := by
  simp only [decodeManifestBody] at decoded
  split_ifs at decoded with short shape
  · simp at decoded
  rcases Option.bind_eq_some_iff.mp decoded with ⟨kind, known, decoded⟩
  rcases Option.bind_eq_some_iff.mp decoded with ⟨mode, read, checked⟩
  rcases validated_some_iff.mp checked with ⟨-, rfl⟩
  rw [not_not] at shape
  have bound : 28 ≤ body.length := Nat.not_lt.mp short
  have width : manifestFixedBodyLen = 28 := rfl
  rcases decode_mode_some read with ⟨sameKind, fields⟩
  have count : UInt8.ofNat (body.getD 2 0).toNat = body.getD 2 0 := UInt8.ofNat_toNat
  have trees : (readMany 2 decode16 body (body.getD 2 0).toNat manifestFixedBodyLen).flatMap
      encode16 = slice body 28 body.length := by
    rw [encode_read_many 2 decode16 encode16 (fun chunk => encode16_decode chunk) body _ _
      (le_of_eq shape.symm), shape, width]
  have split : body = slice body 0 1 ++ slice body 1 2 ++ slice body 2 3 ++ slice body 3 4 ++
      slice body 4 8 ++ slice body 8 16 ++ slice body 16 24 ++ slice body 24 26 ++
      slice body 26 28 ++ slice body 28 body.length := by
    simp only [slice_append_slice, Nat.reduceLeDiff, Nat.zero_le, bound]
    exact (slice_whole body).symm
  have mid : (slice body 4 8).length = 4 := slice_length _ _ _ (by omega)
  have bytes : (slice body 8 16).length = 8 := slice_length _ _ _ (by omega)
  have blocks : (slice body 16 24).length = 8 := slice_length _ _ _ (by omega)
  have symbols : (slice body 24 26).length = 2 := slice_length _ _ _ (by omega)
  have zeros : slice body 26 28 = [body.getD 26 0, body.getD 27 0] := by
    rw [← slice_append_slice body 26 27 28 (by omega) (by omega), slice_one body 26 (by omega),
      slice_one body 27 (by omega)]
    rfl
  conv_rhs => rw [split]
  rw [slice_one body 0 (by omega), slice_one body 1 (by omega), slice_one body 2 (by omega),
    slice_one body 3 (by omega), zeros]
  simp only [encodeManifestBody, sameKind, fields, mode_kind_from_wire known, trees,
    encode32_slice body 4 (by omega), encode64_slice body 8 (by omega),
    encode64_slice body 16 (by omega), encode16_slice body 24 (by omega),
    read_many_length, count, clearBytes, manifestReserved, List.foldl_cons, List.foldl_nil]
  simp [mid, bytes, blocks, symbols]
  rfl

theorem encode_range_decode (chunk : List Byte) (width : chunk.length = needRangeLen) :
    encodeRange (decodeRange chunk) = chunk := by
  have sixteen : chunk.length = 16 := width
  rw [encodeRange, decodeRange, encode64_slice chunk 0 (by omega), encode64_slice chunk 8 (by omega),
    slice_append_slice chunk 0 8 16 (by omega) (by omega), ← sixteen, slice_whole]

theorem encode_need_block_decode (chunk : List Byte) (width : chunk.length = needBlockLen) :
    encodeNeedBlock (decodeNeedBlock chunk) = chunk := by
  have ten : chunk.length = 10 := width
  rw [encodeNeedBlock, decodeNeedBlock, encode64_slice chunk 0 (by omega),
    encode16_slice chunk 8 (by omega), slice_append_slice chunk 0 8 10 (by omega) (by omega), ← ten,
    slice_whole]

/-- The counted part of a report body: the count that was read is the count that is written. -/
theorem counted_report_decode (body : List Byte) (tag : UInt8) (count : Nat) (entries : List Byte)
    (enough : needFixedBodyLen ≤ body.length) (tagged : body.getD 4 0 = tag)
    (padding : body.getD 7 0 = 0) (counted : count = (decode16 (slice body 5 7)).toNat)
    (rest : entries = slice body needFixedBodyLen body.length) :
    [tag] ++ encode16 (UInt16.ofNat count) ++ [0] ++ entries = slice body 4 body.length := by
  have bound : 8 ≤ body.length := enough
  have field : encode16 (UInt16.ofNat count) = slice body 5 7 := by
    rw [counted, UInt16.ofNat_toNat, encode16_slice body 5 (by omega)]
  have kind : [tag] = slice body 4 5 := by rw [slice_one body 4 (by omega), tagged]
  have zero : [(0 : Byte)] = slice body 7 8 := by rw [slice_one body 7 (by omega), padding]
  rw [field, kind, zero, rest, slice_append_slice body 4 5 7 (by omega) (by omega),
    slice_append_slice body 4 7 8 (by omega) (by omega)]
  exact slice_append_slice body 4 8 body.length (by omega) bound

theorem encode_report_decode {body : List Byte} {report : NeedReport}
    (enough : needFixedBodyLen ≤ body.length) (decoded : decodeReport body = some report) :
    encodeReport report = slice body 4 body.length := by
  simp only [decodeReport] at decoded
  split_ifs at decoded with padding complete shape plain bounds shape fec bounds shape <;>
    rw [not_not] at padding
  · cases decoded
    simp only [not_or, not_not] at shape
    have counted := counted_report_decode body 0 0 [] enough complete padding shape.1.symm
      (by rw [shape.2]; exact (List.drop_of_length_le (by simp)).symm)
    rw [← counted]
    rfl
  · cases decoded
    simp only [not_or, not_not] at shape bounds
    have length := read_many_length needRangeLen decodeRange body (decode16 (slice body 5 7)).toNat
      needFixedBodyLen
    have nonempty : readMany needRangeLen decodeRange body (decode16 (slice body 5 7)).toNat
        needFixedBodyLen ≠ [] := by
      rw [← List.length_pos_iff, length]
      omega
    have entries := encode_read_many needRangeLen decodeRange encodeRange encode_range_decode body
      (decode16 (slice body 5 7)).toNat needFixedBodyLen (le_of_eq shape.symm)
    rw [← shape] at entries
    rw [encodeReport, if_neg nonempty, length]
    exact counted_report_decode body 1 _ _ enough plain padding rfl entries
  · cases decoded
    simp only [not_or, not_not] at shape bounds
    have length := read_many_length needBlockLen decodeNeedBlock body
      (decode16 (slice body 5 7)).toNat needFixedBodyLen
    have nonempty : readMany needBlockLen decodeNeedBlock body (decode16 (slice body 5 7)).toNat
        needFixedBodyLen ≠ [] := by
      rw [← List.length_pos_iff, length]
      omega
    have entries := encode_read_many needBlockLen decodeNeedBlock encodeNeedBlock
      encode_need_block_decode body (decode16 (slice body 5 7)).toNat needFixedBodyLen
      (le_of_eq shape.symm)
    rw [← shape] at entries
    rw [encodeReport, if_neg nonempty, length]
    exact counted_report_decode body 2 _ _ enough fec padding rfl entries

/-- The body of an accepted control message is the one that is written for it, up to the reserved
bytes of a manifest. The body of a `Need` has none. -/
theorem encode_control_body_decode {ctrlKind : UInt8} {body : List Byte}
    {control : LosslessSessionControl} (decoded : decodeControlBody ctrlKind body = some control) :
    (encodeControlBody control).1.toWire = ctrlKind ∧
      (encodeControlBody control).2 = clearBytes control.reserved body := by
  simp only [decodeControlBody] at decoded
  split_ifs at decoded with manifest ready empty sourceDone width need
  · rcases Option.map_eq_some_iff.mp decoded with ⟨offered, read, rfl⟩
    exact ⟨manifest.symm, encode_manifest_body_decode read⟩
  · cases decoded
    rw [not_not] at empty
    subst empty
    exact ⟨ready.symm, rfl⟩
  · cases decoded
    rw [not_not] at width
    refine ⟨sourceDone.symm, ?_⟩
    rw [encodeControlBody, encode32_slice body 0 (by omega), Nat.zero_add, ← width, slice_whole]
    rfl
  · simp only [decodeNeedBody] at decoded
    split_ifs at decoded with short
    rcases Option.bind_eq_some_iff.mp decoded with ⟨report, read, checked⟩
    rcases validated_some_iff.mp checked with ⟨-, rfl⟩
    have enough := Nat.not_lt.mp short
    have bound : 8 ≤ body.length := enough
    refine ⟨need.symm, ?_⟩
    rw [encodeControlBody, encode32_slice body 0 (by omega), encode_report_decode enough read,
      slice_append_slice body 0 4 body.length (by omega) (by omega), slice_whole]
    rfl

@[simp] theorem clear_bytes_length (offsets : List Nat) (bytes : List Byte) :
    (clearBytes offsets bytes).length = bytes.length := by
  induction offsets generalizing bytes with
  | nil => rfl
  | cons offset rest induction =>
    have step := induction (bytes.set offset 0)
    rwa [List.length_set] at step

/-- What `decode_control` accepted, encoded again, is the declared frame with its reserved bytes
cleared. -/
theorem encode_control_decode {buf : List Byte} {header : LosslessSessionHeader}
    {control : LosslessSessionControl} (decoded : decodeControl buf = some (header, control)) :
    encodeControl header.sessionId control =
      some (clearReserved control.reserved (buf.take (headerLen + header.bodyLen.toNat))) := by
  have valid := decode_control_validates decoded
  simp only [decodeControl, Option.bind_eq_bind, Option.bind_eq_some_iff] at decoded
  rcases decoded with ⟨⟨front, off⟩, read, decoded⟩
  simp only at decoded
  split_ifs at decoded with kind short
  rcases Option.bind_eq_some_iff.mp decoded with ⟨message, bodyRead, checked⟩
  rcases validated_some_iff.mp checked with ⟨-, same⟩
  cases same
  rw [not_not] at kind
  rcases decode_header_some read with ⟨rfl, enough, fields, headerBytes⟩
  rcases encode_control_body_decode bodyRead with ⟨wire, bodyBytes⟩
  have inside : headerLen + header.bodyLen.toNat ≤ buf.length := Nat.not_lt.mp short
  have width : (encodeControlBody control).2.length = header.bodyLen.toNat := by
    rw [bodyBytes, clear_bytes_length, slice_length _ _ _ inside, Nat.add_sub_cancel_left]
  rw [encode_control_some_iff]
  refine ⟨valid, ?_⟩
  rw [wire, width, ← kind, ← fields, headerBytes, bodyBytes, clearReserved, List.take_take,
    Nat.min_eq_left (Nat.le_add_right _ _)]
  rfl

/-! ## Block frames -/

theorem encode_block_data_decode {buf payload : List Byte} {header : LosslessSessionHeader}
    {data : LosslessSessionBlockData}
    (decoded : decodeBlockData buf = some (header, data, payload)) :
    encodeBlockData header.sessionId data.blockId payload = some (clearReserved [] buf) := by
  simp only [decodeBlockData, Option.bind_eq_bind, Option.bind_eq_some_iff] at decoded
  rcases decoded with ⟨⟨front, off⟩, read, decoded⟩
  simp only at decoded
  split_ifs at decoded with kind short whole
  cases decoded
  simp only [not_or, not_not] at kind whole
  rcases decode_header_some read with ⟨rfl, enough, fields, headerBytes⟩
  have body := Nat.not_lt.mp short
  have eight : blockDataFixedBodyLen = 8 := rfl
  have word := header.bodyLen.toNat_lt
  have width : (slice buf (headerLen + 8) (headerLen + header.bodyLen.toNat)).length =
      header.bodyLen.toNat - 8 := by
    rw [slice_length _ _ _ (le_of_eq whole.symm)]
    omega
  have total : blockDataFixedBodyLen +
      (slice buf (headerLen + 8) (headerLen + header.bodyLen.toNat)).length =
        header.bodyLen.toNat := by
    omega
  rw [encode_block_data_some_iff]
  refine ⟨by omega, ?_⟩
  rw [total, ← kind.1, ← kind.2, ← fields, headerBytes, encode64_slice buf headerLen (by omega),
    List.append_assoc, slice_append_slice _ _ _ _ (by omega) (by omega), ← whole, slice_drop]
  rfl

theorem encode_block_symbol_decode {buf payload : List Byte} {header : LosslessSessionHeader}
    {symbol : LosslessSessionBlockSymbol}
    (decoded : decodeBlockSymbol buf = some (header, symbol, payload)) :
    encodeBlockSymbol header.sessionId symbol.blockId symbol.symbolId symbol.treeId payload =
      clearReserved blockSymbolReserved buf := by
  simp only [decodeBlockSymbol, Option.bind_eq_bind, Option.bind_eq_some_iff] at decoded
  rcases decoded with ⟨⟨front, off⟩, read, decoded⟩
  simp only at decoded
  split_ifs at decoded with kind short whole
  cases decoded
  simp only [not_or, not_not] at kind whole
  rcases decode_header_some read with ⟨rfl, enough, fields, headerBytes⟩
  have body := Nat.not_lt.mp short
  have sixteen : blockSymbolFixedBodyLen = 16 := rfl
  have twenty : headerLen = 20 := rfl
  have width : (slice buf (headerLen + 16) (headerLen + header.bodyLen.toNat)).length =
      header.bodyLen.toNat - 16 := by
    rw [slice_length _ _ _ (le_of_eq whole.symm)]
    omega
  have total : blockSymbolFixedBodyLen +
      (slice buf (headerLen + 16) (headerLen + header.bodyLen.toNat)).length =
        header.bodyLen.toNat := by
    omega
  have split : buf.drop headerLen = slice buf 20 28 ++ slice buf 28 32 ++ slice buf 32 34 ++
      [buf.getD 34 0] ++ [buf.getD 35 0] ++ slice buf 36 buf.length := by
    rw [← slice_one buf 34 (by omega), ← slice_one buf 35 (by omega)]
    simp only [slice_append_slice, Nat.reduceAdd, Nat.reduceLeDiff]
    rw [slice_append_slice buf 20 36 buf.length (by omega) (by omega)]
    exact (slice_drop buf 20).symm
  have block : (slice buf 20 28).length = 8 := slice_length _ _ _ (by omega)
  have ident : (slice buf 28 32).length = 4 := slice_length _ _ _ (by omega)
  have tree : (slice buf 32 34).length = 2 := slice_length _ _ _ (by omega)
  rw [encodeBlockSymbol, total, ← kind.1, ← kind.2, ← fields, headerBytes, clearReserved, split,
    whole, twenty, encode64_slice buf 20 (by omega), encode32_slice buf 28 (by omega),
    encode16_slice buf 32 (by omega), List.append_assoc]
  simp [clearBytes, blockSymbolReserved, block, ident, tree]
  rfl

/-! ## The codec as a whole -/

/-- A `Ready` of session 7 whose reserved header byte is not zero. -/
def readyWithPadding : List Byte :=
  [0x52, 0x4C, 0x4D, 0x31, 5, 3, 2, 1, 0, 0, 0, 0, 0, 0, 0, 7, 0, 0, 0, 0]

theorem padding_read_as_ready :
    decodeControl readyWithPadding =
        some (frameHeader .control LosslessSessionCtrlKind.ready.toWire 7 0, .ready) ∧
      encodeControl 7 .ready ≠ some readyWithPadding := by
  decide

/-- Every accepted frame is determined by what it decodes to, up to the reserved bytes that no
decoder reads and what follows the declared end of a control frame. -/
theorem decoded_frames_canonical (buf : List Byte) :
    (∀ header control, decodeControl buf = some (header, control) →
      encodeControl header.sessionId control =
        some (clearReserved control.reserved (buf.take (headerLen + header.bodyLen.toNat)))) ∧
    (∀ header data payload, decodeBlockData buf = some (header, data, payload) →
      encodeBlockData header.sessionId data.blockId payload = some (clearReserved [] buf)) ∧
    ∀ header symbol payload, decodeBlockSymbol buf = some (header, symbol, payload) →
      encodeBlockSymbol header.sessionId symbol.blockId symbol.symbolId symbol.treeId payload =
        clearReserved blockSymbolReserved buf := by
  refine ⟨?_, ?_, ?_⟩
  · intro header control decoded
    exact encode_control_decode decoded
  · intro header data payload decoded
    exact encode_block_data_decode decoded
  · intro header symbol payload decoded
    exact encode_block_symbol_decode decoded

theorem validate_control_own {manifest : LosslessSessionManifest}
    {control : LosslessSessionControl} (accepted : manifest.validateControl control = .ok ()) :
    control.validate = .ok () := by
  rcases bind_ok_iff.mp accepted with ⟨_, _, rest⟩
  rcases bind_ok_iff.mp rest with ⟨_, own, _⟩
  exact own

/-- Every message that validates is written and read back as its canonical form, and nothing is read that
does not validate. Both halves are about the message's own `validate`, which a manifest's
`validateControl` includes. -/
theorem control_codec_round_trip :
    (∀ sessionId control,
      (control.validate = .ok () ∨
        ∃ manifest : LosslessSessionManifest, manifest.validateControl control = .ok ()) →
      ∃ bytes header, encodeControl sessionId control = some bytes ∧
        decodeControl bytes = some (header, control.canonical) ∧ header.sessionId = sessionId) ∧
    ∀ bytes header control, decodeControl bytes = some (header, control) →
      control.validate = .ok () := by
  constructor
  · intro sessionId control accepted
    have valid : control.validate = .ok () := by
      rcases accepted with own | ⟨manifest, checked⟩
      · exact own
      · exact validate_control_own checked
    have encoded := (encode_control_some_iff sessionId control _).mpr ⟨valid, rfl⟩
    exact ⟨_, _, encoded, decode_control_encode encoded, rfl⟩
  · intro bytes header control decoded
    exact decode_control_validates decoded

end Nextmini.Messages
