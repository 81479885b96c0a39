import Nextmini.Messages.ControlFrames

/-!
# Round trip of control frames

Reading back an encoded control message yields its canonical form, in which an empty plain or FEC
report is a complete one. Every field is read at the offset it was written at, whatever the
number of tree ids, ranges or blocks.
-/

namespace Nextmini.Messages
open Nextmini.Library.BigEndian

set_option autoImplicit false

def NeedReport.canonical : NeedReport → NeedReport
  | .complete => .complete
  | .plain ranges => if ranges = [] then .complete else .plain ranges
  | .fec blocks => if blocks = [] then .complete else .fec blocks

def LosslessSessionControl.canonical : LosslessSessionControl → LosslessSessionControl
  | .manifest offered => .manifest offered
  | .ready => .ready
  | .sourceDone roundId => .sourceDone roundId
  | .need roundId report => .need roundId report.canonical

theorem validated_some_iff {Value : Type} {check : Validated} {value result : Value} :
    validated check value = some result ↔ check = .ok () ∧ value = result := by
  cases check <;> simp [validated]

theorem validate_fec_mode_ok_iff (fec : LosslessSessionFecMode) :
    LosslessSessionManifest.validateFec fec = .ok () ↔
      fec.schemeKind ≠ none ∧ fec.symbolsPerBlock ≠ 0 ∧ fec.treeIds ≠ [] ∧
        fec.treeIds.length ≤ maxManifestTreeIds ∧ fec.treeIds.IsChain (· < ·) := by
  simp only [LosslessSessionManifest.validateFec]
  split_ifs with scheme symbols trees tooMany sorted
  · simp [scheme]
  · simp [symbols]
  · simp [trees]
  · simp [Nat.not_le.mpr tooMany]
  · simp [scheme, symbols, trees, Nat.not_lt.mp tooMany, sorted]
  · simp [sorted]

theorem tree_count_fits (manifest : LosslessSessionManifest)
    (valid : manifest.validate = .ok ()) :
    (manifestFecFields manifest.mode).treeIds.length < 256 := by
  cases mode : manifest.mode with
  | plain => simp [manifestFecFields]
  | fec fec =>
    have checked := ((validate_manifest_ok_iff manifest).mp valid).2.2 fec mode
    have bounded := ((validate_fec_mode_ok_iff fec).mp checked).2.2.2.1
    simp only [maxManifestTreeIds] at bounded
    simp only [manifestFecFields]
    omega

theorem encode_manifest_body_length (manifest : LosslessSessionManifest) :
    (encodeManifestBody manifest).length =
      manifestFixedBodyLen + (manifestFecFields manifest.mode).treeIds.length * 2 := by
  simp only [encodeManifestBody, List.length_append, flat_map_length_const 2 encode16 encode16_length]
  simp [manifestFixedBodyLen]

theorem manifest_tree_ids_encode (manifest : LosslessSessionManifest) :
    readMany 2 decode16 (encodeManifestBody manifest)
        (manifestFecFields manifest.mode).treeIds.length manifestFixedBodyLen =
      (manifestFecFields manifest.mode).treeIds :=
  read_many_encode 2 decode16 encode16 encode16_length decode16_encode
    ([manifest.mode.kind.toWire, (manifestFecFields manifest.mode).scheme,
        UInt8.ofNat (manifestFecFields manifest.mode).treeIds.length, 0] ++
      encode32 manifest.blockSize ++ encode64 manifest.totalBytes ++
      encode64 manifest.totalBlocks ++
      encode16 (manifestFecFields manifest.mode).symbolsPerBlock ++ encode16 0)
    (manifestFecFields manifest.mode).treeIds

theorem decode_manifest_body_encode (manifest : LosslessSessionManifest)
    (valid : manifest.validate = .ok ()) :
    decodeManifestBody (encodeManifestBody manifest) = some manifest := by
  have enough : ¬(encodeManifestBody manifest).length < manifestFixedBodyLen := by
    rw [encode_manifest_body_length]
    omega
  have count : (UInt8.ofNat (manifestFecFields manifest.mode).treeIds.length).toNat =
      (manifestFecFields manifest.mode).treeIds.length :=
    UInt8.toNat_ofNat_of_lt' (tree_count_fits manifest valid)
  have modeField : (encodeManifestBody manifest).getD 0 0 = manifest.mode.kind.toWire := rfl
  have schemeField : (encodeManifestBody manifest).getD 1 0 =
      (manifestFecFields manifest.mode).scheme := rfl
  have countField : (encodeManifestBody manifest).getD 2 0 =
      UInt8.ofNat (manifestFecFields manifest.mode).treeIds.length := rfl
  have blockSizeField : slice (encodeManifestBody manifest) 4 8 = encode32 manifest.blockSize := rfl
  have totalBytesField :
      slice (encodeManifestBody manifest) 8 16 = encode64 manifest.totalBytes := rfl
  have totalBlocksField :
      slice (encodeManifestBody manifest) 16 24 = encode64 manifest.totalBlocks := rfl
  have symbolsField : slice (encodeManifestBody manifest) 24 26 =
      encode16 (manifestFecFields manifest.mode).symbolsPerBlock := rfl
  have kind : LosslessSessionModeKind.fromWire manifest.mode.kind.toWire =
      some manifest.mode.kind := by
    cases manifest.mode <;> rfl
  rw [decodeManifestBody, if_neg enough, modeField, kind]
  simp only [Option.bind_eq_bind, Option.bind_some]
  rw [countField, count, manifest_tree_ids_encode, encode_manifest_body_length,
    if_neg (not_not.mpr rfl), schemeField, blockSizeField, totalBytesField, totalBlocksField,
    symbolsField]
  obtain ⟨blockSize, totalBytes, totalBlocks, mode⟩ := manifest
  cases mode with
  | plain => simp [manifestFecFields, LosslessSessionMode.kind, decodeMode, valid, validated]
  | fec fec => simp [manifestFecFields, LosslessSessionMode.kind, decodeMode, valid, validated]

theorem decode_range_encode (range : MissingBlockRange) : decodeRange (encodeRange range) = range := by
  have start : slice (encodeRange range) 0 8 = encode64 range.startBlockId := rfl
  have stop : slice (encodeRange range) 8 16 = encode64 range.endBlockId := rfl
  rw [decodeRange, start, stop, decode64_encode, decode64_encode]

theorem decode_need_block_encode (block : NeedBlock) :
    decodeNeedBlock (encodeNeedBlock block) = block := by
  have blockId : slice (encodeNeedBlock block) 0 8 = encode64 block.blockId := rfl
  have deficit : slice (encodeNeedBlock block) 8 10 = encode16 block.deficitSymbols := rfl
  rw [decodeNeedBlock, blockId, deficit, decode64_encode, decode16_encode]

theorem decode_report_complete (roundId : UInt32) :
    decodeReport (encode32 roundId ++ [0, 0, 0, 0]) = some .complete := by
  have kind : (encode32 roundId ++ [0, 0, 0, 0]).getD 4 0 = 0 := rfl
  have count : slice (encode32 roundId ++ [0, 0, 0, 0]) 5 7 = [0, 0] := rfl
  have pad : (encode32 roundId ++ [0, 0, 0, 0]).getD 7 0 = 0 := rfl
  rw [decodeReport, kind, count, pad]
  simp [needFixedBodyLen, decode16, decodeBE]

/-- The first eight bytes of a report body with counted entries. -/
def countedHead (roundId : UInt32) (tag : UInt8) (count : Nat) : List Byte :=
  encode32 roundId ++ [tag] ++ encode16 (UInt16.ofNat count) ++ [0]

theorem counted_head_fields (roundId : UInt32) (tag : UInt8) (count : Nat) (small : count < 2 ^ 16)
    (entries : List Byte) :
    (countedHead roundId tag count ++ entries).getD 4 0 = tag ∧
      (decode16 (slice (countedHead roundId tag count ++ entries) 5 7)).toNat = count ∧
        (countedHead roundId tag count ++ entries).getD 7 0 = 0 := by
  have field : slice (countedHead roundId tag count ++ entries) 5 7 =
      encode16 (UInt16.ofNat count) := rfl
  refine ⟨rfl, ?_, rfl⟩
  rw [field, decode16_encode, UInt16.toNat_ofNat_of_lt' small]

theorem counted_head_length (roundId : UInt32) (tag : UInt8) (count : Nat) :
    (countedHead roundId tag count).length = needFixedBodyLen := by
  simp [countedHead, needFixedBodyLen]

theorem encode_range_length (range : MissingBlockRange) :
    (encodeRange range).length = needRangeLen := by
  simp [encodeRange, needRangeLen]

theorem encode_need_block_length (block : NeedBlock) :
    (encodeNeedBlock block).length = needBlockLen := by
  simp [encodeNeedBlock, needBlockLen]

theorem decode_report_plain (roundId : UInt32) (ranges : List MissingBlockRange)
    (nonempty : ranges ≠ []) (bounded : ranges.length ≤ maxNeedRanges) :
    decodeReport (encode32 roundId ++ encodeReport (.plain ranges)) = some (.plain ranges) := by
  have shape : encode32 roundId ++ encodeReport (.plain ranges) =
      countedHead roundId 1 ranges.length ++ ranges.flatMap encodeRange := by
    simp [encodeReport, nonempty, countedHead]
  have small : ranges.length < 2 ^ 16 := by
    simp only [maxNeedRanges] at bounded
    omega
  obtain ⟨kind, count, pad⟩ :=
    counted_head_fields roundId 1 ranges.length small (ranges.flatMap encodeRange)
  have read := read_many_encode needRangeLen decodeRange encodeRange encode_range_length
    decode_range_encode (countedHead roundId 1 ranges.length) ranges
  rw [counted_head_length] at read
  rw [shape, decodeReport, kind, count, pad, read, List.length_append, counted_head_length,
    flat_map_length_const needRangeLen encodeRange encode_range_length]
  simp [nonempty, Nat.not_lt.mpr bounded]

theorem decode_report_fec (roundId : UInt32) (blocks : List NeedBlock)
    (nonempty : blocks ≠ []) (bounded : blocks.length ≤ maxNeedBlocks) :
    decodeReport (encode32 roundId ++ encodeReport (.fec blocks)) = some (.fec blocks) := by
  have shape : encode32 roundId ++ encodeReport (.fec blocks) =
      countedHead roundId 2 blocks.length ++ blocks.flatMap encodeNeedBlock := by
    simp [encodeReport, nonempty, countedHead]
  have small : blocks.length < 2 ^ 16 := by
    simp only [maxNeedBlocks] at bounded
    omega
  obtain ⟨kind, count, pad⟩ :=
    counted_head_fields roundId 2 blocks.length small (blocks.flatMap encodeNeedBlock)
  have read := read_many_encode needBlockLen decodeNeedBlock encodeNeedBlock
    encode_need_block_length decode_need_block_encode (countedHead roundId 2 blocks.length) blocks
  rw [counted_head_length] at read
  rw [shape, decodeReport, kind, count, pad, read, List.length_append, counted_head_length,
    flat_map_length_const needBlockLen encodeNeedBlock encode_need_block_length]
  simp [nonempty, Nat.not_lt.mpr bounded]

theorem decode_report_encode (roundId : UInt32) (report : NeedReport)
    (valid : report.validate = .ok ()) :
    decodeReport (encode32 roundId ++ encodeReport report) = some report.canonical := by
  cases report with
  | complete => exact decode_report_complete roundId
  | plain ranges =>
    by_cases empty : ranges = []
    · subst ranges
      exact decode_report_complete roundId
    · rw [decode_report_plain roundId ranges empty ((validate_plain_ok_iff ranges).mp valid).1]
      simp [NeedReport.canonical, empty]
  | fec blocks =>
    by_cases empty : blocks = []
    · subst blocks
      exact decode_report_complete roundId
    · rw [decode_report_fec roundId blocks empty ((validate_fec_ok_iff blocks).mp valid).1]
      simp [NeedReport.canonical, empty]

theorem canonical_report_valid (report : NeedReport) (valid : report.validate = .ok ()) :
    report.canonical.validate = .ok () := by
  cases report with
  | complete => rfl
  | plain ranges =>
    simp only [NeedReport.canonical]
    split_ifs
    · rfl
    · exact valid
  | fec blocks =>
    simp only [NeedReport.canonical]
    split_ifs
    · rfl
    · exact valid

theorem canonical_control_valid (control : LosslessSessionControl)
    (valid : control.validate = .ok ()) : control.canonical.validate = .ok () := by
  cases control with
  | manifest offered => exact valid
  | ready => rfl
  | sourceDone roundId => rfl
  | need roundId report => exact canonical_report_valid report valid

theorem decode_need_body_encode (roundId : UInt32) (report : NeedReport)
    (valid : report.validate = .ok ()) :
    decodeNeedBody (encode32 roundId ++ encodeReport report) =
      some (.need roundId report.canonical) := by
  have four : 4 ≤ (encodeReport report).length := by
    cases report with
    | complete => simp [encodeReport]
    | plain ranges =>
      simp only [encodeReport]
      split_ifs
      · simp
      · simp
        omega
    | fec blocks =>
      simp only [encodeReport]
      split_ifs
      · simp
      · simp
        omega
  have enough : ¬(encode32 roundId ++ encodeReport report).length < needFixedBodyLen := by
    rw [List.length_append, encode32_length, needFixedBodyLen]
    omega
  have round : slice (encode32 roundId ++ encodeReport report) 0 4 = encode32 roundId :=
    slice_append [] (encode32 roundId) (encodeReport report)
  rw [decodeNeedBody, if_neg enough, decode_report_encode roundId report valid, round]
  simp [validated, canonical_report_valid report valid]

theorem decode_control_body_encode (control : LosslessSessionControl)
    (valid : control.validate = .ok ()) :
    decodeControlBody (encodeControlBody control).1.toWire (encodeControlBody control).2 =
      some control.canonical := by
  cases control with
  | manifest offered =>
    have decoded := decode_manifest_body_encode offered valid
    simp [decodeControlBody, encodeControlBody, decoded, LosslessSessionControl.canonical]
  | ready => rfl
  | sourceDone roundId =>
    have round : slice (encode32 roundId) 0 4 = encode32 roundId := by
      have whole := slice_append [] (encode32 roundId) []
      simpa using whole
    simp [decodeControlBody, encodeControlBody, round, LosslessSessionControl.canonical,
      LosslessSessionCtrlKind.toWire]
  | need roundId report =>
    have decoded := decode_need_body_encode roundId report valid
    simp [decodeControlBody, encodeControlBody, decoded, LosslessSessionControl.canonical,
      LosslessSessionCtrlKind.toWire]

theorem encode_control_body_length (control : LosslessSessionControl)
    (valid : control.validate = .ok ()) : (encodeControlBody control).2.length < 2 ^ 32 := by
  cases control with
  | manifest offered =>
    have trees := tree_count_fits offered valid
    simp only [encodeControlBody, encode_manifest_body_length, manifestFixedBodyLen]
    omega
  | ready => simp [encodeControlBody]
  | sourceDone roundId => simp [encodeControlBody]
  | need roundId report =>
    cases report with
    | complete => simp [encodeControlBody, encodeReport]
    | plain ranges =>
      have bounded := ((validate_plain_ok_iff ranges).mp valid).1
      have entries := flat_map_length_const needRangeLen encodeRange encode_range_length ranges
      simp only [maxNeedRanges, needRangeLen] at bounded entries
      simp only [encodeControlBody, encodeReport]
      split_ifs
      · simp
      · simp [entries]
        omega
    | fec blocks =>
      have bounded := ((validate_fec_ok_iff blocks).mp valid).1
      have entries :=
        flat_map_length_const needBlockLen encodeNeedBlock encode_need_block_length blocks
      simp only [maxNeedBlocks, needBlockLen] at bounded entries
      simp only [encodeControlBody, encodeReport]
      split_ifs
      · simp
      · simp [entries]
        omega

theorem encode_control_some_iff (sessionId : UInt64) (control : LosslessSessionControl)
    (bytes : List Byte) :
    encodeControl sessionId control = some bytes ↔
      control.validate = .ok () ∧
        (frameHeader .control (encodeControlBody control).1.toWire sessionId
            (encodeControlBody control).2.length).encodeInto ++ (encodeControlBody control).2 =
          bytes := by
  cases valid : control.validate with
  | error reason => simp [encodeControl, valid]
  | ok value => simp [encodeControl, valid]

theorem decode_control_encode {sessionId : UInt64} {control : LosslessSessionControl}
    {bytes : List Byte} (encoded : encodeControl sessionId control = some bytes) :
    decodeControl bytes =
      some (frameHeader .control (encodeControlBody control).1.toWire sessionId
        (encodeControlBody control).2.length, control.canonical) := by
  obtain ⟨valid, rfl⟩ := (encode_control_some_iff sessionId control bytes).mp encoded
  have fits := encode_control_body_length control valid
  have length : (UInt32.ofNat (encodeControlBody control).2.length).toNat =
      (encodeControlBody control).2.length := UInt32.toNat_ofNat_of_lt' fits
  have body : slice ((frameHeader .control (encodeControlBody control).1.toWire sessionId
      (encodeControlBody control).2.length).encodeInto ++ (encodeControlBody control).2)
        headerLen (headerLen + (encodeControlBody control).2.length) =
      (encodeControlBody control).2 := by
    have middle := slice_append (frameHeader .control (encodeControlBody control).1.toWire
      sessionId (encodeControlBody control).2.length).encodeInto (encodeControlBody control).2 []
    rwa [encode_header_length, List.append_nil] at middle
  rw [decodeControl, decode_header_encode]
  simp only [Option.bind_eq_bind, Option.bind_some, frameHeader, length]
  simp only [frameHeader] at body
  rw [body, decode_control_body_encode control valid]
  simp [validated, canonical_control_valid control valid]

theorem decode_control_validates {bytes : List Byte} {header : LosslessSessionHeader}
    {control : LosslessSessionControl} (decoded : decodeControl bytes = some (header, control)) :
    control.validate = .ok () := by
  simp only [decodeControl, Option.bind_eq_bind, Option.bind_eq_some_iff] at decoded
  obtain ⟨⟨front, off⟩, _, decoded⟩ := decoded
  simp only at decoded
  split_ifs at decoded
  obtain ⟨body, _, checked⟩ := Option.bind_eq_some_iff.mp decoded
  obtain ⟨valid, same⟩ := validated_some_iff.mp checked
  obtain ⟨-, rfl⟩ := Prod.mk.inj same
  exact valid

end Nextmini.Messages
