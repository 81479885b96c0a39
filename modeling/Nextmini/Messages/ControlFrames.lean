import Nextmini.Library.BigEndian
import Nextmini.Messages.SessionValidation

/-!
# Control frames

The fixed twenty-byte header of every session frame and the bodies of the control frames. The
encoder writes at fixed offsets of a zeroed buffer, which is the concatenation below; the decoder
reads slices at the same offsets, and a frame may be followed by further bytes.
-/

namespace Nextmini.Messages

open Nextmini.Library.BigEndian

set_option autoImplicit false

/-! ## Header -/

structure LosslessSessionHeader where
  magic : UInt32
  version : UInt8
  kind : LosslessSessionKind
  ctrlKind : UInt8
  sessionId : UInt64
  bodyLen : UInt32
  deriving DecidableEq, Repr

structure LosslessSessionRawHeader where
  magic : UInt32
  version : UInt8
  kind : UInt8
  ctrlKind : UInt8
  sessionId : UInt64
  bodyLen : UInt32
  deriving DecidableEq, Repr

def headerLen : Nat := 4 + 1 + 1 + 1 + 1 + 8 + 4

def LosslessSessionHeader.encodeInto (header : LosslessSessionHeader) : List Byte :=
  encode32 header.magic ++ [header.version, header.kind.toWire, header.ctrlKind, 0] ++
    encode64 header.sessionId ++ encode32 header.bodyLen

def peekHeader (buf : List Byte) : Option LosslessSessionRawHeader :=
  if buf.length < headerLen then none
  else
    let magic := decode32 (slice buf 0 4)
    if magic ≠ losslessSessionMagic then none
    else some
      { magic := magic
        version := buf.getD 4 0
        kind := buf.getD 5 0
        ctrlKind := buf.getD 6 0
        sessionId := decode64 (slice buf 8 16)
        bodyLen := decode32 (slice buf 16 20) }

def kindFromWire (raw : UInt8) : Option LosslessSessionKind :=
  if raw = 1 then some .blockData
  else if raw = 2 then some .blockSymbol
  else if raw = 3 then some .control
  else none

def LosslessSessionHeader.decodeFrom (buf : List Byte) : Option (LosslessSessionHeader × Nat) := do
  let raw ← peekHeader buf
  if raw.version ≠ losslessSessionVersion then none
  else
    let kind ← kindFromWire raw.kind
    some
      ({ magic := raw.magic
         version := raw.version
         kind := kind
         ctrlKind := raw.ctrlKind
         sessionId := raw.sessionId
         bodyLen := raw.bodyLen }, headerLen)

/-- The header the encoders write: the protocol's own magic and version. -/
def frameHeader (kind : LosslessSessionKind) (ctrlKind : UInt8) (sessionId : UInt64)
    (bodyLen : Nat) : LosslessSessionHeader where
  magic := losslessSessionMagic
  version := losslessSessionVersion
  kind := kind
  ctrlKind := ctrlKind
  sessionId := sessionId
  bodyLen := UInt32.ofNat bodyLen

@[simp] theorem encode_header_length (header : LosslessSessionHeader) :
    header.encodeInto.length = headerLen := by
  simp [LosslessSessionHeader.encodeInto, headerLen]

@[simp] theorem kind_from_wire (kind : LosslessSessionKind) :
    kindFromWire kind.toWire = some kind := by
  cases kind <;> rfl

theorem decode_header_encode (kind : LosslessSessionKind) (ctrlKind : UInt8) (sessionId : UInt64)
    (bodyLen : Nat) (body : List Byte) :
    LosslessSessionHeader.decodeFrom
        ((frameHeader kind ctrlKind sessionId bodyLen).encodeInto ++ body) =
      some (frameHeader kind ctrlKind sessionId bodyLen, headerLen) := by
  have enough : ¬(((frameHeader kind ctrlKind sessionId bodyLen).encodeInto ++ body).length <
      headerLen) := by simp
  have magic : slice ((frameHeader kind ctrlKind sessionId bodyLen).encodeInto ++ body) 0 4 =
      encode32 losslessSessionMagic := rfl
  have session : slice ((frameHeader kind ctrlKind sessionId bodyLen).encodeInto ++ body) 8 16 =
      encode64 sessionId := rfl
  have length : slice ((frameHeader kind ctrlKind sessionId bodyLen).encodeInto ++ body) 16 20 =
      encode32 (UInt32.ofNat bodyLen) := rfl
  have peeked : peekHeader ((frameHeader kind ctrlKind sessionId bodyLen).encodeInto ++ body) =
      some
        { magic := losslessSessionMagic
          version := losslessSessionVersion
          kind := kind.toWire
          ctrlKind := ctrlKind
          sessionId := sessionId
          bodyLen := UInt32.ofNat bodyLen } := by
    rw [peekHeader, if_neg enough, magic, session, length]
    simp only [decode32_encode, decode64_encode]
    rfl
  rw [LosslessSessionHeader.decodeFrom, peeked]
  simp [frameHeader]

/-! ## Control bodies -/

def manifestFixedBodyLen : Nat := 1 + 1 + 1 + 1 + 4 + 8 + 8 + 2 + 2
def needFixedBodyLen : Nat := 4 + 1 + 2 + 1
def needRangeLen : Nat := 8 + 8
def needBlockLen : Nat := 8 + 2

def encodeRange (range : MissingBlockRange) : List Byte :=
  encode64 range.startBlockId ++ encode64 range.endBlockId

def encodeNeedBlock (block : NeedBlock) : List Byte :=
  encode64 block.blockId ++ encode16 block.deficitSymbols

/-- The scheme, symbol count and tree ids written for a mode: zeros for a plain manifest. -/
def manifestFecFields : LosslessSessionMode → LosslessSessionFecMode
  | .plain => ⟨0, 0, []⟩
  | .fec fec => fec

def encodeManifestBody (manifest : LosslessSessionManifest) : List Byte :=
  let fec := manifestFecFields manifest.mode
  [manifest.mode.kind.toWire, fec.scheme, UInt8.ofNat fec.treeIds.length, 0] ++
    encode32 manifest.blockSize ++ encode64 manifest.totalBytes ++
    encode64 manifest.totalBlocks ++ encode16 fec.symbolsPerBlock ++ encode16 0 ++
    fec.treeIds.flatMap encode16

/-- The tail of a report body: kind, count, a reserved byte and the counted entries. An empty
plain or FEC report is written as a complete one. -/
def encodeReport : NeedReport → List Byte
  | .complete => [0, 0, 0, 0]
  | .plain ranges =>
      if ranges = [] then [0, 0, 0, 0]
      else [1] ++ encode16 (UInt16.ofNat ranges.length) ++ [0] ++ ranges.flatMap encodeRange
  | .fec blocks =>
      if blocks = [] then [0, 0, 0, 0]
      else [2] ++ encode16 (UInt16.ofNat blocks.length) ++ [0] ++ blocks.flatMap encodeNeedBlock

def encodeControlBody : LosslessSessionControl → LosslessSessionCtrlKind × List Byte
  | .manifest manifest => (.manifest, encodeManifestBody manifest)
  | .ready => (.ready, [])
  | .sourceDone roundId => (.sourceDone, encode32 roundId)
  | .need roundId report => (.need, encode32 roundId ++ encodeReport report)

/-- `none` is the panic of the encoder's `expect` on a message that does not validate. -/
def encodeControl (sessionId : UInt64) (control : LosslessSessionControl) : Option (List Byte) :=
  match control.validate with
  | .error _ => none
  | .ok () =>
      let (ctrlKind, body) := encodeControlBody control
      some ((frameHeader .control ctrlKind.toWire sessionId body.length).encodeInto ++ body)

def decodeRange (bytes : List Byte) : MissingBlockRange where
  startBlockId := decode64 (slice bytes 0 8)
  endBlockId := decode64 (slice bytes 8 16)

def decodeNeedBlock (bytes : List Byte) : NeedBlock where
  blockId := decode64 (slice bytes 0 8)
  deficitSymbols := decode16 (slice bytes 8 10)

/-- `check.ok()?` in front of a value. -/
def validated {Value : Type} (check : Validated) (value : Value) : Option Value :=
  match check with
  | .error _ => none
  | .ok () => some value

def decodeMode (modeKind : LosslessSessionModeKind) (scheme : UInt8) (symbolsPerBlock : UInt16)
    (treeIds : List UInt16) : Option LosslessSessionMode :=
  match modeKind with
  | .plain =>
      if scheme ≠ 0 ∨ symbolsPerBlock ≠ 0 ∨ treeIds ≠ [] then none else some .plain
  | .fec => some (.fec ⟨scheme, symbolsPerBlock, treeIds⟩)

def decodeManifestBody (body : List Byte) : Option LosslessSessionManifest :=
  if body.length < manifestFixedBodyLen then none
  else do
    let modeKind ← LosslessSessionModeKind.fromWire (body.getD 0 0)
    let treeCount := (body.getD 2 0).toNat
    if body.length ≠ manifestFixedBodyLen + treeCount * 2 then none
    else
      let treeIds := readMany 2 decode16 body treeCount manifestFixedBodyLen
      let mode ← decodeMode modeKind (body.getD 1 0) (decode16 (slice body 24 26)) treeIds
      let manifest : LosslessSessionManifest :=
        ⟨decode32 (slice body 4 8), decode64 (slice body 8 16), decode64 (slice body 16 24), mode⟩
      validated manifest.validate manifest

def decodeReport (body : List Byte) : Option NeedReport :=
  let reportKind := body.getD 4 0
  let reportCount := (decode16 (slice body 5 7)).toNat
  if body.getD 7 0 ≠ 0 then none
  else if reportKind = 0 then
    if reportCount ≠ 0 ∨ body.length ≠ needFixedBodyLen then none else some .complete
  else if reportKind = 1 then
    if reportCount = 0 ∨ maxNeedRanges < reportCount then none
    else if body.length ≠ needFixedBodyLen + reportCount * needRangeLen then none
    else some (.plain (readMany needRangeLen decodeRange body reportCount needFixedBodyLen))
  else if reportKind = 2 then
    if reportCount = 0 ∨ maxNeedBlocks < reportCount then none
    else if body.length ≠ needFixedBodyLen + reportCount * needBlockLen then none
    else some (.fec (readMany needBlockLen decodeNeedBlock body reportCount needFixedBodyLen))
  else none

def decodeNeedBody (body : List Byte) : Option LosslessSessionControl :=
  if body.length < needFixedBodyLen then none
  else do
    let report ← decodeReport body
    validated report.validate (.need (decode32 (slice body 0 4)) report)

def decodeControlBody (ctrlKind : UInt8) (body : List Byte) : Option LosslessSessionControl :=
  if ctrlKind = LosslessSessionCtrlKind.manifest.toWire then
    (decodeManifestBody body).map .manifest
  else if ctrlKind = LosslessSessionCtrlKind.ready.toWire then
    if body ≠ [] then none else some .ready
  else if ctrlKind = LosslessSessionCtrlKind.sourceDone.toWire then
    if body.length ≠ 4 then none else some (.sourceDone (decode32 (slice body 0 4)))
  else if ctrlKind = LosslessSessionCtrlKind.need.toWire then decodeNeedBody body
  else none

def decodeControl (buf : List Byte) :
    Option (LosslessSessionHeader × LosslessSessionControl) := do
  let (header, off) ← LosslessSessionHeader.decodeFrom buf
  if header.kind ≠ .control then none
  else if buf.length < off + header.bodyLen.toNat then none
  else
    let body := slice buf off (off + header.bodyLen.toNat)
    let control ← decodeControlBody header.ctrlKind body
    validated control.validate (header, control)

end Nextmini.Messages
