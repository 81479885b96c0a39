import Mathlib.Data.Nat.Init

/-!
# Lossless session messages

The wire-level types of the block-first lossless session protocol: manifests, end-of-round
reports and control messages. Fields keep the machine widths they have on the wire.
-/

namespace Nextmini.Messages

set_option autoImplicit false

def losslessSessionMagic : UInt32 := 0x524C4D31
def losslessSessionVersion : UInt8 := 5
def maxManifestTreeIds : Nat := 255
def maxNeedRanges : Nat := 255
def maxNeedBlocks : Nat := 65535

inductive LosslessSessionKind where
  | blockData
  | blockSymbol
  | control
  deriving DecidableEq, Repr

def LosslessSessionKind.toWire : LosslessSessionKind → UInt8
  | .blockData => 1
  | .blockSymbol => 2
  | .control => 3

inductive LosslessSessionCtrlKind where
  | manifest
  | ready
  | sourceDone
  | need
  deriving DecidableEq, Repr

def LosslessSessionCtrlKind.toWire : LosslessSessionCtrlKind → UInt8
  | .manifest => 1
  | .ready => 2
  | .sourceDone => 5
  | .need => 6

inductive LosslessSessionModeKind where
  | plain
  | fec
  deriving DecidableEq, Repr

def LosslessSessionModeKind.toWire : LosslessSessionModeKind → UInt8
  | .plain => 1
  | .fec => 2

def LosslessSessionModeKind.fromWire (raw : UInt8) : Option LosslessSessionModeKind :=
  if raw = 1 then some .plain else if raw = 2 then some .fec else none

inductive FecScheme where
  | raptorQ
  deriving DecidableEq, Repr

def FecScheme.toWire : FecScheme → UInt8
  | .raptorQ => 1

def FecScheme.fromWire (raw : UInt8) : Option FecScheme :=
  if raw = 1 then some .raptorQ else none

/-- The scheme stays a raw byte, so that a manifest with an unknown scheme can still be named in
its rejection. -/
structure LosslessSessionFecMode where
  scheme : UInt8
  symbolsPerBlock : UInt16
  treeIds : List UInt16
  deriving DecidableEq, Repr

def LosslessSessionFecMode.newRaptorq (symbolsPerBlock : UInt16) (treeIds : List UInt16) :
    LosslessSessionFecMode where
  scheme := FecScheme.raptorQ.toWire
  symbolsPerBlock := symbolsPerBlock
  treeIds := treeIds

def LosslessSessionFecMode.schemeKind (fec : LosslessSessionFecMode) : Option FecScheme :=
  FecScheme.fromWire fec.scheme

inductive LosslessSessionMode where
  | plain
  | fec (fec : LosslessSessionFecMode)
  deriving DecidableEq, Repr

def LosslessSessionMode.kind : LosslessSessionMode → LosslessSessionModeKind
  | .plain => .plain
  | .fec _ => .fec

def LosslessSessionMode.isFec : LosslessSessionMode → Bool
  | .plain => false
  | .fec _ => true

structure LosslessSessionManifest where
  blockSize : UInt32
  totalBytes : UInt64
  totalBlocks : UInt64
  mode : LosslessSessionMode
  deriving DecidableEq, Repr

/-- The half-open range `[startBlockId, endBlockId)` of missing blocks. -/
structure MissingBlockRange where
  startBlockId : UInt64
  endBlockId : UInt64
  deriving DecidableEq, Repr

structure NeedBlock where
  blockId : UInt64
  deficitSymbols : UInt16
  deriving DecidableEq, Repr

inductive NeedReport where
  | complete
  | plain (ranges : List MissingBlockRange)
  | fec (blocks : List NeedBlock)
  deriving DecidableEq, Repr

structure LosslessSessionBlockData where
  blockId : UInt64
  deriving DecidableEq, Repr

structure LosslessSessionBlockSymbol where
  blockId : UInt64
  symbolId : UInt32
  treeId : UInt16
  deriving DecidableEq, Repr

inductive LosslessSessionControl where
  | manifest (manifest : LosslessSessionManifest)
  | ready
  | sourceDone (roundId : UInt32)
  | need (roundId : UInt32) (report : NeedReport)
  deriving DecidableEq, Repr

inductive LosslessSessionValidationError where
  | zeroBlockSize
  | inconsistentTotalBlocks (expected actual : UInt64)
  | unknownFecScheme (scheme : UInt8)
  | zeroSymbolsPerBlock
  | fecTreeIdsEmpty
  | tooManyTreeIds (configured max : Nat)
  | treeIdsMustBeSortedUnique
  | zeroDeficitSymbols
  | blockDataRequiresPlainMode
  | blockSymbolRequiresFecMode
  | needRequiresPlainMode
  | needRequiresFecMode
  | blockIdOutOfRange (blockId totalBlocks : UInt64)
  | blockDataLenMismatch (blockId : UInt64) (expected actual : UInt32)
  | blockSymbolTreeIdNotAdvertised (treeId : UInt16)
  | missingBlockRangeInvalid (startBlockId endBlockId : UInt64)
  | needRangeOutOfRange (endBlockId totalBlocks : UInt64)
  | needRangesMustBeSortedMerged
  | tooManyNeedRanges (configured max : Nat)
  | needBlocksMustBeSortedUnique
  | tooManyNeedBlocks (configured max : Nat)
  deriving DecidableEq, Repr

end Nextmini.Messages
