import Nextmini.Messages.SessionTypes
import Mathlib.Algebra.Order.Floor.Div
import Mathlib.Data.List.Chain

/-!
# Message validation

The checks every control message passes before it is encoded and after it is decoded, in the
order in which the code makes them, and what a message that passes them looks like.
-/

namespace Nextmini.Messages

set_option autoImplicit false

abbrev Validated := Except LosslessSessionValidationError Unit

/-- The loop over the ranges of a plain report; `previousEnd` is the end of the range before. -/
def validateRanges : Option UInt64 → List MissingBlockRange → Validated
  | _, [] => .ok ()
  | previousEnd, range :: rest =>
      if range.endBlockId ≤ range.startBlockId then
        .error (.missingBlockRangeInvalid range.startBlockId range.endBlockId)
      else if ∃ previous ∈ previousEnd, range.startBlockId ≤ previous then
        .error .needRangesMustBeSortedMerged
      else validateRanges (some range.endBlockId) rest

def NeedReport.validate : NeedReport → Validated
  | .complete => .ok ()
  | .plain ranges =>
      if maxNeedRanges < ranges.length then
        .error (.tooManyNeedRanges ranges.length maxNeedRanges)
      else validateRanges none ranges
  | .fec blocks =>
      if maxNeedBlocks < blocks.length then
        .error (.tooManyNeedBlocks blocks.length maxNeedBlocks)
      else if ∃ status ∈ blocks, status.deficitSymbols = 0 then
        .error .zeroDeficitSymbols
      else if ¬blocks.IsChain (fun left right => left.blockId < right.blockId) then
        .error .needBlocksMustBeSortedUnique
      else .ok ()

def validateRangeEnds (totalBlocks : UInt64) : List MissingBlockRange → Validated
  | [] => .ok ()
  | range :: rest =>
      if totalBlocks < range.endBlockId then
        .error (.needRangeOutOfRange range.endBlockId totalBlocks)
      else validateRangeEnds totalBlocks rest

def validateNeedBlockIds (totalBlocks : UInt64) : List NeedBlock → Validated
  | [] => .ok ()
  | status :: rest =>
      if totalBlocks ≤ status.blockId then
        .error (.blockIdOutOfRange status.blockId totalBlocks)
      else validateNeedBlockIds totalBlocks rest

def NeedReport.validateAgainstTotalBlocks (report : NeedReport) (totalBlocks : UInt64) :
    Validated := do
  report.validate
  match report with
  | .complete => .ok ()
  | .plain ranges => validateRangeEnds totalBlocks ranges
  | .fec blocks => validateNeedBlockIds totalBlocks blocks

namespace LosslessSessionManifest

def totalBlocksFor (totalBytes : UInt64) (blockSize : UInt32) :
    Except LosslessSessionValidationError UInt64 :=
  if blockSize = 0 then .error .zeroBlockSize
  else if totalBytes = 0 then .ok 0
  else .ok (UInt64.ofNat (totalBytes.toNat ⌈/⌉ blockSize.toNat))

def validateFec (fec : LosslessSessionFecMode) : Validated :=
  if fec.schemeKind = none then .error (.unknownFecScheme fec.scheme)
  else if fec.symbolsPerBlock = 0 then .error .zeroSymbolsPerBlock
  else if fec.treeIds = [] then .error .fecTreeIdsEmpty
  else if maxManifestTreeIds < fec.treeIds.length then
    .error (.tooManyTreeIds fec.treeIds.length maxManifestTreeIds)
  else if ¬fec.treeIds.IsChain (· < ·) then .error .treeIdsMustBeSortedUnique
  else .ok ()

def validate (manifest : LosslessSessionManifest) : Validated := do
  let expected ← totalBlocksFor manifest.totalBytes manifest.blockSize
  if manifest.totalBlocks ≠ expected then
    .error (.inconsistentTotalBlocks expected manifest.totalBlocks)
  else match manifest.mode with
    | .plain => .ok ()
    | .fec fec => validateFec fec

def validateBlockId (manifest : LosslessSessionManifest) (blockId : UInt64) : Validated := do
  manifest.validate
  if manifest.totalBlocks ≤ blockId then
    .error (.blockIdOutOfRange blockId manifest.totalBlocks)
  else .ok ()

def expectedBlockPayloadLen (manifest : LosslessSessionManifest) (blockId : UInt64) :
    Except LosslessSessionValidationError UInt32 := do
  manifest.validateBlockId blockId
  if manifest.totalBlocks = 0 then .ok 0
  else if blockId + 1 = manifest.totalBlocks then
    let rem := UInt32.ofNat (manifest.totalBytes.toNat % manifest.blockSize.toNat)
    if rem = 0 then .ok manifest.blockSize else .ok rem
  else .ok manifest.blockSize

/-- `u32::try_from(payload_len).unwrap_or(u32::MAX)`. -/
def payloadLen32 (payloadLen : Nat) : UInt32 :=
  if payloadLen < 2 ^ 32 then UInt32.ofNat payloadLen else UInt32.ofNat (2 ^ 32 - 1)

def validateBlockData (manifest : LosslessSessionManifest) (data : LosslessSessionBlockData)
    (payloadLen : Nat) : Validated := do
  if manifest.mode.isFec then .error .blockDataRequiresPlainMode
  else
    let expected ← manifest.expectedBlockPayloadLen data.blockId
    let actual := payloadLen32 payloadLen
    if actual ≠ expected then .error (.blockDataLenMismatch data.blockId expected actual)
    else .ok ()

def validateBlockSymbol (manifest : LosslessSessionManifest)
    (symbol : LosslessSessionBlockSymbol) : Validated :=
  match manifest.mode with
  | .plain => .error .blockSymbolRequiresFecMode
  | .fec fec => do
      manifest.validateBlockId symbol.blockId
      if symbol.treeId ∉ fec.treeIds then .error (.blockSymbolTreeIdNotAdvertised symbol.treeId)
      else .ok ()

def validateNeedReport (manifest : LosslessSessionManifest) (report : NeedReport) :
    Validated := do
  manifest.validate
  match report with
  | .complete => .ok ()
  | .plain ranges =>
      if manifest.mode.isFec ∧ ranges ≠ [] then .error .needRequiresPlainMode
      else (NeedReport.plain ranges).validateAgainstTotalBlocks manifest.totalBlocks
  | .fec blocks =>
      if ¬manifest.mode.isFec ∧ blocks ≠ [] then .error .needRequiresFecMode
      else (NeedReport.fec blocks).validateAgainstTotalBlocks manifest.totalBlocks

end LosslessSessionManifest

def LosslessSessionControl.validate : LosslessSessionControl → Validated
  | .manifest offered => offered.validate
  | .ready => .ok ()
  | .sourceDone _ => .ok ()
  | .need _ report => report.validate

def LosslessSessionManifest.validateControl (manifest : LosslessSessionManifest)
    (control : LosslessSessionControl) : Validated := do
  manifest.validate
  control.validate
  match control with
  | .manifest offered => offered.validate
  | .ready => .ok ()
  | .sourceDone _ => .ok ()
  | .need _ report => manifest.validateNeedReport report

/-! ## What validated messages look like -/

theorem bind_ok_iff {Error Value Other : Type} {first : Except Error Value}
    {next : Value → Except Error Other} {result : Other} :
    (first >>= next) = .ok result ↔ ∃ value, first = .ok value ∧ next value = .ok result := by
  cases first with
  | error reason => simp [bind, Except.bind]
  | ok value => simp [bind, Except.bind]

theorem validate_ranges_ok_iff (previousEnd : Option UInt64) (ranges : List MissingBlockRange) :
    validateRanges previousEnd ranges = .ok () ↔
      (∀ range ∈ ranges, range.startBlockId < range.endBlockId) ∧
        ranges.IsChain (fun left right => left.endBlockId < right.startBlockId) ∧
        ∀ previous ∈ previousEnd, ∀ range ∈ ranges.head?, previous < range.startBlockId := by
  induction ranges generalizing previousEnd with
  | nil => simp [validateRanges]
  | cons range rest induction =>
    simp only [validateRanges]
    split_ifs with empty touching
    · simp [UInt64.not_lt.mpr empty]
    · obtain ⟨previous, member, overlap⟩ := touching
      simp only [false_iff, not_and]
      intro _ _ separated
      exact absurd (separated previous member range rfl) (UInt64.not_lt.mpr overlap)
    · have nonempty := UInt64.not_le.mp empty
      rw [induction]
      constructor
      · rintro ⟨rests, chain, first⟩
        refine ⟨?_, ?_, ?_⟩
        · simpa [nonempty] using rests
        · rw [List.isChain_cons]
          exact ⟨fun next member => first range.endBlockId rfl next member, chain⟩
        · intro previous member next same
          obtain rfl : range = next := by simpa using same
          by_contra overlap
          exact touching ⟨previous, member, UInt64.not_lt.mp overlap⟩
      · rintro ⟨all, chain, -⟩
        rw [List.isChain_cons] at chain
        refine ⟨fun next member => all next (List.mem_cons_of_mem _ member), chain.2, ?_⟩
        intro previous member next head
        obtain rfl : range.endBlockId = previous := by simpa using member
        exact chain.1 next head

theorem validate_range_ends_ok_iff (totalBlocks : UInt64) (ranges : List MissingBlockRange) :
    validateRangeEnds totalBlocks ranges = .ok () ↔
      ∀ range ∈ ranges, range.endBlockId ≤ totalBlocks := by
  induction ranges with
  | nil => simp [validateRangeEnds]
  | cons range rest induction =>
    simp only [validateRangeEnds]
    split_ifs with beyond
    · simp [UInt64.not_le.mpr beyond]
    · simp [induction, UInt64.not_lt.mp beyond]

theorem validate_need_block_ids_ok_iff (totalBlocks : UInt64) (blocks : List NeedBlock) :
    validateNeedBlockIds totalBlocks blocks = .ok () ↔
      ∀ status ∈ blocks, status.blockId < totalBlocks := by
  induction blocks with
  | nil => simp [validateNeedBlockIds]
  | cons status rest induction =>
    simp only [validateNeedBlockIds]
    split_ifs with beyond
    · simp [UInt64.not_lt.mpr beyond]
    · simp [induction, UInt64.not_le.mp beyond]

theorem validate_plain_ok_iff (ranges : List MissingBlockRange) :
    (NeedReport.plain ranges).validate = .ok () ↔
      ranges.length ≤ maxNeedRanges ∧
        (∀ range ∈ ranges, range.startBlockId < range.endBlockId) ∧
        ranges.IsChain (fun left right => left.endBlockId < right.startBlockId) := by
  simp only [NeedReport.validate]
  split_ifs with tooMany
  · simp [Nat.not_le.mpr tooMany]
  · simp [validate_ranges_ok_iff, Nat.not_lt.mp tooMany]

theorem validate_fec_ok_iff (blocks : List NeedBlock) :
    (NeedReport.fec blocks).validate = .ok () ↔
      blocks.length ≤ maxNeedBlocks ∧ (∀ status ∈ blocks, status.deficitSymbols ≠ 0) ∧
        blocks.IsChain (fun left right => left.blockId < right.blockId) := by
  simp only [NeedReport.validate]
  split_ifs with tooMany zero unsorted
  · simp [Nat.not_le.mpr tooMany]
  · simp only [false_iff, not_and]
    obtain ⟨status, member, deficit⟩ := zero
    exact fun _ positive => absurd deficit (positive status member)
  · have positive : ∀ status ∈ blocks, status.deficitSymbols ≠ 0 := by
      intro status member deficit
      exact zero ⟨status, member, deficit⟩
    simp only [true_iff]
    exact ⟨Nat.not_lt.mp tooMany, positive, unsorted⟩
  · simp [unsorted]

theorem validate_manifest_ok_iff (manifest : LosslessSessionManifest) :
    manifest.validate = .ok () ↔
      manifest.blockSize ≠ 0 ∧
        manifest.totalBlocks =
          UInt64.ofNat (manifest.totalBytes.toNat ⌈/⌉ manifest.blockSize.toNat) ∧
        ∀ fec, manifest.mode = .fec fec → LosslessSessionManifest.validateFec fec = .ok () := by
  simp only [LosslessSessionManifest.validate, bind_ok_iff,
    LosslessSessionManifest.totalBlocksFor]
  by_cases zero : manifest.blockSize = 0
  · simp [zero]
  · by_cases empty : manifest.totalBytes = 0
    · cases mode : manifest.mode <;>
        simp [zero, empty, apply_ite (· = Except.ok ())]
    · cases mode : manifest.mode <;>
        simp [zero, empty, apply_ite (· = Except.ok ())]

end Nextmini.Messages
