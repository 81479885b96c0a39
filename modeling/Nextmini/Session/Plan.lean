import Nextmini.Library.BufferPatch
import Mathlib.Algebra.Order.Floor.Div
import Mathlib.Data.List.GetD

/-!
# Block geometry and the source object

Blocks of fixed size over an object of `totalBytes` bytes, the last one possibly shorter, and the
source symbols an FEC block is cut into. A plan carries its own geometry: it can only be built
with a positive block size and the matching block count. Host words have 64 bits.
-/

namespace Nextmini.Session

open Nextmini.Library.BigEndian Nextmini.Library.BufferPatch

set_option autoImplicit false

inductive PlanError where
  | blockSizeZero
  | symbolsPerBlockZero
  deriving DecidableEq, Repr

structure BlockPlan where
  totalBytes : Nat
  blockSize : Nat
  totalBlocks : Nat
  blockSizePositive : 0 < blockSize
  blockCount : totalBlocks = totalBytes ⌈/⌉ blockSize
  bytesFit : totalBytes < 2 ^ 64
  deriving DecidableEq

structure BlockSpan where
  offset : Nat
  len : Nat
  deriving DecidableEq, Repr

structure SymbolGeometry where
  symbolsPerBlock : Nat
  symbolSize : Nat
  deriving DecidableEq, Repr

namespace BlockPlan

def new (totalBytes : UInt64) (blockSize : Nat) : Except PlanError BlockPlan :=
  if zero : blockSize = 0 then .error .blockSizeZero
  else .ok
    { totalBytes := totalBytes.toNat
      blockSize := blockSize
      totalBlocks := if totalBytes.toNat = 0 then 0 else totalBytes.toNat ⌈/⌉ blockSize
      blockSizePositive := Nat.pos_of_ne_zero zero
      blockCount := by
        split_ifs with empty
        · rw [empty, zero_ceilDiv]
        · rfl
      bytesFit := totalBytes.toNat_lt }

def containsBlock (plan : BlockPlan) (blockId : Nat) : Bool := blockId < plan.totalBlocks

def lastBlockId (plan : BlockPlan) : Option Nat :=
  if plan.totalBlocks = 0 then none else some (plan.totalBlocks - 1)

/-- The product is checked against the 64-bit range. -/
def blockOffset (plan : BlockPlan) (blockId : Nat) : Option Nat :=
  if ¬plan.containsBlock blockId then none
  else if blockId * plan.blockSize < 2 ^ 64 then some (blockId * plan.blockSize)
  else none

def blockLen (plan : BlockPlan) (blockId : Nat) : Option Nat :=
  if ¬plan.containsBlock blockId then none
  else if some blockId ≠ plan.lastBlockId then some plan.blockSize
  else
    let tail := plan.totalBytes % plan.blockSize
    if tail = 0 then some plan.blockSize else some tail

def blockSpan (plan : BlockPlan) (blockId : Nat) : Option BlockSpan := do
  let offset ← plan.blockOffset blockId
  let len ← plan.blockLen blockId
  some ⟨offset, len⟩

/-- The only error is `symbolsPerBlockZero`: the block size of a plan is positive. -/
def symbolGeometry (plan : BlockPlan) (symbolsPerBlock : UInt16) :
    Except PlanError SymbolGeometry :=
  if symbolsPerBlock = 0 then .error .symbolsPerBlockZero
  else .ok ⟨symbolsPerBlock.toNat, plan.blockSize ⌈/⌉ symbolsPerBlock.toNat⟩

theorem lt_total_blocks_iff (plan : BlockPlan) (blockId : Nat) :
    blockId < plan.totalBlocks ↔ blockId * plan.blockSize < plan.totalBytes := by
  have galois := ceilDiv_le_iff_le_mul (b := plan.totalBytes) (c := blockId) plan.blockSizePositive
  rw [plan.blockCount, ← Nat.not_le, galois, Nat.not_le, Nat.mul_comm]

theorem total_blocks_le (plan : BlockPlan) : plan.totalBlocks ≤ plan.totalBytes := by
  by_contra more
  have inside := (plan.lt_total_blocks_iff plan.totalBytes).mp (Nat.not_le.mp more)
  have positive := plan.blockSizePositive
  nlinarith

theorem total_blocks_lt (plan : BlockPlan) : plan.totalBlocks < 2 ^ 64 :=
  lt_of_le_of_lt plan.total_blocks_le plan.bytesFit

theorem block_offset_some (plan : BlockPlan) (blockId : Nat) (inside : blockId < plan.totalBlocks) :
    plan.blockOffset blockId = some (blockId * plan.blockSize) := by
  have before := (plan.lt_total_blocks_iff blockId).mp inside
  have fits := plan.bytesFit
  have small : blockId * plan.blockSize < 2 ^ 64 := by omega
  simp only [blockOffset, containsBlock, decide_eq_true_eq, inside, not_true_eq_false, if_false,
    small, if_true]

/-- A block ends at the next multiple of the block size or at the end of the object. -/
theorem block_len_some (plan : BlockPlan) (blockId : Nat) (inside : blockId < plan.totalBlocks) :
    plan.blockLen blockId =
      some (min plan.blockSize (plan.totalBytes - blockId * plan.blockSize)) := by
  have before := (plan.lt_total_blocks_iff blockId).mp inside
  have nonzero : plan.totalBlocks ≠ 0 := by omega
  simp only [blockLen, containsBlock, decide_eq_true_eq, inside, not_true_eq_false, if_false,
    lastBlockId, nonzero, ne_eq, Option.some.injEq]
  by_cases last : blockId = plan.totalBlocks - 1
  · have beyond : ¬(blockId + 1) * plan.blockSize < plan.totalBytes := by
      rw [← plan.lt_total_blocks_iff]
      omega
    rw [if_neg (by simp [last])]
    obtain ⟨tail, split⟩ := Nat.exists_eq_add_of_lt before
    rw [Nat.add_mul, Nat.one_mul] at beyond
    have rem : plan.totalBytes % plan.blockSize = (tail + 1) % plan.blockSize := by
      rw [split, Nat.add_assoc, Nat.mul_comm, Nat.mul_add_mod]
    have difference : plan.totalBytes - blockId * plan.blockSize = tail + 1 := by omega
    have bounded : tail + 1 ≤ plan.blockSize := by omega
    rw [rem, difference, Nat.min_eq_right bounded]
    rcases Nat.lt_or_eq_of_le bounded with short | full
    · rw [Nat.mod_eq_of_lt short]
      simp
    · rw [full, Nat.mod_self, if_pos rfl]
  · have next : blockId + 1 < plan.totalBlocks := by omega
    have room := (plan.lt_total_blocks_iff (blockId + 1)).mp next
    rw [Nat.add_mul, Nat.one_mul] at room
    rw [if_pos last, Nat.min_eq_left (by omega)]

theorem block_span_some (plan : BlockPlan) (blockId : Nat) (inside : blockId < plan.totalBlocks) :
    plan.blockSpan blockId =
      some ⟨blockId * plan.blockSize,
        min plan.blockSize (plan.totalBytes - blockId * plan.blockSize)⟩ := by
  simp [blockSpan, plan.block_offset_some blockId inside, plan.block_len_some blockId inside]

theorem block_span_none (plan : BlockPlan) (blockId : Nat) (outside : plan.totalBlocks ≤ blockId) :
    plan.blockSpan blockId = none := by
  simp [blockSpan, blockOffset, containsBlock, Nat.not_lt.mpr outside]

theorem span_in_object (plan : BlockPlan) {blockId : Nat} {span : BlockSpan}
    (found : plan.blockSpan blockId = some span) : span.offset + span.len ≤ plan.totalBytes := by
  rcases Nat.lt_or_ge blockId plan.totalBlocks with inside | outside
  · have before := (plan.lt_total_blocks_iff blockId).mp inside
    obtain rfl := Option.some.inj ((plan.block_span_some blockId inside).symm.trans found)
    simp only
    omega
  · rw [plan.block_span_none blockId outside] at found
    cases found

theorem span_len_le (plan : BlockPlan) {blockId : Nat} {span : BlockSpan}
    (found : plan.blockSpan blockId = some span) : span.len ≤ plan.blockSize := by
  rcases Nat.lt_or_ge blockId plan.totalBlocks with inside | outside
  · obtain rfl := Option.some.inj ((plan.block_span_some blockId inside).symm.trans found)
    exact Nat.min_le_left ..
  · rw [plan.block_span_none blockId outside] at found
    cases found

/-- The spans of all blocks together are the whole object. -/
theorem agrees_of_spans (plan : BlockPlan) (buffer object : List Byte)
    (parts : ∀ blockId < plan.totalBlocks, ∀ span, plan.blockSpan blockId = some span →
      Agrees buffer object span.offset (span.offset + span.len)) :
    Agrees buffer object 0 plan.totalBytes := by
  intro position _ upper
  have decomposition := Nat.div_add_mod position plan.blockSize
  have remainder := Nat.mod_lt position plan.blockSizePositive
  rw [Nat.mul_comm] at decomposition
  have inside : position / plan.blockSize < plan.totalBlocks := by
    rw [plan.lt_total_blocks_iff]
    omega
  refine parts _ inside _ (plan.block_span_some _ inside) position ?_ ?_
  · simp only
    omega
  · simp only
    omega

end BlockPlan

/-! ## Source object -/

structure BlockSource where
  bytes : List Byte
  deriving DecidableEq, Repr

namespace BlockSource

def blockPayload (source : BlockSource) (span : BlockSpan) : List Byte :=
  if span.offset + span.len ≤ source.bytes.length then
    slice source.bytes span.offset (span.offset + span.len)
  else if span.offset < source.bytes.length then
    let available := min span.len (source.bytes.length - span.offset)
    slice source.bytes span.offset (span.offset + available) ++
      List.replicate (span.len - available) 0
  else List.replicate span.len 0

def paddedSymbolBytes (source : BlockSource) (span : BlockSpan) (geometry : SymbolGeometry) :
    List Byte :=
  let block := source.blockPayload span
  let totalSymbolBytes := geometry.symbolsPerBlock * geometry.symbolSize
  let copyLen := min block.length totalSymbolBytes
  block.take copyLen ++ List.replicate (totalSymbolBytes - copyLen) 0

def sourceSymbols (source : BlockSource) (span : BlockSpan) (geometry : SymbolGeometry) :
    List (List Byte) :=
  let padded := source.paddedSymbolBytes span geometry
  (List.range geometry.symbolsPerBlock).map fun idx =>
    slice padded (idx * geometry.symbolSize) (idx * geometry.symbolSize + geometry.symbolSize)

/-- The object a transfer of `totalBytes` bytes is about: the source buffer, cut or filled with
zeros to that length. -/
def object (source : BlockSource) (totalBytes : Nat) : List Byte :=
  source.bytes.take totalBytes ++ List.replicate (totalBytes - source.bytes.length) 0

@[simp] theorem object_length (source : BlockSource) (totalBytes : Nat) :
    (source.object totalBytes).length = totalBytes := by
  simp only [object, List.length_append, List.length_take, List.length_replicate]
  omega

theorem object_getElem? (source : BlockSource) (totalBytes position : Nat)
    (inside : position < totalBytes) :
    (source.object totalBytes)[position]? = some (source.bytes.getD position 0) := by
  rcases Nat.lt_or_ge position source.bytes.length with present | beyond
  · rw [object, List.getElem?_append_left (by simp only [List.length_take]; omega),
      List.getElem?_take_of_lt inside, List.getElem?_eq_getElem present,
      List.getD_eq_getElem _ _ present]
  · rw [object, List.getElem?_append_right (by simp only [List.length_take]; omega),
      List.getD_eq_default _ _ beyond, List.getElem?_replicate_of_lt]
    simp only [List.length_take]
    omega

@[simp] theorem block_payload_length (source : BlockSource) (span : BlockSpan) :
    (source.blockPayload span).length = span.len := by
  simp only [blockPayload]
  split_ifs with whole part
  · rw [slice_length _ _ _ whole]
    omega
  · rw [List.length_append, List.length_replicate, slice_length _ _ _ (by omega)]
    omega
  · exact List.length_replicate

theorem block_payload_getElem? (source : BlockSource) (span : BlockSpan) (position : Nat)
    (inside : position < span.len) :
    (source.blockPayload span)[position]? =
      some (source.bytes.getD (span.offset + position) 0) := by
  simp only [blockPayload]
  split_ifs with whole part
  · rw [slice_getElem?, if_pos (by omega), List.getElem?_eq_getElem (by omega),
      List.getD_eq_getElem _ _ (by omega)]
  · have width : (slice source.bytes span.offset
        (span.offset + min span.len (source.bytes.length - span.offset))).length =
          source.bytes.length - span.offset := by
      rw [slice_length _ _ _ (by omega)]
      omega
    rcases Nat.lt_or_ge (span.offset + position) source.bytes.length with present | beyond
    · rw [List.getElem?_append_left (by omega), slice_getElem?, if_pos (by omega),
        List.getElem?_eq_getElem present, List.getD_eq_getElem _ _ present]
    · rw [List.getElem?_append_right (by omega), List.getD_eq_default _ _ beyond,
        List.getElem?_replicate_of_lt (by omega)]
  · rw [List.getElem?_replicate_of_lt inside, List.getD_eq_default _ _ (by omega)]

theorem block_payload_eq_slice (source : BlockSource) (span : BlockSpan) (totalBytes : Nat)
    (bounded : span.offset + span.len ≤ totalBytes) :
    source.blockPayload span =
      slice (source.object totalBytes) span.offset (span.offset + span.len) := by
  apply List.ext_getElem?
  intro position
  rw [slice_getElem?]
  split_ifs with inside
  · rw [block_payload_getElem? source span position (by omega),
      object_getElem? source totalBytes _ (by omega)]
  · rw [List.getElem?_eq_none (by rw [block_payload_length]; omega)]

theorem padded_symbol_bytes_length (source : BlockSource) (span : BlockSpan)
    (geometry : SymbolGeometry) :
    (source.paddedSymbolBytes span geometry).length =
      geometry.symbolsPerBlock * geometry.symbolSize := by
  simp only [paddedSymbolBytes, List.length_append, List.length_take, List.length_replicate]
  omega

/-- Cutting the padded image back to the block's length gives the block. -/
theorem padded_symbol_bytes_take (source : BlockSource) (span : BlockSpan)
    (geometry : SymbolGeometry)
    (covers : span.len ≤ geometry.symbolsPerBlock * geometry.symbolSize) :
    (source.paddedSymbolBytes span geometry).take span.len = source.blockPayload span := by
  simp only [paddedSymbolBytes, block_payload_length, Nat.min_eq_left covers]
  have whole : (source.blockPayload span).take span.len = source.blockPayload span :=
    List.take_of_length_le (by simp)
  rw [whole, List.take_left' (block_payload_length source span)]

theorem source_symbols_getElem? (source : BlockSource) (span : BlockSpan)
    (geometry : SymbolGeometry) (idx : Nat) (inside : idx < geometry.symbolsPerBlock) :
    (source.sourceSymbols span geometry)[idx]? =
      some (slice (source.paddedSymbolBytes span geometry) (idx * geometry.symbolSize)
        (idx * geometry.symbolSize + geometry.symbolSize)) := by
  simp [sourceSymbols, List.getElem?_range inside]

end BlockSource

theorem symbol_geometry_covers (plan : BlockPlan) (symbolsPerBlock : UInt16)
    {geometry : SymbolGeometry} (built : plan.symbolGeometry symbolsPerBlock = .ok geometry) :
    geometry.symbolsPerBlock = symbolsPerBlock.toNat ∧ 0 < geometry.symbolsPerBlock ∧
      plan.blockSize ≤ geometry.symbolsPerBlock * geometry.symbolSize := by
  simp only [BlockPlan.symbolGeometry] at built
  split_ifs at built with zero
  obtain rfl := Except.ok.inj built
  have positive : 0 < symbolsPerBlock.toNat := by
    apply Nat.pos_of_ne_zero
    intro none
    exact zero (UInt16.toNat_inj.mp none)
  have covered := (ceilDiv_le_iff_le_mul (b := plan.blockSize) positive).mp le_rfl
  exact ⟨rfl, positive, covered⟩

theorem geometry_positive {plan : BlockPlan} {symbolsPerBlock : UInt16} {geometry : SymbolGeometry}
    (laidOut : plan.symbolGeometry symbolsPerBlock = .ok geometry) :
    0 < symbolsPerBlock.toNat ∧ 0 < geometry.symbolSize := by
  obtain ⟨count, some, covers⟩ := symbol_geometry_covers plan symbolsPerBlock laidOut
  refine ⟨count ▸ some, ?_⟩
  have bytes := plan.blockSizePositive
  by_contra empty
  rw [Nat.eq_zero_of_not_pos empty, Nat.mul_zero] at covers
  omega

end Nextmini.Session
