import Nextmini.Session.BlockDecoding
import Nextmini.Session.ReceiverInvariant
import Nextmini.Session.SenderPolicy

/-!
# Agreement of the block geometries

The manifest, the sender's plan and the receiver's plan of one session count the same blocks; the
spans of the blocks lie one behind the other over the whole object; the source symbols of a block
are the block with padding behind it; and every sum and product on the way fits its machine word.
-/

namespace Nextmini.Session

open Nextmini.Library.BigEndian
open Nextmini.Messages

set_option autoImplicit false

/-- The spans lie one behind the other from `start` to `stop`, and none is empty. -/
def Tiles : List BlockSpan → Nat → Nat → Prop
  | [], start, stop => start = stop
  | span :: rest, start, stop =>
      span.offset = start ∧ 0 < span.len ∧ Tiles rest (span.offset + span.len) stop

/-- The bytes of a block, zero past the end of the source buffer. -/
def blockBytes (source : BlockSource) (span : BlockSpan) : List Byte :=
  (List.range span.len).map fun index => source.bytes.getD (span.offset + index) 0

/-- The results of the arithmetic on blocks and symbols in words of 64 bits, and of the one cast to
32 bits. -/
structure WordsFit (plan : BlockPlan) (geometry : SymbolGeometry) : Prop where
  blockCount : plan.totalBlocks < 2 ^ 64
  nextBlock : ∀ blockId < plan.totalBlocks, blockId + 1 < 2 ^ 64
  offset : ∀ blockId < plan.totalBlocks, blockId * plan.blockSize < 2 ^ 64
  spanEnd : ∀ blockId span, plan.blockSpan blockId = some span → span.offset + span.len < 2 ^ 64
  tail : plan.totalBytes % plan.blockSize < 2 ^ 32
  symbolBytes : geometry.symbolsPerBlock * geometry.symbolSize < 2 ^ 64
  symbolEnd : ∀ idx < geometry.symbolsPerBlock,
    idx * geometry.symbolSize + geometry.symbolSize < 2 ^ 64

/-- The geometry of a session, as the manifest, both plans and the symbols have it. -/
structure GeometryAgrees (manifest : LosslessSessionManifest) (symbolsPerBlock : UInt16)
    (plan : BlockPlan) (geometry : SymbolGeometry) : Prop where
  planned : BlockPlan.new manifest.totalBytes manifest.blockSize.toNat = .ok plan
  laidOut : plan.symbolGeometry symbolsPerBlock = .ok geometry
  blocks : plan.totalBlocks = manifest.totalBlocks.toNat
  requested : ∀ config treeVisible request cfg,
    senderConfig config treeVisible request = .ok cfg → cfg.manifest = manifest →
      BlockPlan.new request.totalBytes request.blockSize = .ok plan
  lengths : ∀ blockId span, plan.blockSpan blockId = some span →
    ∃ len, manifest.expectedBlockPayloadLen (UInt64.ofNat blockId) = .ok len ∧ len.toNat = span.len
  tiled : ∃ spans, (List.range plan.totalBlocks).mapM plan.blockSpan = some spans ∧
    Tiles spans 0 manifest.totalBytes.toNat
  outside : ∀ blockId, plan.totalBlocks ≤ blockId → plan.blockSpan blockId = none
  covered : ∀ blockId span, plan.blockSpan blockId = some span →
    span.len ≤ geometry.symbolsPerBlock * geometry.symbolSize
  rebuilt : ∀ source blockId span, plan.blockSpan blockId = some span →
    ((BlockSource.sourceSymbols source span geometry).flatten).take span.len =
      blockBytes source span
  reassembled : ∀ host source blockId span state block, plan.blockSpan blockId = some span →
    (∀ (idx : Nat) (payload : List Byte), idx < geometry.symbolsPerBlock →
      state.symbols[idx]? = some payload →
        (BlockSource.sourceSymbols source span geometry)[idx]? = some payload) →
    FecReceiver.systematicBlockPayload host state geometry.symbolsPerBlock geometry.symbolSize
      span.len = some block → block = blockBytes source span
  answered : ∀ host source blockId span state, plan.blockSpan blockId = some span →
    host.tryReserve .systematicBlock (geometry.symbolsPerBlock * geometry.symbolSize) = true →
    (∀ idx < geometry.symbolsPerBlock,
      state.symbols[idx]? = (BlockSource.sourceSymbols source span geometry)[idx]?) →
    FecReceiver.systematicBlockPayload host state geometry.symbolsPerBlock geometry.symbolSize
      span.len = some (blockBytes source span)
  words : WordsFit plan geometry

/-! ## Spans -/

theorem mapM_append_some {Item Image : Type} {step : Item → Option Image} {items : List Item}
    {images : List Image} {item : Item} {image : Image} (mapped : items.mapM step = some images)
    (last : step item = some image) : (items ++ [item]).mapM step = some (images ++ [image]) := by
  rw [List.mapM_append, mapped, List.mapM_cons, last]
  rfl

theorem Tiles.snoc {spans : List BlockSpan} {start stop : Nat} (tiles : Tiles spans start stop)
    {span : BlockSpan} (behind : span.offset = stop) (nonempty : 0 < span.len) :
    Tiles (spans ++ [span]) start (stop + span.len) := by
  induction spans generalizing start with
  | nil =>
    obtain rfl : start = stop := tiles
    exact ⟨behind, nonempty, by rw [Tiles, behind]⟩
  | cons first rest induction => exact ⟨tiles.1, tiles.2.1, induction tiles.2.2⟩

/-- The first blocks of a plan reach up to the next block, or to the end of the object. -/
theorem spans_tile (plan : BlockPlan) (count : Nat) (inside : count ≤ plan.totalBlocks) :
    ∃ spans, (List.range count).mapM plan.blockSpan = some spans ∧
      Tiles spans 0 (min (count * plan.blockSize) plan.totalBytes) := by
  induction count with
  | zero => exact ⟨[], rfl, by simp [Tiles]⟩
  | succ count induction =>
    rcases induction (by omega) with ⟨spans, mapped, tiles⟩
    have before := (plan.lt_total_blocks_iff count).mp (by omega)
    have positive := plan.blockSizePositive
    have span := plan.block_span_some count (by omega)
    refine ⟨_, by rw [List.range_succ]; exact mapM_append_some mapped span, ?_⟩
    rw [Nat.min_eq_left (Nat.le_of_lt before)] at tiles
    have longer : min ((count + 1) * plan.blockSize) plan.totalBytes =
        count * plan.blockSize +
          min plan.blockSize (plan.totalBytes - count * plan.blockSize) := by
      rw [Nat.add_mul, Nat.one_mul]
      omega
    rw [longer]
    apply tiles.snoc
    · rfl
    · simp only
      omega

theorem plan_tiled (plan : BlockPlan) :
    ∃ spans, (List.range plan.totalBlocks).mapM plan.blockSpan = some spans ∧
      Tiles spans 0 plan.totalBytes := by
  have whole : plan.totalBytes ≤ plan.totalBlocks * plan.blockSize := by
    by_contra short
    have again := (plan.lt_total_blocks_iff plan.totalBlocks).mpr (by omega)
    omega
  have tiled := spans_tile plan plan.totalBlocks le_rfl
  rwa [Nat.min_eq_right whole] at tiled

/-! ## Lengths -/

theorem span_of_block {plan : BlockPlan} {blockId : Nat} {span : BlockSpan}
    (placed : plan.blockSpan blockId = some span) :
    blockId < plan.totalBlocks ∧ span.offset = blockId * plan.blockSize ∧
      span.len = min plan.blockSize (plan.totalBytes - blockId * plan.blockSize) := by
  have inside : blockId < plan.totalBlocks := by
    by_contra outside
    rw [plan.block_span_none blockId (Nat.not_lt.mp outside)] at placed
    cases placed
  rw [plan.block_span_some blockId inside] at placed
  cases placed
  exact ⟨inside, rfl, rfl⟩

theorem expected_len_of_plan {manifest : LosslessSessionManifest} {plan : BlockPlan}
    (valid : manifest.validate = .ok ())
    (planned : BlockPlan.new manifest.totalBytes manifest.blockSize.toNat = .ok plan)
    {blockId : Nat} {span : BlockSpan} (placed : plan.blockSpan blockId = some span) :
    ∃ len, manifest.expectedBlockPayloadLen (UInt64.ofNat blockId) = .ok len ∧
      len.toNat = span.len := by
  rcases plan_total_blocks valid planned with ⟨blocks, bytes, size⟩
  rcases span_of_block placed with ⟨inside, _, _⟩
  have fits := plan.total_blocks_lt
  have id : (UInt64.ofNat blockId).toNat = blockId :=
    UInt64.toNat_ofNat_of_lt' (inside.trans fits)
  have known : manifest.validateBlockId (UInt64.ofNat blockId) = .ok () := by
    have below : ¬manifest.totalBlocks ≤ UInt64.ofNat blockId := by
      rw [UInt64.le_iff_toNat_le, id, ← blocks]
      exact Nat.not_le.mpr inside
    rw [LosslessSessionManifest.validateBlockId, valid]
    simp only [below, if_false]
    rfl
  have nonzero : manifest.totalBlocks ≠ 0 := by
    intro none
    rw [none] at blocks
    simp only [UInt64.toNat_zero] at blocks
    omega
  have length := block_span_len placed
  have last : UInt64.ofNat blockId + 1 = manifest.totalBlocks ↔
      some blockId = plan.lastBlockId := by
    have some : plan.totalBlocks ≠ 0 := by omega
    rw [← UInt64.toNat_inj, UInt64.toNat_add, id, ← blocks, BlockPlan.lastBlockId, if_neg some,
      Option.some.injEq]
    have one : (1 : UInt64).toNat = 1 := rfl
    rw [one, Nat.mod_eq_of_lt (by omega)]
    omega
  rw [LosslessSessionManifest.expectedBlockPayloadLen, known]
  simp only [BlockPlan.blockLen, BlockPlan.containsBlock, inside, decide_true, not_true_eq_false,
    if_false] at length
  by_cases final : some blockId = plan.lastBlockId
  · rw [if_neg (not_not_intro final)] at length
    have wide := manifest.blockSize.toNat_lt
    have small : manifest.totalBytes.toNat % manifest.blockSize.toNat < 2 ^ 32 :=
      (Nat.mod_lt _ (size ▸ plan.blockSizePositive)).trans wide
    have rem : (UInt32.ofNat (manifest.totalBytes.toNat % manifest.blockSize.toNat)).toNat =
        plan.totalBytes % plan.blockSize := by
      rw [UInt32.toNat_ofNat_of_lt' small, bytes, size]
    have zero : UInt32.ofNat (manifest.totalBytes.toNat % manifest.blockSize.toNat) = 0 ↔
        plan.totalBytes % plan.blockSize = 0 := by
      rw [← UInt32.toNat_inj, rem]
      rfl
    simp only [nonzero, if_false, last.mpr final, if_true, zero]
    split_ifs at length ⊢ with whole
    · exact ⟨_, rfl, size.symm.trans (Option.some.inj length)⟩
    · exact ⟨_, rfl, rem.trans (Option.some.inj length)⟩
  · rw [if_pos final] at length
    simp only [nonzero, if_false, mt last.mp final]
    exact ⟨_, rfl, size.symm.trans (Option.some.inj length)⟩

/-! ## Symbols -/

theorem block_payload_eq_bytes (source : BlockSource) (span : BlockSpan) :
    source.blockPayload span = blockBytes source span := by
  apply List.ext_getElem?
  intro position
  rcases Nat.lt_or_ge position span.len with inside | outside
  · rw [source.block_payload_getElem? span position inside, blockBytes]
    simp [inside]
  · rw [List.getElem?_eq_none (by simpa using outside), List.getElem?_eq_none]
    simpa [blockBytes] using outside

/-- The source symbols of a block put together are its padded image. -/
theorem source_symbols_flatten (source : BlockSource) (span : BlockSpan)
    (geometry : SymbolGeometry) :
    (source.sourceSymbols span geometry).flatten = source.paddedSymbolBytes span geometry := by
  rw [BlockSource.sourceSymbols]
  exact flatten_slices _ _ _ (source.padded_symbol_bytes_length span geometry)

theorem words_fit {manifest : LosslessSessionManifest} {plan : BlockPlan}
    {symbolsPerBlock : UInt16} {geometry : SymbolGeometry}
    (size : plan.blockSize = manifest.blockSize.toNat)
    (laidOut : plan.symbolGeometry symbolsPerBlock = .ok geometry) : WordsFit plan geometry := by
  have fits := plan.total_blocks_lt
  have bytes := plan.bytesFit
  have wide := manifest.blockSize.toNat_lt
  have symbols := symbolsPerBlock.toNat_lt
  have positive := plan.blockSizePositive
  have product : geometry.symbolsPerBlock * geometry.symbolSize < 2 ^ 33 := by
    simp only [BlockPlan.symbolGeometry] at laidOut
    split_ifs at laidOut with zero
    cases laidOut
    have some : 0 < symbolsPerBlock.toNat := by
      apply Nat.pos_of_ne_zero
      intro none
      exact zero (UInt16.toNat_inj.mp none)
    have quotient := Nat.div_mul_le_self (plan.blockSize + symbolsPerBlock.toNat - 1)
      symbolsPerBlock.toNat
    simp only [Nat.ceilDiv_eq_add_pred_div]
    rw [Nat.mul_comm]
    omega
  constructor
  · exact fits
  · intro blockId inside
    omega
  · intro blockId inside
    have before := (plan.lt_total_blocks_iff blockId).mp inside
    omega
  · intro blockId span placed
    have inside := plan.span_in_object placed
    omega
  · have tail := Nat.mod_lt plan.totalBytes positive
    omega
  · omega
  · intro idx inside
    have below : idx * geometry.symbolSize + geometry.symbolSize ≤
        geometry.symbolsPerBlock * geometry.symbolSize := by
      rw [← Nat.succ_mul]
      exact Nat.mul_le_mul_right _ inside
    omega

/-! ## The whole geometry -/

/-- Any manifest that validates, with any positive number of symbols in a block. -/
theorem block_geometry_agrees {manifest : LosslessSessionManifest} {symbolsPerBlock : UInt16}
    (accepted : manifest.validate = .ok ()) (positive : 1 ≤ symbolsPerBlock) :
    ∃ plan geometry, GeometryAgrees manifest symbolsPerBlock plan geometry := by
  rcases (validate_manifest_ok_iff manifest).mp accepted with ⟨nonzero, _, _⟩
  have sizeNonzero : manifest.blockSize.toNat ≠ 0 := by
    intro zero
    exact nonzero (UInt32.toNat_inj.mp zero)
  have planned : ∃ plan,
      BlockPlan.new manifest.totalBytes manifest.blockSize.toNat = .ok plan := by
    rw [BlockPlan.new, dif_neg sizeNonzero]
    exact ⟨_, rfl⟩
  rcases planned with ⟨plan, planned⟩
  have laidOut : ∃ geometry, plan.symbolGeometry symbolsPerBlock = .ok geometry := by
    have some : symbolsPerBlock ≠ 0 := by
      rintro rfl
      exact absurd positive (by decide)
    rw [BlockPlan.symbolGeometry, if_neg some]
    exact ⟨_, rfl⟩
  rcases laidOut with ⟨geometry, laidOut⟩
  rcases plan_total_blocks accepted planned with ⟨blocks, bytes, size⟩
  have covers := (symbol_geometry_covers plan symbolsPerBlock laidOut).2.2
  have covered {blockId : Nat} {span : BlockSpan} (placed : plan.blockSpan blockId = some span) :
      span.len ≤ geometry.symbolsPerBlock * geometry.symbolSize :=
    (plan.span_len_le placed).trans covers
  have rebuilt (source : BlockSource) {blockId : Nat} {span : BlockSpan}
      (placed : plan.blockSpan blockId = some span) :
      (source.paddedSymbolBytes span geometry).take span.len = blockBytes source span := by
    rw [source.padded_symbol_bytes_take span geometry (covered placed), block_payload_eq_bytes]
  have reassembled (host : Host) (source : BlockSource) {blockId : Nat} {span : BlockSpan}
      {state : FecBlockState} {block : List Byte} (placed : plan.blockSpan blockId = some span)
      (genuine : ∀ (idx : Nat) (payload : List Byte), idx < geometry.symbolsPerBlock →
        state.symbols[idx]? = some payload →
          (source.sourceSymbols span geometry)[idx]? = some payload)
      (gives : FecReceiver.systematicBlockPayload host state geometry.symbolsPerBlock
        geometry.symbolSize span.len = some block) : block = blockBytes source span := by
    rw [← rebuilt source placed]
    refine FecReceiver.systematic_symbols
      (source.padded_symbol_bytes_length span geometry) ?_ gives
    intro symbolId payload inside present
    have symbol := genuine symbolId payload inside present
    rw [source.source_symbols_getElem? span geometry symbolId inside] at symbol
    exact (Option.some.inj symbol).symm
  have words := words_fit size laidOut
  refine ⟨plan, geometry, ?_⟩
  constructor
  · exact planned
  · exact laidOut
  · exact blocks
  · rintro config treeVisible request cfg built rfl
    rcases sender_config_ok built with ⟨other, mode, new, _, _, small, rfl⟩
    have same : (UInt32.ofNat request.blockSize).toNat = request.blockSize :=
      UInt32.toNat_ofNat_of_lt' small
    simp only [same] at planned
    exact planned
  · intro blockId span placed
    exact expected_len_of_plan accepted planned placed
  · rw [← bytes]
    exact plan_tiled plan
  · exact plan.block_span_none
  · intro blockId span placed
    exact covered placed
  · intro source blockId span placed
    rw [source_symbols_flatten, rebuilt source placed]
  · intro host source blockId span state block placed genuine gives
    exact reassembled host source placed genuine gives
  · intro host source blockId span state placed reserved held
    have present (idx : Nat) (inside : idx < geometry.symbolsPerBlock) :
        ∃ payload, state.symbols[idx]? = some payload := by
      rw [held idx inside, source.source_symbols_getElem? span geometry idx inside]
      exact ⟨_, rfl⟩
    rcases FecReceiver.systematic_answers span.len words.symbolBytes reserved present with
      ⟨block, gives⟩
    rw [gives, reassembled host source placed ?_ gives]
    intro idx payload inside same
    rw [← held idx inside, same]
  · exact words

/-- An object of 25 bytes in blocks of 10, each cut into 4 symbols. -/
theorem short_last_block_agrees :
    ∃ plan geometry, GeometryAgrees ⟨10, 25, 3, .plain⟩ 4 plan geometry :=
  block_geometry_agrees (by decide) (by decide)

end Nextmini.Session
