import Nextmini.Session.ReceiverSteps
import Nextmini.Session.Transfer

/-!
# Decoding a block

From genuine symbols of a block a receiver computes that block, whether all source symbols are
there and the decoder is not needed, or the crate's decoder answers. The padding behind the block's
own length is cut off.
-/

namespace Nextmini.Session

open Nextmini.Library.BigEndian
open Nextmini.Messages

set_option autoImplicit false

theorem mapM_answers {Item Image : Type} {step : Item → Option Image} {items : List Item}
    (answers : ∀ item ∈ items, ∃ result, step item = some result) :
    ∃ images, items.mapM step = some images := by
  induction items with
  | nil => exact ⟨[], rfl⟩
  | cons item rest induction =>
    rcases answers item List.mem_cons_self with ⟨result, head⟩
    rcases induction fun other member => answers other (List.mem_cons_of_mem _ member) with
      ⟨later, tail⟩
    refine ⟨result :: later, ?_⟩
    rw [List.mapM_cons, head, tail]
    rfl

theorem mapM_some_map {Item Image : Type} {step : Item → Option Image} {image : Item → Image}
    {items : List Item} {images : List Image} (mapped : items.mapM step = some images)
    (known : ∀ item ∈ items, ∀ result, step item = some result → result = image item) :
    images = items.map image := by
  induction items generalizing images with
  | nil =>
    rw [List.mapM_nil] at mapped
    exact (Option.some.inj mapped).symm
  | cons item rest induction =>
    rw [List.mapM_cons] at mapped
    obtain ⟨first, head, mapped⟩ := Option.bind_eq_some_iff.mp mapped
    obtain ⟨later, tail, same⟩ := Option.bind_eq_some_iff.mp mapped
    obtain rfl := Option.some.inj same
    rw [known item List.mem_cons_self first head,
      induction tail fun other member => known other (List.mem_cons_of_mem _ member)]
    rfl

theorem resize_zero_same {bytes : List Byte} {length : Nat} (same : bytes.length = length) :
    resizeZero bytes length = bytes := by
  simp [resizeZero, same]

theorem block_span_len {plan : BlockPlan} {blockId : Nat} {span : BlockSpan}
    (placed : plan.blockSpan blockId = some span) : plan.blockLen blockId = some span.len := by
  obtain ⟨offset, _, placed⟩ := Option.bind_eq_some_iff.mp placed
  obtain ⟨length, found, same⟩ := Option.bind_eq_some_iff.mp placed
  cases same
  exact found

namespace FecReceiver

section Decoding

variable {crate : FountainCrate} {host : Host} {params : BlockParams} {source : List Byte}
  {state : FecBlockState}

theorem systematic_symbols {sourceSymbols symbolSize blockLen : Nat} {block : List Byte}
    (length : source.length = sourceSymbols * symbolSize)
    (genuine : ∀ (symbolId : Nat) (payload : List Byte), symbolId < sourceSymbols →
      state.symbols[symbolId]? = some payload →
        payload = slice source (symbolId * symbolSize) (symbolId * symbolSize + symbolSize))
    (gives : systematicBlockPayload host state sourceSymbols symbolSize blockLen = some block) :
    block = source.take blockLen := by
  unfold systematicBlockPayload at gives
  split_ifs at gives
  obtain ⟨symbols, collected, same⟩ := Option.bind_eq_some_iff.mp gives
  cases same
  have slices := @mapM_some_map _ _ _
    (fun i => slice source (i * symbolSize) (i * symbolSize + symbolSize)) _ _ collected ?_
  · rw [slices, flatten_slices source symbolSize sourceSymbols length]
  · intro symbolId member result found
    have inside := List.mem_range.mp member
    obtain ⟨payload, present, same⟩ := Option.bind_eq_some_iff.mp found
    obtain rfl := genuine symbolId payload inside present
    have bounded : symbolId * symbolSize + symbolSize ≤ source.length := by
      rw [length, ← Nat.succ_mul]
      exact Nat.mul_le_mul_right _ inside
    have width := slice_length source (symbolId * symbolSize) (symbolId * symbolSize + symbolSize)
      bounded
    rw [Nat.add_sub_cancel_left] at width
    have same := Option.some.inj same
    rw [← same, resize_zero_same width]

/-- The fast path answers once it holds every source symbol and has room for the block. -/
theorem systematic_answers {sourceSymbols symbolSize : Nat} (blockLen : Nat)
    (fits : sourceSymbols * symbolSize < 2 ^ 64)
    (reserved : host.tryReserve .systematicBlock (sourceSymbols * symbolSize) = true)
    (held : ∀ symbolId < sourceSymbols, ∃ payload, state.symbols[symbolId]? = some payload) :
    ∃ block, systematicBlockPayload host state sourceSymbols symbolSize blockLen = some block := by
  have collected : ∃ symbols, ((List.range sourceSymbols).mapM fun symbolId => do
      let payload ← state.symbols[symbolId]?
      some (resizeZero payload symbolSize)) = some symbols := by
    apply mapM_answers
    intro symbolId member
    rcases held symbolId (List.mem_range.mp member) with ⟨payload, present⟩
    exact ⟨_, by rw [present]; rfl⟩
  rcases collected with ⟨symbols, collected⟩
  refine ⟨symbols.flatten.take blockLen, ?_⟩
  rw [systematicBlockPayload, if_neg (Nat.not_le.mpr fits), if_neg (not_not.mpr reserved), collected]
  rfl

theorem systematic_block {blockLen : Nat} {block : List Byte}
    (length : source.length = params.sourceSymbols * params.symbolSize)
    (genuine : ∀ (symbolId : Nat) (payload : List Byte), state.symbols[symbolId]? = some payload →
      payload = genuineSymbol crate params source symbolId)
    (gives : systematicBlockPayload host state params.sourceSymbols params.symbolSize blockLen =
      some block) : block = source.take blockLen := by
  refine systematic_symbols length ?_ gives
  intro symbolId payload inside present
  rw [genuine symbolId payload present, genuineSymbol, if_pos inside]

theorem decoder_input_some {decoder : Decoder} {sourceSymbols symbolId : Nat} {payload : List Byte}
    {packet : EncodingPacket}
    (marked : decoderInput decoder sourceSymbols symbolId payload = some packet) :
    packet = (symbolId, resizeZero payload decoder.symbolSize) := by
  simp only [decoderInput, Decoder.sourceSymbol, Decoder.codedSymbol] at marked
  split_ifs at marked
  · exact (Option.some.inj marked).symm
  · exact (Option.some.inj marked).symm

theorem coded_block {sessionId : UInt64} {blockId blockLen sourceSymbols : Nat}
    {geometry : SymbolGeometry} {block : List Byte} (sound : DecodesGenuine crate)
    (positive : 0 < geometry.symbolSize) (uncut : geometry.symbolSize < 2 ^ 16)
    (paramsAre : params =
      ⟨sourceSymbols, geometry.symbolSize, blockSeed sessionId (UInt64.ofNat blockId)⟩)
    (length : source.length = params.sourceSymbols * params.symbolSize)
    (genuine : ∀ (symbolId : Nat) (payload : List Byte), state.symbols[symbolId]? = some payload →
      payload = genuineSymbol crate params source symbolId)
    (gives : decodeBlock crate host sessionId blockId geometry sourceSymbols blockLen state =
      some (some block)) : block = source.take blockLen := by
  unfold decodeBlock at gives
  simp only [← paramsAre] at gives
  split_ifs at gives
  · cases gives
  · obtain ⟨received, collected, gives⟩ := Option.bind_eq_some_iff.mp gives
    have packets := @mapM_some_map _ _ _
      (fun symbol => (symbol.1, resizeZero symbol.2 params.symbolSize)) _ _ collected
      fun symbol _ packet marked => decoder_input_some marked
    obtain ⟨output, decoded, gives⟩ := Option.bind_eq_some_iff.mp gives
    cases output with
    | none => cases gives
    | some output =>
      simp only at gives
      split_ifs at gives
      · cases gives
      · cases gives
        have distinct : (received.map Prod.fst).Nodup := by
          rw [packets, List.map_map]
          show (state.symbols.toList.map Prod.fst).Nodup
          rw [Std.ExtTreeMap.map_fst_toList_eq_keys]
          exact Std.ExtTreeMap.nodup_keys
        have padded : ∀ packet ∈ received, packet.2 =
            resizeZero (genuineSymbol crate params source packet.1) params.symbolSize := by
          rw [packets]
          intro packet member
          obtain ⟨⟨symbolId, payload⟩, present, rfl⟩ := List.mem_map.mp member
          rw [← genuine symbolId payload
            (Std.ExtTreeMap.mem_toList_iff_getElem?_eq_some.mp present)]
        have known : 0 < params.symbolSize ∧ params.symbolSize < 2 ^ 16 := by
          rw [paramsAre]
          exact ⟨positive, uncut⟩
        rw [decode_genuine_symbols sound params source received known.1 known.2 length distinct
          padded decoded]
      · cases gives

/-- A block decoded from genuine symbols is the block of the source, if the fast path has put it
together or the crate knows the symbol size. -/
theorem decoded_block_genuine {transfer : Transfer} {fec : LosslessSessionFecMode}
    {geometry : SymbolGeometry} {blockId blockLen : Nat} {block : List Byte}
    (sound : DecodesGenuine crate) (kind : transfer.manifest.mode = .fec fec)
    (laidOut : transfer.plan.symbolGeometry fec.symbolsPerBlock = .ok geometry)
    (length : transfer.plan.blockLen blockId = some blockLen)
    (inside : blockId < transfer.plan.totalBlocks)
    (genuine : ∀ (symbolId : Nat) (payload : List Byte), state.symbols[symbolId]? = some payload →
      transfer.IsSymbol crate blockId symbolId payload)
    (gives : DecodesTo crate host transfer.sessionId blockId geometry fec.symbolsPerBlock.toNat
      blockLen state block)
    (direct : systematicBlockPayload host state fec.symbolsPerBlock.toNat geometry.symbolSize
      blockLen = some block ∨ geometry.symbolSize < 2 ^ 16) : transfer.IsBlock blockId block := by
  have placed := transfer.plan.block_span_some blockId inside
  generalize (⟨blockId * transfer.plan.blockSize, min transfer.plan.blockSize
    (transfer.plan.totalBytes - blockId * transfer.plan.blockSize)⟩ : BlockSpan) = span at placed
  obtain rfl : blockLen = span.len :=
    Option.some.inj (length.symm.trans (block_span_len placed))
  obtain ⟨count, _, covers⟩ := symbol_geometry_covers transfer.plan fec.symbolsPerBlock laidOut
  have padded := BlockSource.padded_symbol_bytes_length transfer.source span geometry
  have symbols (symbolId : Nat) (payload : List Byte)
      (present : state.symbols[symbolId]? = some payload) :
      payload = genuineSymbol crate
        (transfer.blockParams fec.symbolsPerBlock.toNat geometry.symbolSize blockId)
        (transfer.source.paddedSymbolBytes span geometry) symbolId := by
    obtain ⟨fec', geometry', span', kind', laidOut', placed', same⟩ :=
      genuine symbolId payload present
    rw [kind] at kind'
    cases kind'
    rw [laidOut] at laidOut'
    cases laidOut'
    rw [placed] at placed'
    cases placed'
    exact same
  rw [count] at padded
  have cut := transfer.source.padded_symbol_bytes_take span geometry
    ((transfer.plan.span_len_le placed).trans covers)
  refine ⟨span, placed, ?_⟩
  rw [← cut]
  have fast (systematic : systematicBlockPayload host state fec.symbolsPerBlock.toNat
      geometry.symbolSize span.len = some block) :
      block = (transfer.source.paddedSymbolBytes span geometry).take span.len :=
    @systematic_block crate host
      (transfer.blockParams fec.symbolsPerBlock.toNat geometry.symbolSize blockId) _ _ _ _ padded
      symbols systematic
  rcases direct with systematic | uncut
  · exact fast systematic
  · rcases gives with systematic | coded
    · exact fast systematic
    · exact coded_block sound (geometry_positive laidOut).2 uncut rfl padded symbols coded

end Decoding

end FecReceiver

end Nextmini.Session
