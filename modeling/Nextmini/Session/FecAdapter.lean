import Nextmini.Session.Plan

/-!
# Adapter to the fountain-code crate

The code below the session logic that calls the external fountain-code crate. The crate itself is
a parameter: its repair symbols and its decoder are arbitrary functions of what the adapter passes
to them. The only fact ever assumed of it is `DecodesGenuine`. A payload id of the crate holds a
24-bit encoding symbol id, and its constructor panics on a larger one; `none` is that panic.
-/

namespace Nextmini.Session

open Nextmini.Library.BigEndian

set_option autoImplicit false

def blockSeed (sessionId blockId : UInt64) : UInt64 :=
  sessionId * 0x9E3779B97F4A7C15 ^^^ blockId * 0xBF58476D1CE4E5B9

structure BlockParams where
  sourceSymbols : Nat
  symbolSize : Nat
  seed : UInt64
  deriving DecidableEq, Repr

/-- Object transmission information of one block; the symbol size is cut to 16 bits. -/
structure Oti where
  transferLength : Nat
  symbolSize : Nat
  deriving DecidableEq, Repr

def BlockParams.oti (params : BlockParams) : Oti where
  transferLength := params.sourceSymbols * params.symbolSize
  symbolSize := params.symbolSize % 2 ^ 16

/-- A symbol as the crate's decoder receives it: encoding symbol id and data. -/
abbrev EncodingPacket := Nat × List Byte

/-- The external crate: the data of the repair packet with a given index, and the decoder's
result on a list of packets. -/
structure FountainCrate where
  repairPacket : Oti → List Byte → Nat → List Byte
  decode : Oti → Nat → List EncodingPacket → Option (List Byte)

def idleCrate : FountainCrate := ⟨fun _ _ _ => [], fun _ _ _ => none⟩

def encodingSymbolIdLimit : Nat := 2 ^ 24

structure Encoder where
  oti : Oti
  sourceBlock : List Byte
  k : Nat
  deriving DecidableEq, Repr

def Encoder.fromBlock (params : BlockParams) (sourceBlock : List Byte) : Option Encoder :=
  if params.sourceSymbols = 0 then none
  else if sourceBlock.length ≠ params.sourceSymbols * params.symbolSize then none
  else some ⟨params.oti, sourceBlock, params.sourceSymbols⟩

theorem Encoder.from_block_of_length {params : BlockParams} {sourceBlock : List Byte}
    (positive : 0 < params.sourceSymbols)
    (length : sourceBlock.length = params.sourceSymbols * params.symbolSize) :
    Encoder.fromBlock params sourceBlock = some ⟨params.oti, sourceBlock, params.sourceSymbols⟩ := by
  rw [fromBlock, if_neg (Nat.pos_iff_ne_zero.mp positive), if_neg (not_not_intro length)]

def Encoder.codedSymbol (crate : FountainCrate) (encoder : Encoder) (esi : Nat) :
    Option (List Byte) :=
  let codedIndex := esi - encoder.k
  if encoder.k + codedIndex < encodingSymbolIdLimit then
    some (crate.repairPacket encoder.oti encoder.sourceBlock codedIndex)
  else none

structure Decoder where
  k : Nat
  symbolSize : Nat
  oti : Oti
  blockLength : Nat
  deriving DecidableEq, Repr

def Decoder.fromBlock (params : BlockParams) : Decoder where
  k := params.sourceSymbols
  symbolSize := params.symbolSize
  oti := params.oti
  blockLength := params.sourceSymbols * params.symbolSize

/-- `none` is the failed assertion on the symbol id. -/
def Decoder.sourceSymbol (decoder : Decoder) (esi : Nat) (payload : List Byte) :
    Option EncodingPacket :=
  if esi < decoder.k then some (esi, payload) else none

def Decoder.codedSymbol (_decoder : Decoder) (esi : Nat) (payload : List Byte) : EncodingPacket :=
  (esi, payload)

/-- One symbol of the flat decoder output, filled with zeros where the output is short. -/
def flatSymbol (flatData : List Byte) (symbolSize start : Nat) : List Byte :=
  if start + symbolSize ≤ flatData.length then slice flatData start (start + symbolSize)
  else if start < flatData.length then
    flatData.drop start ++ List.replicate (symbolSize - (flatData.length - start)) 0
  else List.replicate symbolSize 0

/-- The outer `none` is the payload-id panic; the inner one is `InsufficientSymbols`. -/
def Decoder.decode (crate : FountainCrate) (decoder : Decoder) (symbols : List EncodingPacket) :
    Option (Option (List (List Byte))) :=
  if ∀ symbol ∈ symbols, symbol.1 < encodingSymbolIdLimit then
    some ((crate.decode decoder.oti decoder.blockLength symbols).map fun flatData =>
      (List.range decoder.k).map fun i =>
        flatSymbol flatData decoder.symbolSize (i * decoder.symbolSize))
  else none

/-- `Vec::resize` with zeros, as the receiver pads a symbol to the symbol size. -/
def resizeZero (bytes : List Byte) (length : Nat) : List Byte :=
  bytes.take length ++ List.replicate (length - bytes.length) 0

/-- The symbol of a block that carries a given id: a source symbol below `k`, else the repair
symbol at the index the encoder derives from the id. -/
def genuineSymbol (crate : FountainCrate) (params : BlockParams) (block : List Byte) (esi : Nat) :
    List Byte :=
  if esi < params.sourceSymbols then
    slice block (esi * params.symbolSize) (esi * params.symbolSize + params.symbolSize)
  else crate.repairPacket params.oti block (esi - params.sourceSymbols)

/-- Whenever the crate's decoder answers on distinct genuine symbols of a block, each padded to the
symbol size, it answers with that block. A symbol size from 2^16 on is not among the crate's: what
`BlockParams.oti` says of such a block is not so. -/
def DecodesGenuine (crate : FountainCrate) : Prop :=
  ∀ (params : BlockParams) (block : List Byte) (symbols : List EncodingPacket)
    (decoded : List Byte), 0 < params.symbolSize → params.symbolSize < 2 ^ 16 →
    block.length = params.sourceSymbols * params.symbolSize →
      (symbols.map Prod.fst).Nodup →
        (∀ symbol ∈ symbols, symbol.2 =
          resizeZero (genuineSymbol crate params block symbol.1) params.symbolSize) →
          crate.decode params.oti block.length symbols = some decoded → decoded = block

theorem flat_symbol_slice (flatData : List Byte) (symbolSize start : Nat)
    (inside : start + symbolSize ≤ flatData.length) :
    flatSymbol flatData symbolSize start = slice flatData start (start + symbolSize) := by
  rw [flatSymbol, if_pos inside]

/-- The consecutive slices of a list of that many items are the list. -/
theorem flatten_slices (items : List Byte) (width count : Nat)
    (length : items.length = count * width) :
    ((List.range count).map fun i => slice items (i * width) (i * width + width)).flatten =
      items := by
  have prefixes (number : Nat) (bounded : number ≤ count) :
      ((List.range number).map fun i => slice items (i * width) (i * width + width)).flatten =
        slice items 0 (number * width) := by
    induction number with
    | zero => simp [slice]
    | succ number induction =>
      have before := induction (by omega)
      rw [List.range_succ, List.map_append, List.flatten_append, before]
      simp only [List.map_cons, List.map_nil, List.flatten_cons, List.flatten_nil,
        List.append_nil]
      rw [slice_append_slice _ _ _ _ (Nat.zero_le _) (Nat.le_add_right _ _), Nat.add_mul,
        Nat.one_mul]
  rw [prefixes count le_rfl, slice, List.drop_zero, ← length, List.take_length]

theorem decode_genuine_symbols {crate : FountainCrate} (sound : DecodesGenuine crate)
    (params : BlockParams) (block : List Byte) (symbols : List EncodingPacket)
    (positive : 0 < params.symbolSize) (uncut : params.symbolSize < 2 ^ 16)
    (length : block.length = params.sourceSymbols * params.symbolSize)
    (distinct : (symbols.map Prod.fst).Nodup)
    (genuine : ∀ symbol ∈ symbols, symbol.2 =
      resizeZero (genuineSymbol crate params block symbol.1) params.symbolSize)
    {output : List (List Byte)}
    (decoded : (Decoder.fromBlock params).decode crate symbols = some (some output)) :
    output.flatten = block := by
  simp only [Decoder.decode, Decoder.fromBlock] at decoded
  split_ifs at decoded
  obtain ⟨flatData, answer, rfl⟩ := Option.map_eq_some_iff.mp (Option.some.inj decoded)
  rw [← length] at answer
  obtain rfl := sound params block symbols flatData positive uncut length distinct genuine answer
  have symbolsAre : (List.range params.sourceSymbols).map (fun i =>
      flatSymbol flatData params.symbolSize (i * params.symbolSize)) =
        (List.range params.sourceSymbols).map fun i =>
          slice flatData (i * params.symbolSize) (i * params.symbolSize + params.symbolSize) := by
    apply List.map_congr_left
    intro i member
    have bound := List.mem_range.mp member
    apply flat_symbol_slice
    rw [length, ← Nat.succ_mul]
    exact Nat.mul_le_mul_right _ bound
  rw [symbolsAre]
  exact flatten_slices flatData params.symbolSize params.sourceSymbols length

end Nextmini.Session
