import Mathlib.Algebra.Group.Action.Defs
import Mathlib.Tactic.NormNum
import Nextmini.Library.PackedLanes
import Nextmini.Mettle.Windows

/-!
# Sampling in packed lanes

The draws of one sample are independent of one another, since the generator is a counter whose
values are mixed. Taken side by side in lanes of 128 bits, all draws of a sample cost as much as a
few operations on big numbers, and the edges of hundreds of sources can be computed in a proof.
-/

namespace Nextmini.Mettle

open Nextmini.Library.PackedLanes

set_option autoImplicit false

/-! ## Draws as numbers -/

def entropyIncrement : Nat := 0x9E3779B97F4A7C15

def mixRound (shift factor state : Nat) : Nat := (state ^^^ state >>> shift) * factor % 2 ^ 64

def mixState (state : Nat) : Nat :=
  let value := mixRound 27 0x94D049BB133111EB (mixRound 30 0xBF58476D1CE4E5B9 state)
  value ^^^ value >>> 31

/-- The counter at a draw, counted from zero. -/
def drawState (state draw : Nat) : Nat := (state + entropyIncrement * (draw + 1)) % 2 ^ 64

def missed (bits state : Nat) : Nat := if mixState state &&& (2 ^ bits - 1) = 0 then 0 else 1

theorem next_entropy_state (state : UInt64) :
    (nextEntropy state).1.toNat = (state.toNat + entropyIncrement) % 2 ^ 64 := by
  rw [nextEntropy, UInt64.toNat_add]
  rfl

theorem next_entropy_value (state : UInt64) :
    (nextEntropy state).2.toNat = mixState ((state.toNat + entropyIncrement) % 2 ^ 64) := by
  rw [← next_entropy_state]
  simp only [nextEntropy, mixState, mixRound, UInt64.toNat_xor, UInt64.toNat_mul,
    UInt64.toNat_shiftRight]
  rfl

theorem draw_state_succ (state : UInt64) (draw : Nat) :
    drawState (nextEntropy state).1.toNat draw = drawState state.toNat (draw + 1) := by
  have sum : state.toNat + entropyIncrement + entropyIncrement * (draw + 1) =
      state.toNat + entropyIncrement * (draw + 1 + 1) := by
    rw [Nat.mul_succ entropyIncrement (draw + 1)]
    omega
  rw [next_entropy_state, drawState, drawState, Nat.mod_add_mod, sum]

/-- The successes and the misses of all draws make up the trials. -/
theorem count_successes_add_misses {bits : Nat} (narrow : bits ≤ 64) (trials : Nat) (state : UInt64)
    (successes : Nat) :
    countSuccesses (UInt64.ofNat (2 ^ bits - 1)) trials state successes +
      ∑ draw ∈ Finset.range trials, missed bits (drawState state.toNat draw) =
        trials + successes := by
  induction trials generalizing state successes with
  | zero =>
    rw [Finset.range_zero, Finset.sum_empty, Nat.add_zero, Nat.zero_add]
    rfl
  | succ trials induction =>
    have rest := induction (nextEntropy state).1
      (if (nextEntropy state).2 &&& UInt64.ofNat (2 ^ bits - 1) = 0 then successes + 1
        else successes)
    have first : drawState state.toNat 0 = (state.toNat + entropyIncrement) % 2 ^ 64 := by
      rw [drawState, Nat.zero_add, Nat.mul_one]
    have maskWord : (UInt64.ofNat (2 ^ bits - 1)).toNat = 2 ^ bits - 1 := by
      apply UInt64.toNat_ofNat_of_lt'
      have fits := Nat.pow_le_pow_right Nat.two_pos narrow
      have positive := Nat.two_pow_pos bits
      rw [UInt64.size]
      omega
    have outcome : ((nextEntropy state).2 &&& UInt64.ofNat (2 ^ bits - 1) = 0) ↔
        mixState (drawState state.toNat 0) &&& (2 ^ bits - 1) = 0 := by
      rw [← UInt64.toNat_inj, UInt64.toNat_and, next_entropy_value, maskWord, first,
        UInt64.toNat_zero]
    rw [count_successes_succ, Finset.sum_range_succ']
    simp only [draw_state_succ] at rest
    by_cases success : mixState (drawState state.toNat 0) &&& (2 ^ bits - 1) = 0
    · rw [if_pos (outcome.mpr success)] at rest ⊢
      rw [missed, if_pos success]
      omega
    · rw [if_neg (mt outcome.mp success)] at rest ⊢
      rw [missed, if_neg success]
      omega

/-! ## Draws in lanes -/

/-- What the lanes hold from the start: ones, and the number of each draw counted from one. -/
structure Lanes where
  ones : Nat
  ramp : Nat

def lanesOf (count : Nat) : Lanes := ⟨pack 128 (fun _ => 1) count, pack 128 (· + 1) count⟩

namespace Lanes

def mask (lanes : Lanes) (bits : Nat) : Nat := (2 ^ bits - 1) * lanes.ones

def xorShift (lanes : Lanes) (shift words : Nat) : Nat :=
  words ^^^ (words >>> shift &&& lanes.mask 64)

def mixRound (lanes : Lanes) (shift factor words : Nat) : Nat :=
  factor * lanes.xorShift shift words &&& lanes.mask 64

def drawStates (lanes : Lanes) (state : Nat) : Nat :=
  state * lanes.ones + entropyIncrement * lanes.ramp &&& lanes.mask 64

def mixStates (lanes : Lanes) (states : Nat) : Nat :=
  lanes.xorShift 31 (lanes.mixRound 27 0x94D049BB133111EB
    (lanes.mixRound 30 0xBF58476D1CE4E5B9 states))

def misses (lanes : Lanes) (bits words : Nat) : Nat :=
  ((words &&& lanes.mask bits) + lanes.mask bits) >>> bits &&& lanes.ones

/-- How many of the first draws miss. -/
def countMisses (lanes : Lanes) (bits trials state : Nat) : Nat :=
  lanes.misses bits (lanes.mixStates (lanes.drawStates state)) % 2 ^ (128 * trials) % (2 ^ 128 - 1)

end Lanes

variable {count : Nat} {words : Nat → Nat}

theorem mask_lanes (bits : Nat) :
    (lanesOf count).mask bits = pack 128 (fun _ => 2 ^ bits - 1) count := by
  rw [Lanes.mask, lanesOf, mul_pack]
  simp only [Nat.mul_one]

theorem word_fits_lane {word : Nat} (bounded : word < 2 ^ 64) : word < 2 ^ 128 :=
  bounded.trans (by norm_num)

theorem lanes_mod (bounded : ∀ index < count, words index < 2 ^ 128) :
    pack 128 words count &&& (lanesOf count).mask 64 =
      pack 128 (fun index => words index % 2 ^ 64) count := by
  rw [mask_lanes, pack_and bounded (fun _ _ => by norm_num) (by norm_num)]
  apply pack_congr
  intro index _
  exact Nat.and_two_pow_sub_one_eq_mod _ _

theorem xor_shift_lanes {shift : Nat} (bounded : ∀ index < count, words index < 2 ^ 64)
    (within : shift < 64) : (lanesOf count).xorShift shift (pack 128 words count) =
      pack 128 (fun index => words index ^^^ words index >>> shift) count := by
  have wide : ∀ index < count, words index < 2 ^ 128 :=
    fun index below => word_fits_lane (bounded index below)
  have shifted : ∀ index < count, words index >>> shift < 2 ^ 64 := fun index below =>
    lt_of_le_of_lt (Nat.shiftRight_le _ _) (bounded index below)
  have room : 2 ^ 64 ≤ 2 ^ (128 - shift) := Nat.pow_le_pow_right Nat.two_pos (by omega)
  rw [Lanes.xorShift, mask_lanes, pack_shift_and wide (fun _ _ => by omega) (by omega),
    pack_xor wide (fun index below => word_fits_lane (Nat.and_lt_two_pow _ (by norm_num)))
      (by norm_num)]
  apply pack_congr
  intro index below
  rw [Nat.and_two_pow_sub_one_eq_mod, Nat.mod_eq_of_lt (shifted index below)]

theorem xor_shift_bound {word shift : Nat} (bounded : word < 2 ^ 64) :
    word ^^^ word >>> shift < 2 ^ 64 :=
  Nat.xor_lt_two_pow bounded (lt_of_le_of_lt (Nat.shiftRight_le _ _) bounded)

theorem mix_round_lanes {shift factor : Nat} (bounded : ∀ index < count, words index < 2 ^ 64)
    (within : shift < 64) (small : factor < 2 ^ 64) :
    (lanesOf count).mixRound shift factor (pack 128 words count) =
      pack 128 (fun index => mixRound shift factor (words index)) count := by
  rw [Lanes.mixRound, xor_shift_lanes bounded within, mul_pack, lanes_mod]
  · apply pack_congr
    intro index _
    rw [mixRound, Nat.mul_comm]
  · intro index below
    have mixed := @xor_shift_bound (words index) shift (bounded index below)
    calc factor * (words index ^^^ words index >>> shift) < 2 ^ 64 * 2 ^ 64 :=
          Nat.mul_lt_mul'' small mixed
      _ = 2 ^ 128 := by norm_num

theorem mix_round_bound (shift factor state : Nat) : mixRound shift factor state < 2 ^ 64 :=
  Nat.mod_lt _ (by norm_num)

theorem mix_states_lanes (bounded : ∀ index < count, words index < 2 ^ 64) :
    (lanesOf count).mixStates (pack 128 words count) =
      pack 128 (fun index => mixState (words index)) count := by
  rw [Lanes.mixStates, mix_round_lanes bounded (by norm_num) (by norm_num),
    mix_round_lanes (fun _ _ => mix_round_bound _ _ _) (by norm_num) (by norm_num),
    xor_shift_lanes (fun _ _ => mix_round_bound _ _ _) (by norm_num)]
  rfl

theorem draw_states_lanes {state : Nat} (word : state < 2 ^ 64) (few : count < 2 ^ 32) :
    (lanesOf count).drawStates state = pack 128 (drawState state) count := by
  have sums : state * (lanesOf count).ones + entropyIncrement * (lanesOf count).ramp =
      pack 128 (fun draw => state + entropyIncrement * (draw + 1)) count := by
    rw [lanesOf, mul_pack, mul_pack, pack_add]
    simp only [Nat.mul_one]
  rw [Lanes.drawStates, sums, lanes_mod]
  · rfl
  · intro draw below
    have product : entropyIncrement * (draw + 1) ≤ 2 ^ 64 * 2 ^ 32 :=
      Nat.mul_le_mul (by norm_num [entropyIncrement]) (by omega)
    norm_num at product word ⊢
    omega

theorem miss_of_word {bits word : Nat} :
    ((word &&& (2 ^ bits - 1)) + (2 ^ bits - 1)) >>> bits &&& 1 =
      if word &&& (2 ^ bits - 1) = 0 then 0 else 1 := by
  have positive := Nat.two_pow_pos bits
  have small : word &&& (2 ^ bits - 1) ≤ 2 ^ bits - 1 := Nat.and_le_right
  generalize word &&& (2 ^ bits - 1) = low at small
  rw [Nat.shiftRight_eq_div_pow]
  split_ifs with zero
  · rw [zero, Nat.zero_add, Nat.div_eq_of_lt (by omega)]
    rfl
  · have one : (low + (2 ^ bits - 1)) / 2 ^ bits = 1 := by
      apply Nat.div_eq_of_lt_le
      · omega
      · omega
    rw [one]
    rfl

theorem misses_lanes {bits : Nat} (bounded : ∀ index < count, words index < 2 ^ 64)
    (narrow : bits < 64) : (lanesOf count).misses bits (pack 128 words count) =
      pack 128 (fun index => if words index &&& (2 ^ bits - 1) = 0 then 0 else 1) count := by
  have low : 2 ^ bits - 1 < 2 ^ 64 := by
    have fits := Nat.pow_lt_pow_right Nat.one_lt_two narrow
    omega
  have ones : (lanesOf count).ones = pack 128 (fun _ => 1) count := rfl
  rw [Lanes.misses, mask_lanes, pack_and (fun index below => word_fits_lane (bounded index below))
      (fun _ _ => word_fits_lane low) (by norm_num), pack_add, ones,
    @pack_shift_and 128]
  · apply pack_congr
    intro index _
    exact miss_of_word
  · intro index below
    have masked := Nat.and_lt_two_pow (words index) low
    norm_num at masked low ⊢
    omega
  · intro index _
    exact Nat.one_lt_two_pow (by omega)
  · omega

theorem count_misses_lanes {bits trials state : Nat} (narrow : bits < 64) (word : state < 2 ^ 64)
    (few : count < 2 ^ 32) (enough : trials ≤ count) :
    (lanesOf count).countMisses bits trials state =
      ∑ draw ∈ Finset.range trials, missed bits (drawState state draw) := by
  have states : ∀ draw < count, drawState state draw < 2 ^ 64 :=
    fun _ _ => Nat.mod_lt _ (by norm_num)
  have drawn : ∀ draw < count, mixState (drawState state draw) < 2 ^ 64 :=
    fun _ _ => xor_shift_bound (mix_round_bound _ _ _)
  have single (draw : Nat) : missed bits (drawState state draw) ≤ 1 := by
    rw [missed]
    split_ifs
    · exact Nat.zero_le 1
    · exact le_rfl
  rw [Lanes.countMisses, draw_states_lanes word few, mix_states_lanes states,
    misses_lanes drawn narrow, pack_mod _ enough, pack_sum]
  · rfl
  · have total := Finset.sum_le_card_nsmul (Finset.range trials)
      (fun draw => missed bits (drawState state draw)) 1 fun draw _ => single draw
    rw [Finset.card_range, smul_eq_mul, Nat.mul_one] at total
    apply lt_of_le_of_lt total
    norm_num at few ⊢
    omega
  · intro draw _
    exact lt_of_le_of_lt (single draw) (by norm_num)

theorem sample_packed {bits trials : Nat} (narrow : bits < 64) (few : count < 2 ^ 32)
    (enough : trials ≤ count) (state : UInt64) :
    samplePowerOfTwoBinomial trials (2 ^ bits) state =
      trials - (lanesOf count).countMisses bits trials state.toNat := by
  rw [samplePowerOfTwoBinomial, count_misses_lanes narrow state.toNat_lt few enough]
  have total := count_successes_add_misses narrow.le trials state 0
  omega

/-! ## Edges -/

namespace MettleParams

/-- The edges of a source, with each sample counted in lanes. -/
def packedEdgeBinIds (params : MettleParams) (lanes : Lanes) (sourceId : Nat) (seed : UInt64)
    (terminalSourceCount : Option Nat) : List Nat :=
  let trials := params.nonTleTrialsWithTerminalSourceCount sourceId terminalSourceCount
  params.tleBinId sourceId :: [1, 2, 3].map fun bits =>
    params.nonTleEdgeBinIdForEta sourceId
      (trials - lanes.countMisses bits trials (mixEntropy seed sourceId (bits + 1)).toNat)
      terminalSourceCount

theorem packed_edges (params : MettleParams) {sourceId : Nat} {terminalSourceCount : Option Nat}
    (few : count < 2 ^ 32) (seed : UInt64)
    (enough : params.nonTleTrialsWithTerminalSourceCount sourceId terminalSourceCount ≤ count) :
    params.edgeBinIdsWithTerminalSourceCount sourceId seed terminalSourceCount =
      params.packedEdgeBinIds (lanesOf count) sourceId seed terminalSourceCount := by
  have sample (bits : Nat) (narrow : bits < 64) := sample_packed narrow few enough
    (mixEntropy seed sourceId (bits + 1))
  have profile : nonTleProfile = [(1, 2 ^ 1), (1, 2 ^ 2), (1, 2 ^ 3)] := rfl
  rw [edgeBinIdsWithTerminalSourceCount, packedEdgeBinIds, profile]
  simp only [List.zipIdx_cons, List.zipIdx_nil, List.map_cons, List.map_nil, nonTleEdgeBinId]
  rw [sample 1 (by norm_num), sample 2 (by norm_num), sample 3 (by norm_num)]

/-- At this overhead no sample has more than six hundred trials. -/
theorem per_thousand_edges {terminal : Option Nat} {sourceId : Nat}
    (inStream : InStream terminal sourceId) (seed : UInt64) :
    perThousand.edgeBinIdsWithTerminalSourceCount sourceId seed terminal =
      perThousand.packedEdgeBinIds (lanesOf 600) sourceId seed terminal := by
  have nominal : perThousand.nominalNonTleTrials = 600 := by decide
  have enough := perThousand.trials_le_nominal inStream
  rw [nominal] at enough
  exact packed_edges perThousand (by norm_num) seed enough

end MettleParams

end Nextmini.Mettle
