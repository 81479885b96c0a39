import Mathlib.Algebra.BigOperators.Group.Finset.Basic
import Mathlib.Algebra.Order.BigOperators.Group.Finset
import Mathlib.Data.Nat.Bitwise
import Mathlib.Data.Nat.ModEq
import Mathlib.Tactic.Ring

/-!
# Packed lanes

Many small numbers in one, each in a lane of the same width. Sums and multiples are taken lane by
lane, and so are the bitwise operations while each number fits its lane; a shift is one lane by lane
once the bits that enter from the next lane are masked off. So one operation on big numbers does
the work of as many small ones.
-/

namespace Nextmini.Library.PackedLanes

set_option autoImplicit false

def pack (width : Nat) (lane : Nat → Nat) : Nat → Nat
  | 0 => 0
  | lanes + 1 => pack width lane lanes + 2 ^ (width * lanes) * lane lanes

variable {width lanes : Nat} {lane other : Nat → Nat}

theorem pack_lt (bounded : ∀ index < lanes, lane index < 2 ^ width) :
    pack width lane lanes < 2 ^ (width * lanes) := by
  induction lanes with
  | zero => exact Nat.one_pos
  | succ lanes induction =>
    have lower := induction fun index below => bounded index (Nat.lt_succ_of_lt below)
    have upper := Nat.mul_le_mul_left (2 ^ (width * lanes)) (bounded lanes (Nat.lt_succ_self lanes))
    rw [Nat.mul_succ] at upper
    rw [pack, Nat.mul_succ, Nat.pow_add]
    omega

theorem pack_congr (same : ∀ index < lanes, lane index = other index) :
    pack width lane lanes = pack width other lanes := by
  induction lanes with
  | zero => rfl
  | succ lanes induction =>
    rw [pack, pack, same lanes (Nat.lt_succ_self lanes),
      induction fun index below => same index (Nat.lt_succ_of_lt below)]

theorem pack_add : pack width lane lanes + pack width other lanes =
    pack width (fun index => lane index + other index) lanes := by
  induction lanes with
  | zero => rfl
  | succ lanes induction =>
    rw [pack, pack, pack, ← induction]
    ring

theorem mul_pack (factor : Nat) : factor * pack width lane lanes =
    pack width (fun index => factor * lane index) lanes := by
  induction lanes with
  | zero => rfl
  | succ lanes induction =>
    rw [pack, pack, ← induction]
    ring

/-! ## Bits -/

theorem test_bit_pack (bounded : ∀ index < lanes, lane index < 2 ^ width) (positive : 0 < width)
    (bit : Nat) : (pack width lane lanes).testBit bit =
      (decide (bit / width < lanes) && (lane (bit / width)).testBit (bit % width)) := by
  induction lanes with
  | zero => simp [pack]
  | succ lanes induction =>
    have lower : ∀ index < lanes, lane index < 2 ^ width :=
      fun index below => bounded index (Nat.lt_succ_of_lt below)
    rw [pack, Nat.add_comm, Nat.testBit_two_pow_mul_add _ (pack_lt lower), induction lower]
    have division := Nat.div_lt_iff_lt_mul (x := bit) (y := lanes) positive
    rw [Nat.mul_comm lanes] at division
    split_ifs with before
    · have inside := division.mpr before
      simp [inside, Nat.lt_succ_of_lt inside]
    · have outside : lanes ≤ bit / width := not_lt.mp fun inside => before (division.mp inside)
      rcases Nat.eq_or_lt_of_le outside with here | beyond
      · have position := Nat.div_add_mod bit width
        rw [← here] at position
        rw [← here, show bit - width * lanes = bit % width by omega]
        simp
      · have past : ¬bit / width < lanes + 1 := by omega
        have high : width ≤ bit - width * lanes := by
          have next := Nat.mul_le_mul_left width beyond
          have position := Nat.div_mul_le_self bit width
          rw [Nat.mul_succ] at next
          rw [Nat.mul_comm] at position
          omega
        have fits := bounded lanes (Nat.lt_succ_self lanes)
        rw [Nat.testBit_eq_false_of_lt
          (lt_of_lt_of_le fits (Nat.pow_le_pow_right Nat.two_pos high))]
        simp [past]

theorem pack_and (bounded : ∀ index < lanes, lane index < 2 ^ width)
    (otherBounded : ∀ index < lanes, other index < 2 ^ width) (positive : 0 < width) :
    pack width lane lanes &&& pack width other lanes =
      pack width (fun index => lane index &&& other index) lanes := by
  apply Nat.eq_of_testBit_eq
  intro bit
  rw [Nat.testBit_and, test_bit_pack bounded positive, test_bit_pack otherBounded positive,
    test_bit_pack (fun index below => Nat.and_lt_two_pow _ (otherBounded index below)) positive,
    Nat.testBit_and]
  cases decide (bit / width < lanes)
  · rfl
  · simp

theorem pack_xor (bounded : ∀ index < lanes, lane index < 2 ^ width)
    (otherBounded : ∀ index < lanes, other index < 2 ^ width) (positive : 0 < width) :
    pack width lane lanes ^^^ pack width other lanes =
      pack width (fun index => lane index ^^^ other index) lanes := by
  apply Nat.eq_of_testBit_eq
  intro bit
  rw [Nat.testBit_xor, test_bit_pack bounded positive, test_bit_pack otherBounded positive,
    test_bit_pack (fun index below =>
      Nat.xor_lt_two_pow (bounded index below) (otherBounded index below)) positive,
    Nat.testBit_xor]
  cases decide (bit / width < lanes)
  · rfl
  · simp

/-- A shift by no more than the headroom of the mask stays in its lanes. -/
theorem pack_shift_and {shift : Nat} (bounded : ∀ index < lanes, lane index < 2 ^ width)
    (masked : ∀ index < lanes, other index < 2 ^ (width - shift)) (within : shift < width) :
    pack width lane lanes >>> shift &&& pack width other lanes =
      pack width (fun index => lane index >>> shift &&& other index) lanes := by
  have positive : 0 < width := Nat.zero_lt_of_lt within
  have otherBounded : ∀ index < lanes, other index < 2 ^ width := fun index below =>
    lt_of_lt_of_le (masked index below) (Nat.pow_le_pow_right Nat.two_pos (Nat.sub_le _ _))
  apply Nat.eq_of_testBit_eq
  intro bit
  rw [Nat.testBit_and, Nat.testBit_shiftRight, test_bit_pack bounded positive,
    test_bit_pack otherBounded positive,
    test_bit_pack (fun index below => Nat.and_lt_two_pow _ (otherBounded index below)) positive,
    Nat.testBit_and, Nat.testBit_shiftRight]
  by_cases inside : bit / width < lanes
  · have place := Nat.div_add_mod bit width
    have small := Nat.mod_lt bit positive
    by_cases low : bit % width < width - shift
    · have shifted : shift + bit = (shift + bit % width) + width * (bit / width) := by omega
      have sameLane : (shift + bit) / width = bit / width := by
        rw [shifted, Nat.add_mul_div_left _ _ positive, Nat.div_eq_of_lt (by omega), Nat.zero_add]
      have samePlace : (shift + bit) % width = shift + bit % width := by
        rw [shifted, Nat.add_mul_mod_self_left, Nat.mod_eq_of_lt (by omega)]
      rw [sameLane, samePlace]
      simp [inside]
    · have high : (other (bit / width)).testBit (bit % width) = false :=
        Nat.testBit_eq_false_of_lt (lt_of_lt_of_le (masked _ inside)
          (Nat.pow_le_pow_right Nat.two_pos (not_lt.mp low)))
      simp [high]
  · simp [inside]

/-! ## Counting lanes -/

theorem pack_mod {kept : Nat} (bounded : ∀ index < lanes, lane index < 2 ^ width)
    (fewer : kept ≤ lanes) : pack width lane lanes % 2 ^ (width * kept) = pack width lane kept := by
  induction lanes with
  | zero =>
    rw [Nat.le_zero.mp fewer]
    rfl
  | succ lanes induction =>
    have lower : ∀ index < lanes, lane index < 2 ^ width :=
      fun index below => bounded index (Nat.lt_succ_of_lt below)
    rcases Nat.lt_succ_iff_lt_or_eq.mp (Nat.lt_succ_of_le fewer) with inside | all
    · have exponent : width * lanes = width * kept + width * (lanes - kept) := by
        rw [← Nat.mul_add, Nat.add_sub_of_le (Nat.lt_succ_iff.mp inside)]
      rw [pack, exponent, Nat.pow_add, Nat.mul_assoc, Nat.add_mul_mod_self_left,
        induction lower (Nat.lt_succ_iff.mp inside)]
    · rw [all]
      exact Nat.mod_eq_of_lt (pack_lt bounded)

/-- The sum of the lanes is a remainder, as long as it fits a lane. -/
theorem pack_sum (fits : ∑ index ∈ Finset.range lanes, lane index < 2 ^ width - 1) :
    pack width lane lanes % (2 ^ width - 1) = ∑ index ∈ Finset.range lanes, lane index := by
  have one : 2 ^ width ≡ 1 [MOD 2 ^ width - 1] := by
    have positive := Nat.two_pow_pos width
    have same := (Nat.modEq_iff_dvd' positive).mpr (dvd_refl (2 ^ width - 1))
    exact same.symm
  have congruent (count : Nat) : pack width lane count ≡
      ∑ index ∈ Finset.range count, lane index [MOD 2 ^ width - 1] := by
    induction count with
    | zero => rfl
    | succ count induction =>
      rw [pack, Finset.sum_range_succ, Nat.pow_mul]
      apply induction.add
      have scaled := (one.pow count).mul_right (lane count)
      rw [one_pow, one_mul] at scaled
      exact scaled
  rw [congruent lanes, Nat.mod_eq_of_lt fits]

end Nextmini.Library.PackedLanes
