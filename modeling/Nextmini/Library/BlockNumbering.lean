import Mathlib.Algebra.Order.Group.Nat
import Mathlib.Data.Nat.Basic

/-!
# Numbering in blocks

Numbers below a product, read as a block and a place in it: every number has one block and one place,
and the division with remainder finds them. Read so again and again, a number below a power has its
digits, and the digits fix it.
-/

namespace Nextmini.Library.BlockNumbering

set_option autoImplicit false

variable {size block place count number : Nat}

theorem number_lt (inside : block < count) (placed : place < size) :
    block * size + place < count * size := by
  have blocks := Nat.mul_le_mul_right size (Nat.succ_le_of_lt inside)
  rw [Nat.succ_mul] at blocks
  omega

theorem number_div (placed : place < size) : (block * size + place) / size = block := by
  rw [Nat.mul_comm, Nat.mul_add_div (by omega), Nat.div_eq_of_lt placed, Nat.add_zero]

theorem number_mod (placed : place < size) : (block * size + place) % size = place := by
  rw [Nat.mul_comm, Nat.mul_add_mod, Nat.mod_eq_of_lt placed]

theorem number_unique {otherBlock otherPlace : Nat} (placed : place < size)
    (otherPlaced : otherPlace < size)
    (same : block * size + place = otherBlock * size + otherPlace) :
    block = otherBlock ∧ place = otherPlace := by
  constructor
  · rw [← @number_div size block place placed, same, number_div otherPlaced]
  · rw [← @number_mod size block place placed, same, number_mod otherPlaced]

theorem exists_number (inside : number < count * size) :
    ∃ block < count, ∃ place < size, number = block * size + place := by
  have positive : 0 < size := by
    by_contra none
    rw [Nat.eq_zero_of_not_pos none] at inside
    exact Nat.not_lt_zero _ inside
  refine ⟨number / size, Nat.div_lt_of_lt_mul (by rwa [Nat.mul_comm]), number % size,
    Nat.mod_lt _ positive, ?_⟩
  rw [Nat.mul_comm, Nat.div_add_mod]

/-! ## Digits -/

def digit (base axis number : Nat) : Nat := number / base ^ axis % base

variable {base axis rest : Nat}

theorem digit_lt (positive : 0 < base) (axis number : Nat) : digit base axis number < base :=
  Nat.mod_lt _ positive

theorem digit_zero (placed : place < base) : digit base 0 (place + base * rest) = place := by
  rw [digit, Nat.pow_zero, Nat.div_one, Nat.add_mul_mod_self_left, Nat.mod_eq_of_lt placed]

theorem digit_succ (placed : place < base) (axis rest : Nat) :
    digit base (axis + 1) (place + base * rest) = digit base axis rest := by
  have positive : 0 < base := by omega
  have quotient : (place + base * rest) / base = rest := by
    rw [Nat.add_mul_div_left _ _ positive, Nat.div_eq_of_lt placed, Nat.zero_add]
  rw [digit, Nat.pow_succ', ← Nat.div_div_eq_div_mul, quotient, digit]

/-- Numbers with the same digits are the same, as far as they have no further digits. -/
theorem digits_ext {dim first second : Nat} (firstBelow : first < base ^ dim)
    (secondBelow : second < base ^ dim)
    (same : ∀ axis < dim, digit base axis first = digit base axis second) : first = second := by
  induction dim generalizing first second with
  | zero =>
    rw [Nat.pow_zero] at firstBelow secondBelow
    omega
  | succ dim induction =>
    have positive : 0 < base := by
      by_contra none
      rw [Nat.eq_zero_of_not_pos none, Nat.zero_pow (Nat.succ_pos dim)] at firstBelow
      exact Nat.not_lt_zero _ firstBelow
    have split (number : Nat) : number = number % base + base * (number / base) :=
      (Nat.mod_add_div number base).symm
    have upper (number : Nat) (below : number < base ^ (dim + 1)) :
        number / base < base ^ dim := by
      rw [Nat.pow_succ, Nat.mul_comm] at below
      exact Nat.div_lt_of_lt_mul below
    have lower : first % base = second % base := by
      have zero := same 0 (Nat.succ_pos dim)
      simpa [digit] using zero
    have higher : first / base = second / base := by
      apply induction (upper first firstBelow) (upper second secondBelow)
      intro axis inside
      have next := same (axis + 1) (Nat.succ_lt_succ inside)
      rw [split first, split second, digit_succ (Nat.mod_lt _ positive),
        digit_succ (Nat.mod_lt _ positive)] at next
      exact next
    rw [split first, split second, lower, higher]

end Nextmini.Library.BlockNumbering
