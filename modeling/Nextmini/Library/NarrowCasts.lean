import Mathlib.Algebra.Group.Int.Defs
import Mathlib.Algebra.Group.Nat.Defs
import Mathlib.Data.Int.Init
import Mathlib.Tactic.SplitIfs

/-!
# Narrowing casts

Casts between unsigned words and 32-bit signed numbers that keep the low bits: an unsigned value
becomes the signed number with its low 32 bits, and a signed number becomes the 64-bit word that
extends its sign.
-/

namespace Nextmini.Library

set_option autoImplicit false

def asI32 (value : Nat) : Int :=
  if value % 2 ^ 32 < 2 ^ 31 then (value % 2 ^ 32 : Nat) else (value % 2 ^ 32 : Nat) - 2 ^ 32

/-- `as usize` on 64 bits -/
def asUsize (value : Int) : Nat := (value % 2 ^ 64).toNat

theorem as_i32_of_lt {value : Nat} (small : value < 2 ^ 31) : asI32 value = value := by
  have low : value % 2 ^ 32 = value := Nat.mod_eq_of_lt (by omega)
  simp only [asI32, low, small, if_true]

theorem as_usize_as_i32 {value : Nat} (small : value < 2 ^ 31) : asUsize (asI32 value) = value := by
  rw [as_i32_of_lt small]
  unfold asUsize
  omega

theorem as_i32_injective {first second : Nat} (firstWord : first < 2 ^ 32)
    (secondWord : second < 2 ^ 32) (same : asI32 first = asI32 second) : first = second := by
  simp only [asI32, Nat.mod_eq_of_lt firstWord, Nat.mod_eq_of_lt secondWord] at same
  split_ifs at same <;> omega

/-- A word with its highest bit set comes back as another, 64-bit number. -/
theorem as_usize_as_i32_large {value : Nat} (large : 2 ^ 31 ≤ value) (word : value < 2 ^ 32) :
    asUsize (asI32 value) = value + (2 ^ 64 - 2 ^ 32) := by
  rw [asI32, Nat.mod_eq_of_lt word, if_neg (Nat.not_lt.mpr large)]
  unfold asUsize
  omega

end Nextmini.Library
