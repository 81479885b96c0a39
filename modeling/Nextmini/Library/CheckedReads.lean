import Nextmini.Library.BigEndian

/-!
# Checked reads

Indexing, slicing, subtraction and word reads as a program with bounds checks does them: each
either gives its value or stops the program. A read inside its bytes gives what the unchecked
reads of `BigEndian` give.
-/

namespace Nextmini.Library.CheckedReads

open Nextmini.Library.BigEndian

set_option autoImplicit false

/-- Why a program stops at a read. -/
inductive Panic where
  | index (position length : Nat)
  | range (start stop length : Nat)
  | underflow (left right : Nat)
  deriving DecidableEq, Repr

abbrev Checked (Value : Type) := Except Panic Value

/-- The program goes on after the read. -/
def Safe {Value : Type} (result : Checked Value) : Prop := ∃ value, result = .ok value

def index (buf : List Byte) (position : Nat) : Checked Byte :=
  match buf[position]? with
  | some byte => .ok byte
  | none => .error (.index position buf.length)

def range (buf : List Byte) (start stop : Nat) : Checked (List Byte) :=
  if start ≤ stop ∧ stop ≤ buf.length then .ok (slice buf start stop)
  else .error (.range start stop buf.length)

def subtract (left right : Nat) : Checked Nat :=
  if right ≤ left then .ok (left - right) else .error (.underflow left right)

def readWord (width : Nat) (buf : List Byte) : Checked Nat :=
  if width ≤ buf.length then .ok (decodeBE (buf.take width))
  else .error (.range 0 width buf.length)

def arrayOf (width : Nat) (buf : List Byte) : Option (List Byte) :=
  if buf.length = width then some buf else none

variable {Value Result : Type}

theorem ok_bind (value : Value) (next : Value → Checked Result) :
    (Except.ok value >>= next) = next value := rfl

theorem safe_ok (value : Value) : Safe (.ok value : Checked Value) := ⟨value, rfl⟩

theorem safe_bind {first : Checked Value} {next : Value → Checked Result} (safe : Safe first)
    (rest : ∀ value, first = .ok value → Safe (next value)) : Safe (first >>= next) := by
  obtain ⟨value, found⟩ := safe
  rw [found, ok_bind]
  exact rest value found

theorem index_inside {buf : List Byte} {position : Nat} (inside : position < buf.length) :
    index buf position = .ok (buf.getD position 0) := by
  have found : buf[position]? = some buf[position] := List.getElem?_eq_getElem inside
  rw [index, List.getD_eq_getElem?_getD, found]
  rfl

theorem range_inside {buf : List Byte} {start stop : Nat} (ordered : start ≤ stop)
    (inside : stop ≤ buf.length) : range buf start stop = .ok (slice buf start stop) :=
  if_pos ⟨ordered, inside⟩

theorem subtract_inside {left right : Nat} (ordered : right ≤ left) :
    subtract left right = .ok (left - right) :=
  if_pos ordered

theorem read_word_whole {buf : List Byte} {width : Nat} (whole : buf.length = width) :
    readWord width buf = .ok (decodeBE buf) := by
  rw [readWord, if_pos (Nat.le_of_eq whole.symm), ← whole, List.take_length]

theorem array_of_whole {buf : List Byte} {width : Nat} (whole : buf.length = width) :
    arrayOf width buf = some buf :=
  if_pos whole

end Nextmini.Library.CheckedReads
