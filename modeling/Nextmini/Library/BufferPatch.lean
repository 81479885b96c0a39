import Nextmini.Library.BigEndian

/-!
# Patching a buffer from one object

A buffer that is only ever overwritten with parts of one object, at the places the parts have in
that object, agrees with the object wherever it did before and on every part written. Parts may
overlap and be written in any order and any number of times.
-/

namespace Nextmini.Library.BufferPatch

open Nextmini.Library.BigEndian

set_option autoImplicit false

variable {Item : Type*}

def overwrite (buffer : List Item) (start : Nat) (payload : List Item) : List Item :=
  buffer.take start ++ payload ++ buffer.drop (start + payload.length)

/-- The buffer holds the object's items at all positions of `[start, stop)`. -/
def Agrees (buffer object : List Item) (start stop : Nat) : Prop :=
  ∀ position, start ≤ position → position < stop → buffer[position]? = object[position]?

theorem overwrite_length (buffer payload : List Item) (start : Nat)
    (bounded : start + payload.length ≤ buffer.length) :
    (overwrite buffer start payload).length = buffer.length := by
  simp only [overwrite, List.length_append, List.length_take, List.length_drop]
  omega

theorem overwrite_behind {front rest payload : List Item} {start : Nat}
    (behind : start = front.length) :
    overwrite (front ++ rest) start payload = front ++ payload ++ rest.drop payload.length := by
  subst behind
  rw [overwrite, List.take_left, List.drop_append, List.drop_eq_nil_of_le (by omega),
    List.nil_append, Nat.add_sub_cancel_left]

theorem overwrite_getElem? (buffer payload : List Item) (start position : Nat)
    (bounded : start + payload.length ≤ buffer.length) :
    (overwrite buffer start payload)[position]? =
      if start ≤ position ∧ position < start + payload.length then payload[position - start]?
      else buffer[position]? := by
  have front : (buffer.take start).length = start := by
    rw [List.length_take]
    omega
  rcases Nat.lt_or_ge position start with before | after
  · rw [if_neg (by omega), overwrite, List.append_assoc,
      List.getElem?_append_left (by omega), List.getElem?_take_of_lt before]
  · rw [overwrite, List.append_assoc, List.getElem?_append_right (by omega), front]
    by_cases inside : position < start + payload.length
    · rw [if_pos ⟨after, inside⟩, List.getElem?_append_left (by omega)]
    · rw [if_neg (by omega), List.getElem?_append_right (by omega), List.getElem?_drop]
      congr 1
      omega

theorem slice_getElem? (items : List Item) (start stop position : Nat) :
    (slice items start stop)[position]? =
      if start + position < stop then items[start + position]? else none := by
  rw [slice, List.getElem?_drop, List.getElem?_take]

theorem overwrite_agrees (buffer object : List Item) (start length first last : Nat)
    (bounded : start + length ≤ buffer.length) (inObject : start + length ≤ object.length)
    (agrees : Agrees buffer object first last) :
    Agrees (overwrite buffer start (slice object start (start + length))) object first last := by
  intro position lower upper
  have width := slice_length object start (start + length) inObject
  rw [overwrite_getElem? _ _ _ _ (by omega), width]
  split_ifs with inside
  · rw [slice_getElem?, if_pos (by omega)]
    congr 1
    omega
  · exact agrees position lower upper

theorem overwrite_agrees_part (buffer object : List Item) (start length : Nat)
    (bounded : start + length ≤ buffer.length) (inObject : start + length ≤ object.length) :
    Agrees (overwrite buffer start (slice object start (start + length))) object start
      (start + length) := by
  intro position lower upper
  have width := slice_length object start (start + length) inObject
  rw [overwrite_getElem? _ _ _ _ (by omega), width, if_pos (by omega), slice_getElem?,
    if_pos (by omega)]
  congr 1
  omega

theorem take_eq_of_agrees (buffer object : List Item)
    (agrees : Agrees buffer object 0 object.length) : buffer.take object.length = object := by
  apply List.ext_getElem?
  intro position
  rw [List.getElem?_take]
  split_ifs with inside
  · exact agrees position (Nat.zero_le _) inside
  · rw [List.getElem?_eq_none (by omega)]

end Nextmini.Library.BufferPatch
