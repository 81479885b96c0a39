import Mathlib.Data.List.Basic
import Mathlib.Tactic.Linarith
import Mathlib.Tactic.Ring

/-!
# Big-endian words and byte slices

Fixed-width unsigned words as they are written on a wire, most significant byte first, and the
half-open slices a decoder reads them from. Values are natural numbers cut to the width of the
word, so that one pair of lemmas serves words of 16, 32 and 64 bits.
-/

namespace Nextmini.Library.BigEndian

set_option autoImplicit false

abbrev Byte := UInt8

def encodeBE : Nat → Nat → List Byte
  | 0, _ => []
  | width + 1, value => UInt8.ofNat (value / 256 ^ width) :: encodeBE width value

def decodeBE (bytes : List Byte) : Nat :=
  bytes.foldl (fun value byte => 256 * value + byte.toNat) 0

@[simp] theorem encode_be_length (width value : Nat) : (encodeBE width value).length = width := by
  induction width with
  | zero => rfl
  | succ width induction => simp [encodeBE, induction]

theorem decode_be_fold (bytes : List Byte) (start : Nat) :
    bytes.foldl (fun value byte => 256 * value + byte.toNat) start =
      start * 256 ^ bytes.length + decodeBE bytes := by
  induction bytes generalizing start with
  | nil => simp [decodeBE]
  | cons byte rest induction =>
    simp only [decodeBE, List.foldl_cons, List.length_cons] at induction ⊢
    rw [induction, induction (256 * 0 + byte.toNat)]
    ring

theorem decode_be_cons (byte : Byte) (rest : List Byte) :
    decodeBE (byte :: rest) = byte.toNat * 256 ^ rest.length + decodeBE rest := by
  have folded := decode_be_fold rest (256 * 0 + byte.toNat)
  simpa [decodeBE] using folded

theorem decode_be_append (front back : List Byte) :
    decodeBE (front ++ back) = decodeBE front * 256 ^ back.length + decodeBE back := by
  rw [decodeBE, List.foldl_append, ← decodeBE, decode_be_fold]

theorem decode_be_lt (bytes : List Byte) : decodeBE bytes < 256 ^ bytes.length := by
  induction bytes with
  | nil => simp [decodeBE]
  | cons byte rest induction =>
    have bounded : byte.toNat < 256 := byte.toNat_lt
    rw [decode_be_cons, List.length_cons, Nat.pow_succ]
    nlinarith

/-- Only the low `width` bytes of a value are written, so that is what is read back. -/
theorem decode_be_encode (width value : Nat) :
    decodeBE (encodeBE width value) = value % 256 ^ width := by
  induction width with
  | zero => simp [encodeBE, decodeBE, Nat.mod_one]
  | succ width induction =>
    have high : (UInt8.ofNat (value / 256 ^ width)).toNat = value / 256 ^ width % 256 := by simp
    rw [encodeBE, decode_be_cons, encode_be_length, induction, high, Nat.pow_succ,
      Nat.mod_mul]
    ring

theorem decode_be_encode_of_lt (width value : Nat) (fits : value < 256 ^ width) :
    decodeBE (encodeBE width value) = value := by
  rw [decode_be_encode, Nat.mod_eq_of_lt fits]

theorem encode_be_congr (width left right : Nat)
    (same : left % 256 ^ width = right % 256 ^ width) : encodeBE width left = encodeBE width right := by
  induction width with
  | zero => rfl
  | succ width induction =>
    have head : left / 256 ^ width % 256 = right / 256 ^ width % 256 := by
      rw [← Nat.mod_mul_right_div_self, ← Nat.mod_mul_right_div_self, ← Nat.pow_succ, same]
    have divides : 256 ^ width ∣ 256 ^ (width + 1) := Nat.pow_dvd_pow 256 (Nat.le_succ width)
    have tail : left % 256 ^ width = right % 256 ^ width := by
      rw [← Nat.mod_mod_of_dvd left divides, same, Nat.mod_mod_of_dvd right divides]
    have byte : UInt8.ofNat (left / 256 ^ width) = UInt8.ofNat (right / 256 ^ width) := by
      apply UInt8.toNat_inj.mp
      simpa using head
    rw [encodeBE, encodeBE, byte, induction tail]

theorem encode_be_decode (bytes : List Byte) : encodeBE bytes.length (decodeBE bytes) = bytes := by
  induction bytes with
  | nil => rfl
  | cons byte rest induction =>
    have restLt := decode_be_lt rest
    have positive : 0 < 256 ^ rest.length := Nat.pow_pos (by decide)
    have head : decodeBE (byte :: rest) / 256 ^ rest.length = byte.toNat := by
      rw [decode_be_cons, Nat.add_comm, Nat.add_mul_div_right _ _ positive,
        Nat.div_eq_of_lt restLt, Nat.zero_add]
    have tail : encodeBE rest.length (decodeBE (byte :: rest)) =
        encodeBE rest.length (decodeBE rest) := by
      apply encode_be_congr
      rw [decode_be_cons, Nat.add_comm, Nat.add_mul_mod_self_right]
    rw [List.length_cons, encodeBE, head, tail, induction, UInt8.ofNat_toNat]

/-! ## Words -/

def encode16 (word : UInt16) : List Byte := encodeBE 2 word.toNat
def encode32 (word : UInt32) : List Byte := encodeBE 4 word.toNat
def encode64 (word : UInt64) : List Byte := encodeBE 8 word.toNat

def decode16 (bytes : List Byte) : UInt16 := UInt16.ofNat (decodeBE bytes)
def decode32 (bytes : List Byte) : UInt32 := UInt32.ofNat (decodeBE bytes)
def decode64 (bytes : List Byte) : UInt64 := UInt64.ofNat (decodeBE bytes)

@[simp] theorem encode16_length (word : UInt16) : (encode16 word).length = 2 := encode_be_length ..
@[simp] theorem encode32_length (word : UInt32) : (encode32 word).length = 4 := encode_be_length ..
@[simp] theorem encode64_length (word : UInt64) : (encode64 word).length = 8 := encode_be_length ..

@[simp] theorem decode16_encode (word : UInt16) : decode16 (encode16 word) = word := by
  rw [decode16, encode16, decode_be_encode_of_lt 2 _ word.toNat_lt, UInt16.ofNat_toNat]

@[simp] theorem decode32_encode (word : UInt32) : decode32 (encode32 word) = word := by
  rw [decode32, encode32, decode_be_encode_of_lt 4 _ word.toNat_lt, UInt32.ofNat_toNat]

@[simp] theorem decode64_encode (word : UInt64) : decode64 (encode64 word) = word := by
  rw [decode64, encode64, decode_be_encode_of_lt 8 _ word.toNat_lt, UInt64.ofNat_toNat]

theorem encode16_decode (bytes : List Byte) (width : bytes.length = 2) :
    encode16 (decode16 bytes) = bytes := by
  have fits : decodeBE bytes < 2 ^ 16 := by simpa [width] using decode_be_lt bytes
  rw [encode16, decode16, UInt16.toNat_ofNat_of_lt' fits, ← width, encode_be_decode]

theorem encode32_decode (bytes : List Byte) (width : bytes.length = 4) :
    encode32 (decode32 bytes) = bytes := by
  have fits : decodeBE bytes < 2 ^ 32 := by simpa [width] using decode_be_lt bytes
  rw [encode32, decode32, UInt32.toNat_ofNat_of_lt' fits, ← width, encode_be_decode]

theorem encode64_decode (bytes : List Byte) (width : bytes.length = 8) :
    encode64 (decode64 bytes) = bytes := by
  have fits : decodeBE bytes < 2 ^ 64 := by simpa [width] using decode_be_lt bytes
  rw [encode64, decode64, UInt64.toNat_ofNat_of_lt' fits, ← width, encode_be_decode]

/-! ## Slices -/

/-- The half-open slice `bytes[start..stop]`; a slice that leaves the list is cut to it. -/
def slice {Item : Type*} (items : List Item) (start stop : Nat) : List Item :=
  (items.take stop).drop start

theorem slice_length {Item : Type*} (items : List Item) (start stop : Nat)
    (bounded : stop ≤ items.length) : (slice items start stop).length = stop - start := by
  rw [slice, List.length_drop, List.length_take, Nat.min_eq_left bounded]

theorem slice_append {Item : Type*} (front middle back : List Item) :
    slice (front ++ middle ++ back) front.length (front.length + middle.length) = middle := by
  rw [slice, ← List.length_append, List.take_left, List.drop_left]

theorem slice_append_slice {Item : Type*} (items : List Item) (start middle stop : Nat)
    (first : start ≤ middle) (second : middle ≤ stop) :
    slice items start middle ++ slice items middle stop = slice items start stop := by
  have split : items.take middle ++ (items.take stop).drop middle = items.take stop := by
    conv_rhs => rw [← List.take_append_drop middle (items.take stop)]
    rw [List.take_take, Nat.min_eq_left second]
  by_cases inside : start ≤ (items.take middle).length
  · have whole : slice items start stop =
        (items.take middle).drop start ++ (items.take stop).drop middle := by
      rw [slice, ← split, List.drop_append_of_le_length inside, split]
    rw [whole, slice, slice]
  · have short : items.length ≤ middle := by
      simp only [List.length_take] at inside
      omega
    have beyond : items.drop middle = [] := List.drop_of_length_le short
    rw [slice, slice, slice, List.take_of_length_le short, List.take_of_length_le (by omega),
      beyond, List.append_nil]

/-! ## Counted runs of fixed-width items -/

theorem flat_map_length_const {Item : Type*} (width : Nat) (encode : Item → List Byte)
    (widths : ∀ item, (encode item).length = width) (items : List Item) :
    (items.flatMap encode).length = items.length * width := by
  induction items with
  | nil => simp
  | cons item rest induction =>
    rw [List.flatMap_cons, List.length_append, induction, widths, List.length_cons]
    ring

/-- `count` items of `width` bytes each, read one after the other from position `start`. -/
def readMany {Item : Type*} (width : Nat) (read : List Byte → Item) (bytes : List Byte) :
    Nat → Nat → List Item
  | 0, _ => []
  | count + 1, start =>
      read (slice bytes start (start + width)) :: readMany width read bytes count (start + width)

theorem read_many_length {Item : Type*} (width : Nat) (read : List Byte → Item)
    (bytes : List Byte) (count start : Nat) :
    (readMany width read bytes count start).length = count := by
  induction count generalizing start with
  | zero => rfl
  | succ count induction => simp [readMany, induction]

theorem read_many_encode {Item : Type*} (width : Nat) (read : List Byte → Item)
    (encode : Item → List Byte) (widths : ∀ item, (encode item).length = width)
    (roundtrip : ∀ item, read (encode item) = item) (front : List Byte) (items : List Item) :
    readMany width read (front ++ items.flatMap encode) items.length front.length = items := by
  induction items generalizing front with
  | nil => rfl
  | cons item rest induction =>
    have here : slice (front ++ (item :: rest).flatMap encode) front.length
        (front.length + width) = encode item := by
      rw [List.flatMap_cons, ← List.append_assoc, ← widths item]
      exact slice_append front (encode item) _
    have there := induction (front ++ encode item)
    rw [List.length_append, widths item, List.append_assoc, ← List.flatMap_cons] at there
    rw [List.length_cons, readMany, here, roundtrip, there]

/-- What was read, written again, is the part of the input it was read from. -/
theorem encode_read_many {Item : Type*} (width : Nat) (read : List Byte → Item)
    (encode : Item → List Byte)
    (roundtrip : ∀ chunk, chunk.length = width → encode (read chunk) = chunk)
    (bytes : List Byte) (count start : Nat) (bounded : start + count * width ≤ bytes.length) :
    (readMany width read bytes count start).flatMap encode =
      slice bytes start (start + count * width) := by
  induction count generalizing start with
  | zero => simp [readMany, slice]
  | succ count induction =>
    have shape : start + (count + 1) * width = start + width + count * width := by ring
    rw [shape] at bounded ⊢
    have chunk : (slice bytes start (start + width)).length = width := by
      rw [slice_length _ _ _ (by omega)]
      omega
    rw [readMany, List.flatMap_cons, roundtrip _ chunk, induction (start + width) bounded,
      slice_append_slice _ _ _ _ (by omega) (by omega)]

end Nextmini.Library.BigEndian
