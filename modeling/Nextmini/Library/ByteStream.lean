import Mathlib.Data.List.Basic

/-!
# Streams of items

Reading an exact number of items from the front of a stream, and writing a list of slices into it
with calls that may each take only a part. Whatever the single calls take, what is written is the
slices one after the other.
-/

namespace Nextmini.Library.ByteStream

set_option autoImplicit false

variable {Item : Type*}

/-- The first `count` items and the rest; `none` when the stream ends before. -/
def readExact (count : Nat) (stream : List Item) : Option (List Item × List Item) :=
  if stream.length < count then none else some (stream.take count, stream.drop count)

theorem read_exact_append (front rest : List Item) :
    readExact front.length (front ++ rest) = some (front, rest) := by
  rw [readExact, if_neg (by simp), List.take_left, List.drop_left]

theorem read_exact_rest {count : Nat} {stream front rest : List Item}
    (read : readExact count stream = some (front, rest)) :
    count ≤ stream.length ∧ rest = stream.drop count := by
  rw [readExact] at read
  split_ifs at read with short
  cases read
  exact ⟨Nat.not_lt.mp short, rfl⟩

theorem read_exact_iff {count : Nat} {stream front rest : List Item} :
    readExact count stream = some (front, rest) ↔ stream = front ++ rest ∧ front.length = count := by
  constructor
  · intro read
    have enough := (read_exact_rest read).1
    rw [readExact, if_neg (Nat.not_lt.mpr enough)] at read
    cases read
    exact ⟨(List.take_append_drop count stream).symm, List.length_take_of_le enough⟩
  · intro split
    rw [split.1, ← split.2]
    exact read_exact_append front rest

/-! ## Streams that arrive in pieces -/

/-- Read `count` items, one piece or the front of one with each call. `none`: the pieces end before,
and all of them are used up. -/
def readPieces : Nat → List (List Item) → Option (List Item) × List (List Item)
  | 0, [] => (some [], [])
  | _ + 1, [] => (none, [])
  | count, piece :: rest =>
      if count ≤ piece.length then (some (piece.take count), piece.drop count :: rest)
      else
        let (later, left) := readPieces (count - piece.length) rest
        (later.map (piece ++ ·), left)

/-- How a stream is cut into pieces makes no difference to what is read from it. -/
theorem read_pieces_flatten (count : Nat) (pieces : List (List Item)) :
    (readPieces count pieces).1 = (readExact count pieces.flatten).map Prod.fst ∧
      (readPieces count pieces).2.flatten = pieces.flatten.drop count := by
  induction pieces generalizing count with
  | nil => cases count <;> simp [readPieces, readExact]
  | cons piece rest induction =>
    rw [readPieces]
    split_ifs with inside
    · have long : ¬(piece ++ rest.flatten).length < count := by
        rw [List.length_append]
        omega
      rw [List.flatten_cons, List.flatten_cons, readExact, if_neg long,
        List.take_append_of_le_length inside, List.drop_append_of_le_length inside]
      exact ⟨rfl, rfl⟩
    · rcases induction (count - piece.length) with ⟨items, left⟩
      have beyond : piece.length ≤ count := Nat.le_of_not_le inside
      constructor
      · simp only [items, readExact, List.flatten_cons, List.length_append]
        by_cases short : rest.flatten.length < count - piece.length
        · rw [if_pos short, if_pos (by omega)]
          rfl
        · rw [if_neg short, if_neg (by omega), List.take_append, List.take_of_length_le beyond]
          rfl
      · rw [left, List.flatten_cons, List.drop_append, List.drop_of_length_le beyond,
          List.nil_append]

/-! ## Writing slices -/

/-- Drop `count` items from the front of the slices, and every slice that is used up. -/
def advanceSlices : Nat → List (List Item) → List (List Item)
  | _, [] => []
  | count, slice :: rest =>
      if slice.length ≤ count then advanceSlices (count - slice.length) rest
      else slice.drop count :: rest

/-- Write until no slice is left; `taken` lists how many items each call takes. `none`: a call takes
nothing, or the writer stops in the middle. -/
def writeVectored : List Nat → List (List Item) → Option (List Item)
  | _, [] => some []
  | [], _ :: _ => none
  | 0 :: _, _ :: _ => none
  | (count + 1) :: later, slice :: rest =>
      (writeVectored later (advanceSlices (count + 1) (slice :: rest))).map
        ((slice :: rest).flatten.take (count + 1) ++ ·)

theorem advance_slices_flatten (count : Nat) (slices : List (List Item)) :
    (advanceSlices count slices).flatten = slices.flatten.drop count := by
  induction slices generalizing count with
  | nil => simp [advanceSlices]
  | cons slice rest induction =>
    rw [advanceSlices, List.flatten_cons, List.drop_append]
    split_ifs with whole
    · rw [induction, List.drop_of_length_le whole, List.nil_append]
    · have inside : count - slice.length = 0 := by omega
      rw [List.flatten_cons, inside, List.drop_zero]

theorem write_vectored_some {taken : List Nat} {slices : List (List Item)} {stream : List Item}
    (written : writeVectored taken slices = some stream) : stream = slices.flatten := by
  induction taken generalizing slices stream with
  | nil =>
    cases slices with
    | nil => exact (Option.some.inj written).symm
    | cons slice rest => cases written
  | cons count later induction =>
    cases slices with
    | nil => exact (Option.some.inj written).symm
    | cons slice rest =>
      cases count with
      | zero => cases written
      | succ count =>
        obtain ⟨back, more, rfl⟩ := Option.map_eq_some_iff.mp written
        rw [induction more, advance_slices_flatten, List.take_append_drop]

theorem write_vectored_whole (slices : List (List Item)) (nonempty : slices.flatten ≠ []) :
    writeVectored [slices.flatten.length] slices = some slices.flatten := by
  cases slices with
  | nil => exact absurd rfl nonempty
  | cons slice rest =>
    obtain ⟨count, length⟩ : ∃ count, (slice :: rest).flatten.length = count + 1 :=
      ⟨_, (Nat.succ_pred_eq_of_pos (List.length_pos_of_ne_nil nonempty)).symm⟩
    have all : ∀ slices : List (List Item), advanceSlices slices.flatten.length slices = [] := by
      intro slices
      induction slices with
      | nil => rfl
      | cons slice rest induction =>
        rw [advanceSlices, if_pos (by simp), List.flatten_cons, List.length_append,
          Nat.add_sub_cancel_left, induction]
    have advanced := all (slice :: rest)
    have front := List.take_of_length_le (Nat.le_of_eq length)
    rw [length] at advanced ⊢
    rw [writeVectored, advanced, writeVectored, front, Option.map_some, List.append_nil]

end Nextmini.Library.ByteStream
