import Mathlib.Data.Finset.Sort
import Mathlib.Data.List.Sort
import Mathlib.Data.Finset.Card
import Mathlib.Order.Interval.Finset.Nat

/-!
# Maximal gaps

The maximal runs of absent numbers below a bound, as half-open ranges. A list of ranges that is
sorted, keeps its ranges apart and covers exactly the absent numbers is the list of maximal gaps:
its starts are determined by the absent set alone, so its length is the number of gap starts.
-/

namespace Nextmini.Library.SetGaps

set_option autoImplicit false

abbrev Range := Nat × Nat

def Covers (ranges : List Range) (number : Nat) : Prop :=
  ∃ range ∈ ranges, range.1 ≤ number ∧ number < range.2

/-- Sorted, non-empty, non-touching ranges below `total` that cover exactly the numbers missing
from `present`. -/
structure IsGapList (present : Finset Nat) (total : Nat) (ranges : List Range) : Prop where
  nonempty : ∀ range ∈ ranges, range.1 < range.2
  bounded : ∀ range ∈ ranges, range.2 ≤ total
  apart : ranges.Pairwise fun left right => left.2 < right.1
  exact : ∀ number < total, number ∉ present ↔ Covers ranges number

/-- A missing number whose predecessor is not missing. -/
def gapStarts (present : Finset Nat) (total : Nat) : Finset Nat :=
  (Finset.range total).filter fun number =>
    number ∉ present ∧ (number = 0 ∨ number - 1 ∈ present)

def gapCount (present : Finset Nat) (total : Nat) : Nat := (gapStarts present total).card

variable {present : Finset Nat} {total : Nat} {ranges : List Range}

theorem apart_of_mem (gaps : IsGapList present total ranges) {left right : Range}
    (leftMem : left ∈ ranges) (rightMem : right ∈ ranges) (before : left.1 < right.1) :
    left.2 < right.1 := by
  have indexed := List.pairwise_iff_getElem.mp gaps.apart
  obtain ⟨i, iBound, rfl⟩ := List.mem_iff_getElem.mp leftMem
  obtain ⟨j, jBound, rfl⟩ := List.mem_iff_getElem.mp rightMem
  have leftNonempty := gaps.nonempty _ leftMem
  have rightNonempty := gaps.nonempty _ rightMem
  rcases Nat.lt_trichotomy i j with lower | same | higher
  · exact indexed i j iBound jBound lower
  · subst same
    omega
  · have reversed := indexed j i jBound iBound higher
    omega

theorem start_mem_gap_starts (gaps : IsGapList present total ranges) {range : Range}
    (member : range ∈ ranges) : range.1 ∈ gapStarts present total := by
  have nonempty := gaps.nonempty range member
  have bounded := gaps.bounded range member
  have missing : range.1 ∉ present :=
    (gaps.exact range.1 (by omega)).mpr ⟨range, member, le_rfl, nonempty⟩
  refine Finset.mem_filter.mpr ⟨Finset.mem_range.mpr (by omega), missing, ?_⟩
  by_contra neither
  obtain ⟨positive, absent⟩ := not_or.mp neither
  obtain ⟨other, otherMem, lower, upper⟩ := (gaps.exact (range.1 - 1) (by omega)).mp absent
  have separated := apart_of_mem gaps otherMem member (by omega)
  omega

theorem gap_start_is_start (gaps : IsGapList present total ranges) {number : Nat}
    (start : number ∈ gapStarts present total) : number ∈ ranges.map Prod.fst := by
  obtain ⟨bound, missing, first⟩ := Finset.mem_filter.mp start
  rw [Finset.mem_range] at bound
  obtain ⟨range, member, lower, upper⟩ := (gaps.exact number bound).mp missing
  refine List.mem_map.mpr ⟨range, member, ?_⟩
  by_contra different
  have inside : Covers ranges (number - 1) := ⟨range, member, by omega, by omega⟩
  have absent := (gaps.exact (number - 1) (by omega)).mpr inside
  rcases first with zero | previous
  · omega
  · exact absent previous

theorem starts_sorted (gaps : IsGapList present total ranges) :
    (ranges.map Prod.fst).Pairwise (· < ·) := by
  rw [List.pairwise_map]
  refine gaps.apart.imp_of_mem ?_
  intro left right leftMem rightMem apart
  have nonempty := gaps.nonempty left leftMem
  omega

/-- The ranges of a gap list are as many as the gap starts of the set, whatever loop built it. -/
theorem gap_list_length (gaps : IsGapList present total ranges) :
    ranges.length = gapCount present total := by
  have same : (ranges.map Prod.fst).toFinset = gapStarts present total := by
    ext number
    rw [List.mem_toFinset]
    constructor
    · intro member
      obtain ⟨range, rangeMem, rfl⟩ := List.mem_map.mp member
      exact start_mem_gap_starts gaps rangeMem
    · exact gap_start_is_start gaps
  have distinct : (ranges.map Prod.fst).Nodup := (starts_sorted gaps).imp ne_of_lt
  rw [gapCount, ← same, List.toFinset_card_of_nodup distinct, List.length_map]

/-- Counting through the ranges one after another gives the absent numbers in ascending order. -/
theorem gap_list_numbers (gaps : IsGapList present total ranges) :
    ranges.flatMap (fun range => List.range' range.1 (range.2 - range.1)) =
      (List.range total).filter fun number => number ∉ present := by
  have sorted : (ranges.flatMap fun range => List.range' range.1 (range.2 - range.1)).Pairwise
      (· < ·) := by
    rw [List.pairwise_flatMap]
    constructor
    · intro range member
      exact List.pairwise_lt_range'
    · apply gaps.apart.imp
      intro left right apart earlier first later second
      have below := List.mem_range'_1.mp first
      have above := List.mem_range'_1.mp second
      omega
  apply List.Pairwise.eq_of_mem_iff sorted (List.pairwise_lt_range.filter _)
  intro number
  simp only [List.mem_flatMap, List.mem_range'_1, List.mem_filter, List.mem_range,
    decide_eq_true_eq]
  constructor
  · rintro ⟨range, member, inRange⟩
    have bounded := gaps.bounded range member
    have below : number < total := by omega
    exact ⟨below, (gaps.exact number below).mpr ⟨range, member, inRange.1, by omega⟩⟩
  · rintro ⟨below, missing⟩
    rcases (gaps.exact number below).mp missing with ⟨range, member, lower, upper⟩
    exact ⟨range, member, lower, by omega⟩

end Nextmini.Library.SetGaps
