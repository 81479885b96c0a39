import Mathlib.Algebra.BigOperators.Group.Finset.Basic
import Mathlib.Data.Finset.Card
import Mathlib.Data.Set.Insert

/-!
# Peeling

A bin holds the sum of the sources that touch it. Once all but one of them are known, the rest of
the sum is the last one, and learning it may do the same for other bins. Sums are over any
commutative group; the sources a peeling decoder can learn from a set of bins are the closure of
what it knows.
-/

namespace Nextmini.Library.Peeling

set_option autoImplicit false

variable {Source Bin Value : Type*} [DecidableEq Source] (touchers : Bin → Finset Source)

/-- The sources of a bin that are not known yet. -/
def openTouchers (known : Finset Source) (bin : Bin) : Finset Source := touchers bin \ known

/-- What is left of a bin's sum. -/
def residue [AddCommMonoid Value] (value : Source → Value) (known : Finset Source) (bin : Bin) :
    Value :=
  ∑ source ∈ openTouchers touchers known bin, value source

variable {touchers} {known : Finset Source} {bin : Bin} {source : Source}

theorem mem_open_touchers :
    source ∈ openTouchers touchers known bin ↔ source ∈ touchers bin ∧ source ∉ known :=
  Finset.mem_sdiff

theorem open_touchers_learn : openTouchers touchers (insert source known) bin =
    (openTouchers touchers known bin).erase source := by
  rw [openTouchers, openTouchers, Finset.sdiff_insert]

theorem open_touchers_learn_apart (apart : source ∉ touchers bin) :
    openTouchers touchers (insert source known) bin = openTouchers touchers known bin := by
  rw [open_touchers_learn, Finset.erase_eq_of_notMem]
  intro member
  exact apart (mem_open_touchers.mp member).1

theorem card_open_touchers_learn (touches : source ∈ touchers bin) (unknown : source ∉ known) :
    (openTouchers touchers (insert source known) bin).card =
      (openTouchers touchers known bin).card - 1 := by
  rw [open_touchers_learn, Finset.card_erase_of_mem (mem_open_touchers.mpr ⟨touches, unknown⟩)]

theorem residue_learn [AddCommMonoid Value] {value : Source → Value}
    (touches : source ∈ touchers bin) (unknown : source ∉ known) :
    value source + residue touchers value (insert source known) bin =
      residue touchers value known bin := by
  rw [residue, residue, open_touchers_learn]
  exact Finset.add_sum_erase _ _ (mem_open_touchers.mpr ⟨touches, unknown⟩)

theorem residue_learn_apart [AddCommMonoid Value] {value : Source → Value}
    (apart : source ∉ touchers bin) :
    residue touchers value (insert source known) bin = residue touchers value known bin := by
  rw [residue, residue, open_touchers_learn_apart apart]

/-- The only open source of a bin is what is left of its sum. -/
theorem residue_of_only_open [AddCommMonoid Value] {value : Source → Value}
    (only : (openTouchers touchers known bin).card = 1) (touches : source ∈ touchers bin)
    (unknown : source ∉ known) : residue touchers value known bin = value source := by
  rcases Finset.card_eq_one.mp only with ⟨other, single⟩
  have member : source ∈ openTouchers touchers known bin :=
    mem_open_touchers.mpr ⟨touches, unknown⟩
  rw [single, Finset.mem_singleton] at member
  rw [residue, single, Finset.sum_singleton, member]

theorem others_known_of_only_open (only : (openTouchers touchers known bin).card = 1)
    (touches : source ∈ touchers bin) (unknown : source ∉ known) {other : Source}
    (otherTouches : other ∈ touchers bin) (apart : other ≠ source) : other ∈ known := by
  by_contra open_
  apply apart
  exact Finset.card_le_one.mp only.le _ (mem_open_touchers.mpr ⟨otherTouches, open_⟩) _
    (mem_open_touchers.mpr ⟨touches, unknown⟩)

theorem all_known_of_only_open (only : (openTouchers touchers known bin).card = 1)
    (touches : source ∈ touchers bin) (unknown : source ∉ known) :
    touchers bin ⊆ insert source known := by
  intro other otherTouches
  rw [Finset.mem_insert]
  by_cases same : other = source
  · exact .inl same
  · exact .inr (others_known_of_only_open only touches unknown otherTouches same)

/-! ## Closure -/

/-- The sources that follow from the given ones: the last source of a bin follows from the
others. -/
inductive Peelable (touchers : Bin → Finset Source) (bins : Set Bin) (given : Set Source) :
    Source → Prop
  | given {source : Source} : source ∈ given → Peelable touchers bins given source
  | last {bin : Bin} {source : Source} : bin ∈ bins → source ∈ touchers bin →
      (∀ other ∈ touchers bin, other ≠ source → Peelable touchers bins given other) →
        Peelable touchers bins given source

variable {bins : Set Bin} {given : Set Source}

omit [DecidableEq Source] in
theorem Peelable.mono {more : Set Bin} (subset : bins ⊆ more)
    (peelable : Peelable touchers bins given source) : Peelable touchers more given source := by
  induction peelable with
  | given member => exact .given member
  | last member touches _ others => exact .last (subset member) touches others

/-- What a decoder learns from a bin's last source follows. -/
theorem peelable_of_only_open (member : bin ∈ bins)
    (only : (openTouchers touchers known bin).card = 1) (touches : source ∈ touchers bin)
    (unknown : source ∉ known) (sound : ∀ other ∈ known, Peelable touchers bins given other) :
    Peelable touchers bins given source := by
  apply Peelable.last member touches
  intro other otherTouches apart
  exact sound other (others_known_of_only_open only touches unknown otherTouches apart)

/-- When no bin has a single open source, everything that follows is known. -/
theorem peelable_known (quiet : ∀ bin ∈ bins, (openTouchers touchers known bin).card ≠ 1)
    (start : ∀ source ∈ given, source ∈ known)
    (peelable : Peelable touchers bins given source) : source ∈ known := by
  induction peelable with
  | given member => exact start _ member
  | @last bin source member touches _ others =>
    by_contra unknown
    apply quiet bin member
    rw [Finset.card_eq_one]
    refine ⟨source, ?_⟩
    ext other
    rw [mem_open_touchers, Finset.mem_singleton]
    constructor
    · rintro ⟨otherTouches, open_⟩
      by_contra apart
      exact open_ (others other otherTouches apart)
    · rintro rfl
      exact ⟨touches, unknown⟩

end Nextmini.Library.Peeling
