import Nextmini.Session.ReceiverGuarantees
import Nextmini.Session.PlainSender

/-!
# Plain reports

The plain report of any set of completed blocks is its exact complement, and the sender reads it as
the missing blocks in ascending order.
-/

namespace Nextmini.Session

open Nextmini.Library Nextmini.Library.BigEndian Nextmini.Library.SetGaps
open Nextmini.Messages

set_option autoImplicit false

def Reported (ranges : List MissingBlockRange) (blockId : Nat) : Prop :=
  ∃ range ∈ ranges, range.startBlockId.toNat ≤ blockId ∧ blockId < range.endBlockId.toNat

/-- The ranges of a report on a set of completed blocks. -/
structure IsComplement (complete : Finset Nat) (totalBlocks : Nat)
    (ranges : List MissingBlockRange) : Prop where
  nonempty : ∀ range ∈ ranges, range.startBlockId < range.endBlockId
  apart : ranges.Pairwise fun left right => left.endBlockId < right.startBlockId
  exact : ∀ blockId < totalBlocks, Reported ranges blockId ↔ blockId ∉ complete
  expands : PlainSender.missingBlocks ranges =
    (List.range totalBlocks).filter fun blockId => blockId ∉ complete

theorem block_ranges_complement {complete : Finset Nat} {total : Nat} (fits : total < 2 ^ 64)
    {ranges : List Range} (gaps : IsGapList complete total ranges) :
    IsComplement complete total (ranges.map ReceiverShared.toBlockRange) where
  nonempty := by
    intro range member
    rcases List.mem_map.mp member with ⟨gap, present, rfl⟩
    have bounds := to_block_range_bounds fits (gaps.nonempty gap present) (gaps.bounded gap present)
    rw [UInt64.lt_iff_toNat_lt, bounds.1, bounds.2]
    exact gaps.nonempty gap present
  apart := by
    rw [List.pairwise_map]
    apply gaps.apart.imp_of_mem
    intro left right leftMem rightMem apart
    have first := to_block_range_bounds fits (gaps.nonempty left leftMem) (gaps.bounded left leftMem)
    have second :=
      to_block_range_bounds fits (gaps.nonempty right rightMem) (gaps.bounded right rightMem)
    rw [UInt64.lt_iff_toNat_lt, first.2, second.1]
    exact apart
  exact := by
    intro blockId inside
    rw [gaps.exact blockId inside]
    constructor
    · rintro ⟨range, member, lower, upper⟩
      rcases List.mem_map.mp member with ⟨gap, present, rfl⟩
      have bounds :=
        to_block_range_bounds fits (gaps.nonempty gap present) (gaps.bounded gap present)
      rw [bounds.1] at lower
      rw [bounds.2] at upper
      exact ⟨gap, present, lower, upper⟩
    · rintro ⟨gap, present, lower, upper⟩
      have bounds :=
        to_block_range_bounds fits (gaps.nonempty gap present) (gaps.bounded gap present)
      refine ⟨_, List.mem_map_of_mem present, ?_, ?_⟩
      · rw [bounds.1]
        exact lower
      · rw [bounds.2]
        exact upper
  expands := by
    rw [← gap_list_numbers gaps, PlainSender.missingBlocks, List.flatMap_map]
    apply List.flatMap_congr
    intro gap present
    have bounds := to_block_range_bounds fits (gaps.nonempty gap present) (gaps.bounded gap present)
    rw [bounds.1, bounds.2]

/-- Every report is complete exactly when no block is missing, and otherwise the exact complement of
the completed blocks. -/
theorem plain_need_exact {plan : BlockPlan} {shared : ReceiverShared}
    (planned : shared.plan = some plan)
    (bounded : ∀ blockId ∈ shared.completeBlocks, blockId < plan.totalBlocks) :
    ∃ report, shared.plainNeed = some report ∧
      (report = .complete ↔ ∀ blockId < plan.totalBlocks, blockId ∈ shared.completeBlocks) ∧
      (report = .complete ∨ ∃ ranges, report = .plain ranges ∧
        IsComplement shared.completeBlocks plan.totalBlocks ranges) := by
  have inside : shared.completeBlocks ⊆ Finset.range plan.totalBlocks :=
    fun blockId member => Finset.mem_range.mpr (bounded blockId member)
  simp only [ReceiverShared.plainNeed, planned]
  split_ifs with empty full
  · refine ⟨_, rfl, iff_of_true rfl ?_, .inl rfl⟩
    intro blockId below
    omega
  · refine ⟨_, rfl, iff_of_true rfl ?_, .inl rfl⟩
    intro blockId below
    rw [full_of_card inside full]
    exact Finset.mem_range.mpr below
  · refine ⟨_, rfl, iff_of_false ?_ ?_, .inr ⟨_, rfl, ?_⟩⟩
    · rintro ⟨⟩
    · intro all
      apply full
      have same : shared.completeBlocks = Finset.range plan.totalBlocks :=
        subset_antisymm inside fun blockId member => all blockId (Finset.mem_range.mp member)
      rw [same, Finset.card_range]
    · exact block_ranges_complement plan.total_blocks_lt (missing_ranges_gap_list inside)

/-- Of 511 blocks the first one is there. -/
theorem first_block_complement :
    let shared := (unitReceiver {0}).receiver.shared
    ∃ report, shared.plainNeed = some report ∧
      (report = .complete ↔ ∀ blockId < unitPlan.totalBlocks, blockId ∈ shared.completeBlocks) ∧
      (report = .complete ∨ ∃ ranges, report = .plain ranges ∧
        IsComplement shared.completeBlocks unitPlan.totalBlocks ranges) :=
  plain_need_exact rfl (by simp [unitReceiver, unitPlan])

end Nextmini.Session
