import Nextmini.Library.SetGaps
import Nextmini.Session.ReceiverInvariant

/-!
# Reports of a reachable receiver

The plain report lists the maximal gaps of the completed blocks, the FEC report the incomplete
blocks. The encoder accepts at most 255 ranges or 65535 blocks, so whether a report can be sent at
all is a matter of how scattered the losses are.
-/

namespace Nextmini.Session

open Nextmini.Library Nextmini.Library.BigEndian Nextmini.Library.SetGaps
open Nextmini.Messages

set_option autoImplicit false

/-! ## The plain loop -/

theorem next_complete_block {complete : Finset Nat} {total next : Nat}
    (bounded : complete ⊆ Finset.range total) (inside : next < total) (missing : next ∉ complete) :
    let stop := (complete.filter (next < ·)).min.untopD total
    next < stop ∧ stop ≤ total ∧ (stop < total → stop ∈ complete) ∧
      ∀ number, next ≤ number → number < stop → number ∉ complete := by
  intro stop
  rcases Finset.eq_empty_or_nonempty (complete.filter (next < ·)) with none | later
  · have last : stop = total := by simp [stop, none]
    refine ⟨by omega, by omega, by omega, ?_⟩
    intro number lower _ present
    rcases Nat.lt_or_eq_of_le lower with above | same
    · have member : number ∈ complete.filter (next < ·) := Finset.mem_filter.mpr ⟨present, above⟩
      rw [none] at member
      exact absurd member (Finset.notMem_empty number)
    · exact missing (same ▸ present)
  · have least : stop = (complete.filter (next < ·)).min' later := by
      simp only [stop, ← Finset.coe_min' later, WithTop.untopD_coe]
    have member := Finset.min'_mem _ later
    rw [← least, Finset.mem_filter] at member
    have upper := Finset.mem_range.mp (bounded member.1)
    refine ⟨member.2, by omega, fun _ => member.1, ?_⟩
    intro number lower below present
    rcases Nat.lt_or_eq_of_le lower with above | same
    · have after : stop ≤ number := by
        rw [least]
        exact Finset.min'_le _ _ (Finset.mem_filter.mpr ⟨present, above⟩)
      omega
    · exact missing (same ▸ present)

/-- The ranges the loop still has to push, from `next` on. -/
structure GapsFrom (complete : Finset Nat) (total next : Nat) (ranges : List Range) : Prop where
  nonempty : ∀ range ∈ ranges, range.1 < range.2
  bounded : ∀ range ∈ ranges, range.2 ≤ total
  apart : ranges.Pairwise fun left right => left.2 < right.1
  after : ∀ range ∈ ranges, next ≤ range.1 ∧ range.1 ∉ complete
  exact : ∀ number, next ≤ number → number < total → (number ∉ complete ↔ Covers ranges number)

theorem missing_ranges_gaps_from {complete : Finset Nat} {total : Nat}
    (bounded : complete ⊆ Finset.range total) (fuel next : Nat) (enough : total ≤ next + fuel) :
    GapsFrom complete total next
      (ReceiverShared.missingRanges complete total fuel next) := by
  induction fuel generalizing next with
  | zero =>
    refine ⟨by simp [ReceiverShared.missingRanges], by simp [ReceiverShared.missingRanges],
      by simp [ReceiverShared.missingRanges], by simp [ReceiverShared.missingRanges], ?_⟩
    intro number lower upper
    omega
  | succ fuel induction =>
    simp only [ReceiverShared.missingRanges]
    split_ifs with inside present
    · have rest := induction (next + 1) (by omega)
      refine ⟨rest.nonempty, rest.bounded, rest.apart, ?_, ?_⟩
      · intro range member
        have after := rest.after range member
        exact ⟨by omega, after.2⟩
      · intro number lower upper
        rcases Nat.lt_or_eq_of_le lower with above | same
        · exact rest.exact number above upper
        · subst same
          refine iff_of_false (not_not_intro present) ?_
          rintro ⟨range, member, before, _⟩
          have after := rest.after range member
          omega
    · obtain ⟨above, below, atEnd, gap⟩ := next_complete_block bounded inside present
      have rest := induction ((complete.filter (next < ·)).min.untopD total) (by omega)
      refine ⟨?_, ?_, ?_, ?_, ?_⟩
      · exact List.forall_mem_cons.mpr ⟨above, rest.nonempty⟩
      · exact List.forall_mem_cons.mpr ⟨below, rest.bounded⟩
      · refine List.pairwise_cons.mpr ⟨?_, rest.apart⟩
        intro range member
        have after := rest.after range member
        have nonempty := rest.nonempty range member
        have upper := rest.bounded range member
        rcases Nat.lt_or_eq_of_le after.1 with before | touching
        · exact before
        · exact absurd (touching ▸ atEnd (by omega)) after.2
      · refine List.forall_mem_cons.mpr ⟨⟨le_rfl, present⟩, ?_⟩
        intro range member
        have after := rest.after range member
        exact ⟨by omega, after.2⟩
      · intro number lower upper
        rcases Nat.lt_or_ge number
            ((complete.filter (next < ·)).min.untopD total) with before | after
        · refine iff_of_true (gap number lower before) ?_
          exact ⟨_, List.mem_cons_self, lower, before⟩
        · rw [rest.exact number after upper]
          constructor
          · rintro ⟨range, member, inRange⟩
            exact ⟨range, List.mem_cons_of_mem _ member, inRange⟩
          · rintro ⟨range, member, inRange⟩
            rcases List.mem_cons.mp member with rfl | later
            · simp only at inRange
              omega
            · exact ⟨range, later, inRange⟩
    · refine ⟨by simp, by simp, by simp, by simp, ?_⟩
      intro number lower upper
      omega

theorem missing_ranges_gap_list {complete : Finset Nat} {total : Nat}
    (bounded : complete ⊆ Finset.range total) :
    IsGapList complete total (ReceiverShared.missingRanges complete total total 0) := by
  have gaps := missing_ranges_gaps_from bounded total 0 (by omega)
  exact ⟨gaps.nonempty, gaps.bounded, gaps.apart, fun number => gaps.exact number (by omega)⟩

/-! ## What the encoder accepts -/

theorem to_block_range_bounds {total : Nat} (fits : total < 2 ^ 64) {range : Range}
    (nonempty : range.1 < range.2) (bounded : range.2 ≤ total) :
    (ReceiverShared.toBlockRange range).startBlockId.toNat = range.1 ∧
      (ReceiverShared.toBlockRange range).endBlockId.toNat = range.2 := by
  simp only [ReceiverShared.toBlockRange]
  exact ⟨UInt64.toNat_ofNat_of_lt' (show range.1 < 2 ^ 64 by omega),
    UInt64.toNat_ofNat_of_lt' (show range.2 < 2 ^ 64 by omega)⟩

theorem plain_ranges_valid_iff {complete : Finset Nat} {total : Nat}
    (bounded : complete ⊆ Finset.range total) (fits : total < 2 ^ 64) :
    (NeedReport.plain ((ReceiverShared.missingRanges complete total total 0).map
      ReceiverShared.toBlockRange)).validate = .ok () ↔ gapCount complete total ≤ maxNeedRanges := by
  have gaps := missing_ranges_gap_list bounded
  rw [validate_plain_ok_iff, List.length_map, gap_list_length gaps]
  refine and_iff_left ⟨?_, ?_⟩
  · intro wire member
    obtain ⟨range, inList, rfl⟩ := List.mem_map.mp member
    have nonempty := gaps.nonempty range inList
    obtain ⟨first, last⟩ := to_block_range_bounds fits nonempty (gaps.bounded range inList)
    rw [UInt64.lt_iff_toNat_lt]
    omega
  · rw [List.isChain_map]
    refine (gaps.apart.imp_of_mem ?_).isChain
    intro left right leftMember rightMember apart
    have first := to_block_range_bounds fits (gaps.nonempty left leftMember)
      (gaps.bounded left leftMember)
    have second := to_block_range_bounds fits (gaps.nonempty right rightMember)
      (gaps.bounded right rightMember)
    rw [UInt64.lt_iff_toNat_lt]
    omega

theorem fec_blocks_valid_iff {complete : Finset Nat} {total : Nat}
    (bounded : complete ⊆ Finset.range total) (fits : total < 2 ^ 64)
    (deficit : Nat → UInt16) (positive : ∀ blockId, deficit blockId ≠ 0) :
    (NeedReport.fec (((List.range total).filter (· ∉ complete)).map fun blockId =>
      ⟨UInt64.ofNat blockId, deficit blockId⟩)).validate = .ok () ↔
        total - complete.card ≤ maxNeedBlocks := by
  have count : ((List.range total).filter (· ∉ complete)).length = total - complete.card := by
    have distinct : ((List.range total).filter (· ∉ complete)).Nodup :=
      List.Nodup.filter _ List.nodup_range
    have same : ((List.range total).filter (· ∉ complete)).toFinset =
        Finset.range total \ complete := by
      ext number
      simp
    rw [← List.toFinset_card_of_nodup distinct, same, Finset.card_sdiff_of_subset bounded,
      Finset.card_range]
  rw [validate_fec_ok_iff, List.length_map, count]
  refine and_iff_left ⟨?_, ?_⟩
  · intro wire member
    obtain ⟨blockId, _, rfl⟩ := List.mem_map.mp member
    exact positive blockId
  · rw [List.isChain_map]
    have sorted : ((List.range total).filter (· ∉ complete)).Pairwise (· < ·) :=
      List.pairwise_lt_range.filter _
    refine (sorted.imp_of_mem ?_).isChain
    intro left right leftMember rightMember before
    have leftInside := List.mem_range.mp (List.mem_of_mem_filter leftMember)
    have rightInside := List.mem_range.mp (List.mem_of_mem_filter rightMember)
    rw [UInt64.lt_iff_toNat_lt, UInt64.toNat_ofNat_of_lt' (show left < 2 ^ 64 by omega),
      UInt64.toNat_ofNat_of_lt' (show right < 2 ^ 64 by omega)]
    exact before

theorem block_deficit_positive (mode : FecReceiver) (shared : ReceiverShared) (blockId : Nat) :
    mode.blockDeficit shared blockId ≠ 0 := by
  unfold FecReceiver.blockDeficit
  split
  next => decide
  next =>
    split
    next => decide
    next fecMode _ =>
      simp only
      split_ifs with covered
      · decide
      · intro zero
        rw [UInt16.ofNat_eq_iff_mod_eq_toNat, UInt16.toNat_zero] at zero
        omega

/-! ## Reports of a receiver -/

/-- The losses of a receiver are not too scattered for one report: at most 255 maximal gaps in
plain mode, at most 65535 incomplete blocks in FEC mode. -/
def ReportFits (plan : BlockPlan) (shared : ReceiverShared) : ReceiverMode → Prop
  | .plain _ => gapCount shared.completeBlocks plan.totalBlocks ≤ maxNeedRanges
  | .fec _ => plan.totalBlocks - shared.completeBlocks.card ≤ maxNeedBlocks

theorem gap_count_full {complete : Finset Nat} {total : Nat}
    (full : ∀ number < total, number ∈ complete) : gapCount complete total = 0 := by
  rw [gapCount, Finset.card_eq_zero, gapStarts, Finset.filter_eq_empty_iff]
  intro number inside
  simp [full number (Finset.mem_range.mp inside)]

theorem full_of_card {complete : Finset Nat} {total : Nat}
    (bounded : complete ⊆ Finset.range total) (count : complete.card = total) :
    complete = Finset.range total := by
  apply Finset.eq_of_subset_of_card_le bounded
  rw [Finset.card_range, count]

theorem installed_snapshot {receiver : SessionReceiver} {manifest : LosslessSessionManifest}
    {plan : BlockPlan} {mode : ReceiverMode} (installed : Installed receiver manifest plan mode) :
    ∃ report, mode.snapshot receiver.shared = some report ∧
      (report.validate = .ok () ↔ ReportFits plan receiver.shared mode) := by
  have fits := plan.total_blocks_lt
  have bounded := installed.bounded
  have completeValid : NeedReport.complete.validate = .ok () := rfl
  cases mode with
  | plain mode =>
    simp only [ReceiverMode.snapshot, ReceiverShared.plainNeed, installed.planIs, ReportFits]
    split_ifs with empty full
    · refine ⟨_, rfl, iff_of_true completeValid ?_⟩
      rw [gap_count_full (by omega)]
      exact Nat.zero_le _
    · refine ⟨_, rfl, iff_of_true completeValid ?_⟩
      rw [full_of_card bounded full, gap_count_full (by simp)]
      exact Nat.zero_le _
    · exact ⟨_, rfl, plain_ranges_valid_iff bounded fits⟩
  | fec mode =>
    simp only [ReceiverMode.snapshot, FecReceiver.needReport, installed.planIs, ReportFits,
      ReceiverShared.hasAllBlocks, decide_eq_true_eq]
    split_ifs with full
    · refine ⟨_, rfl, iff_of_true completeValid ?_⟩
      omega
    · exact ⟨_, rfl, fec_blocks_valid_iff bounded fits _ fun blockId =>
        block_deficit_positive mode receiver.shared blockId⟩

theorem snapshot_canonical {receiver : SessionReceiver} {manifest : LosslessSessionManifest}
    {plan : BlockPlan} {mode : ReceiverMode} (installed : Installed receiver manifest plan mode)
    {report : NeedReport} (taken : mode.snapshot receiver.shared = some report) :
    report.canonical = report := by
  have bounded := installed.bounded
  have card_of_covered (covered : ∀ number < plan.totalBlocks,
      number ∈ receiver.shared.completeBlocks) :
      receiver.shared.completeBlocks.card = plan.totalBlocks := by
    have all : Finset.range plan.totalBlocks ⊆ receiver.shared.completeBlocks :=
      fun number member => covered number (Finset.mem_range.mp member)
    rw [subset_antisymm bounded all, Finset.card_range]
  cases mode with
  | plain mode =>
    simp only [ReceiverMode.snapshot, ReceiverShared.plainNeed, installed.planIs] at taken
    split_ifs at taken with empty full
    · cases taken
      rfl
    · cases taken
      rfl
    · cases taken
      refine if_neg fun none => full (card_of_covered ?_)
      intro number inside
      by_contra missing
      obtain ⟨range, member, _⟩ :=
        ((missing_ranges_gap_list bounded).exact number inside).mp missing
      rw [List.map_eq_nil_iff.mp none] at member
      cases member
  | fec mode =>
    simp only [ReceiverMode.snapshot, FecReceiver.needReport, installed.planIs,
      ReceiverShared.hasAllBlocks, decide_eq_true_eq] at taken
    split_ifs at taken with full
    · cases taken
      rfl
    · cases taken
      refine if_neg fun none => full (.inr (card_of_covered ?_))
      intro number inside
      by_contra missing
      have member : number ∈ (List.range plan.totalBlocks).filter
          (· ∉ receiver.shared.completeBlocks) :=
        List.mem_filter.mpr ⟨List.mem_range.mpr inside, by simpa using missing⟩
      rw [List.map_eq_nil_iff.mp none] at member
      cases member

end Nextmini.Session
