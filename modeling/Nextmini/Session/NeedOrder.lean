import Nextmini.Session.ControlEffects
import Nextmini.Session.RepairBudget

/-!
# The order of a round's reports

First reports for an open round, from distinct quorum peers, lead to one sender state in whatever
order they are handled: the plain sender collects a union of blocks, the FEC sender a maximum for
each block, and no report but the last one can close the round.
-/

namespace Nextmini.Session

open Nextmini.Library
open Nextmini.Messages

set_option autoImplicit false

section FirstNeeds

variable {Mode : Type} [RoundView Mode]

/-- A valid report for the open round, and the first one of its peer. -/
structure FirstNeed (shared : SenderShared) (mode : Mode) (frame : InboundFrame) (peerId : Nat)
    (report : NeedReport) : Prop extends ReportsOpenRound shared mode frame peerId report where
  unheard : (RoundView.reports mode)[peerId]? = none

structure FirstNeeds (shared : SenderShared) (mode : Mode) (frames : List InboundFrame) : Prop where
  first : ∀ frame ∈ frames, ∃ peerId report, FirstNeed shared mode frame peerId report
  distinct : (frames.map InboundFrame.peerId).Nodup

/-- The frames handled one after another, with no turn of the main loop in between. -/
def handleControls (state : SenderShared × Mode) (frames : List InboundFrame) :
    SenderShared × Mode :=
  frames.foldl (fun state frame => handleControl state.1 state.2 frame) state

variable {shared : SenderShared} {mode : Mode} {frame other : InboundFrame} {peerId : Nat}
  {report : NeedReport}

theorem FirstNeed.handled (need : FirstNeed shared mode frame peerId report) :
    handleControl shared mode frame =
      ModeHooks.onNeed shared mode peerId (SenderLoop.openRoundId mode) report := by
  obtain ⟨header, decoded⟩ := need.decoded
  simp only [handleControl, decoded, need.sender, need.member, not_true_eq_false, if_false,
    need.valid]

/-- A report that leaves the round open leaves the first reports of other peers first reports. -/
theorem FirstNeed.kept {after : SenderShared} {next : Mode} {sender : Nat} {given : NeedReport}
    (need : FirstNeed shared mode frame peerId report) (same : after = shared)
    (stillOpen : RoundView.roundOpen next)
    (round : SenderLoop.openRoundId next = SenderLoop.openRoundId mode)
    (reports : RoundView.reports next = (RoundView.reports mode).insert sender given)
    (apart : sender ≠ peerId) : FirstNeed after next frame peerId report := by
  subst same
  refine ⟨⟨?_, need.sender, need.frozen, need.member, ?_, stillOpen⟩, ?_⟩
  · rw [round]
    exact need.decoded
  · rw [round]
    exact need.valid
  · rw [reports, Std.ExtTreeMap.getElem?_insert, if_neg]
    · exact need.unheard
    · exact fun equal => apart (Nat.compare_eq_eq.mp equal)

/-- What a mode has to show of single reports for their order not to matter. `sound` is an invariant
of the mode; a report is not the last one while some other member is unheard. -/
structure NeedsCommute (Mode : Type) [RoundView Mode] (sound : SenderShared → Mode → Prop) :
    Prop where
  before : ∀ {shared mode frame peerId report}, sound shared mode →
    FirstNeed shared mode frame peerId report →
    (∃ later ∈ shared.activeQuorum.active, later ≠ peerId ∧
      (RoundView.reports mode)[later]? = none) →
    ∃ next, handleControl shared mode frame = (shared, next) ∧ RoundView.roundOpen next ∧
      SenderLoop.openRoundId next = SenderLoop.openRoundId mode ∧
      RoundView.reports next = (RoundView.reports mode).insert peerId report ∧ sound shared next
  swap : ∀ {shared mode frame other peerId otherId report given}, sound shared mode →
    FirstNeed shared mode frame peerId report → FirstNeed shared mode other otherId given →
    peerId ≠ otherId →
    handleControls (shared, mode) [frame, other] = handleControls (shared, mode) [other, frame]

theorem FirstNeeds.apart {rest : List InboundFrame}
    (needs : FirstNeeds shared mode (frame :: rest)) (later : other ∈ rest)
    {otherId : Nat} (sender : frame.peerId = some peerId) (second : other.peerId = some otherId) :
    peerId ≠ otherId := by
  rintro rfl
  have distinct := needs.distinct
  rw [List.map_cons, List.nodup_cons] at distinct
  exact distinct.1 (List.mem_map.mpr ⟨other, later, second.trans sender.symm⟩)

theorem NeedsCommute.any_order {sound : SenderShared → Mode → Prop}
    (commute : NeedsCommute Mode sound) (holds : sound shared mode)
    {frames reordered : List InboundFrame} (needs : FirstNeeds shared mode frames)
    (order : frames.Perm reordered) :
    handleControls (shared, mode) frames = handleControls (shared, mode) reordered := by
  apply TransitionSystem.foldl_perm
    (fun (state : SenderShared × Mode) frames =>
      frames ≠ [] → sound state.1 state.2 ∧ FirstNeeds state.1 state.2 frames) ?_ ?_ ?_ order
    (fun _ => ⟨holds, needs⟩)
  · intro state first second order allowed some
    have start : first ≠ [] := by
      rintro rfl
      exact some order.nil_eq.symm
    obtain ⟨holds, needs⟩ := allowed start
    refine ⟨holds, ?_, (order.map _).nodup needs.distinct⟩
    intro frame member
    exact needs.first frame (order.mem_iff.mpr member)
  · rintro ⟨shared, mode⟩ frame rest allowed some
    obtain ⟨holds, needs⟩ := allowed (List.cons_ne_nil _ _)
    obtain ⟨peerId, report, need⟩ := needs.first frame List.mem_cons_self
    obtain ⟨later, member⟩ := List.exists_mem_of_ne_nil rest some
    obtain ⟨laterId, given, waiting⟩ := needs.first later (List.mem_cons_of_mem _ member)
    obtain ⟨next, handled, stillOpen, round, reports, kept⟩ := commute.before holds need
      ⟨laterId, waiting.member, (needs.apart member need.sender waiting.sender).symm,
        waiting.unheard⟩
    simp only [handled]
    refine ⟨kept, ?_, ?_⟩
    · intro other member
      obtain ⟨otherId, given, waiting⟩ := needs.first other (List.mem_cons_of_mem _ member)
      exact ⟨otherId, given, waiting.kept rfl stillOpen round reports
        (needs.apart member need.sender waiting.sender)⟩
    · have distinct := needs.distinct
      rw [List.map_cons, List.nodup_cons] at distinct
      exact distinct.2
  · rintro ⟨shared, mode⟩ frame other rest allowed
    obtain ⟨holds, needs⟩ := allowed (List.cons_ne_nil _ _)
    obtain ⟨peerId, report, need⟩ := needs.first frame List.mem_cons_self
    obtain ⟨otherId, given, second⟩ :=
      needs.first other (List.mem_cons_of_mem _ List.mem_cons_self)
    exact commute.swap holds need second (needs.apart List.mem_cons_self need.sender second.sender)

end FirstNeeds

theorem insert_reports_comm (reports : ReportMap) {peerId otherId : Nat} (apart : peerId ≠ otherId)
    (report given : NeedReport) :
    (reports.insert peerId report).insert otherId given =
      (reports.insert otherId given).insert peerId report := by
  apply Std.ExtTreeMap.ext_getElem?
  intro key
  simp only [Std.ExtTreeMap.getElem?_insert, Nat.compare_eq_eq]
  by_cases first : peerId = key
  · rw [if_pos first, if_pos first, if_neg (first ▸ apart.symm)]
  · rw [if_neg first, if_neg first]

/-! ## Plain -/

namespace PlainSender

/-- The loop over a report's missing blocks collects a union. -/
theorem require_blocks_eq (blocks : List Nat) (mode : PlainSender) (useful : Bool) :
    requireBlocks blocks (mode, useful) =
      ({ mode with
          requiredBlocks := mode.requiredBlocks ∪ blocks.toFinset
          queuedRetransmitBlocks := mode.queuedRetransmitBlocks ∪
            (blocks.toFinset \ mode.requiredBlocks) \ mode.emittedBlocks },
        useful || decide (¬blocks.toFinset ⊆ mode.requiredBlocks)) := by
  induction blocks generalizing mode useful with
  | nil => simp [requireBlocks]
  | cons blockId rest induction =>
    simp only [requireBlocks, List.toFinset_cons]
    split_ifs with known sent
    · rw [induction, Finset.union_insert, Finset.insert_eq_self.mpr (Finset.mem_union_left _ known),
        Finset.insert_sdiff_of_mem _ known]
      simp [Finset.insert_subset_iff, known]
    · have queued : (rest.toFinset \ insert blockId mode.requiredBlocks) \ mode.emittedBlocks =
          (insert blockId rest.toFinset \ mode.requiredBlocks) \ mode.emittedBlocks := by
        ext other
        by_cases same : other = blockId
        · simp [same, sent]
        · simp [same]
      rw [induction, Finset.union_insert, Finset.insert_union, queued]
      simp [Finset.insert_subset_iff, known]
    · have queued : insert blockId mode.queuedRetransmitBlocks ∪
            (rest.toFinset \ insert blockId mode.requiredBlocks) \ mode.emittedBlocks =
          mode.queuedRetransmitBlocks ∪
            (insert blockId rest.toFinset \ mode.requiredBlocks) \ mode.emittedBlocks := by
        ext other
        by_cases same : other = blockId
        · simp [same, sent, known]
        · simp [same]
      rw [induction, Finset.union_insert, Finset.insert_union, queued]
      simp [Finset.insert_subset_iff, known]

def missingOf : NeedReport → Finset Nat
  | .plain ranges => (missingBlocks ranges).toFinset
  | _ => ∅

def countsSymbols : NeedReport → Bool
  | .fec _ => true
  | _ => false

/-- Whether a report asks for a block that no earlier one has asked for. -/
def useful (mode : PlainSender) (report : NeedReport) : Bool :=
  ¬missingOf report ⊆ mode.requiredBlocks

def heard (mode : PlainSender) (peerId : Nat) (report : NeedReport) : PlainSender :=
  { mode with
    roundReports := mode.roundReports.insert peerId report
    requiredBlocks := mode.requiredBlocks ∪ missingOf report
    queuedRetransmitBlocks := mode.queuedRetransmitBlocks ∪
      (missingOf report \ mode.requiredBlocks) \ mode.emittedBlocks
    currentBurstId :=
      if mode.useful report then nextRoundId mode.feedbackOpenRoundId else mode.currentBurstId
    nextBurstNonempty := mode.nextBurstNonempty || mode.useful report
    protocolError := mode.protocolError || countsSymbols report }

theorem on_first_need {mode : PlainSender} {peerId : Nat} {report : NeedReport}
    (opened : mode.feedbackRoundOpen) (absent : mode.roundReports[peerId]? = none) :
    mode.onNeed peerId mode.feedbackOpenRoundId report = mode.heard peerId report := by
  simp only [onNeed, opened, absent, not_true_eq_false, if_false, ne_eq, heard]
  cases report with
  | complete => simp [useful, missingOf, countsSymbols]
  | fec needs => simp [useful, missingOf, countsSymbols]
  | plain ranges =>
    simp only [require_blocks_eq, Bool.false_or, useful, missingOf, countsSymbols]
    by_cases known : (missingBlocks ranges).toFinset ⊆ mode.requiredBlocks
    · simp [known]
    · simp [known]

theorem useful_heard (mode : PlainSender) (peerId : Nat) (report given : NeedReport) :
    (mode.useful report || (mode.heard peerId report).useful given) =
      (mode.useful report || mode.useful given) := by
  by_cases known : missingOf report ⊆ mode.requiredBlocks
  · simp [useful, heard, Finset.union_eq_left.mpr known]
  · simp [useful, known]

theorem heard_heard (mode : PlainSender) (peerId otherId : Nat) (report given : NeedReport) :
    (mode.heard peerId report).heard otherId given =
      { mode with
        roundReports := (mode.roundReports.insert peerId report).insert otherId given
        requiredBlocks := mode.requiredBlocks ∪ (missingOf report ∪ missingOf given)
        queuedRetransmitBlocks := mode.queuedRetransmitBlocks ∪
          ((missingOf report ∪ missingOf given) \ mode.requiredBlocks) \ mode.emittedBlocks
        currentBurstId :=
          if mode.useful report || mode.useful given then nextRoundId mode.feedbackOpenRoundId
          else mode.currentBurstId
        nextBurstNonempty := mode.nextBurstNonempty || (mode.useful report || mode.useful given)
        protocolError := mode.protocolError || (countsSymbols report || countsSymbols given) } := by
  have either := useful_heard mode peerId report given
  have queued : (mode.queuedRetransmitBlocks ∪
          (missingOf report \ mode.requiredBlocks) \ mode.emittedBlocks) ∪
        (missingOf given \ (mode.requiredBlocks ∪ missingOf report)) \ mode.emittedBlocks =
      mode.queuedRetransmitBlocks ∪
        ((missingOf report ∪ missingOf given) \ mode.requiredBlocks) \ mode.emittedBlocks := by
    ext blockId
    simp only [Finset.mem_union, Finset.mem_sdiff]
    tauto
  rw [heard]
  generalize (mode.heard peerId report).useful given = second at either ⊢
  rw [← either, ← queued]
  simp only [heard, Finset.union_assoc, Bool.or_assoc]
  cases mode.useful report <;> cases second <;> rfl

theorem heard_comm (mode : PlainSender) {peerId otherId : Nat} (apart : peerId ≠ otherId)
    (report given : NeedReport) :
    (mode.heard peerId report).heard otherId given =
      (mode.heard otherId given).heard peerId report := by
  rw [heard_heard, heard_heard, insert_reports_comm _ apart, Finset.union_comm (missingOf report),
    Bool.or_comm (mode.useful report), Bool.or_comm (countsSymbols report)]

theorem handled {shared : SenderShared} {mode : PlainSender} {frame : InboundFrame} {peerId : Nat}
    {report : NeedReport} (need : FirstNeed shared mode frame peerId report) :
    handleControl shared mode frame = (shared, mode.heard peerId report) := by
  rw [need.handled]
  exact congrArg _ (on_first_need need.opened need.unheard)

theorem both_handled {shared : SenderShared} {mode : PlainSender} {frame other : InboundFrame}
    {peerId otherId : Nat} {report given : NeedReport}
    (need : FirstNeed shared mode frame peerId report)
    (second : FirstNeed shared mode other otherId given) (apart : peerId ≠ otherId) :
    handleControls (shared, mode) [frame, other] =
      (shared, (mode.heard peerId report).heard otherId given) := by
  have next : FirstNeed shared (mode.heard peerId report) other otherId given :=
    second.kept rfl need.opened rfl rfl apart
  simp only [handleControls, List.foldl_cons, List.foldl_nil, handled need, handled next]

theorem needs_commute : NeedsCommute PlainSender fun _ _ => True where
  before {shared mode frame peerId report} _ need _ :=
    ⟨mode.heard peerId report, handled need, need.opened, rfl, rfl, trivial⟩
  swap {shared mode frame other peerId otherId report given} _ need second apart := by
    rw [both_handled need second apart, both_handled second need apart.symm, heard_comm mode apart]

end PlainSender

/-! ## FEC -/

namespace FecSender

theorem merge_deficit_comm (blocks : List FecSendBlock) (need other : NeedBlock) :
    mergeDeficit (mergeDeficit blocks need) other =
      mergeDeficit (mergeDeficit blocks other) need := by
  apply List.ext_getElem?
  intro blockId
  simp only [mergeDeficit, List.getElem?_modify]
  cases blocks[blockId]? with
  | none => rfl
  | some block =>
    split_ifs <;> simp [max_right_comm]

theorem merge_deficits_append (blocks : List FecSendBlock) (needs others : List NeedBlock) :
    mergeDeficits (mergeDeficits blocks needs) others = mergeDeficits blocks (needs ++ others) :=
  List.foldl_append.symm

theorem merge_deficits_comm (blocks : List FecSendBlock) (needs others : List NeedBlock) :
    mergeDeficits (mergeDeficits blocks needs) others =
      mergeDeficits (mergeDeficits blocks others) needs := by
  rw [merge_deficits_append, merge_deficits_append]
  exact List.perm_append_comm.foldl_eq' (fun need _ other _ blocks =>
    merge_deficit_comm blocks need other) blocks

def mergeReport (blocks : List FecSendBlock) : NeedReport → List FecSendBlock
  | .fec needs => mergeDeficits blocks needs
  | _ => blocks

theorem merge_report_comm (blocks : List FecSendBlock) (report given : NeedReport) :
    mergeReport (mergeReport blocks report) given =
      mergeReport (mergeReport blocks given) report := by
  cases report with
  | complete => rfl
  | plain ranges => rfl
  | fec needs =>
    cases given with
    | complete => rfl
    | plain ranges => rfl
    | fec others => exact merge_deficits_comm blocks needs others

theorem reports_lt {reports : ReportMap} {members : Finset Nat}
    (known : ∀ peerId ∈ reports, peerId ∈ members) {later : Nat} (member : later ∈ members)
    (unheard : reports[later]? = none) : reports.size < members.card := by
  have subset : reports.keys.toFinset ⊂ members := by
    refine (Finset.ssubset_iff_of_subset ?_).mpr ⟨later, member, ?_⟩
    · intro peerId present
      exact known peerId (Std.ExtTreeMap.mem_keys.mp (List.mem_toFinset.mp present))
    · rw [List.mem_toFinset, Std.ExtTreeMap.mem_keys]
      intro present
      exact absurd unheard (Option.isSome_iff_ne_none.mp
        (Std.ExtTreeMap.mem_iff_isSome_getElem?.mp present))
  have size := Finset.card_lt_card subset
  rwa [List.toFinset_card_of_nodup Std.ExtTreeMap.nodup_keys, Std.ExtTreeMap.length_keys] at size

variable {shared : SenderShared} {mode : FecSender} {frame other : InboundFrame}
  {peerId otherId : Nat} {report given : NeedReport}

/-- The reports come from the quorum of an FEC session. -/
def HearsMembers (shared : SenderShared) (mode : FecSender) : Prop :=
  (∀ peerId ∈ mode.roundReports, peerId ∈ shared.activeQuorum.active) ∧
    ∃ fec, shared.manifest.mode = .fec fec

theorem HearsMembers.recorded (sound : HearsMembers shared mode)
    (need : FirstNeed shared mode frame peerId report) :
    ∀ sender ∈ mode.roundReports.insert peerId report, sender ∈ shared.activeQuorum.active := by
  intro sender present
  rcases Std.ExtTreeMap.mem_insert.mp present with same | earlier
  · rw [← Nat.compare_eq_eq.mp same]
    exact need.member
  · exact sound.1 sender earlier

/-- The sender with one more first report, before it looks whether the round can close. -/
def merged (mode : FecSender) (peerId : Nat) (report : NeedReport) : FecSender :=
  mode.heard peerId report (mergeReport mode.blocks report) mode.repairWindowSymbols

theorem handled (offered : ∃ fec, shared.manifest.mode = .fec fec)
    (need : FirstNeed shared mode frame peerId report) :
    handleControl shared mode frame = (mode.merged peerId report).afterReport shared := by
  obtain ⟨fec, offered⟩ := offered
  obtain ⟨header, decoded⟩ := need.decoded
  have waiting : mode.phase = .waitingForReports := of_decide_eq_true need.opened
  have absent : mode.roundReports[peerId]? = none := need.unheard
  have current : SenderLoop.openRoundId mode = mode.currentRoundId := rfl
  rw [need.handled]
  show onNeed shared mode peerId _ report = _
  unfold onNeed
  rw [if_neg (not_not_intro waiting), if_neg (not_not_intro current)]
  split
  next existing present =>
    rw [absent] at present
    cases present
  next =>
    cases report with
    | complete => rfl
    | fec needs => rfl
    | plain ranges => exact absurd rfl (accepted_not_plain offered decoded need.valid ranges)

/-- A report before the last one widens the window. -/
theorem handled_before (sound : HearsMembers shared mode)
    (need : FirstNeed shared mode frame peerId report)
    (waiting : ∃ later ∈ shared.activeQuorum.active, later ≠ peerId ∧
      mode.roundReports[later]? = none) :
    handleControl shared mode frame =
      (shared, (mode.merged peerId report).recalculateRepairWindow shared) := by
  obtain ⟨later, member, apart, unheard⟩ := waiting
  have unclosed : (mode.roundReports.insert peerId report).size < shared.activeQuorum.active.card := by
    apply reports_lt (sound.recorded need) member
    rw [Std.ExtTreeMap.getElem?_insert, if_neg, unheard]
    exact fun same => apart (Nat.compare_eq_eq.mp same).symm
  rw [handled sound.2 need]
  simp only [afterReport, recalculate_window]
  exact if_neg fun closes => unclosed.ne closes.1

theorem after_report_window (shared : SenderShared) (mode : FecSender) (window : Nat) :
    ({ mode with repairWindowSymbols := window } : FecSender).afterReport shared =
      mode.afterReport shared := by
  simp only [afterReport, recalculate_window]
  rfl

theorem merged_comm (mode : FecSender) (apart : peerId ≠ otherId) (report given : NeedReport) :
    (mode.merged peerId report).merged otherId given =
      (mode.merged otherId given).merged peerId report := by
  simp only [merged, heard, merge_report_comm mode.blocks report, insert_reports_comm _ apart]

theorem both_handled (sound : HearsMembers shared mode)
    (need : FirstNeed shared mode frame peerId report)
    (second : FirstNeed shared mode other otherId given) (apart : peerId ≠ otherId) :
    handleControls (shared, mode) [frame, other] =
      ((mode.merged peerId report).merged otherId given).afterReport shared := by
  have first := handled_before sound need ⟨otherId, second.member, apart.symm, second.unheard⟩
  have next : FirstNeed shared ((mode.merged peerId report).recalculateRepairWindow shared) other
      otherId given := by
    rw [recalculate_window]
    exact second.kept rfl need.opened rfl rfl apart
  simp only [handleControls, List.foldl_cons, List.foldl_nil, first, handled sound.2 next]
  rw [recalculate_window]
  exact after_report_window shared ((mode.merged peerId report).merged otherId given) _

theorem needs_commute : NeedsCommute FecSender HearsMembers where
  before {shared mode frame peerId report} sound need waiting := by
    refine ⟨_, handled_before sound need waiting, ?_⟩
    rw [recalculate_window]
    exact ⟨need.opened, rfl, rfl, sound.recorded need, sound.2⟩
  swap {shared mode frame other peerId otherId report given} sound need second apart := by
    rw [both_handled sound need second apart, both_handled sound second need apart.symm,
      merged_comm mode apart]

end FecSender

end Nextmini.Session
