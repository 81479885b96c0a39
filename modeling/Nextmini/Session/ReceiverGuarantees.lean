import Nextmini.Session.ReceiverRounds

/-!
# Guarantees of a receiver

When the report of a receiver can be put on the wire, and how its reports over a whole run hang
together.
-/

namespace Nextmini.Session

open Nextmini.Library Nextmini.Library.BigEndian Nextmini.Library.SetGaps
open Nextmini.Messages

set_option autoImplicit false

/-! ## Reports on the wire -/

theorem send_control_isSome (sessionId : UInt64) (control : LosslessSessionControl) :
    (sendControl sessionId control).isSome ↔ control.validate = .ok () := by
  cases valid : control.validate with
  | error reason => simp [sendControl, encodeControl, valid]
  | ok value => simp [sendControl, encodeControl, valid]

theorem handle_source_done_eq {receiver : SessionReceiver} {mode : ReceiverMode}
    (running : receiver.mode = some mode) (roundId : UInt32) :
    receiver.handleSourceDone roundId =
      (answerSourceDone receiver.shared.sessionId (mode.snapshot receiver.shared) mode.cache
        roundId).map fun (cache, sent) =>
          ({ receiver with mode := some (mode.withCache cache) }, sent) := by
  cases mode with
  | plain mode =>
    simp only [SessionReceiver.handleSourceDone, running, PlainReceiver.handleSourceDone,
      ReceiverMode.snapshot, ReceiverMode.cache]
    cases answerSourceDone receiver.shared.sessionId receiver.shared.plainNeed
      mode.toNeedCache roundId <;> rfl
  | fec mode =>
    simp only [SessionReceiver.handleSourceDone, running, FecReceiver.handleSourceDone,
      ReceiverMode.snapshot, ReceiverMode.cache]
    cases answerSourceDone receiver.shared.sessionId (mode.needReport receiver.shared)
      mode.toNeedCache roundId <;> rfl

/-- A new round is answered exactly when the snapshot can be encoded, the last round always. -/
theorem answer_source_done_isSome (sessionId : UInt64) {report : NeedReport}
    {cache : NeedCache} {roundId : UInt32}
    (current : ∀ last ∈ cache.lastSourceDoneRoundId, last ≤ roundId)
    (remembered : cache.lastSourceDoneRoundId = some roundId →
      ∃ kept, cache.lastRoundNeed = some kept ∧ kept.validate = .ok ()) :
    (∃ next answer, answerSourceDone sessionId (some report) cache roundId =
        some (next, [.need roundId answer])) ↔
      report.validate = .ok () ∨ cache.lastSourceDoneRoundId = some roundId := by
  have fresh : (∃ next answer, answerRound sessionId (some report) cache roundId =
      some (next, [.need roundId answer])) ↔ report.validate = .ok () := by
    have valid := send_control_isSome sessionId (.need roundId report)
    simp only [answerRound]
    constructor
    · rintro ⟨next, answer, answered⟩
      obtain ⟨out, sending, _⟩ := Option.bind_eq_some_iff.mp answered
      exact (send_control_some sending).2
    · intro encodable
      obtain ⟨out, sending⟩ := Option.isSome_iff_exists.mp (valid.mpr encodable)
      obtain ⟨rfl, -⟩ := send_control_some sending
      exact ⟨_, report, by rw [sending]; rfl⟩
  cases last : cache.lastSourceDoneRoundId with
  | none =>
    simp only [answerSourceDone, last, fresh]
    simp
  | some lastRoundId =>
    have lower := UInt32.not_lt.mpr (current lastRoundId last)
    by_cases same : roundId = lastRoundId
    · subst same
      obtain ⟨kept, present, valid⟩ := remembered last
      obtain ⟨out, sending⟩ := Option.isSome_iff_exists.mp
        ((send_control_isSome sessionId (.need roundId kept)).mpr valid)
      obtain ⟨rfl, -⟩ := send_control_some sending
      refine iff_of_true ⟨{ cache with completeReported := kept = .complete }, kept, ?_⟩ (.inr rfl)
      simp only [answerSourceDone, last, lower, if_false, if_true, present, sending,
        Option.bind_eq_bind, Option.bind_some]
    · simp only [answerSourceDone, last, lower, if_false, same, fresh]
      simp [Ne.symm same]

/-- Every receiver that has installed a manifest has a report to give. The report passes the
encoder's check, and a new round can be answered at all, exactly when the losses fit one report;
otherwise the encoder panics. -/
theorem reachable_need_fits_iff {crate : FountainCrate} {task : ReceiverTask}
    (reachable : (receiverSystem crate).Reachable task) {mode : ReceiverMode}
    (running : task.receiver.mode = some mode) :
    ∃ plan report, task.receiver.shared.plan = some plan ∧
      mode.snapshot task.receiver.shared = some report ∧
      (∀ roundId, (LosslessSessionControl.need roundId report).validate = .ok () ↔
        ReportFits plan task.receiver.shared mode) ∧
      ∀ roundId, (∀ last ∈ mode.cache.lastSourceDoneRoundId, last ≤ roundId) →
        ((∃ next answer, task.receiver.handleSourceDone roundId =
            some (next, [.need roundId answer])) ↔
          ReportFits plan task.receiver.shared mode ∨
            mode.cache.lastSourceDoneRoundId = some roundId) := by
  obtain ⟨start, labels, initial, run⟩ := reachable
  have answering := run_answering initial run
  rcases answering.consistent with empty | ⟨manifest, plan, other, installed⟩
  · rw [empty.modeIs] at running
    cases running
  · obtain rfl : other = mode := Option.some.inj (installed.modeIs.symm.trans running)
    obtain ⟨report, snapshot, valid⟩ := installed_snapshot installed
    refine ⟨plan, report, installed.planIs, snapshot, fun _ => valid, ?_⟩
    intro roundId current
    rw [handle_source_done_eq running, snapshot, ← valid]
    rw [← answer_source_done_isSome task.receiver.shared.sessionId current]
    · constructor
      · rintro ⟨next, answer, answered⟩
        obtain ⟨⟨cache, sent⟩, found, same⟩ := Option.map_eq_some_iff.mp answered
        obtain ⟨-, rfl⟩ := Prod.mk.inj same
        exact ⟨cache, answer, found⟩
      · rintro ⟨cache, answer, found⟩
        rw [found]
        exact ⟨_, answer, rfl⟩
    · intro last
      rw [answering.cacheIs _ running] at last ⊢
      obtain ⟨kept, ending, same⟩ := cache_of_round last
      exact ⟨kept, by rw [same], answering.valid _ (List.mem_of_getLast? ending)⟩

/-! ### A pattern of losses that cannot be reported -/

/-- A plain object of 511 one-byte blocks. -/
def unitManifest : LosslessSessionManifest := ⟨1, 511, 511, .plain⟩

def unitPlan : BlockPlan where
  totalBytes := 511
  blockSize := 1
  totalBlocks := 511
  blockSizePositive := Nat.one_pos
  blockCount := by decide
  bytesFit := by decide

/-- A receiver of the object that holds some blocks and was not asked for a report yet. -/
def unitReceiver (blocks : Finset Nat) : ReceiverTask where
  receiver :=
    { shared :=
        { sessionId := 7
          fecEnabled := false
          sinkBuffer := none
          manifest := some unitManifest
          plan := some unitPlan
          completeBlocks := blocks }
      mode := some (.plain ⟨.empty⟩)
      lifecycle := .active }
  replay := none

theorem unit_receiver_installs (crate : FountainCrate) :
    (receiverSystem crate).Reachable (unitReceiver ∅) := by
  obtain ⟨bytes, encoded⟩ := Option.isSome_iff_exists.mp
    (show (encodeControl 7 (.manifest unitManifest)).isSome by decide)
  have ready : sendControl 7 .ready = some [.ready] := by decide
  have planned : BlockPlan.new unitManifest.totalBytes unitManifest.blockSize.toNat =
      .ok unitPlan := rfl
  refine ⟨.new ⟨7, none, false⟩, [⟨.frame ⟨bytes, none⟩, [.ready]⟩], ⟨_, rfl⟩,
    .single ⟨roomyHost, ?_⟩⟩
  simp only [ReceiverTask.step, ReceiverTask.inLoop, ReceiverTask.new,
    SessionReceiver.new, SessionReceiver.receiveFrame, SessionReceiver.dispatchFrame,
    decode_control_encode encoded, LosslessSessionControl.canonical,
    SessionReceiver.handleControlFrame, SessionReceiver.installManifest, planned]
  simp [unitManifest, LosslessSessionMode.isFec, SessionReceiver.receiverMode,
    ReceiverShared.ensureSinkBufferLen, ready, SessionReceiver.reportedComplete,
    ReceiverMode.cache, NeedCache.empty, unitReceiver]

theorem unit_block_valid (blockId : Nat) (inside : blockId < 511) :
    unitManifest.validateBlockData ⟨UInt64.ofNat blockId⟩ 1 = .ok () := by
  have valid : unitManifest.validate = .ok () := by decide
  have number : (UInt64.ofNat blockId).toNat = blockId :=
    UInt64.toNat_ofNat_of_lt' (show blockId < 2 ^ 64 by omega)
  have bounded : ¬unitManifest.totalBlocks ≤ UInt64.ofNat blockId := by
    rw [UInt64.le_iff_toNat_le, number]
    exact Nat.not_le.mpr inside
  have one : unitManifest.expectedBlockPayloadLen (UInt64.ofNat blockId) = .ok 1 := by
    simp only [LosslessSessionManifest.expectedBlockPayloadLen,
      LosslessSessionManifest.validateBlockId, valid, bounded, if_false]
    simp [unitManifest, bind, Except.bind]
  simp only [LosslessSessionManifest.validateBlockData, one]
  rfl

theorem write_block_no_sink {shared : ReceiverShared} (none : shared.sinkBuffer = none)
    (blockId : Nat) (payload : List Byte) : shared.writeBlock blockId payload = shared := by
  simp only [ReceiverShared.writeBlock, none]
  split
  next => rfl
  next => split <;> rfl

theorem unit_receiver_takes (crate : FountainCrate) {blocks : Finset Nat}
    {blockId : Nat} (inside : blockId < 511) (missing : blockId ∉ blocks)
    (reachable : (receiverSystem crate).Reachable (unitReceiver blocks)) :
    (receiverSystem crate).Reachable (unitReceiver (insert blockId blocks)) := by
  have number : (UInt64.ofNat blockId).toNat = blockId :=
    UInt64.toNat_ofNat_of_lt' (show blockId < 2 ^ 64 by omega)
  obtain ⟨bytes, encoded⟩ : ∃ bytes, encodeBlockData 7 (UInt64.ofNat blockId) [0] = some bytes :=
    ⟨_, (encode_block_data_some_iff _ _ _ _).mpr ⟨by decide, rfl⟩⟩
  have plain : unitManifest.mode = .plain := rfl
  have step : (receiverSystem crate).step (unitReceiver blocks)
      ⟨.frame ⟨bytes, none⟩, []⟩ (unitReceiver (insert blockId blocks)) := by
    refine ⟨roomyHost, ?_⟩
    simp only [ReceiverTask.step, ReceiverTask.inLoop, unitReceiver,
      SessionReceiver.receiveFrame, SessionReceiver.dispatchFrame,
      decode_control_block_data encoded, decode_block_data_encode encoded,
      SessionReceiver.handleBlockDataFrame, PlainReceiver.handleBlockDataFrame, plain,
      List.length_singleton, unit_block_valid blockId inside, number, missing]
    rw [write_block_no_sink rfl]
    rfl
  exact reachable.step step

theorem unit_receiver_reachable (crate : FountainCrate) (blocks : Finset Nat)
    (inside : ∀ blockId ∈ blocks, blockId < 511) :
    (receiverSystem crate).Reachable (unitReceiver blocks) := by
  induction blocks using Finset.induction_on with
  | empty => exact unit_receiver_installs crate
  | insert blockId blocks missing induction =>
    exact unit_receiver_takes crate (inside blockId (Finset.mem_insert_self _ _)) missing
      (induction fun other member => inside other (Finset.mem_insert_of_mem member))

def oddBlocks : Finset Nat := (Finset.range 511).filter fun blockId => blockId % 2 = 1

theorem odd_block_gaps : gapCount oddBlocks 511 = 256 := by
  have starts : gapStarts oddBlocks 511 = (Finset.range 256).image (2 * ·) := by
    ext number
    simp only [gapStarts, oddBlocks, Finset.mem_filter, Finset.mem_range, Finset.mem_image]
    constructor
    · intro start
      exact ⟨number / 2, by omega, by omega⟩
    · rintro ⟨half, bound, rfl⟩
      omega
  have injective : Function.Injective fun half : Nat => 2 * half := by
    intro left right same
    exact Nat.eq_of_mul_eq_mul_left Nat.two_pos same
  rw [gapCount, starts, Finset.card_image_of_injective _ injective, Finset.card_range]

theorem one_block_received_answers : ∃ next answer,
    (unitReceiver {0}).receiver.handleSourceDone 5 = some (next, [.need 5 answer]) := by
  have reachable := unit_receiver_reachable idleCrate {0} (by simp)
  obtain ⟨plan, report, planned, _, _, answered⟩ := reachable_need_fits_iff reachable rfl
  obtain rfl : unitPlan = plan := Option.some.inj planned
  refine (answered 5 (by simp [ReceiverMode.cache, NeedCache.empty])).mpr (.inl ?_)
  show gapCount {0} 511 ≤ 255
  decide +kernel

/-- When every other block is lost, the 256 gaps do not fit a report: the encoder rejects it and the
receiver panics on `SourceDone` instead of answering. -/
theorem scattered_losses_panic :
    ∃ task mode report, (receiverSystem idleCrate).Reachable task ∧
      task.receiver.mode = some mode ∧ mode.snapshot task.receiver.shared = some report ∧
      (LosslessSessionControl.need 0 report).validate ≠ .ok () ∧
      task.receiver.handleSourceDone 0 = none := by
  have inside : ∀ blockId ∈ oddBlocks, blockId < 511 := by
    intro blockId member
    exact Finset.mem_range.mp (Finset.mem_of_mem_filter _ member)
  have reachable := unit_receiver_reachable idleCrate oddBlocks inside
  have scattered : (NeedReport.plain ((ReceiverShared.missingRanges oddBlocks 511 511 0).map
      ReceiverShared.toBlockRange)).validate ≠ .ok () := by
    rw [Ne, plain_ranges_valid_iff (fun _ member => Finset.mem_range.mpr (inside _ member))
      (by decide), odd_block_gaps]
    decide
  have snapshot : (unitReceiver oddBlocks).receiver.shared.plainNeed =
      some (.plain ((ReceiverShared.missingRanges oddBlocks 511 511 0).map
        ReceiverShared.toBlockRange)) := by
    have some_missing : oddBlocks.card ≠ 511 := by
      intro full
      have all := full_of_card (fun _ member => Finset.mem_range.mpr (inside _ member)) full
      have zero : 0 ∈ oddBlocks := all ▸ Finset.mem_range.mpr (by decide)
      exact absurd (Finset.mem_filter.mp zero).2 (by decide)
    simp only [ReceiverShared.plainNeed, unitReceiver, unitPlan, some_missing]
    rfl
  have unsent : sendControl 7 (.need 0 (.plain ((ReceiverShared.missingRanges oddBlocks 511 511
      0).map ReceiverShared.toBlockRange))) = none := by
    rw [← Option.not_isSome_iff_eq_none, send_control_isSome]
    exact scattered
  refine ⟨unitReceiver oddBlocks, .plain ⟨.empty⟩, _, reachable, rfl, snapshot, scattered, ?_⟩
  rw [handle_source_done_eq rfl]
  simp only [ReceiverMode.snapshot, snapshot, ReceiverMode.cache, answerSourceDone, NeedCache.empty,
    answerRound]
  rw [Option.map_eq_none_iff, Option.bind_eq_bind, Option.bind_eq_none_iff]
  intro out sending
  rw [show (unitReceiver oddBlocks).receiver.shared.sessionId = 7 from rfl, unsent] at sending
  cases sending

/-! ## Reports over a run -/

/-- A `SourceDone` is answered with one report for its own round, or not at all. -/
theorem task_step_source_done {crate : FountainCrate} {host : Host} {task next : ReceiverTask}
    {frame : InboundFrame} {sent : List LosslessSessionControl} {header : LosslessSessionHeader}
    {roundId : UInt32} (stepped : task.step crate host (.frame frame) = some (next, sent))
    (decoded : decodeControl frame.bytes = some (header, .sourceDone roundId)) :
    sent = [] ∨ ∃ report, sent = [.need roundId report] := by
  simp only [ReceiverTask.step] at stepped
  split_ifs at stepped with inLoop
  · obtain ⟨⟨receiver, out⟩, received, same⟩ := Option.bind_eq_some_iff.mp stepped
    cases same
    obtain ⟨middle, step, -⟩ := SessionReceiver.receive_frame_cases received
    cases step with
    | ignore => exact .inl rfl
    | readyAgain other installed =>
      rw [decoded] at other
      cases other
    | install other fresh planned chosen grown =>
      rw [decoded] at other
      cases other
    | answer other running answered =>
      rw [decoded] at other
      cases other
      cases answer_source_done_cases answered with
      | stale last lower => exact .inl rfl
      | silent remembered first => exact .inl rfl
      | repeated last remembered valid => exact .inr ⟨_, rfl⟩
      | taken later snapshot valid => exact .inr ⟨_, rfl⟩
    | block running installed other valid fresh => exact .inl rfl
    | symbol running step => exact .inl rfl
  · obtain ⟨⟨out, answered⟩, replied, same⟩ := Option.bind_eq_some_iff.mp stepped
    cases same
    rcases replay_cases replied with ⟨rfl, _⟩ | ⟨kept, other, _, _, asked, rfl⟩
    · exact .inl rfl
    · rw [decoded] at asked
      cases asked
      exact .inr ⟨_, rfl⟩

/-- All reports for one round are identical, the rounds answered never decrease, a complete report is
only followed by complete ones, and a `SourceDone` below an answered round gets no answer. This
covers the replay that answers after the receiver has left its loop. -/
theorem receiver_need_immutable {crate : FountainCrate} {start task : ReceiverTask}
    {labels : List ReceiverLabel} (initial : (receiverSystem crate).initial start)
    (run : (receiverSystem crate).Run start labels task) :
    (answers labels).Pairwise (fun earlier later => earlier.1 ≤ later.1 ∧
        (earlier.1 = later.1 → earlier.2 = later.2) ∧
        (earlier.2 = .complete → later.2 = .complete)) ∧
      ∀ label next frame header roundId, (receiverSystem crate).step task label next →
        label.event = .frame frame → decodeControl frame.bytes = some (header, .sourceDone roundId) →
        (∃ answer ∈ answers labels, roundId < answer.1) → label.sent = [] := by
  have answering := run_answering initial run
  refine ⟨answering.ordered.imp fun follows => ⟨follows.round, follows.equal, follows.complete⟩, ?_⟩
  rintro ⟨_, sent⟩ next frame header roundId ⟨host, step⟩ rfl decoded ⟨answer, member, lower⟩
  rcases task_step_source_done step decoded with none | ⟨report, rfl⟩
  · exact none
  · have extended := task_step_answering answering step
    have follows := (List.pairwise_append.mp extended.ordered).2.2 answer member
      (roundId, report) (List.mem_singleton_self _)
    exact absurd lower (UInt32.not_lt.mpr follows.round)

def controlFrame (control : LosslessSessionControl) : InboundFrame where
  bytes := (encodeControl 7 control).getD []
  peerId := none

def blockFrame (blockId : UInt64) (payload : List Byte) : InboundFrame where
  bytes := (encodeBlockData 7 blockId payload).getD []
  peerId := none

/-- Two blocks; the first one arrives between two `SourceDone` frames of round 0, the second one
before round 1. -/
def lateBlockEvents : List ReceiverEvent :=
  [.frame (controlFrame (.manifest ⟨1, 2, 2, .plain⟩)), .frame (controlFrame (.sourceDone 0)),
    .frame (blockFrame 0 [5]), .frame (controlFrame (.sourceDone 0)), .frame (blockFrame 1 [6]),
    .frame (controlFrame (.sourceDone 1)), .passiveTimeout, .frame (controlFrame (.sourceDone 1))]

theorem late_block_need_unchanged : ∃ labels,
    answers labels = [(0, .plain [⟨0, 2⟩]), (0, .plain [⟨0, 2⟩]), (1, .complete), (1, .complete)] ∧
      (answers labels).Pairwise (fun earlier later => earlier.1 ≤ later.1 ∧
        (earlier.1 = later.1 → earlier.2 = later.2) ∧
        (earlier.2 = .complete → later.2 = .complete)) := by
  obtain ⟨⟨finish, outputs⟩, executed⟩ := Option.isSome_iff_exists.mp
    (show (TransitionSystem.execute (ReceiverTask.step idleCrate roomyHost)
      (.new ⟨7, none, false⟩) lateBlockEvents).isSome by decide +kernel)
  have answered : (TransitionSystem.execute (ReceiverTask.step idleCrate roomyHost)
      (.new ⟨7, none, false⟩) lateBlockEvents).map (fun result =>
        answers (result.2.map fun output => ⟨output.1, output.2⟩)) =
      some [(0, .plain [⟨0, 2⟩]), (0, .plain [⟨0, 2⟩]), (1, .complete), (1, .complete)] := by
    decide +kernel
  rw [executed] at answered
  have contained (task : ReceiverTask) (event : ReceiverEvent) (next : ReceiverTask)
      (sent : List LosslessSessionControl)
      (stepped : task.step idleCrate roomyHost event = some (next, sent)) :
      (receiverSystem idleCrate).step task ⟨event, sent⟩ next := ⟨roomyHost, stepped⟩
  have run : (receiverSystem idleCrate).Run (.new ⟨7, none, false⟩) _ finish :=
    TransitionSystem.run_of_execute (fun event sent => ⟨event, sent⟩) contained executed
  exact ⟨_, Option.some.inj answered, (receiver_need_immutable ⟨_, rfl⟩ run).1⟩

end Nextmini.Session
