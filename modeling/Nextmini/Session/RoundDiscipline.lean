import Nextmini.Session.FecRounds
import Nextmini.Session.PlainRounds

/-!
# Round discipline of a sender

Both senders open their rounds one at a time and in order, ask again only for the round that is
open, open the next one only when the last one is settled, and end completed only after an empty
quorum or a round that all of the quorum answered with `Complete`. The round ids count up from zero
and stay at the largest 32-bit number.
-/

namespace Nextmini.Session

open Nextmini.Library
open Nextmini.Messages

set_option autoImplicit false

/-- What one step of a run may do to the rounds, given the log of the run before it. -/
structure KeepsRounds {Mode : Type} [RoundView Mode] (log : RoundLog) (task : SenderTask Mode)
    (label : SenderLabel) (next : SenderTask Mode) : Prop where
  opens : ∀ roundId, RoundLog.opening label = some roundId →
    label.frames = [.control (.sourceDone roundId)] ∧
      roundId.toNat = roundNumber log.opened.length ∧
      RoundView.roundOpen task.mode = false ∧ task.shared.activeQuorum.frozen ∧
      ∀ last ∈ log.opened.getLast?, log.Settled (sourceSymbolCount task.shared.manifest)
        task.shared.activeQuorum.active last
  asksAgain : ∀ roundId, .control (.sourceDone roundId) ∈ label.frames →
    RoundLog.opening label = none →
      RoundView.roundOpen task.mode ∧ log.opened.getLast? = some roundId
  current : RoundView.roundOpen next.mode →
    (log.observe label).opened.getLast? = some (SenderLoop.openRoundId next.mode)
  completes : next.stage = .finished .completed →
    EndsWell (log.observe label) next.shared.activeQuorum.active

/-- Every step of every run keeps to the rounds. -/
def RoundDiscipline {Mode : Type} [RoundView Mode]
    (system : TransitionSystem (SenderTask Mode) SenderLabel) : Prop :=
  ∀ start labels task label next, system.initial start → system.Run start labels task →
    system.step task label next → KeepsRounds (RoundLog.ofRun labels) task label next

theorem opening_some {label : SenderLabel} {roundId : UInt32}
    (opens : RoundLog.opening label = some roundId) :
    (∃ now submit, label.event = .turn now submit) ∧
      .control (.sourceDone roundId) ∈ label.frames := by
  unfold RoundLog.opening at opens
  split at opens
  next now submit turn =>
    refine ⟨⟨now, submit, turn⟩, ?_⟩
    obtain ⟨frame, member, named⟩ := List.exists_of_findSome?_eq_some opens
    unfold RoundLog.sourceDoneOf at named
    split at named
    · cases named
      exact member
    · cases named
  next => cases opens

theorem opening_of_turn {now : Nat} {submit : Nat → SendOutcome} {frames : List SessionFrame}
    {roundId : UInt32} (sent : .control (.sourceDone roundId) ∈ frames) :
    RoundLog.opening ⟨.turn now submit, frames⟩ ≠ none := by
  intro quiet
  have none := List.findSome?_eq_none_iff.mp quiet _ sent
  cases none

section Steps

variable {Mode : Type} [RoundView Mode] {crate : FountainCrate}
  {tracked : RoundLog → SenderShared → Mode → Prop} {log : RoundLog} {task next : SenderTask Mode}

/-- A `SourceDone` leaves the sender when a turn opens a round, or when the open round is asked for
again. -/
theorem source_done_cases (modes : ModeTracking crate Mode tracked)
    (before : TaskTracked tracked log task) {event : SenderEvent} {frames : List SessionFrame}
    (step : TaskStep crate task event frames next) {roundId : UInt32}
    (sent : .control (.sourceDone roundId) ∈ frames) :
    roundId = SenderLoop.openRoundId task.mode ∧ frames = [.control (.sourceDone roundId)] ∧
      ((RoundLog.opening ⟨event, frames⟩ ≠ none ∧ RoundView.roundOpen task.mode = false ∧
          task.shared.activeQuorum.frozen) ∨
        (RoundLog.opening ⟨event, frames⟩ = none ∧ RoundView.roundOpen task.mode)) := by
  have noManifest (manifest : LosslessSessionManifest)
      (only : ∀ frame ∈ frames, frame = .control (.manifest manifest)) : False := by
    have same := only _ sent
    cases same
  cases step with
  | control stepped => cases sent
  | negotiate only stage => exact (noManifest _ only).elim
  | start only stage => exact (noManifest _ only).elim
  | turn stage result =>
    have frozen := before.frozen (by rw [stage]; rfl)
    obtain ⟨_, effect⟩ := modes.turn before.mode frozen result
    obtain ⟨single, closed, same⟩ := effect.opens roundId sent
    exact ⟨same, single, .inl ⟨opening_of_turn sent, closed, frozen⟩⟩
  | solicit stage late =>
    have same : roundId = SenderLoop.openRoundId task.mode := by simpa using sent
    exact ⟨same, by rw [same], .inr ⟨rfl, before.waitingOpen stage⟩⟩
  | resumeFeedback stage => cases sent
  | resumeSignal stage => cases sent
  | abort noTurn => cases sent

theorem step_keeps_rounds (modes : ModeTracking crate Mode tracked)
    (before : TaskTracked tracked log task) {label : SenderLabel}
    (step : TaskStep crate task label.event label.frames next) :
    KeepsRounds log task label next := by
  have rounds := modes.rounds before.mode
  have after := task_step_tracked modes before step
  refine ⟨?_, ?_, ?_, ?_⟩
  · intro roundId opens
    obtain ⟨_, sent⟩ := opening_some opens
    obtain ⟨same, single, ⟨_, closed, frozen⟩ | ⟨quiet, _⟩⟩ :=
      source_done_cases modes before step sent
    · obtain ⟨number, _, settled⟩ := rounds.closedRound closed
      exact ⟨single, same ▸ number, closed, frozen, settled⟩
    · rw [show RoundLog.opening label = none from quiet] at opens
      cases opens
  · intro roundId sent quiet
    obtain ⟨same, _, ⟨opens, _⟩ | ⟨_, opened⟩⟩ := source_done_cases modes before step sent
    · exact absurd quiet opens
    · exact ⟨opened, same ▸ (rounds.openRound opened).1⟩
  · intro opened
    exact ((modes.rounds after.mode).openRound opened).1
  · intro finished
    exact modes.ends after.mode (after.finished finished)

theorem tracked_discipline (modes : ModeTracking crate Mode tracked)
    {initial : SenderTask Mode → Prop}
    (initially : ∀ task, initial task → TaskTracked tracked ⟨[], []⟩ task) :
    RoundDiscipline (senderSystem crate initial) := by
  intro start labels task label next isInitial run step
  exact step_keeps_rounds modes (run_tracked modes (initially start isInitial) run)
    (task_step_cases step)

end Steps

theorem sender_round_discipline (crate : FountainCrate) :
    RoundDiscipline (senderSystem crate plainSenders) ∧
      RoundDiscipline (senderSystem crate fecSenders) :=
  ⟨tracked_discipline (plain_tracking crate) fun _ => plain_sender_tracked,
    tracked_discipline (fec_tracking crate) fun _ => fec_sender_tracked⟩

/-! ## Where the round ids stop -/

def soleBlockManifest : LosslessSessionManifest := ⟨1, 1, 1, .plain⟩

def soleBlockPlan : BlockPlan where
  totalBytes := 1
  blockSize := 1
  totalBlocks := 1
  blockSizePositive := Nat.one_pos
  blockCount := by decide
  bytesFit := by decide

def soleBlockReport : NeedReport := .plain [⟨0, 1⟩]

def betweenRounds (roundId : UInt32) : SenderTask PlainSender where
  shared :=
    { sessionId := 0
      manifest := soleBlockManifest
      activeQuorum := ⟨{7}, {7}, true⟩
      quorumLiveness := .new quorumSolicitationInterval 0
      plan := soleBlockPlan
      source := ⟨[0]⟩
      readyGrace := 1
      payloadEmitted := true }
  mode :=
    { PlainSender.default with
      sourceBlocks := [0]
      sourceCursor := 1
      feedbackOpenRoundId := roundId
      currentBurstId := roundId
      initialized := true }
  stage := .transferring

def withinRound (roundId : UInt32) : SenderTask PlainSender :=
  { betweenRounds roundId with
    shared := (betweenRounds roundId).shared.startQuorumFeedbackWait 0
    mode := { (betweenRounds roundId).mode with feedbackRoundOpen := true } }

def withReport (roundId : UInt32) : SenderTask PlainSender :=
  { withinRound roundId with
    mode := { (withinRound roundId).mode with
      roundReports := (∅ : ReportMap).insert 7 soleBlockReport
      requiredBlocks := {0}
      queuedRetransmitBlocks := {0}
      currentBurstId := nextRoundId roundId
      nextBurstNonempty := true } }

def withRetransmit (roundId : UInt32) : SenderTask PlainSender :=
  { withReport roundId with
    mode := { (withReport roundId).mode with
      queuedRetransmitBlocks := ∅
      emittedBlocks := {0} } }

def closedIngress : Nat → SendOutcome := fun _ => .closed

theorem opens_round (roundId : UInt32) :
    (betweenRounds roundId).step idleCrate (.turn 0 closedIngress) =
      some (withinRound roundId, [.control (.sourceDone roundId)]) := by
  rfl

theorem hears_report (roundId : UInt32) : ∃ bytes,
    (withinRound roundId).step idleCrate (.control ⟨bytes, some 7⟩) =
      some (withReport roundId, []) := by
  obtain ⟨bytes, encoded⟩ : ∃ bytes,
      encodeControl 0 (.need roundId soleBlockReport) = some bytes := ⟨_, rfl⟩
  refine ⟨bytes, ?_⟩
  have valid : soleBlockManifest.validateControl (.need roundId soleBlockReport) = .ok () := rfl
  have heard : (withinRound roundId).mode.onNeed 7 roundId soleBlockReport =
      (withReport roundId).mode := by
    simp [PlainSender.onNeed, withinRound, withReport, betweenRounds, PlainSender.default,
      soleBlockReport, PlainSender.missingBlocks, PlainSender.requireBlocks]
  have member : 7 ∈ (withinRound roundId).shared.activeQuorum.active := Finset.mem_singleton_self 7
  have handled : handleControl (withinRound roundId).shared (withinRound roundId).mode
      ⟨bytes, some 7⟩ = ((withinRound roundId).shared, (withReport roundId).mode) := by
    simp only [handleControl, decode_control_encode encoded, LosslessSessionControl.canonical,
      soleBlockReport, NeedReport.canonical]
    rw [if_neg (not_not_intro member)]
    simp only [soleBlockReport] at valid heard
    rw [show (withinRound roundId).shared.manifest = soleBlockManifest from rfl]
    simp only [List.cons_ne_nil, if_false]
    rw [valid, ← heard]
    rfl
  simp only [SenderTask.step, SenderTask.onControl, handled]
  rfl

theorem sends_again (roundId : UInt32) :
    (withReport roundId).step idleCrate (.turn 0 closedIngress) =
      some (withRetransmit roundId, [.blockData 0 [0]]) := by
  have queued : (withReport roundId).mode.nextRetransmitBlock =
      some (0, { (withReport roundId).mode with queuedRetransmitBlocks := ∅ }) := by
    simp [PlainSender.nextRetransmitBlock, withReport]
  have sent : PlainSender.sendBlock (withReport roundId).shared 0 =
      some ((withReport roundId).shared, [.blockData 0 [0]]) := by
    show PlainSender.sendBlock (withReport 0).shared 0 =
      some ((withReport 0).shared, [.blockData 0 [0]])
    decide +kernel
  have source : (withReport roundId).mode.nextSourceBlock = none := rfl
  have sound : (withReport roundId).mode.protocolError = false := rfl
  have running : (withReport roundId).mode.complete = false := rfl
  have turned : (withReport roundId).mode.turn (withReport roundId).shared 0 =
      some ((withReport roundId).shared, (withRetransmit roundId).mode, [.blockData 0 [0]],
        .again) := by
    simp only [PlainSender.turn, sound, running, source, queued, sent]
    rfl
  have stage : (withReport roundId).stage = .transferring := rfl
  simp only [SenderTask.step, SenderTask.onTurn, stage, SenderLoop.turn, turned]
  rfl

theorem closes_round (roundId : UInt32) :
    (withRetransmit roundId).step idleCrate (.turn 0 closedIngress) =
      some (betweenRounds (nextRoundId roundId), []) := by
  rfl

/-- One whole round of the sole receiver, from one gap between rounds to the next. -/
theorem repeats_round (roundId : UInt32) : ∃ labels,
    (senderSystem idleCrate plainSenders).Run (betweenRounds roundId) labels
        (betweenRounds (nextRoundId roundId)) ∧
      ∀ log, (labels.foldl RoundLog.observe log).opened = log.opened ++ [roundId] := by
  obtain ⟨bytes, heard⟩ := hears_report roundId
  refine ⟨[⟨.turn 0 closedIngress, [.control (.sourceDone roundId)]⟩,
    ⟨.control ⟨bytes, some 7⟩, []⟩, ⟨.turn 0 closedIngress, [.blockData 0 [0]]⟩,
    ⟨.turn 0 closedIngress, []⟩], ?_, fun log => rfl⟩
  exact .cons (opens_round roundId) (.cons heard (.cons (sends_again roundId)
    (.single (closes_round roundId))))

def soleBlockRequest : SenderRequest where
  sessionId := 0
  blockSize := 1
  receiverIds := [7]
  totalBytes := 1
  sourceBuffer := [0]
  readyGraceMs := 1
  peerReportTimeoutMs := 0

def soleBlockSender : SenderTask PlainSender where
  shared :=
    { (betweenRounds 0).shared with
      activeQuorum := .new [7]
      payloadEmitted := false }
  mode := .default
  stage := .starting

def joiningEvents : List SenderEvent :=
  [.turn 0 closedIngress, .turn 0 closedIngress,
    .control ⟨(encodeControl 0 .ready).getD [], some 7⟩, .turn 0 closedIngress,
    .turn 0 closedIngress]

theorem sole_block_begins : ∃ start labels, plainSenders start ∧
    (senderSystem idleCrate plainSenders).Run start labels (betweenRounds 0) ∧
    (RoundLog.ofRun labels).opened = [] := by
  have initial : plainSenders soleBlockSender :=
    ⟨⟨false, 1, []⟩, false, soleBlockRequest, ⟨0, [7], [0], soleBlockManifest, 1, 0⟩, rfl, rfl⟩
  obtain ⟨⟨finish, outputs⟩, executed⟩ := Option.isSome_iff_exists.mp
    (show (TransitionSystem.execute (SenderTask.step idleCrate) soleBlockSender
      joiningEvents).isSome by decide +kernel)
  have result : (TransitionSystem.execute (SenderTask.step idleCrate) soleBlockSender
      joiningEvents).map (fun result => (result.1.shared, result.1.mode, result.1.stage,
        (RoundLog.ofRun (result.2.map fun output => ⟨output.1, output.2⟩)).opened)) =
      some ((betweenRounds 0).shared, (betweenRounds 0).mode, (betweenRounds 0).stage, []) := by
    decide +kernel
  have run : (senderSystem idleCrate plainSenders).Run soleBlockSender _ finish :=
    TransitionSystem.run_of_execute (fun event frames => (⟨event, frames⟩ : SenderLabel))
      (fun _ _ _ _ stepped => stepped) executed
  rw [executed] at result
  simp only [Option.map_some, Option.some.injEq, Prod.mk.injEq] at result
  obtain ⟨shared, mode, stage, opened⟩ := result
  obtain ⟨_, _, _⟩ := finish
  cases shared
  cases mode
  cases stage
  exact ⟨soleBlockSender, _, initial, run, opened⟩

theorem rounds_repeat (count : Nat) : ∃ start labels, plainSenders start ∧
    (senderSystem idleCrate plainSenders).Run start labels
        (betweenRounds (UInt32.ofNat (roundNumber count))) ∧
      (RoundLog.ofRun labels).opened.length = count := by
  induction count with
  | zero =>
    obtain ⟨start, labels, initial, run, none⟩ := sole_block_begins
    exact ⟨start, labels, initial, run, by rw [none]; rfl⟩
  | succ count induction =>
    obtain ⟨start, before, initial, run, length⟩ := induction
    obtain ⟨labels, more, opened⟩ := repeats_round (UInt32.ofNat (roundNumber count))
    refine ⟨start, before ++ labels, initial, ?_, ?_⟩
    · have next : nextRoundId (UInt32.ofNat (roundNumber count)) =
          UInt32.ofNat (roundNumber (count + 1)) := by
        have small (count : Nat) : roundNumber count < 2 ^ 32 := by
          rw [roundNumber]
          omega
        apply UInt32.toNat_inj.mp
        rw [next_round_number (UInt32.toNat_ofNat_of_lt' (small count)),
          UInt32.toNat_ofNat_of_lt' (small (count + 1))]
      rw [← next]
      exact run.append more
    · rw [RoundLog.ofRun, List.foldl_append, opened, List.length_append]
      exact congrArg (· + 1) length

/-- After 2^32 rounds the next one carries the number of the last one again. -/
theorem round_ids_stop : ∃ start labels task label next roundId, plainSenders start ∧
    (senderSystem idleCrate plainSenders).Run start labels task ∧
    (senderSystem idleCrate plainSenders).step task label next ∧
    RoundLog.opening label = some roundId ∧
    roundId.toNat ≠ (RoundLog.ofRun labels).opened.length := by
  obtain ⟨start, labels, initial, run, length⟩ := rounds_repeat (2 ^ 32)
  refine ⟨start, labels, _, ⟨.turn 0 closedIngress, _⟩, _, _, initial, run, opens_round _, rfl, ?_⟩
  rw [length]
  exact Nat.ne_of_lt (UInt32.toNat_lt _)

end Nextmini.Session
