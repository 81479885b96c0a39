import Nextmini.Session.SenderSteps

/-!
# Rounds as seen from outside

What an observer of a sender's run sees of its rounds: the `SourceDone` frames that opened rounds,
and everything that happened since the last of them. A round is settled when every quorum peer was
heard for it, not all of them complete, and all the work their reports ask for was sent. A
`SourceDone` in a turn of the main loop opens a round; one after an expired timer asks again.
-/

namespace Nextmini.Session

open Nextmini.Library
open Nextmini.Messages

set_option autoImplicit false

structure RoundLog where
  opened : List UInt32
  since : List SenderLabel

namespace RoundLog

def sourceDoneOf : SessionFrame → Option UInt32
  | .control (.sourceDone roundId) => some roundId
  | _ => none

def opening (label : SenderLabel) : Option UInt32 :=
  match label.event with
  | .turn _ _ => label.frames.findSome? sourceDoneOf
  | _ => none

def observe (log : RoundLog) (label : SenderLabel) : RoundLog :=
  match opening label with
  | some roundId => ⟨log.opened ++ [roundId], []⟩
  | none => { log with since := log.since ++ [label] }

def ofRun (labels : List SenderLabel) : RoundLog := labels.foldl observe ⟨[], []⟩

def frames (log : RoundLog) : List SessionFrame := log.since.flatMap SenderLabel.frames

/-- A peer's report for a round came in since the round was opened. -/
def Heard (log : RoundLog) (roundId : UInt32) (peerId : Nat) (report : NeedReport) : Prop :=
  ∃ label ∈ log.since, ∃ frame header, label.event = .control frame ∧
    frame.peerId = some peerId ∧
    decodeControl frame.bytes = some (header, .need roundId report)

def isExtraSymbol (sourceSymbols blockId : Nat) : SessionFrame → Bool
  | .blockSymbol sentBlockId symbolId _ _ => sentBlockId = blockId ∧ sourceSymbols ≤ symbolId
  | _ => false

/-- Every block, or every extra symbol, that a report asks for was sent since the round was
opened. -/
def Covers (log : RoundLog) (sourceSymbols : Nat) : NeedReport → Prop
  | .complete => True
  | .plain ranges => ∀ blockId ∈ PlainSender.missingBlocks ranges,
      ∃ payload, .blockData blockId payload ∈ log.frames
  | .fec needs => ∀ need ∈ needs,
      need.deficitSymbols.toNat ≤
        log.frames.countP (isExtraSymbol sourceSymbols need.blockId.toNat)

/-- All quorum peers were heard for the round, not all complete, and what they miss was sent. -/
def Settled (log : RoundLog) (sourceSymbols : Nat) (quorum : Finset Nat) (roundId : UInt32) : Prop :=
  ∃ reports : Nat → NeedReport,
    (∀ peerId ∈ quorum, log.Heard roundId peerId (reports peerId) ∧
      log.Covers sourceSymbols (reports peerId)) ∧
    ∃ peerId ∈ quorum, reports peerId ≠ .complete

/-- All quorum peers were heard to be complete for the round. -/
def AllComplete (log : RoundLog) (quorum : Finset Nat) (roundId : UInt32) : Prop :=
  ∀ peerId ∈ quorum, log.Heard roundId peerId .complete

def extend (log : RoundLog) (label : SenderLabel) : RoundLog :=
  { log with since := log.since ++ [label] }

theorem observe_opening {log : RoundLog} {label : SenderLabel} {roundId : UInt32}
    (opens : opening label = some roundId) :
    log.observe label = ⟨log.opened ++ [roundId], []⟩ := by
  rw [observe, opens]

theorem observe_quiet {log : RoundLog} {label : SenderLabel} (quiet : opening label = none) :
    log.observe label = log.extend label := by
  rw [observe, quiet]
  rfl

theorem of_run_snoc (labels : List SenderLabel) (label : SenderLabel) :
    ofRun (labels ++ [label]) = (ofRun labels).observe label := by
  rw [ofRun, List.foldl_append]
  rfl

variable {log : RoundLog} {sourceSymbols : Nat} {roundId : UInt32} {peerId : Nat}
  {report : NeedReport}

theorem frames_extend (log : RoundLog) (label : SenderLabel) :
    (log.extend label).frames = log.frames ++ label.frames := by
  simp [frames, extend]

theorem Heard.extend (heard : log.Heard roundId peerId report) (label : SenderLabel) :
    (log.extend label).Heard roundId peerId report := by
  obtain ⟨earlier, member, frame, header, event, sender, decoded⟩ := heard
  exact ⟨earlier, List.mem_append_left _ member, frame, header, event, sender, decoded⟩

theorem heard_now {frame : InboundFrame} {header : LosslessSessionHeader}
    (decoded : decodeControl frame.bytes = some (header, .need roundId report))
    (sender : frame.peerId = some peerId) (frames : List SessionFrame) :
    (log.extend ⟨.control frame, frames⟩).Heard roundId peerId report :=
  ⟨⟨.control frame, frames⟩, List.mem_append_right _ (List.mem_singleton_self _), frame, header, rfl,
    sender, decoded⟩

/-- What is heard after a step was heard before it, or came in with it. -/
theorem heard_observe {label : SenderLabel}
    (heard : (log.observe label).Heard roundId peerId report) :
    log.Heard roundId peerId report ∨
      ∃ frame header, label.event = .control frame ∧ frame.peerId = some peerId ∧
        decodeControl frame.bytes = some (header, .need roundId report) := by
  cases opens : opening label with
  | some opened =>
    rw [observe_opening opens] at heard
    obtain ⟨_, member, _⟩ := heard
    cases member
  | none =>
    rw [observe_quiet opens] at heard
    obtain ⟨seen, member, frame, header, event, sender, decoded⟩ := heard
    rcases List.mem_append.mp member with earlier | now
    · exact .inl ⟨seen, earlier, frame, header, event, sender, decoded⟩
    · rw [List.mem_singleton.mp now] at event
      exact .inr ⟨frame, header, event, sender, decoded⟩

theorem Covers.extend (covered : log.Covers sourceSymbols report) (label : SenderLabel) :
    (log.extend label).Covers sourceSymbols report := by
  cases report with
  | complete => exact trivial
  | plain ranges =>
    intro blockId missing
    obtain ⟨payload, sent⟩ := covered blockId missing
    rw [frames_extend]
    exact ⟨payload, List.mem_append_left _ sent⟩
  | fec needs =>
    intro need member
    rw [frames_extend, List.countP_append]
    exact le_trans (covered need member) (Nat.le_add_right _ _)

theorem Settled.extend {quorum : Finset Nat} (settled : log.Settled sourceSymbols quorum roundId)
    (label : SenderLabel) : (log.extend label).Settled sourceSymbols quorum roundId := by
  obtain ⟨reports, all, some⟩ := settled
  exact ⟨reports, fun peerId member => ⟨(all peerId member).1.extend label,
    (all peerId member).2.extend label⟩, some⟩

end RoundLog

/-- The id of the round that is opened after a number of others: the round counter stays at the
largest 32-bit number once it is there. -/
def roundNumber (count : Nat) : Nat := min count (2 ^ 32 - 1)

theorem next_round_number {roundId : UInt32} {count : Nat} (now : roundId.toNat = roundNumber count) :
    (nextRoundId roundId).toNat = roundNumber (count + 1) := by
  simp only [nextRoundId, roundNumber] at now ⊢
  split_ifs with room
  · rw [UInt32.toNat_add, UInt32.toNat_one, Nat.mod_eq_of_lt room]
    omega
  · omega

def sourceSymbolCount (manifest : LosslessSessionManifest) : Nat :=
  match manifest.mode with
  | .plain => 0
  | .fec fec => fec.symbolsPerBlock.toNat

/-- The parts of a sender's shared state that no step changes. -/
structure SameSession (before after : SenderShared) : Prop where
  sessionId : after.sessionId = before.sessionId
  manifest : after.manifest = before.manifest
  plan : after.plan = before.plan
  source : after.source = before.source

theorem SameSession.refl (shared : SenderShared) : SameSession shared shared :=
  ⟨rfl, rfl, rfl, rfl⟩

theorem freeze_frozen (shared : SenderShared) :
    shared.freezeActiveQuorum.activeQuorum.frozen := by
  unfold SenderShared.freezeActiveQuorum
  split_ifs with frozen
  · exact frozen
  · rfl

@[simp] theorem freeze_active (shared : SenderShared) :
    shared.freezeActiveQuorum.activeQuorum.active = shared.activeQuorum.active := by
  unfold SenderShared.freezeActiveQuorum
  split_ifs <;> rfl

theorem freeze_session (shared : SenderShared) : SameSession shared shared.freezeActiveQuorum := by
  unfold SenderShared.freezeActiveQuorum
  split_ifs
  · exact .refl _
  · exact ⟨rfl, rfl, rfl, rfl⟩

/-- The manifest a sender offers is valid, and its plan is the manifest's plan. -/
structure Geometry (shared : SenderShared) : Prop where
  valid : shared.manifest.validate = .ok ()
  planned : BlockPlan.new shared.manifest.totalBytes shared.manifest.blockSize.toNat =
    .ok shared.plan

theorem Geometry.same {before after : SenderShared} (geometry : Geometry before)
    (same : SameSession before after) : Geometry after :=
  ⟨same.manifest ▸ geometry.valid, same.manifest ▸ same.plan ▸ geometry.planned⟩

/-- What both modes show of their rounds. -/
class RoundView (Mode : Type) extends SenderLoop Mode where
  roundOpen : Mode → Bool
  reports : Mode → ReportMap
  protocolError : Mode → Bool
  /-- The same mode after a protocol error. -/
  fail : Mode → Mode

instance : RoundView PlainSender where
  roundOpen mode := mode.feedbackRoundOpen
  reports mode := mode.roundReports
  protocolError mode := mode.protocolError
  fail mode := { mode with protocolError := true }

instance : RoundView FecSender where
  roundOpen mode := mode.phase = .waitingForReports
  reports mode := mode.roundReports
  protocolError mode := mode.protocolError
  fail mode := { mode with protocolError := true }

/-- How the rounds of a mode stand to what was seen of them. -/
structure RoundsTracked {Mode : Type} [RoundView Mode] (log : RoundLog) (shared : SenderShared)
    (mode : Mode) : Prop where
  unfrozen : shared.activeQuorum.frozen = false → log.opened = []
  members : ∀ peerId ∈ RoundView.reports mode, peerId ∈ shared.activeQuorum.active
  openRound : RoundView.roundOpen mode →
    log.opened.getLast? = some (SenderLoop.openRoundId mode) ∧
      (SenderLoop.openRoundId mode).toNat = roundNumber (log.opened.length - 1)
  closedRound : RoundView.roundOpen mode = false →
    (SenderLoop.openRoundId mode).toNat = roundNumber log.opened.length ∧
      RoundView.reports mode = ∅ ∧
      ∀ last ∈ log.opened.getLast?,
        log.Settled (sourceSymbolCount shared.manifest) shared.activeQuorum.active last
  heard : ∀ (peerId : Nat) (report : NeedReport),
    (RoundView.reports mode)[peerId]? = some report →
      log.Heard (SenderLoop.openRoundId mode) peerId report

/-- The run has ended well: after a `SourceDone` with an empty quorum, or with all of the quorum
complete for one round. -/
def EndsWell (log : RoundLog) (quorum : Finset Nat) : Prop :=
  ∃ roundId, log.opened.getLast? = some roundId ∧
    (quorum = ∅ ∨ log.AllComplete quorum roundId)

theorem EndsWell.extend {log : RoundLog} {quorum : Finset Nat} (ends : EndsWell log quorum)
    (label : SenderLabel) : EndsWell (log.extend label) quorum := by
  obtain ⟨roundId, last, empty | complete⟩ := ends
  · exact ⟨roundId, last, .inl empty⟩
  · exact ⟨roundId, last, .inr fun peerId member => (complete peerId member).extend label⟩

section Tracked

variable {Mode : Type} [RoundView Mode] {log : RoundLog} {shared : SenderShared} {mode : Mode}

theorem RoundsTracked.extend (tracked : RoundsTracked log shared mode) (label : SenderLabel) :
    RoundsTracked (log.extend label) shared mode where
  unfrozen := tracked.unfrozen
  members := tracked.members
  openRound := tracked.openRound
  closedRound closed := by
    obtain ⟨number, empty, settled⟩ := tracked.closedRound closed
    exact ⟨number, empty, fun last member => (settled last member).extend label⟩
  heard peerId report present := (tracked.heard peerId report present).extend label

/-- The rest of a mode's state does not matter to its rounds. -/
theorem RoundsTracked.view (tracked : RoundsTracked log shared mode) {next : Mode}
    (sameOpen : RoundView.roundOpen next = RoundView.roundOpen mode)
    (sameRound : SenderLoop.openRoundId next = SenderLoop.openRoundId mode)
    (sameReports : RoundView.reports next = RoundView.reports mode) :
    RoundsTracked log shared next := by
  refine ⟨tracked.unfrozen, ?_, ?_, ?_, ?_⟩
  · rw [sameReports]
    exact tracked.members
  · rw [sameOpen, sameRound]
    exact tracked.openRound
  · rw [sameOpen, sameRound, sameReports]
    exact tracked.closedRound
  · rw [sameRound, sameReports]
    exact tracked.heard

theorem RoundsTracked.frozen_of_open (tracked : RoundsTracked log shared mode)
    (opened : RoundView.roundOpen mode) : shared.activeQuorum.frozen := by
  cases frozen : shared.activeQuorum.frozen with
  | true => rfl
  | false =>
    have last := (tracked.openRound opened).1
    rw [tracked.unfrozen frozen] at last
    cases last

theorem RoundsTracked.ready (tracked : RoundsTracked log shared mode)
    (unfrozen : shared.activeQuorum.frozen = false) (peerId : Nat) :
    RoundsTracked log { shared with activeQuorum := shared.activeQuorum.recordReady peerId }
      mode := by
  have none := tracked.unfrozen unfrozen
  refine ⟨fun _ => none, ?_, tracked.openRound, ?_, tracked.heard⟩
  · intro member present
    have known := tracked.members member present
    simp only [ActiveSessionQuorum.recordReady]
    split_ifs
    · exact known
    · exact Finset.mem_insert_of_mem known
  · intro closed
    obtain ⟨number, empty, _⟩ := tracked.closedRound closed
    refine ⟨number, empty, ?_⟩
    rw [none]
    simp

theorem RoundsTracked.freeze (tracked : RoundsTracked log shared mode) :
    RoundsTracked log shared.freezeActiveQuorum mode := by
  unfold SenderShared.freezeActiveQuorum
  split_ifs with frozen
  · exact tracked
  · have none := tracked.unfrozen (Bool.eq_false_iff.mpr frozen)
    exact ⟨fun _ => none, tracked.members, tracked.openRound, tracked.closedRound, tracked.heard⟩

theorem RoundsTracked.same (tracked : RoundsTracked log shared mode) {after : SenderShared}
    (quorum : after.activeQuorum = shared.activeQuorum) (session : SameSession shared after) :
    RoundsTracked log after mode where
  unfrozen := quorum ▸ tracked.unfrozen
  members := quorum ▸ tracked.members
  openRound := tracked.openRound
  closedRound := by
    rw [quorum, session.manifest]
    exact tracked.closedRound
  heard := tracked.heard

/-- With as many reports as members, every quorum peer was heard for the open round. -/
theorem RoundsTracked.all_heard (tracked : RoundsTracked log shared mode)
    (count : (RoundView.reports mode).size = shared.activeQuorum.active.card) :
    ∀ peerId ∈ shared.activeQuorum.active, ∃ report : NeedReport,
      (RoundView.reports mode)[peerId]? = some report ∧
        log.Heard (SenderLoop.openRoundId mode) peerId report := by
  intro peerId member
  obtain ⟨report, present⟩ := all_reported tracked.members count peerId member
  exact ⟨report, present, tracked.heard peerId report present⟩

theorem RoundsTracked.settled (tracked : RoundsTracked log shared mode)
    (count : (RoundView.reports mode).size = shared.activeQuorum.active.card)
    (covered : ∀ report ∈ recorded (RoundView.reports mode),
      log.Covers (sourceSymbolCount shared.manifest) report)
    (incomplete : ∃ report ∈ recorded (RoundView.reports mode), report ≠ .complete) :
    log.Settled (sourceSymbolCount shared.manifest) shared.activeQuorum.active
      (SenderLoop.openRoundId mode) := by
  refine ⟨fun peerId => ((RoundView.reports mode)[peerId]?).getD .complete, ?_, ?_⟩
  · intro peerId member
    obtain ⟨report, present, heard⟩ := tracked.all_heard count peerId member
    simp only [present, Option.getD_some]
    exact ⟨heard, covered report ((mem_recorded _ _).mpr ⟨peerId, present⟩)⟩
  · obtain ⟨report, member, other⟩ := incomplete
    obtain ⟨peerId, present⟩ := (mem_recorded _ _).mp member
    refine ⟨peerId, tracked.members peerId ?_, ?_⟩
    · rw [Std.ExtTreeMap.mem_iff_isSome_getElem?, present]
      rfl
    · simp only [present, Option.getD_some]
      exact other

theorem RoundsTracked.ends_complete (tracked : RoundsTracked log shared mode)
    (opened : RoundView.roundOpen mode)
    (count : (RoundView.reports mode).size = shared.activeQuorum.active.card)
    (complete : ∀ report ∈ recorded (RoundView.reports mode), report = .complete) :
    EndsWell log shared.activeQuorum.active := by
  refine ⟨_, (tracked.openRound opened).1, .inr ?_⟩
  intro peerId member
  obtain ⟨report, present, heard⟩ := tracked.all_heard count peerId member
  have done := complete report ((mem_recorded _ _).mpr ⟨peerId, present⟩)
  exact done ▸ heard

theorem RoundsTracked.record (tracked : RoundsTracked log shared mode) {next : Mode}
    {label : SenderLabel} {peerId : Nat} {report : NeedReport}
    (opened : RoundView.roundOpen mode) (member : peerId ∈ shared.activeQuorum.active)
    (heard : (log.extend label).Heard (SenderLoop.openRoundId mode) peerId report)
    (sameOpen : RoundView.roundOpen next = RoundView.roundOpen mode)
    (sameRound : SenderLoop.openRoundId next = SenderLoop.openRoundId mode)
    (inserted : RoundView.reports next = (RoundView.reports mode).insert peerId report) :
    RoundsTracked (log.extend label) shared next := by
  have extended := tracked.extend label
  refine ⟨tracked.unfrozen, ?_, ?_, ?_, ?_⟩
  · intro other present
    rw [inserted, Std.ExtTreeMap.mem_insert] at present
    rcases present with same | present
    · rw [← Nat.compare_eq_eq.mp same]
      exact member
    · exact tracked.members other present
  · rw [sameOpen, sameRound]
    exact extended.openRound
  · intro closed
    rw [sameOpen, opened] at closed
    cases closed
  · intro other given present
    rw [inserted, Std.ExtTreeMap.getElem?_insert] at present
    rw [sameRound]
    split_ifs at present with same
    · rw [← Nat.compare_eq_eq.mp same, ← Option.some.inj present]
      exact heard
    · exact extended.heard other given present

theorem RoundsTracked.open_round (tracked : RoundsTracked log shared mode) {next : Mode}
    {label : SenderLabel} (closed : RoundView.roundOpen mode = false)
    (frozen : shared.activeQuorum.frozen)
    (opens : RoundLog.opening label = some (SenderLoop.openRoundId mode))
    (nowOpen : RoundView.roundOpen next)
    (sameRound : SenderLoop.openRoundId next = SenderLoop.openRoundId mode)
    (sameReports : RoundView.reports next = RoundView.reports mode) :
    RoundsTracked (log.observe label) shared next := by
  obtain ⟨number, empty, _⟩ := tracked.closedRound closed
  rw [RoundLog.observe_opening opens]
  refine ⟨?_, ?_, ?_, ?_, ?_⟩
  · rw [frozen]
    intro impossible
    cases impossible
  · rw [sameReports]
    exact tracked.members
  · intro _
    rw [sameRound]
    simp [number]
  · rw [nowOpen]
    intro impossible
    cases impossible
  · rw [sameReports, empty]
    simp

theorem RoundsTracked.close_round (tracked : RoundsTracked log shared mode) {next : Mode}
    (opened : RoundView.roundOpen mode)
    (settled : log.Settled (sourceSymbolCount shared.manifest) shared.activeQuorum.active
      (SenderLoop.openRoundId mode))
    (nowClosed : RoundView.roundOpen next = false)
    (nextRound : SenderLoop.openRoundId next = nextRoundId (SenderLoop.openRoundId mode))
    (cleared : RoundView.reports next = ∅) : RoundsTracked log shared next := by
  obtain ⟨last, number⟩ := tracked.openRound opened
  have some : 0 < log.opened.length := by
    apply List.length_pos_of_ne_nil
    intro none
    rw [none] at last
    cases last
  refine ⟨tracked.unfrozen, ?_, ?_, ?_, ?_⟩
  · rw [cleared]
    simp
  · rw [nowClosed]
    intro impossible
    cases impossible
  · intro _
    refine ⟨?_, cleared, ?_⟩
    · rw [nextRound, next_round_number number]
      congr 1
      omega
    · rw [last]
      intro roundId same
      rw [← Option.some.inj same]
      exact settled
  · rw [cleared]
    simp

end Tracked

/-- What the main loop can rely on after any turn of a mode. -/
structure TurnEffect {Mode : Type} [RoundView Mode] (shared : SenderShared) (mode : Mode)
    (after : SenderShared) (next : Mode) (frames : List SessionFrame) (turned : Turn) : Prop where
  opens : ∀ roundId, .control (.sourceDone roundId) ∈ frames →
    frames = [.control (.sourceDone roundId)] ∧ RoundView.roundOpen mode = false ∧
      roundId = SenderLoop.openRoundId mode
  noManifest : ∀ manifest, .control (.manifest manifest) ∉ frames
  ended : turned = .done .completed → SenderLoop.isComplete next
  waiting : turned = .waitFeedback ∨ turned = .waitSignal → SenderLoop.isComplete next = false
  waitingOpen : turned = .waitFeedback → RoundView.roundOpen next
  quorum : after.activeQuorum = shared.activeQuorum
  session : SameSession shared after

end Nextmini.Session
