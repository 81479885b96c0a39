import Nextmini.Session.Receiver

/-!
# Sender shell

The state and the control path that plain and FEC senders share: the active quorum, the
solicitation clock, and the handling of one inbound control frame. Instants are natural numbers
of milliseconds. Pacing, routes and logging are left out.
-/

namespace Nextmini.Session

open Nextmini.Library.BigEndian
open Nextmini.Messages

set_option autoImplicit false

inductive SessionOutcome where
  | completed
  | aborted
  deriving DecidableEq, Repr

/-! ## Quorum -/

structure ActiveSessionQuorum where
  configured : Finset Nat
  active : Finset Nat
  frozen : Bool
  deriving DecidableEq

namespace ActiveSessionQuorum

def new (configured : List Nat) : ActiveSessionQuorum where
  configured := configured.toFinset
  active := ∅
  frozen := false

def recordReady (quorum : ActiveSessionQuorum) (peerId : Nat) : ActiveSessionQuorum :=
  if quorum.frozen ∨ peerId ∉ quorum.configured then quorum
  else { quorum with active := insert peerId quorum.active }

def freeze (quorum : ActiveSessionQuorum) : ActiveSessionQuorum := { quorum with frozen := true }

end ActiveSessionQuorum

structure QuorumLiveness where
  solicitationInterval : Nat
  peerReportTimeout : Nat
  startedAt : Option Nat
  nextSolicitationAt : Option Nat
  solicitationCount : Nat
  deriving DecidableEq, Repr

namespace QuorumLiveness

def new (solicitationInterval peerReportTimeout : Nat) : QuorumLiveness where
  solicitationInterval := solicitationInterval
  peerReportTimeout := peerReportTimeout
  startedAt := none
  nextSolicitationAt := none
  solicitationCount := 0

def start (liveness : QuorumLiveness) (now : Nat) : QuorumLiveness :=
  { liveness with
    startedAt := some now
    nextSolicitationAt := some (now + liveness.solicitationInterval)
    solicitationCount := 0 }

def clear (liveness : QuorumLiveness) : QuorumLiveness :=
  { liveness with startedAt := none, nextSolicitationAt := none, solicitationCount := 0 }

def timeoutAt (liveness : QuorumLiveness) : Option Nat :=
  liveness.startedAt.map (· + liveness.peerReportTimeout)

def shouldSolicit (liveness : QuorumLiveness) (now : Nat) : Bool :=
  match liveness.nextSolicitationAt with
  | none => false
  | some deadline => deadline ≤ now

def timedOut (liveness : QuorumLiveness) (now : Nat) : Bool :=
  match liveness.timeoutAt with
  | none => false
  | some deadline => deadline ≤ now

def noteSolicitation (liveness : QuorumLiveness) (now : Nat) : QuorumLiveness :=
  { liveness with
    nextSolicitationAt := some (now + liveness.solicitationInterval)
    solicitationCount := liveness.solicitationCount + 1 }

end QuorumLiveness

/-! ## Frames of a sender -/

/-- What a sender hands to the processors: a control message, a data block, or a symbol on one of
its trees. -/
inductive SessionFrame where
  | control (message : LosslessSessionControl)
  | blockData (blockId : Nat) (payload : List Byte)
  | blockSymbol (blockId symbolId : Nat) (treeId : UInt16) (payload : List Byte)
  deriving DecidableEq, Repr

/-- `none` is a panic of the encoder. -/
def SessionFrame.encode (sessionId : UInt64) : SessionFrame → Option (List Byte)
  | .control message => encodeControl sessionId message
  | .blockData blockId payload => encodeBlockData sessionId (UInt64.ofNat blockId) payload
  | .blockSymbol blockId symbolId treeId payload =>
      some (encodeBlockSymbol sessionId (UInt64.ofNat blockId) (UInt32.ofNat symbolId) treeId
        payload)

def sendFrame (sessionId : UInt64) (frame : SessionFrame) : Option (List SessionFrame) :=
  (frame.encode sessionId).map fun _ => [frame]

/-! ## Shared state -/

structure SenderShared where
  sessionId : UInt64
  manifest : LosslessSessionManifest
  activeQuorum : ActiveSessionQuorum
  quorumLiveness : QuorumLiveness
  plan : BlockPlan
  source : BlockSource
  readyGrace : Nat
  payloadEmitted : Bool
  deriving DecidableEq

namespace SenderShared

def freezeActiveQuorum (shared : SenderShared) : SenderShared :=
  if shared.activeQuorum.frozen then shared
  else { shared with activeQuorum := shared.activeQuorum.freeze }

def markPayloadEmitted (shared : SenderShared) : SenderShared :=
  { shared with payloadEmitted := true }

def startQuorumFeedbackWait (shared : SenderShared) (now : Nat) : SenderShared :=
  { shared with quorumLiveness := shared.quorumLiveness.start now }

def clearQuorumFeedbackWait (shared : SenderShared) : SenderShared :=
  { shared with quorumLiveness := shared.quorumLiveness.clear }

def activeQuorumIsEmpty (shared : SenderShared) : Bool := shared.activeQuorum.active = ∅

def sendManifest (shared : SenderShared) : Option (List SessionFrame) :=
  sendFrame shared.sessionId (.control (.manifest shared.manifest))

def sendSourceDone (shared : SenderShared) (roundId : UInt32) : Option (List SessionFrame) :=
  sendFrame shared.sessionId (.control (.sourceDone roundId))

end SenderShared

/-- The mode-specific reaction to a report of a quorum peer. -/
class ModeHooks (Mode : Type) where
  onNeed : SenderShared → Mode → Nat → UInt32 → NeedReport → SenderShared × Mode

def handleControl {Mode : Type} [ModeHooks Mode] (shared : SenderShared) (mode : Mode)
    (frame : InboundFrame) : SenderShared × Mode :=
  match decodeControl frame.bytes with
  | none => (shared, mode)
  | some (_, control) =>
      match control with
      | .manifest _ => (shared, mode)
      | .sourceDone _ => (shared, mode)
      | .ready =>
          match frame.peerId with
          | none => (shared, mode)
          | some peerId =>
              if shared.activeQuorum.frozen then (shared, mode)
              else ({ shared with activeQuorum := shared.activeQuorum.recordReady peerId }, mode)
      | .need roundId report =>
          match frame.peerId with
          | none => (shared, mode)
          | some peerId =>
              if peerId ∉ shared.activeQuorum.active then (shared, mode)
              else
                match shared.manifest.validateControl (.need roundId report) with
                | .error _ => (shared, mode)
                | .ok () => ModeHooks.onNeed shared mode peerId roundId report

/-- `u32::saturating_add(1)` on round ids. -/
def nextRoundId (roundId : UInt32) : UInt32 :=
  if roundId.toNat + 1 < 2 ^ 32 then roundId + 1 else roundId

/-- What a turn of a sender's main loop does next. -/
inductive Turn where
  | again
  | waitFeedback
  | waitSignal
  | done (outcome : SessionOutcome)
  deriving DecidableEq, Repr

abbrev ReportMap := Std.ExtTreeMap Nat NeedReport

/-- The recorded reports in the order of their peers. -/
def recorded (reports : ReportMap) : List NeedReport := reports.toList.map Prod.snd

theorem mem_recorded (reports : ReportMap) (report : NeedReport) :
    report ∈ recorded reports ↔ ∃ peerId : Nat, reports[peerId]? = some report := by
  rw [recorded, List.mem_map]
  constructor
  · rintro ⟨⟨peerId, _⟩, member, rfl⟩
    exact ⟨peerId, Std.ExtTreeMap.mem_toList_iff_getElem?_eq_some.mp member⟩
  · rintro ⟨peerId, present⟩
    exact ⟨(peerId, report), Std.ExtTreeMap.mem_toList_iff_getElem?_eq_some.mpr present, rfl⟩

theorem mem_recorded_insert {reports : ReportMap} {peerId : Nat}
    (absent : reports[peerId]? = none) (report other : NeedReport) :
    other ∈ recorded (reports.insert peerId report) ↔ other = report ∨ other ∈ recorded reports := by
  simp only [mem_recorded, Std.ExtTreeMap.getElem?_insert]
  constructor
  · rintro ⟨sender, present⟩
    split_ifs at present
    · exact .inl (Option.some.inj present).symm
    · exact .inr ⟨sender, present⟩
  · rintro (rfl | ⟨sender, present⟩)
    · exact ⟨peerId, by simp⟩
    · refine ⟨sender, ?_⟩
      rw [if_neg]
      · exact present
      · intro same
        rw [← Nat.compare_eq_eq.mp same, absent] at present
        cases present

theorem all_reported {reports : ReportMap} {members : Finset Nat}
    (known : ∀ peerId ∈ reports, peerId ∈ members) (count : reports.size = members.card) :
    ∀ peerId ∈ members, ∃ report : NeedReport, reports[peerId]? = some report := by
  have subset : reports.keys.toFinset ⊆ members := by
    intro peerId member
    exact known peerId (Std.ExtTreeMap.mem_keys.mp (List.mem_toFinset.mp member))
  have size : reports.keys.toFinset.card = members.card := by
    rw [List.toFinset_card_of_nodup Std.ExtTreeMap.nodup_keys, Std.ExtTreeMap.length_keys, count]
  have same := Finset.eq_of_subset_of_card_le subset (le_of_eq size.symm)
  intro peerId member
  rw [← same, List.mem_toFinset, Std.ExtTreeMap.mem_keys] at member
  exact ⟨_, Std.ExtTreeMap.getElem?_eq_some_getElem member⟩

end Nextmini.Session
