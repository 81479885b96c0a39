import Nextmini.Session.FecWindow
import Mathlib.Data.List.Range

/-!
# Runs to a full quorum

An FEC transfer of one-byte blocks to any number of peers, each of which asks for the same number of
extra symbols for its own part of the blocks. From the start, over the Ready frames, all source
symbols and the reports, to the state in which every peer has reported and nothing was repaired yet.
Such a run ends within the budget of the repair window or outside of it.
-/

namespace Nextmini.Session

open Nextmini.Library Nextmini.Library.BigEndian
open Nextmini.Messages

set_option autoImplicit false

structure UnitTransfer where
  peers : Nat
  perPeer : Nat
  deficit : Nat
  somePeers : 0 < peers
  somePerPeer : 0 < perPeer
  someDeficit : 0 < deficit
  entriesFit : perPeer ≤ maxNeedBlocks
  deficitFits : deficit < 2 ^ 16
  blocksFit : peers * perPeer < 2 ^ 64

namespace UnitTransfer

variable (transfer : UnitTransfer)

def blocks : Nat := transfer.peers * transfer.perPeer

theorem some_blocks : 0 < transfer.blocks := Nat.mul_pos transfer.somePeers transfer.somePerPeer

theorem blocks_of_nat : (UInt64.ofNat transfer.blocks).toNat = transfer.blocks :=
  UInt64.toNat_ofNat_of_lt' transfer.blocksFit

/-! ## Start -/

def manifest : LosslessSessionManifest :=
  ⟨1, UInt64.ofNat transfer.blocks, UInt64.ofNat transfer.blocks, .fec (.newRaptorq 1 [1])⟩

def plan : BlockPlan where
  totalBytes := transfer.blocks
  blockSize := 1
  totalBlocks := transfer.blocks
  blockSizePositive := Nat.one_pos
  blockCount := (ceilDiv_one transfer.blocks).symm
  bytesFit := transfer.blocksFit

def request : SenderRequest where
  sessionId := 0
  blockSize := 1
  receiverIds := List.range transfer.peers
  totalBytes := UInt64.ofNat transfer.blocks
  sourceBuffer := List.replicate transfer.blocks 0
  readyGraceMs := 1
  peerReportTimeoutMs := 0

def shared (active : Finset Nat) (frozen : Bool) : SenderShared where
  sessionId := 0
  manifest := transfer.manifest
  activeQuorum := ⟨Finset.range transfer.peers, active, frozen⟩
  quorumLiveness := .new quorumSolicitationInterval 0
  plan := transfer.plan
  source := ⟨List.replicate transfer.blocks 0⟩
  readyGrace := 1
  payloadEmitted := false

def freshBlock : FecSendBlock := ⟨0, 1, 0, 0, none⟩

def sentBlock : FecSendBlock := ⟨1, 1, 0, 0, none⟩

def askedBlock : FecSendBlock := ⟨1, 1, transfer.deficit, 0, none⟩

def mode (blocks : List FecSendBlock) : FecSender where
  blocks := blocks
  symbolsPerBlock := 1
  treeIds := [1]
  geometry := ⟨1, 1⟩
  nextTreeRr := 0
  currentSourceCache := none
  roundSourceDoneSent := false
  currentRoundId := 0
  phase := .sendingData
  roundComplete := false
  roundReports := ∅
  repairWindowSymbols := 0
  protocolError := false

def start : SenderTask FecSender where
  shared := transfer.shared ∅ false
  mode := mode (List.replicate transfer.blocks freshBlock)
  stage := .starting

theorem plan_new : BlockPlan.new (UInt64.ofNat transfer.blocks) 1 = .ok transfer.plan := by
  have some := transfer.some_blocks.ne'
  simp only [BlockPlan.new, Nat.one_ne_zero, dite_false, plan, transfer.blocks_of_nat, some, if_false,
    ceilDiv_one]

theorem starts : fecSenders transfer.start := by
  refine ⟨⟨true, 1, [1]⟩, false, transfer.request,
    ⟨0, List.range transfer.peers, List.replicate transfer.blocks 0, transfer.manifest, 1, 0⟩, ?_, ?_⟩
  · have derived : deriveSenderPolicy ⟨true, 1, [1]⟩ = .ok (.fec (.newRaptorq 1 [1])) := rfl
    have sized : validateBlockSize 1 = .ok 1 := rfl
    have planned := transfer.plan_new
    simp only [senderConfig, request, sized, derived]
    rw [planned]
    rfl
  · have planned : BlockPlan.new transfer.manifest.totalBytes transfer.manifest.blockSize.toNat =
        .ok transfer.plan := transfer.plan_new
    have configured : ActiveSessionQuorum.new (List.range transfer.peers) =
        ⟨Finset.range transfer.peers, ∅, false⟩ := by
      have members : (List.range transfer.peers).toFinset = Finset.range transfer.peers := by
        ext peerId
        simp
      rw [ActiveSessionQuorum.new, members]
    have created : FecSender.new transfer.manifest transfer.plan =
        some (mode (List.replicate transfer.blocks freshBlock)) := by
      have cut : transfer.plan.symbolGeometry 1 = .ok ⟨1, 1⟩ := by
        rw [BlockPlan.symbolGeometry, if_neg (by decide)]
        exact congrArg (fun size => Except.ok (SymbolGeometry.mk 1 size)) (ceilDiv_one (1 : Nat))
      simp only [FecSender.new, manifest, LosslessSessionFecMode.newRaptorq, cut]
      rfl
    rw [SessionSender.new]
    simp only [planned]
    have kind : transfer.manifest.mode = .fec (.newRaptorq 1 [1]) := rfl
    simp only [kind, created, Option.map_some, senderShared, configured]
    rfl

/-! ## Ready -/

variable {transfer} {crate : FountainCrate}

def openIngress : Nat → SendOutcome := fun _ => .queued

def joining (transfer : UnitTransfer) (joined : Nat) : SenderTask FecSender where
  shared := transfer.shared (Finset.range joined) false
  mode := mode (List.replicate transfer.blocks freshBlock)
  stage := .awaitingReady 1 250

def negotiating (transfer : UnitTransfer) (joined : Nat) : SenderTask FecSender :=
  { transfer.joining joined with stage := .negotiating 1 250 }

theorem manifest_valid : transfer.manifest.validate = .ok () := by
  have counted : LosslessSessionManifest.totalBlocksFor (UInt64.ofNat transfer.blocks) 1 =
      .ok (UInt64.ofNat transfer.blocks) := by
    have some : UInt64.ofNat transfer.blocks ≠ 0 := by
      intro none
      have size := congrArg UInt64.toNat none
      rw [transfer.blocks_of_nat] at size
      exact transfer.some_blocks.ne' size
    rw [LosslessSessionManifest.totalBlocksFor, if_neg (by decide), if_neg some]
    exact congrArg (fun count => Except.ok (UInt64.ofNat count)) ((ceilDiv_one _).trans
      transfer.blocks_of_nat)
  have trees : LosslessSessionManifest.validateFec (.newRaptorq 1 [1]) = .ok () := rfl
  show (LosslessSessionManifest.totalBlocksFor (UInt64.ofNat transfer.blocks) 1 >>= fun expected =>
    if UInt64.ofNat transfer.blocks ≠ expected then _ else _) = _
  rw [counted]
  exact (if_neg (not_not_intro rfl)).trans trees

theorem sends_manifest (active : Finset Nat) : (transfer.shared active false).sendManifest =
    some [.control (.manifest transfer.manifest)] := by
  have valid : (LosslessSessionControl.manifest transfer.manifest).validate = .ok () := manifest_valid
  obtain ⟨bytes, encoded⟩ : ∃ bytes, encodeControl 0 (.manifest transfer.manifest) = some bytes :=
    ⟨_, (encode_control_some_iff 0 _ _).mpr ⟨valid, rfl⟩⟩
  simp only [SenderShared.sendManifest, sendFrame, SessionFrame.encode, shared, encoded]
  rfl

theorem begins : (transfer.start.step crate (.turn 0 openIngress)) =
    some ({ transfer.start with stage := .negotiating 1 0 }, []) := by
  have some : transfer.start.shared.activeQuorum.configured ≠ ∅ := by
    intro none
    have size := congrArg Finset.card none
    rw [Finset.card_empty] at size
    exact transfer.somePeers.ne' ((Finset.card_range _).symm.trans size)
  simp only [SenderTask.step, SenderTask.onTurn]
  have stage : transfer.start.stage = .starting := rfl
  simp only [stage, some, if_false]
  rfl

theorem advertises : (({ transfer.start with stage := .negotiating 1 0 } : SenderTask FecSender).step
      crate (.turn 0 openIngress)) =
    some (transfer.joining 0, [.control (.manifest transfer.manifest)]) := by
  have waiting : (∅ : Finset Nat).card < (Finset.range transfer.peers).card := by
    rw [Finset.card_empty, Finset.card_range]
    exact transfer.somePeers
  have sent := @sends_manifest transfer ∅
  simp only [SenderTask.step, SenderTask.onTurn, SenderTask.negotiate, SenderTask.advertise, start,
    sent]
  exact if_pos waiting

theorem ready_heard {joined : Nat} (known : joined < transfer.peers) : ∃ bytes,
    (transfer.joining joined).step crate (.control ⟨bytes, some joined⟩) =
      some (transfer.negotiating (joined + 1), []) := by
  obtain ⟨bytes, encoded⟩ : ∃ bytes, encodeControl 0 .ready = some bytes := ⟨_, rfl⟩
  have recorded : (transfer.joining joined).shared.activeQuorum.recordReady joined =
      (transfer.negotiating (joined + 1)).shared.activeQuorum := by
    rw [ActiveSessionQuorum.recordReady, if_neg]
    · simp only [joining, negotiating, shared, Finset.range_add_one]
    · simp [joining, shared, known]
  refine ⟨bytes, ?_⟩
  have handled : handleControl (transfer.joining joined).shared (transfer.joining joined).mode
      ⟨bytes, some joined⟩ =
        ((transfer.negotiating (joined + 1)).shared, (transfer.joining joined).mode) := by
    simp only [handleControl, decode_control_encode encoded, LosslessSessionControl.canonical, recorded]
    rfl
  simp only [SenderTask.step, SenderTask.onControl, handled]
  rfl

theorem waits_on {joined : Nat} (missing : joined < transfer.peers) :
    (transfer.negotiating joined).step crate (.turn 0 openIngress) =
      some (transfer.joining joined, []) := by
  have waiting : (Finset.range joined).card < (Finset.range transfer.peers).card := by
    rw [Finset.card_range, Finset.card_range]
    exact missing
  simp only [SenderTask.step, SenderTask.onTurn, SenderTask.negotiate, negotiating, joining]
  exact if_pos waiting

theorem joining_reached {joined : Nat} (missing : joined < transfer.peers) :
    (senderSystem crate fecSenders).Reachable (transfer.joining joined) := by
  induction joined with
  | zero =>
    have reached : (senderSystem crate fecSenders).Reachable transfer.start :=
      TransitionSystem.reachable_of_initial transfer.starts
    exact reachable_step (reachable_step reached begins) advertises
  | succ joined induction =>
    obtain ⟨bytes, heard⟩ := @ready_heard transfer crate joined (by omega)
    exact reachable_step (reachable_step (induction (by omega)) heard) (waits_on missing)

/-! ## Source symbols -/

def partly (done todo : FecSendBlock) (total count : Nat) : List FecSendBlock :=
  List.replicate count done ++ List.replicate (total - count) todo

theorem partly_modify {done todo : FecSendBlock} {total count : Nat} (inside : count < total)
    {change : FecSendBlock → FecSendBlock} (changes : change todo = done) :
    (partly done todo total count).modify count change = partly done todo total (count + 1) := by
  have left : total - count = total - (count + 1) + 1 := by omega
  have whole : partly done todo total count =
      List.replicate count done ++ todo :: List.replicate (total - (count + 1)) todo := by
    rw [partly, left, List.replicate_succ]
  rw [whole, List.modify_eq_take_cons_drop (by simp)]
  simp [changes, partly, List.replicate_succ', List.append_assoc, List.drop_append]

theorem partly_getElem? {done todo : FecSendBlock} {total count : Nat} (inside : count < total) :
    (partly done todo total count)[count]? = some todo := by
  rw [partly, List.getElem?_append_right (by simp)]
  simp [inside]

theorem partly_findIdx? {done todo : FecSendBlock} {total count : Nat} (inside : count < total)
    {search : FecSendBlock → Bool} (missed : search done = false) (found : search todo = true) :
    (partly done todo total count).findIdx? search = some count := by
  have left : 0 < total - count := by omega
  simp [partly, List.findIdx?_append, missed, found, left]

def sending (transfer : UnitTransfer) (sent : Nat) (cache : Option (Nat × List (List Byte)))
    (emitted : Bool) : SenderTask FecSender where
  shared :=
    { transfer.shared (Finset.range transfer.peers) true with payloadEmitted := emitted }
  mode :=
    { mode (partly sentBlock freshBlock transfer.blocks sent) with currentSourceCache := cache }
  stage := .transferring

/-- The cache holds symbols of an earlier block. -/
def CacheBefore (sent : Nat) (cache : Option (Nat × List (List Byte))) : Prop :=
  ∀ blockId symbols, cache = some (blockId, symbols) → blockId < sent

theorem all_joined {joined : Nat} (all : joined = transfer.peers) :
    (transfer.negotiating joined).step crate (.turn 0 openIngress) =
      some (transfer.sending 0 none false, []) := by
  subst all
  simp only [SenderTask.step, SenderTask.onTurn, SenderTask.negotiate, negotiating, joining]
  exact if_neg (lt_irrefl _)

theorem sending_reached :
    (senderSystem crate fecSenders).Reachable (transfer.sending 0 none false) := by
  have some := transfer.somePeers
  obtain ⟨bytes, heard⟩ := @ready_heard transfer crate (transfer.peers - 1) (by omega)
  exact reachable_step (reachable_step (joining_reached (by omega)) heard) (all_joined (by omega))

theorem next_source {sent : Nat} (inside : sent < transfer.blocks)
    (cache : Option (Nat × List (List Byte))) (emitted : Bool) :
    (transfer.sending sent cache emitted).mode.nextSourceSymbol = some (sent, 0) := by
  simp only [FecSender.nextSourceSymbol, sending, mode]
  rw [partly_findIdx? inside (by decide) (by decide)]
  simp only [Option.bind_eq_bind, Option.bind_some, partly_getElem? inside]
  rfl

theorem source_read {sent : Nat} (inside : sent < transfer.blocks)
    {cache : Option (Nat × List (List Byte))} (before : CacheBefore sent cache) (emitted : Bool) :
    ∃ symbols payload, (transfer.sending sent cache emitted).mode.sourceSymbolPayload
      (transfer.sending sent cache emitted).shared sent 0 =
        ({ (transfer.sending sent cache emitted).mode with
          currentSourceCache := some (sent, symbols) }, some payload) := by
  have placed := transfer.plan.block_span_some sent inside
  obtain ⟨payload, first⟩ : ∃ payload, (BlockSource.sourceSymbols ⟨List.replicate transfer.blocks 0⟩
      ⟨sent * 1, min 1 (transfer.blocks - sent * 1)⟩ ⟨1, 1⟩)[0]? = some payload :=
    ⟨_, BlockSource.source_symbols_getElem? _ _ _ 0 Nat.one_pos⟩
  refine ⟨BlockSource.sourceSymbols ⟨List.replicate transfer.blocks 0⟩
    ⟨sent * 1, min 1 (transfer.blocks - sent * 1)⟩ ⟨1, 1⟩, payload, ?_⟩
  rw [← first]
  cases cache with
  | none =>
    simp only [FecSender.sourceSymbolPayload, sending, shared, placed]
    rfl
  | some cached =>
    have other : cached.1 ≠ sent := (before cached.1 cached.2 rfl).ne
    simp only [FecSender.sourceSymbolPayload, sending, shared, placed, other, if_false]
    rfl

theorem source_sent {sent : Nat} (inside : sent < transfer.blocks)
    {cache : Option (Nat × List (List Byte))} (before : CacheBefore sent cache) (emitted : Bool) :
    ∃ symbols frames, (transfer.sending sent cache emitted).step crate (.turn 0 openIngress) =
      some (transfer.sending (sent + 1) (some (sent, symbols)) true, frames) := by
  obtain ⟨symbols, payload, read⟩ := source_read inside before emitted
  have changed := @partly_modify sentBlock freshBlock transfer.blocks sent inside
    (fun block => { block with nextSourceSymbol := block.nextSourceSymbol + 1 }) rfl
  have handed : (transfer.sending sent cache emitted).mode.sendSourceSymbol
      (transfer.sending sent cache emitted).shared openIngress sent 0 =
        ((transfer.sending (sent + 1) (some (sent, symbols)) true).shared,
          (transfer.sending (sent + 1) (some (sent, symbols)) true).mode,
          [.blockSymbol sent 0 1 payload], true) := by
    have accepted : FecSender.trySendSymbol
        { (transfer.sending sent cache emitted).mode with currentSourceCache := some (sent, symbols) }
        openIngress sent 0 payload =
          some ({ (transfer.sending sent cache emitted).mode with
            currentSourceCache := some (sent, symbols) }, .blockSymbol sent 0 1 payload) := by
      simp [FecSender.trySendSymbol, FecSender.acceptingTree, sending, mode, openIngress, List.range_one]
    simp only [FecSender.sendSourceSymbol, read, accepted]
    simp only [sending, mode, changed]
    rfl
  refine ⟨symbols, [.blockSymbol sent 0 1 payload], ?_⟩
  have sound : (transfer.sending sent cache emitted).mode.protocolError = false := rfl
  have turned : (transfer.sending sent cache emitted).mode.turn crate
      (transfer.sending sent cache emitted).shared 0 openIngress =
        some ((transfer.sending (sent + 1) (some (sent, symbols)) true).shared,
          (transfer.sending (sent + 1) (some (sent, symbols)) true).mode,
          [.blockSymbol sent 0 1 payload], .again) := by
    simp only [FecSender.turn, sound, next_source inside, handed]
    rfl
  have stage : (transfer.sending sent cache emitted).stage = .transferring := rfl
  simp only [SenderTask.step, SenderTask.onTurn, stage, SenderLoop.turn, turned]
  rfl

theorem sources_reached {sent : Nat} (inside : sent ≤ transfer.blocks) :
    ∃ cache emitted, CacheBefore sent cache ∧
      (senderSystem crate fecSenders).Reachable (transfer.sending sent cache emitted) := by
  induction sent with
  | zero => exact ⟨none, false, by simp [CacheBefore], sending_reached⟩
  | succ sent induction =>
    obtain ⟨cache, emitted, before, reached⟩ := induction (by omega)
    obtain ⟨symbols, frames, stepped⟩ := @source_sent transfer crate sent (by omega) cache before emitted
    refine ⟨some (sent, symbols), true, ?_, reachable_step reached stepped⟩
    intro blockId others same
    cases same
    exact Nat.lt_succ_self sent

/-! ## Reports -/

def needs (transfer : UnitTransfer) (peerId : Nat) : List NeedBlock :=
  (List.range transfer.perPeer).map fun entry =>
    ⟨UInt64.ofNat (peerId * transfer.perPeer + entry), UInt16.ofNat transfer.deficit⟩

def reporting (transfer : UnitTransfer) (heard : Nat) (cache : Option (Nat × List (List Byte)))
    (emitted : Bool) (reports : ReportMap) (window : Nat) : SenderTask FecSender where
  shared := (transfer.sending transfer.blocks cache emitted).shared.startQuorumFeedbackWait 0
  mode :=
    { mode (partly transfer.askedBlock sentBlock transfer.blocks (heard * transfer.perPeer)) with
      currentSourceCache := cache
      roundSourceDoneSent := true
      phase := .waitingForReports
      roundReports := reports
      repairWindowSymbols := window }
  stage := .transferring

theorem entry_inside {peerId entry : Nat} (known : peerId < transfer.peers)
    (inside : entry < transfer.perPeer) : peerId * transfer.perPeer + entry < transfer.blocks := by
  have rows : (peerId + 1) * transfer.perPeer ≤ transfer.blocks :=
    Nat.mul_le_mul_right _ known
  rw [Nat.add_mul, Nat.one_mul] at rows
  omega

theorem entry_of_nat {peerId entry : Nat} (known : peerId < transfer.peers)
    (inside : entry < transfer.perPeer) :
    (UInt64.ofNat (peerId * transfer.perPeer + entry)).toNat = peerId * transfer.perPeer + entry :=
  UInt64.toNat_ofNat_of_lt' ((entry_inside known inside).trans transfer.blocksFit)

theorem merge_entries {heard entries : Nat} (known : heard < transfer.peers)
    (some : entries ≤ transfer.perPeer) :
    FecSender.mergeDeficits
        (partly transfer.askedBlock sentBlock transfer.blocks (heard * transfer.perPeer))
        ((List.range entries).map fun entry =>
          ⟨UInt64.ofNat (heard * transfer.perPeer + entry), UInt16.ofNat transfer.deficit⟩) =
      partly transfer.askedBlock sentBlock transfer.blocks (heard * transfer.perPeer + entries) := by
  induction entries with
  | zero => rfl
  | succ entries induction =>
    have merged := induction (by omega)
    have deficit : (UInt16.ofNat transfer.deficit).toNat = transfer.deficit :=
      UInt16.toNat_ofNat_of_lt' transfer.deficitFits
    simp only [FecSender.mergeDeficits] at merged ⊢
    rw [List.range_succ, List.map_append, List.foldl_append, merged]
    simp only [List.map_cons, List.map_nil, List.foldl_cons, List.foldl_nil,
      entry_of_nat known some, deficit]
    apply partly_modify (entry_inside known some)
    rfl

theorem merge_needs {heard : Nat} (known : heard < transfer.peers) :
    FecSender.mergeDeficits
        (partly transfer.askedBlock sentBlock transfer.blocks (heard * transfer.perPeer))
        (transfer.needs heard) =
      partly transfer.askedBlock sentBlock transfer.blocks ((heard + 1) * transfer.perPeer) := by
  rw [Nat.add_mul, Nat.one_mul]
  exact merge_entries known le_rfl

theorem needs_valid {peerId : Nat} (known : peerId < transfer.peers) :
    (NeedReport.fec (transfer.needs peerId)).validate = .ok () := by
  rw [validate_fec_ok_iff]
  refine ⟨?_, ?_, ?_⟩
  · rw [needs, List.length_map, List.length_range]
    exact transfer.entriesFit
  · intro status member
    obtain ⟨entry, _, rfl⟩ := List.mem_map.mp member
    intro none
    have deficit := congrArg UInt16.toNat none
    rw [UInt16.toNat_ofNat_of_lt' transfer.deficitFits] at deficit
    exact transfer.someDeficit.ne' deficit
  · rw [needs, List.isChain_map, List.isChain_range]
    intro entry inside
    rw [UInt64.lt_iff_toNat_lt, entry_of_nat known (by omega), entry_of_nat known (by omega)]
    omega

theorem needs_accepted {peerId : Nat} (known : peerId < transfer.peers) :
    transfer.manifest.validateControl (.need 0 (.fec (transfer.needs peerId))) = .ok () := by
  have own := needs_valid known
  have inside : validateNeedBlockIds transfer.manifest.totalBlocks (transfer.needs peerId) = .ok () := by
    rw [validate_need_block_ids_ok_iff]
    intro status member
    obtain ⟨entry, present, rfl⟩ := List.mem_map.mp member
    rw [UInt64.lt_iff_toNat_lt, entry_of_nat known (List.mem_range.mp present), manifest,
      transfer.blocks_of_nat]
    exact entry_inside known (List.mem_range.mp present)
  refine bind_ok_iff.mpr ⟨(), manifest_valid, bind_ok_iff.mpr ⟨(), own, ?_⟩⟩
  refine bind_ok_iff.mpr ⟨(), manifest_valid, ?_⟩
  have offered : transfer.manifest.mode.isFec = true := rfl
  simp only [offered, not_true_eq_false, false_and, if_false]
  exact bind_ok_iff.mpr ⟨(), own, inside⟩

def HeardFrom (heard : Nat) (reports : ReportMap) : Prop := ∀ peerId, peerId ∈ reports ↔ peerId < heard

theorem HeardFrom.next {heard : Nat} {reports : ReportMap} (before : HeardFrom heard reports)
    (report : NeedReport) : HeardFrom (heard + 1) (reports.insert heard report) := by
  intro peerId
  rw [Std.ExtTreeMap.mem_insert, before peerId, Nat.compare_eq_eq]
  omega

theorem round_opens (cache : Option (Nat × List (List Byte))) (emitted : Bool) :
    (transfer.sending transfer.blocks cache emitted).step crate (.turn 0 openIngress) =
      some (transfer.reporting 0 cache emitted ∅ 0, [.control (.sourceDone 0)]) := by
  have sent : (transfer.sending transfer.blocks cache emitted).mode.blocks =
      (transfer.reporting 0 cache emitted ∅ 0).mode.blocks := by
    simp [sending, reporting, mode, partly]
  have noSource : (transfer.sending transfer.blocks cache emitted).mode.nextSourceSymbol = none := by
    rw [FecSender.nextSourceSymbol, sent]
    simp [reporting, sending, mode, partly, sentBlock]
  have members : (transfer.sending transfer.blocks cache emitted).shared.activeQuorumIsEmpty = false := by
    simp [SenderShared.activeQuorumIsEmpty, sending, shared, transfer.somePeers.ne']
  have turned : (transfer.sending transfer.blocks cache emitted).mode.turn crate
      (transfer.sending transfer.blocks cache emitted).shared 0 openIngress =
        some ((transfer.reporting 0 cache emitted ∅ 0).shared,
          (transfer.reporting 0 cache emitted ∅ 0).mode, [.control (.sourceDone 0)], .again) := by
    have sound : (transfer.sending transfer.blocks cache emitted).mode.protocolError = false := rfl
    have noExtra : (transfer.sending transfer.blocks cache emitted).mode.nextExtraSymbol = none :=
      if_pos (Nat.zero_le _)
    have begun : (transfer.sending transfer.blocks cache emitted).mode.beginReportRound
        (transfer.sending transfer.blocks cache emitted).shared =
          some ({ (transfer.sending transfer.blocks cache emitted).mode with
            roundReports := ∅, phase := .waitingForReports }, [.control (.sourceDone 0)]) := rfl
    have unsent : (transfer.sending transfer.blocks cache emitted).mode.roundSourceDoneSent = false := rfl
    simp only [FecSender.turn, sound, noSource, noExtra, unsent, begun, members, sent]
    rfl
  have stage : (transfer.sending transfer.blocks cache emitted).stage = .transferring := rfl
  simp only [SenderTask.step, SenderTask.onTurn, stage, SenderLoop.turn, turned]
  rfl

theorem still_owed {heard : Nat} (some : 0 < heard) {mode : FecSender}
    (asked : mode.blocks =
      partly transfer.askedBlock sentBlock transfer.blocks (heard * transfer.perPeer)) :
    mode.hasPendingRepairWork := by
  have entries := Nat.mul_pos some transfer.somePerPeer
  have member : transfer.askedBlock ∈ mode.blocks := by
    rw [asked, partly]
    simp [entries.ne']
  exact List.any_eq_true.mpr ⟨transfer.askedBlock, member, decide_eq_true transfer.someDeficit⟩

theorem report_merged {heard : Nat} (known : heard < transfer.peers)
    (cache : Option (Nat × List (List Byte))) (emitted : Bool) {reports : ReportMap}
    (absent : reports[heard]? = none) (window : Nat) : ∃ wider,
    FecSender.onNeed (transfer.reporting heard cache emitted reports window).shared
        (transfer.reporting heard cache emitted reports window).mode heard 0
        (.fec (transfer.needs heard)) =
      ((transfer.reporting heard cache emitted reports window).shared,
        (transfer.reporting (heard + 1) cache emitted
          (reports.insert heard (.fec (transfer.needs heard))) wider).mode) := by
  obtain ⟨wider, widened⟩ := FecSender.recalculate_result
    (transfer.reporting heard cache emitted reports window).shared
    (transfer.reporting (heard + 1) cache emitted
      (reports.insert heard (.fec (transfer.needs heard))) window).mode
  have merged := @merge_needs transfer heard known
  refine ⟨wider, ?_⟩
  have owed : (transfer.reporting (heard + 1) cache emitted
      (reports.insert heard (.fec (transfer.needs heard))) wider).mode.hasPendingRepairWork :=
    still_owed (Nat.succ_pos heard) rfl
  have after : (transfer.reporting (heard + 1) cache emitted
      (reports.insert heard (.fec (transfer.needs heard))) window).mode.afterReport
        (transfer.reporting heard cache emitted reports window).shared =
      ((transfer.reporting heard cache emitted reports window).shared,
        (transfer.reporting (heard + 1) cache emitted
          (reports.insert heard (.fec (transfer.needs heard))) wider).mode) := by
    rw [FecSender.afterReport, widened]
    exact if_neg fun closes => closes.2 owed
  rw [← after]
  simp only [FecSender.onNeed, reporting, mode, absent, merged]
  rfl

theorem report_heard {heard : Nat} (known : heard < transfer.peers)
    (cache : Option (Nat × List (List Byte))) (emitted : Bool) {reports : ReportMap}
    (before : HeardFrom heard reports) (window : Nat) : ∃ bytes wider,
    (transfer.reporting heard cache emitted reports window).step crate (.control ⟨bytes, some heard⟩) =
      some (transfer.reporting (heard + 1) cache emitted
        (reports.insert heard (.fec (transfer.needs heard))) wider, []) := by
  have own : (LosslessSessionControl.need 0 (.fec (transfer.needs heard))).validate = .ok () :=
    needs_valid known
  obtain ⟨bytes, encoded⟩ : ∃ bytes,
      encodeControl 0 (.need 0 (.fec (transfer.needs heard))) = some bytes :=
    ⟨_, (encode_control_some_iff 0 _ _).mpr ⟨own, rfl⟩⟩
  have nonempty : transfer.needs heard ≠ [] := by
    simp [needs, transfer.somePerPeer.ne']
  have absent : reports[heard]? = none :=
    Std.ExtTreeMap.getElem?_eq_none fun present => lt_irrefl _ ((before heard).mp present)
  obtain ⟨wider, merged⟩ := report_merged known cache emitted absent window
  have member : heard ∈ (transfer.reporting heard cache emitted reports window).shared.activeQuorum.active :=
    Finset.mem_range.mpr known
  have valid : (transfer.reporting heard cache emitted reports window).shared.manifest.validateControl
      (.need 0 (.fec (transfer.needs heard))) = .ok () := needs_accepted known
  refine ⟨bytes, wider, ?_⟩
  have handled : handleControl (transfer.reporting heard cache emitted reports window).shared
      (transfer.reporting heard cache emitted reports window).mode ⟨bytes, some heard⟩ =
        ((transfer.reporting heard cache emitted reports window).shared,
          (transfer.reporting (heard + 1) cache emitted
            (reports.insert heard (.fec (transfer.needs heard))) wider).mode) := by
    simp only [handleControl, decode_control_encode encoded, LosslessSessionControl.canonical,
      NeedReport.canonical, nonempty, if_false, member, not_true_eq_false, valid]
    exact merged
  simp only [SenderTask.step, SenderTask.onControl, handled]
  rfl

theorem reports_reached {heard : Nat} (known : heard ≤ transfer.peers) :
    ∃ cache emitted reports window, HeardFrom heard reports ∧
      (senderSystem crate fecSenders).Reachable
        (transfer.reporting heard cache emitted reports window) := by
  induction heard with
  | zero =>
    obtain ⟨cache, emitted, _, reached⟩ := @sources_reached transfer crate transfer.blocks le_rfl
    refine ⟨cache, emitted, ∅, 0, ?_, reachable_step reached (round_opens cache emitted)⟩
    intro peerId
    simp
  | succ heard induction =>
    obtain ⟨cache, emitted, reports, window, before, reached⟩ := induction (by omega)
    obtain ⟨bytes, wider, stepped⟩ :=
      @report_heard transfer crate heard known cache emitted reports before window
    exact ⟨cache, emitted, _, wider, before.next _, reachable_step reached stepped⟩

theorem all_asked (transfer : UnitTransfer) (crate : FountainCrate) : ∃ task,
    (senderSystem crate fecSenders).Reachable task ∧
      task.shared.activeQuorum.active = Finset.range transfer.peers ∧
      task.mode.phase = .waitingForReports ∧
      (∀ peerId ∈ task.shared.activeQuorum.active, task.mode.roundReports[peerId]? ≠ none) ∧
      task.mode.blocks = List.replicate transfer.blocks transfer.askedBlock ∧
      task.mode.protocolError = false := by
  obtain ⟨cache, emitted, reports, window, heard, reached⟩ :=
    @reports_reached transfer crate transfer.peers le_rfl
  refine ⟨_, reached, rfl, rfl, ?_, ?_, rfl⟩
  · intro peerId member
    have present := (heard peerId).mpr (Finset.mem_range.mp member)
    exact Option.isSome_iff_ne_none.mp (Std.ExtTreeMap.mem_iff_isSome_getElem?.mp present)
  · have all : transfer.peers * transfer.perPeer = transfer.blocks := rfl
    simp [reporting, mode, partly, all]

theorem asked_totals {mode : FecSender}
    (asked : mode.blocks = List.replicate transfer.blocks transfer.askedBlock) :
    mode.hasPendingRepairWork ∧
      mode.totalRequiredExtraSymbols = transfer.blocks * transfer.deficit % 2 ^ 32 ∧
      mode.totalEmittedExtraSymbols = 0 := by
  refine ⟨?_, ?_, ?_⟩
  · apply @still_owed transfer _ transfer.somePeers
    rw [asked]
    simp [partly, blocks]
  · simp [FecSender.totalRequiredExtraSymbols, asked, askedBlock]
  · simp [FecSender.totalEmittedExtraSymbols, asked, askedBlock]

end UnitTransfer

/-! ## Full quorum -/

/-- In every reachable FEC sender that has heard all of its quorum and still owes symbols, there is a
next symbol exactly within the budget; outside of it the main loop turns without a wait and without
a change. -/
theorem FecSender.full_quorum_scheduled_iff {crate : FountainCrate} {task : SenderTask FecSender}
    (reachable : (senderSystem crate fecSenders).Reachable task)
    (waiting : task.mode.phase = .waitingForReports)
    (heard : ∀ peerId ∈ task.shared.activeQuorum.active, task.mode.roundReports[peerId]? ≠ none)
    (pending : task.mode.hasPendingRepairWork) :
    (task.mode.nextExtraSymbol.isSome ↔ task.mode.WithinBudget task.shared) ∧
      (task.mode.protocolError = false → ∀ now submit,
        (task.mode.turn crate task.shared now submit = some (task.shared, task.mode, [], .again) ↔
          ¬task.mode.WithinBudget task.shared)) := by
  obtain ⟨log, windowed⟩ := reachable_windowed reachable
  have count : task.mode.roundReports.size = task.shared.activeQuorum.active.card :=
    FecSender.reports_size windowed.tracked.rounds.members heard
  obtain ⟨asking, asked, _⟩ := FecSender.pending_asked windowed.tracked pending
  have some : task.mode.roundReports.size ≠ 0 := by
    intro none
    obtain ⟨peerId, present⟩ := (mem_recorded _ _).mp asked
    have empty := Std.ExtTreeMap.eq_empty_iff_size_eq_zero.mpr none
    rw [empty] at present
    simp at present
  have scheduled : task.mode.nextExtraSymbol.isSome ↔ task.mode.WithinBudget task.shared := by
    rw [FecSender.next_extra_symbol_iff pending, windowed.window waiting some, count,
      FecSender.lt_repair_window_iff (count ▸ some)]
    rfl
  refine ⟨scheduled, ?_⟩
  intro sound now submit
  rw [FecSender.full_quorum_turn windowed.tracked waiting count pending sound, ← scheduled,
    Option.not_isSome_iff_eq_none]

def soleDeficit : UnitTransfer := ⟨1, 1, 1, by decide, by decide, by decide, by decide, by decide, by decide⟩

theorem sole_deficit_scheduled : ∃ task, (senderSystem idleCrate fecSenders).Reachable task ∧
    task.mode.hasPendingRepairWork ∧ task.mode.nextExtraSymbol.isSome ∧
    ∀ now submit, task.mode.turn idleCrate task.shared now submit ≠
      some (task.shared, task.mode, [], .again) := by
  obtain ⟨task, reachable, members, waiting, heard, asked, sound⟩ := soleDeficit.all_asked idleCrate
  obtain ⟨pending, required, emitted⟩ := UnitTransfer.asked_totals asked
  have within : task.mode.WithinBudget task.shared := by
    rw [FecSender.WithinBudget, required, emitted, Nat.zero_mul]
    decide
  have scheduled := FecSender.full_quorum_scheduled_iff reachable waiting heard pending
  refine ⟨task, reachable, pending, scheduled.1.mpr within, ?_⟩
  intro now submit spins
  exact (scheduled.2 sound now submit).mp spins within

/-- 32 peers with 4096 blocks each, every block short of 32768 symbols: together 2^32 symbols. -/
def wrappedDeficits : UnitTransfer :=
  ⟨32, 4096, 32768, by decide, by decide, by decide, by decide, by decide, by decide⟩

/-- All of these deficits are reported, none is scheduled, and the main loop turns without a wait and
without a change. -/
theorem wrapped_deficits_spin : ∃ task, (senderSystem idleCrate fecSenders).Reachable task ∧
    task.mode.phase = .waitingForReports ∧
    (∀ peerId ∈ task.shared.activeQuorum.active, task.mode.roundReports[peerId]? ≠ none) ∧
    task.mode.hasPendingRepairWork ∧ task.mode.nextExtraSymbol = none ∧
    ∀ now submit, task.mode.turn idleCrate task.shared now submit =
      some (task.shared, task.mode, [], .again) := by
  obtain ⟨task, reachable, members, waiting, heard, asked, sound⟩ :=
    wrappedDeficits.all_asked idleCrate
  obtain ⟨pending, required, emitted⟩ := UnitTransfer.asked_totals asked
  obtain ⟨log, windowed⟩ := reachable_windowed reachable
  have count : task.mode.roundReports.size = task.shared.activeQuorum.active.card :=
    FecSender.reports_size windowed.tracked.rounds.members heard
  have some : task.mode.roundReports.size ≠ 0 := by
    rw [count, members]
    decide
  have closed : task.mode.repairWindowSymbols = 0 := by
    rw [windowed.window waiting some, required]
    rfl
  have noExtra : task.mode.nextExtraSymbol = none := if_pos (by rw [closed]; exact Nat.zero_le _)
  refine ⟨task, reachable, waiting, heard, pending, noExtra, ?_⟩
  intro now submit
  exact (FecSender.full_quorum_turn windowed.tracked waiting count pending sound now submit).mpr noExtra

end Nextmini.Session
