import Nextmini.Session.FecDomain

/-!
# Symbols longer than the crate is told

A symbol size of 98304 bytes reaches the crate as one of 32768, so the crate sees three symbols in a
block of which the session has one. Once the receiver leaves the block to the crate, the source
symbol and two repair symbols pass for the three source symbols, and what the crate puts together
from them is written as the block. This is so for every object and for every systematic code.
-/

namespace Nextmini.Session.Network

open Nextmini.Library Nextmini.Library.BigEndian
open Nextmini.Messages

set_option autoImplicit false

def cutOti : Oti := ⟨98304, 32768⟩

theorem cut_oti (seed : UInt64) : BlockParams.oti ⟨1, 98304, seed⟩ = cutOti := by
  simp [BlockParams.oti, cutOti]

/-- What a systematic code makes of a block of three symbols: repair packets of the symbol size, and
of packets with the first three ids, once all are there, a symbol of that size from each. -/
structure AssemblesThree (crate : FountainCrate) : Prop where
  repairs : ∀ block index, block.length = 98304 →
    (crate.repairPacket cutOti block index).length = 32768
  waits : ∀ first, crate.decode cutOti 98304 [(0, first)] = none
  waitsOn : ∀ first second, crate.decode cutOti 98304 [(0, first), (1, second)] = none
  assembles : ∀ first second third,
    crate.decode cutOti 98304 [(0, first), (1, second), (2, third)] =
      some (first.take 32768 ++ second.take 32768 ++ third.take 32768)

/-! ## The sender -/

def oversizeManifest : LosslessSessionManifest := ⟨98304, 98304, 1, .fec (.newRaptorq 1 [1])⟩

def oversizePlan : BlockPlan where
  totalBytes := 98304
  blockSize := 98304
  totalBlocks := 1
  blockSizePositive := Nat.succ_pos _
  blockCount := Eq.symm rfl
  bytesFit := Nat.lt_of_sub_ne_zero nofun

def oversizeRequest (object : List Byte) : SenderRequest :=
  { soleBlockRequest with blockSize := 98304, totalBytes := 98304, sourceBuffer := object }

def oversizeSender (object : List Byte) : SenderTask FecSender where
  shared :=
    { soleBlockSender.shared with
      manifest := oversizeManifest
      plan := oversizePlan
      source := ⟨object⟩ }
  mode := { soleBlockFecSender.mode with geometry := ⟨1, 98304⟩ }
  stage := .starting

theorem oversize_planned : BlockPlan.new 98304 98304 = .ok oversizePlan := rfl

theorem oversize_laid_out : oversizePlan.symbolGeometry 1 = .ok ⟨1, 98304⟩ := rfl

theorem oversize_span : oversizePlan.blockSpan 0 = some ⟨0, 98304⟩ := rfl

theorem oversize_starts (object : List Byte) : fecSenders (oversizeSender object) := by
  refine ⟨⟨true, 1, [1]⟩, false, oversizeRequest object,
    ⟨0, [7], object, oversizeManifest, 1, 0⟩, ?_, ?_⟩
  · have derived : deriveSenderPolicy ⟨true, 1, [1]⟩ = .ok (.fec (.newRaptorq 1 [1])) := rfl
    have sized : validateBlockSize 98304 = .ok 98304 := rfl
    simp only [senderConfig, oversizeRequest, sized, derived, oversize_planned]
    rfl
  · have planned : BlockPlan.new oversizeManifest.totalBytes oversizeManifest.blockSize.toNat =
        .ok oversizePlan := rfl
    have kind : oversizeManifest.mode = .fec (.newRaptorq 1 [1]) := rfl
    have created : FecSender.new oversizeManifest oversizePlan =
        some (oversizeSender object).mode := by
      simp only [FecSender.new, kind, LosslessSessionFecMode.newRaptorq, oversize_laid_out]
      rfl
    simp only [SessionSender.new, planned, kind, created]
    rfl

def oversizeBlock (object : List Byte) : List Byte :=
  BlockSource.paddedSymbolBytes ⟨object⟩ ⟨0, 98304⟩ ⟨1, 98304⟩

def oversizeSymbol (object : List Byte) : List Byte :=
  slice (oversizeBlock object) (0 * 98304) (0 * 98304 + 98304)

def oversizeEncoder (object : List Byte) : Encoder := ⟨cutOti, oversizeBlock object, 1⟩

def oversizeJoined (object : List Byte) : SenderTask FecSender where
  shared := { (oversizeSender object).shared with activeQuorum := ⟨{7}, {7}, false⟩ }
  mode := (oversizeSender object).mode
  stage := .negotiating 1 250

def oversizeOpening (object : List Byte) : SenderTask FecSender where
  shared := { (oversizeSender object).shared with activeQuorum := ⟨{7}, {7}, true⟩ }
  mode := (oversizeSender object).mode
  stage := .transferring

/-- The sender between two rounds, the next symbol to make being `fountain`. -/
def oversizeBetween (object : List Byte) (encoder : Option Encoder) (fountain : Nat)
    (roundId : UInt32) : SenderTask FecSender where
  shared := { (oversizeOpening object).shared with payloadEmitted := true }
  mode :=
    { (oversizeSender object).mode with
      blocks := [⟨1, fountain, 0, 0, encoder⟩]
      currentSourceCache := some (0, [oversizeSymbol object])
      currentRoundId := roundId }
  stage := .transferring

def oversizeWithin (object : List Byte) (encoder : Option Encoder) (fountain : Nat)
    (roundId : UInt32) : SenderTask FecSender where
  shared := (oversizeBetween object encoder fountain roundId).shared.startQuorumFeedbackWait 0
  mode :=
    { (oversizeBetween object encoder fountain roundId).mode with
      roundSourceDoneSent := true
      phase := .waitingForReports }
  stage := .transferring

def oneMissing : NeedReport := .fec [⟨0, 1⟩]

/-- With the receiver's report, and so many of the one symbol it asks for sent. -/
def oversizeReported (object : List Byte) (encoder : Option Encoder) (fountain emitted : Nat)
    (roundId : UInt32) : SenderTask FecSender where
  shared := (oversizeWithin object encoder fountain roundId).shared
  mode :=
    { (oversizeWithin object encoder fountain roundId).mode with
      blocks := [⟨1, fountain, 1, emitted, encoder⟩]
      roundReports := (∅ : ReportMap).insert 7 oneMissing
      repairWindowSymbols := 1 }
  stage := .transferring

/-- With the report that the receiver is complete. -/
def oversizeCovered (object : List Byte) (encoder : Option Encoder) (fountain : Nat)
    (roundId : UInt32) : SenderTask FecSender where
  shared := (oversizeWithin object encoder fountain roundId).shared
  mode :=
    { (oversizeWithin object encoder fountain roundId).mode with
      roundReports := (∅ : ReportMap).insert 7 .complete
      roundComplete := true }
  stage := .transferring

section Sender

variable (crate : FountainCrate) (object : List Byte) (encoder : Option Encoder) (fountain : Nat)
  (roundId : UInt32)

theorem oversize_begins : (oversizeSender object).step crate (.turn 0 openIngress) =
    some ({ oversizeSender object with stage := .negotiating 1 0 }, []) := rfl

theorem oversize_advertises :
    SenderTask.step crate { oversizeSender object with stage := .negotiating 1 0 }
        (.turn 0 openIngress) =
      some ({ oversizeSender object with stage := .awaitingReady 1 250 },
        [.control (.manifest oversizeManifest)]) := by
  have valid : oversizeManifest.validate = .ok () := rfl
  obtain ⟨bytes, encoded⟩ : ∃ bytes, encodeControl 0 (.manifest oversizeManifest) = some bytes :=
    ⟨_, (encode_control_some_iff 0 _ _).mpr ⟨valid, rfl⟩⟩
  have sent : (oversizeSender object).shared.sendManifest =
      some [.control (.manifest oversizeManifest)] := by
    have carried : encodeControl (oversizeSender object).shared.sessionId
        (.manifest (oversizeSender object).shared.manifest) = some bytes := encoded
    simp only [SenderShared.sendManifest, sendFrame, SessionFrame.encode, carried]
    rfl
  simp only [SenderTask.step, SenderTask.onTurn, SenderTask.negotiate, SenderTask.advertise, sent]
  rfl

theorem oversize_hears_ready :
    SenderTask.step crate { oversizeSender object with stage := .awaitingReady 1 250 }
        (.control ⟨controlBytes .ready, some 7⟩) = some (oversizeJoined object, []) := by
  obtain ⟨header, decoded⟩ : ∃ header,
      decodeControl (controlBytes .ready) = some (header, .ready) := ⟨_, rfl⟩
  simp only [SenderTask.step, SenderTask.onControl, handleControl, decoded]
  rfl

theorem oversize_opens : (oversizeJoined object).step crate (.turn 0 openIngress) =
    some (oversizeOpening object, []) := rfl

theorem sole_tree_accepts {mode : FecSender} (trees : mode.treeIds = [1])
    (cursor : mode.nextTreeRr = 0) (symbolId : Nat) (payload : List Byte) :
    mode.trySendSymbol openIngress 0 symbolId payload =
      some (mode, .blockSymbol 0 symbolId 1 payload) := by
  obtain ⟨_, _, _, _, _, _, _, _, _, _, _, _, _⟩ := mode
  simp only at trees cursor
  subst trees cursor
  simp [FecSender.trySendSymbol, FecSender.acceptingTree, openIngress, List.range_one]

theorem oversize_sends : (oversizeOpening object).step crate (.turn 0 openIngress) =
    some (oversizeBetween object none 1 0, [.blockSymbol 0 0 1 (oversizeSymbol object)]) := by
  have read : (oversizeOpening object).mode.sourceSymbolPayload (oversizeOpening object).shared 0 0 =
      ({ (oversizeOpening object).mode with
        currentSourceCache := some (0, [oversizeSymbol object]) },
        some (oversizeSymbol object)) := by
    have placed : (oversizeOpening object).shared.plan.blockSpan 0 = some ⟨0, 98304⟩ := oversize_span
    simp only [FecSender.sourceSymbolPayload, placed]
    rfl
  have handed : (oversizeOpening object).mode.sendSourceSymbol (oversizeOpening object).shared
      openIngress 0 0 = ((oversizeBetween object none 1 0).shared,
        (oversizeBetween object none 1 0).mode, [.blockSymbol 0 0 1 (oversizeSymbol object)],
        true) := by
    rw [FecSender.sendSourceSymbol, read]
    simp only
    rw [sole_tree_accepts rfl rfl]
    rfl
  have next : (oversizeOpening object).mode.nextSourceSymbol = some (0, 0) := rfl
  have sound : (oversizeOpening object).mode.protocolError = false := rfl
  have turned : (oversizeOpening object).mode.turn crate (oversizeOpening object).shared 0
      openIngress = some ((oversizeBetween object none 1 0).shared,
        (oversizeBetween object none 1 0).mode, [.blockSymbol 0 0 1 (oversizeSymbol object)],
        .again) := by
    simp only [FecSender.turn, sound, next, handed]
    rfl
  have stage : (oversizeOpening object).stage = .transferring := rfl
  simp only [SenderTask.step, SenderTask.onTurn, stage, SenderLoop.turn, turned]
  rfl

theorem oversize_opens_round :
    (oversizeBetween object encoder fountain roundId).step crate (.turn 0 openIngress) =
      some (oversizeWithin object encoder fountain roundId, [.control (.sourceDone roundId)]) := rfl

theorem need_handled {task : SenderTask FecSender} {report : NeedReport} {bytes : List Byte}
    (encoded : encodeControl 0 (.need roundId report) = some bytes)
    (canonical : report.canonical = report) (member : 7 ∈ task.shared.activeQuorum.active)
    (valid : task.shared.manifest.validateControl (.need roundId report) = .ok ()) :
    handleControl task.shared task.mode ⟨bytes, some 7⟩ =
      task.mode.onNeed task.shared 7 roundId report := by
  simp only [handleControl, decode_control_encode encoded, LosslessSessionControl.canonical,
    canonical, member, not_true_eq_false, if_false, valid]
  rfl

theorem need_accepted {report : NeedReport} (valid : report.validate = .ok ())
    (accepted : oversizeManifest.validateNeedReport report = .ok ()) :
    oversizeManifest.validateControl (.need roundId report) = .ok () := by
  have offered : oversizeManifest.validate = .ok () := rfl
  simp only [LosslessSessionManifest.validateControl, offered, LosslessSessionControl.validate,
    valid, accepted]
  rfl

theorem one_missing_accepted : oversizeManifest.validateNeedReport oneMissing = .ok () := by
  have offered : oversizeManifest.validate = .ok () := rfl
  simp only [LosslessSessionManifest.validateNeedReport, offered]
  rfl

theorem oversize_window : FecSender.recalculateRepairWindow (oversizeWithin object encoder fountain
      roundId).shared
    { (oversizeReported object encoder fountain 0 roundId).mode with repairWindowSymbols := 0 } =
      (oversizeReported object encoder fountain 0 roundId).mode := by
  have required : FecSender.totalRequiredExtraSymbols
      { (oversizeReported object encoder fountain 0 roundId).mode with repairWindowSymbols := 0 } =
        1 := rfl
  have reports : (oversizeReported object encoder fountain 0 roundId).mode.roundReports.size = 1 :=
    rfl
  have quorum : (oversizeWithin object encoder fountain roundId).shared.activeQuorum.active.card =
      1 := rfl
  have clamped : FecSender.clamp32 1 = 1 := by decide
  simp only [FecSender.recalculateRepairWindow, required, reports, quorum, clamped]
  rfl

theorem oversize_hears_deficit {bytes : List Byte}
    (encoded : encodeControl 0 (.need roundId oneMissing) = some bytes) :
    (oversizeWithin object encoder fountain roundId).step crate (.control ⟨bytes, some 7⟩) =
      some (oversizeReported object encoder fountain 0 roundId, []) := by
  have answered : (oversizeWithin object encoder fountain roundId).mode.onNeed
      (oversizeWithin object encoder fountain roundId).shared 7 roundId oneMissing =
        ((oversizeReported object encoder fountain 0 roundId).shared,
          (oversizeReported object encoder fountain 0 roundId).mode) := by
    have first : (oversizeWithin object encoder fountain roundId).mode.roundReports[7]? = none := rfl
    have current : (oversizeWithin object encoder fountain roundId).mode.currentRoundId = roundId :=
      rfl
    have pending : (oversizeReported object encoder fountain 0 roundId).mode.hasPendingRepairWork =
        true := rfl
    have merged : (oversizeWithin object encoder fountain roundId).mode.onNeed
        (oversizeWithin object encoder fountain roundId).shared 7 roundId oneMissing =
          FecSender.afterReport (oversizeWithin object encoder fountain roundId).shared
            { (oversizeReported object encoder fountain 0 roundId).mode with
              repairWindowSymbols := 0 } := by
      simp only [FecSender.onNeed, current, first, ne_eq, not_true_eq_false, if_false]
      rfl
    rw [merged, FecSender.afterReport, oversize_window]
    simp only [pending, not_true_eq_false, and_false, if_false]
    rfl
  have handled : handleControl (oversizeWithin object encoder fountain roundId).shared
      (oversizeWithin object encoder fountain roundId).mode ⟨bytes, some 7⟩ =
        ((oversizeReported object encoder fountain 0 roundId).shared,
          (oversizeReported object encoder fountain 0 roundId).mode) := by
    rw [need_handled roundId encoded rfl (Finset.mem_singleton_self 7)
      (need_accepted roundId rfl one_missing_accepted), answered]
  simp only [SenderTask.step, SenderTask.onControl, handled]
  rfl

theorem oversize_hears_complete {bytes : List Byte}
    (encoded : encodeControl 0 (.need roundId .complete) = some bytes) :
    (oversizeWithin object encoder fountain roundId).step crate (.control ⟨bytes, some 7⟩) =
      some (oversizeCovered object encoder fountain roundId, []) := by
  have accepted : oversizeManifest.validateNeedReport .complete = .ok () := by
    have offered : oversizeManifest.validate = .ok () := rfl
    simp only [LosslessSessionManifest.validateNeedReport, offered]
    rfl
  have answered : (oversizeWithin object encoder fountain roundId).mode.onNeed
      (oversizeWithin object encoder fountain roundId).shared 7 roundId .complete =
        ((oversizeCovered object encoder fountain roundId).shared,
          (oversizeCovered object encoder fountain roundId).mode) := by
    have first : (oversizeWithin object encoder fountain roundId).mode.roundReports[7]? = none := rfl
    have current : (oversizeWithin object encoder fountain roundId).mode.currentRoundId = roundId :=
      rfl
    simp only [FecSender.onNeed, current, first, ne_eq, not_true_eq_false, if_false]
    rfl
  have handled : handleControl (oversizeWithin object encoder fountain roundId).shared
      (oversizeWithin object encoder fountain roundId).mode ⟨bytes, some 7⟩ =
        ((oversizeCovered object encoder fountain roundId).shared,
          (oversizeCovered object encoder fountain roundId).mode) := by
    rw [need_handled roundId encoded rfl (Finset.mem_singleton_self 7)
      (need_accepted roundId rfl accepted), answered]
  simp only [SenderTask.step, SenderTask.onControl, handled]
  rfl

theorem oversize_block_length : (oversizeBlock object).length = 1 * 98304 :=
  BlockSource.padded_symbol_bytes_length ⟨object⟩ ⟨0, 98304⟩ ⟨1, 98304⟩

theorem oversize_encodes (held : encoder = none ∨ encoder = some (oversizeEncoder object)) :
    (oversizeReported object encoder fountain 0 roundId).mode.ensureEncoder
        (oversizeReported object encoder fountain 0 roundId).shared 0 =
      some ((oversizeReported object (some (oversizeEncoder object)) fountain 0 roundId).mode,
        oversizeEncoder object) := by
  rcases held with rfl | rfl
  · have placed : (oversizeReported object none fountain 0 roundId).shared.plan.blockSpan 0 =
        some ⟨0, 98304⟩ := oversize_span
    have built (seed : UInt64) : Encoder.fromBlock ⟨1, 98304, seed⟩ (oversizeBlock object) =
        some (oversizeEncoder object) := by
      rw [@Encoder.from_block_of_length ⟨1, 98304, seed⟩ _ Nat.one_pos
        (oversize_block_length object), cut_oti, oversizeEncoder]
    have present : (oversizeReported object none fountain 0 roundId).mode.blocks[0]? =
        some ⟨1, fountain, 1, 0, none⟩ := rfl
    simp only [FecSender.ensureEncoder, present, placed, Option.bind_eq_bind, Option.bind_some]
    exact Option.bind_eq_some_iff.mpr ⟨oversizeEncoder object, built _, rfl⟩
  · rfl

def oversizeRepair (crate : FountainCrate) (object : List Byte) (fountain : Nat) : List Byte :=
  crate.repairPacket cutOti (oversizeBlock object) (fountain - 1)

theorem oversize_repairs (held : encoder = none ∨ encoder = some (oversizeEncoder object))
    (small : 1 + (fountain - 1) < encodingSymbolIdLimit) :
    (oversizeReported object encoder fountain 0 roundId).step crate (.turn 0 openIngress) =
      some (oversizeReported object (some (oversizeEncoder object)) (fountain + 1) 1 roundId,
        [.blockSymbol 0 fountain 1 (oversizeRepair crate object fountain)]) := by
  have coded : (oversizeEncoder object).codedSymbol crate fountain =
      some (oversizeRepair crate object fountain) := if_pos small
  have handed : (oversizeReported object encoder fountain 0 roundId).mode.sendExtraSymbol crate
      (oversizeReported object encoder fountain 0 roundId).shared openIngress 0 fountain =
        some ((oversizeReported object (some (oversizeEncoder object)) (fountain + 1) 1
            roundId).shared,
          (oversizeReported object (some (oversizeEncoder object)) (fountain + 1) 1 roundId).mode,
          [.blockSymbol 0 fountain 1 (oversizeRepair crate object fountain)], true) := by
    rw [FecSender.sendExtraSymbol, oversize_encodes object encoder fountain roundId held]
    simp only [coded, Option.bind_eq_bind, Option.bind_some]
    rw [sole_tree_accepts rfl rfl]
    rfl
  have source : (oversizeReported object encoder fountain 0 roundId).mode.nextSourceSymbol = none :=
    rfl
  have extra : (oversizeReported object encoder fountain 0 roundId).mode.nextExtraSymbol =
      some (0, fountain) := rfl
  have sound : (oversizeReported object encoder fountain 0 roundId).mode.protocolError = false := rfl
  have turned : (oversizeReported object encoder fountain 0 roundId).mode.turn crate
      (oversizeReported object encoder fountain 0 roundId).shared 0 openIngress =
        some ((oversizeReported object (some (oversizeEncoder object)) (fountain + 1) 1
            roundId).shared,
          (oversizeReported object (some (oversizeEncoder object)) (fountain + 1) 1 roundId).mode,
          [.blockSymbol 0 fountain 1 (oversizeRepair crate object fountain)], .again) := by
    simp only [FecSender.turn, sound, source, extra, handed]
    rfl
  have stage : (oversizeReported object encoder fountain 0 roundId).stage = .transferring := rfl
  simp only [SenderTask.step, SenderTask.onTurn, stage, SenderLoop.turn, turned]
  rfl

theorem oversize_closes_round :
    (oversizeReported object encoder fountain 1 roundId).step crate (.turn 0 openIngress) =
      some (oversizeBetween object encoder fountain (nextRoundId roundId), []) := rfl

theorem oversize_ends :
    (oversizeCovered object encoder fountain roundId).step crate (.turn 0 openIngress) =
      some ({ oversizeCovered object encoder fountain roundId with stage := .finished .completed },
        []) := rfl

end Sender

/-! ## The receiver -/

/-- A host that refuses the memory of the receiver's fast path, so that the decoder is called. -/
def crampedHost : Host := ⟨fun site _ => site ≠ .systematicBlock⟩

def oversizeShared : ReceiverShared where
  sessionId := 0
  fecEnabled := true
  sinkBuffer := some (ReceiverShared.growSink [] 98304)
  manifest := some oversizeManifest
  plan := some oversizePlan
  completeBlocks := ∅

def oversizeMode (cache : NeedCache) (blocks : Std.ExtTreeMap Nat FecBlockState) : FecReceiver where
  toNeedCache := cache
  geometry := ⟨1, 98304⟩
  blocks := blocks

def oversizeReceiver (cache : NeedCache) (blocks : Std.ExtTreeMap Nat FecBlockState) :
    ReceiverTask where
  receiver :=
    { shared := oversizeShared
      mode := some (.fec (oversizeMode cache blocks))
      lifecycle := .active }
  replay := none

def oversizeWritten (cache : NeedCache) (blocks : Std.ExtTreeMap Nat FecBlockState)
    (sink : List Byte) : ReceiverTask where
  receiver :=
    { shared := { oversizeShared with sinkBuffer := some sink, completeBlocks := {0} }
      mode := some (.fec (oversizeMode cache blocks))
      lifecycle := .active }
  replay := none

section Receiver

variable {crate : FountainCrate} {cache : NeedCache} {blocks : Std.ExtTreeMap Nat FecBlockState}
  {symbols : SymbolMap} {symbolId : UInt32} {payload : List Byte}

/-- With memory for everything but the fast path, a block is what the crate makes of its symbols. -/
theorem cramped_decode (known : ∀ symbol ∈ symbols.toList, symbol.1 < encodingSymbolIdLimit) :
    FecReceiver.decodeBlock crate crampedHost 0 0 ⟨1, 98304⟩ 1 98304 ⟨symbols⟩ =
      some ((crate.decode cutOti 98304
        (symbols.toList.map fun symbol => (symbol.1, resizeZero symbol.2 98304))).map
          fun flatData => (flatSymbol flatData 98304 0).take 98304) := by
  have roomy (site : ReserveSite) (bytes : Nat) (other : site ≠ .systematicBlock) :
      crampedHost.tryReserve site bytes = true := decide_eq_true other
  have collected (seed : UInt64) : (symbols.toList.mapM fun symbol =>
      FecReceiver.decoderInput (.fromBlock ⟨1, 98304, seed⟩) 1 symbol.1 symbol.2) =
        some (symbols.toList.map fun symbol => (symbol.1, resizeZero symbol.2 98304)) := by
    have marked (symbol : Nat × List Byte) := decoder_input_received ⟨1, 98304, seed⟩ symbol
    simp only [marked]
    exact List.mapM_pure
  have decoded (seed : UInt64) : (Decoder.fromBlock ⟨1, 98304, seed⟩).decode crate
      (symbols.toList.map fun symbol => (symbol.1, resizeZero symbol.2 98304)) =
        some ((crate.decode cutOti 98304
          (symbols.toList.map fun symbol => (symbol.1, resizeZero symbol.2 98304))).map
            fun flatData => [flatSymbol flatData 98304 0]) := by
    rw [Decoder.decode, if_pos]
    · simp only [Decoder.fromBlock, cut_oti, Nat.one_mul, List.range_one, List.map_cons, List.map_nil,
        Nat.zero_mul]
    · intro packet member
      obtain ⟨symbol, held, rfl⟩ := List.mem_map.mp member
      exact known symbol held
  unfold FecReceiver.decodeBlock
  rw [if_neg (by simp [roomy])]
  simp only [collected, decoded, Option.bind_eq_bind, Option.bind_some]
  cases crate.decode cutOti 98304
      (symbols.toList.map fun symbol => (symbol.1, resizeZero symbol.2 98304)) with
  | none => rfl
  | some flatData => simp [roomy]

theorem grown_block_tried (fresh : symbolId.toNat ∉ symbols) :
    (oversizeMode cache (blocks.insert 0 ⟨symbols.insert symbolId.toNat
        payload⟩)).tryDecodeFecBlock crate crampedHost oversizeShared 0 (.newRaptorq 1 [1]) =
      (FecReceiver.decodeBlock crate crampedHost 0 0 ⟨1, 98304⟩ 1 98304
          ⟨symbols.insert symbolId.toNat payload⟩).map fun answer =>
        let grown := oversizeMode cache (blocks.insert 0 ⟨symbols.insert symbolId.toNat payload⟩)
        match answer with
        | none => (grown, oversizeShared)
        | some block => grown.completeBlock oversizeShared 0 block := by
  have planned : oversizeShared.plan = some oversizePlan := rfl
  have count : (LosslessSessionFecMode.newRaptorq 1 [1]).symbolsPerBlock.toNat = 1 := rfl
  have placed : oversizePlan.blockLen 0 = some 98304 := rfl
  have session : oversizeShared.sessionId = 0 := rfl
  have refused : FecReceiver.systematicBlockPayload crampedHost
      ⟨symbols.insert symbolId.toNat payload⟩ 1 98304 98304 = none := rfl
  have full : ¬(symbols.insert symbolId.toNat payload).size < 1 := by
    have new : symbols.contains symbolId.toNat = false :=
      Bool.eq_false_iff.mpr fun held => fresh (Std.ExtTreeMap.mem_iff_contains.mpr held)
    simp [Std.ExtTreeMap.size_insert, new]
  have first : (oversizeMode cache (blocks.insert 0 ⟨symbols.insert symbolId.toNat
      payload⟩)).blocks[0]? = some ⟨symbols.insert symbolId.toNat payload⟩ :=
    Std.ExtTreeMap.getElem?_insert_self
  have geometry : (oversizeMode cache (blocks.insert 0 ⟨symbols.insert symbolId.toNat
      payload⟩)).geometry = ⟨1, 98304⟩ := rfl
  simp only [FecReceiver.tryDecodeFecBlock, planned, first, count, full, if_false, placed, geometry,
    refused, session]
  cases FecReceiver.decodeBlock crate crampedHost 0 0 ⟨1, 98304⟩ 1 98304
      ⟨symbols.insert symbolId.toNat payload⟩ with
  | none => rfl
  | some answer =>
    cases answer with
    | none => rfl
    | some block => rfl

/-- A new symbol of the one block is kept, or completes the block with what the crate makes of it. -/
theorem symbol_tried (held : (blocks[0]?).getD ⟨∅⟩ = ⟨symbols⟩) (fresh : symbolId.toNat ∉ symbols)
    (short : blockSymbolFixedBodyLen + payload.length < 2 ^ 32) :
    (oversizeMode cache blocks).handleBlockSymbolFrame crate crampedHost oversizeShared
        (encodeBlockSymbol 0 0 symbolId 1 payload) =
      (FecReceiver.decodeBlock crate crampedHost 0 0 ⟨1, 98304⟩ 1 98304
          ⟨symbols.insert symbolId.toNat payload⟩).map fun answer =>
        let grown := oversizeMode cache (blocks.insert 0 ⟨symbols.insert symbolId.toNat payload⟩)
        match answer with
        | none => (grown, oversizeShared)
        | some block => grown.completeBlock oversizeShared 0 block := by
  have installed : oversizeShared.manifest = some oversizeManifest := rfl
  have kind : oversizeManifest.mode = .fec (.newRaptorq 1 [1]) := rfl
  have accepted : oversizeManifest.validateBlockSymbol ⟨0, symbolId, 1⟩ = .ok () := by
    have valid : oversizeManifest.validate = .ok () := rfl
    simp only [LosslessSessionManifest.validateBlockSymbol, kind,
      LosslessSessionManifest.validateBlockId, valid]
    rfl
  have zero : (0 : UInt64).toNat = 0 := rfl
  have missing : 0 ∉ oversizeShared.completeBlocks := Finset.notMem_empty 0
  have decoded := decode_block_symbol_encode 0 0 symbolId 1 payload short
  have grown : ((oversizeMode cache blocks).blocks[0]?).getD ⟨∅⟩ = ⟨symbols⟩ := held
  simp only [FecReceiver.handleBlockSymbolFrame, installed, kind, decoded, accepted, zero, missing,
    if_false, grown, fresh]
  exact grown_block_tried fresh

theorem symbol_received {mode : FecReceiver} {shared : ReceiverShared}
    (short : blockSymbolFixedBodyLen + payload.length < 2 ^ 32)
    (handled : (oversizeMode cache blocks).handleBlockSymbolFrame crate crampedHost oversizeShared
      (encodeBlockSymbol 0 0 symbolId 1 payload) = some (mode, shared))
    (silent : mode.completeReported = false) :
    (oversizeReceiver cache blocks).step crate crampedHost
        (.frame ⟨encodeBlockSymbol 0 0 symbolId 1 payload, none⟩) =
      some (⟨⟨shared, some (.fec mode), .active⟩, none⟩, []) := by
  have noControl := decode_control_block_symbol 0 0 symbolId 1 payload
  have noData := decode_block_data_block_symbol 0 0 symbolId 1 payload
  have decoded := decode_block_symbol_encode 0 0 symbolId 1 payload short
  have inLoop : (oversizeReceiver cache blocks).inLoop = true := rfl
  have receiver : (oversizeReceiver cache blocks).receiver.handleBlockSymbolFrame crate crampedHost
      (encodeBlockSymbol 0 0 symbolId 1 payload) = some ⟨shared, some (.fec mode), .active⟩ := by
    show (((oversizeMode cache blocks).handleBlockSymbolFrame crate crampedHost oversizeShared
      (encodeBlockSymbol 0 0 symbolId 1 payload)).bind _) = _
    rw [handled]
    rfl
  have reported : SessionReceiver.reportedComplete ⟨shared, some (.fec mode), .active⟩ = false :=
    silent
  simp only [ReceiverTask.step, inLoop, if_true, SessionReceiver.receiveFrame,
    SessionReceiver.dispatchFrame, noControl, noData, decoded, Option.isSome_none, Option.isSome_some,
    receiver, Option.bind_eq_bind, Option.bind_some, reported, Bool.false_eq_true, if_false]
  rfl

theorem symbol_kept (held : (blocks[0]?).getD ⟨∅⟩ = ⟨symbols⟩) (fresh : symbolId.toNat ∉ symbols)
    (short : blockSymbolFixedBodyLen + payload.length < 2 ^ 32)
    (waits : FecReceiver.decodeBlock crate crampedHost 0 0 ⟨1, 98304⟩ 1 98304
      ⟨symbols.insert symbolId.toNat payload⟩ = some none) (silent : cache.completeReported = false) :
    (oversizeReceiver cache blocks).step crate crampedHost
        (.frame ⟨encodeBlockSymbol 0 0 symbolId 1 payload, none⟩) =
      some (oversizeReceiver cache (blocks.insert 0 ⟨symbols.insert symbolId.toNat payload⟩), []) := by
  have tried := @symbol_tried crate cache _ _ _ _ held fresh short
  rw [waits] at tried
  exact symbol_received short tried silent

theorem grow_sink_length (sink : List Byte) (objectLen : Nat) :
    (ReceiverShared.growSink sink objectLen).length = max sink.length objectLen := by
  unfold ReceiverShared.growSink
  split_ifs with short
  · rw [List.length_append, List.length_replicate]
    omega
  · omega

theorem oversize_block_written {block : List Byte} (whole : block.length = 98304) :
    oversizeShared.writeBlock 0 block = { oversizeShared with sinkBuffer := some block } := by
  have planned : oversizeShared.plan = some oversizePlan := rfl
  have bytes : oversizePlan.totalBytes = 98304 := rfl
  have given : oversizeShared.sinkBuffer = some (ReceiverShared.growSink [] 98304) := rfl
  have length : (ReceiverShared.growSink [] 98304).length = 98304 := by
    rw [grow_sink_length, List.length_nil, Nat.zero_max]
  have grown : ReceiverShared.growSink (ReceiverShared.growSink [] 98304) 98304 =
      ReceiverShared.growSink [] 98304 := if_neg (by rw [length]; exact Nat.lt_irrefl _)
  have all : block.take 98304 = block := by rw [← whole, List.take_length]
  have beyond : (ReceiverShared.growSink [] 98304).drop 98304 = [] :=
    List.drop_eq_nil_of_le length.le
  simp only [ReceiverShared.writeBlock, planned, oversize_span, given, bytes, grown, whole,
    Nat.min_self, Nat.zero_add, length, le_rfl, if_true, Nat.sub_zero, all, BufferPatch.overwrite,
    List.take_zero, List.nil_append, beyond, List.append_nil]

/-- What the crate makes of the symbols is written as the block. -/
theorem symbol_completes {block : List Byte} (held : (blocks[0]?).getD ⟨∅⟩ = ⟨symbols⟩)
    (fresh : symbolId.toNat ∉ symbols)
    (short : blockSymbolFixedBodyLen + payload.length < 2 ^ 32) (whole : block.length = 98304)
    (gives : FecReceiver.decodeBlock crate crampedHost 0 0 ⟨1, 98304⟩ 1 98304
      ⟨symbols.insert symbolId.toNat payload⟩ = some (some block))
    (silent : cache.completeReported = false) :
    (oversizeReceiver cache blocks).step crate crampedHost
        (.frame ⟨encodeBlockSymbol 0 0 symbolId 1 payload, none⟩) =
      some (oversizeWritten cache
        ((blocks.insert 0 ⟨symbols.insert symbolId.toNat payload⟩).erase 0) block, []) := by
  have tried := @symbol_tried crate cache _ _ _ _ held fresh short
  rw [gives] at tried
  have completed : (oversizeMode cache (blocks.insert 0 ⟨symbols.insert symbolId.toNat
      payload⟩)).completeBlock oversizeShared 0 block =
      (oversizeMode cache ((blocks.insert 0 ⟨symbols.insert symbolId.toNat payload⟩).erase 0),
        { oversizeShared with sinkBuffer := some block, completeBlocks := {0} }) := by
    simp only [FecReceiver.completeBlock, oversize_block_written whole]
    rfl
  simp only [Option.map_some, completed] at tried
  exact symbol_received short tried silent

def reportedCache (roundId : UInt32) : NeedCache := ⟨false, some roundId, some oneMissing⟩

variable {roundId : UInt32} {bytes : List Byte}

theorem need_sent {report : NeedReport} (valid : report.validate = .ok ()) :
    sendControl 0 (.need roundId report) = some [.need roundId report] := by
  obtain ⟨bytes, encoded⟩ : ∃ bytes, encodeControl 0 (.need roundId report) = some bytes :=
    ⟨_, (encode_control_some_iff 0 _ _).mpr ⟨valid, rfl⟩⟩
  rw [sendControl, encoded, Option.map_some]

theorem later_answered {snapshot : NeedReport} (valid : snapshot.validate = .ok ())
    (later : ∀ last ∈ cache.lastSourceDoneRoundId, last < roundId) :
    answerSourceDone 0 (some snapshot) cache roundId =
      some (⟨snapshot = .complete, some roundId, some snapshot⟩, [.need roundId snapshot]) := by
  have round : answerRound 0 (some snapshot) cache roundId =
      some (⟨snapshot = .complete, some roundId, some snapshot⟩, [.need roundId snapshot]) := by
    rw [answerRound, need_sent valid]
    rfl
  unfold answerSourceDone
  split
  next => exact round
  next last remembered =>
    have before := later last remembered
    rw [if_neg (UInt32.not_lt.mpr (UInt32.le_of_lt before)), if_neg (UInt32.ne_of_lt before).symm,
      round]

theorem source_done_answered {snapshot : NeedReport} {shared : ReceiverShared}
    (encoded : encodeControl 0 (.sourceDone roundId) = some bytes) (session : shared.sessionId = 0)
    (needs : (oversizeMode cache blocks).needReport shared = some snapshot)
    (valid : snapshot.validate = .ok ())
    (later : ∀ last ∈ cache.lastSourceDoneRoundId, last < roundId) :
    ReceiverTask.step crate crampedHost
        ⟨⟨shared, some (.fec (oversizeMode cache blocks)), .active⟩, none⟩ (.frame ⟨bytes, none⟩) =
      some (⟨⟨shared, some (.fec (oversizeMode ⟨snapshot = .complete, some roundId, some snapshot⟩
          blocks)), if snapshot = .complete then .passiveComplete else .active⟩, none⟩,
        [.need roundId snapshot]) := by
  have answered := @later_answered cache roundId snapshot valid later
  have handled : (oversizeMode cache blocks).toNeedCache = cache := rfl
  simp only [ReceiverTask.step, ReceiverTask.inLoop, SessionReceiver.receiveFrame,
    SessionReceiver.dispatchFrame, decode_control_encode encoded, LosslessSessionControl.canonical,
    SessionReceiver.handleControlFrame, SessionReceiver.handleSourceDone, FecReceiver.handleSourceDone,
    needs, session, handled, answered, Option.bind_eq_bind, Option.bind_some]
  by_cases complete : snapshot = .complete
  · simp [SessionReceiver.reportedComplete, ReceiverMode.cache, complete,
      SessionReceiver.enterPassiveComplete, oversizeMode]
  · simp [SessionReceiver.reportedComplete, ReceiverMode.cache, complete, oversizeMode]

/-- Of a block that the crate makes nothing of, one more symbol is asked for. -/
theorem one_missing_reported (held : blocks[0]? = some ⟨symbols⟩) (many : 1 ≤ symbols.size) :
    (oversizeMode cache blocks).needReport oversizeShared = some oneMissing := by
  have deficit : (oversizeMode cache blocks).blockDeficit oversizeShared 0 = 1 := by
    have installed : oversizeShared.manifest = some oversizeManifest := rfl
    have kind : oversizeManifest.mode = .fec (.newRaptorq 1 [1]) := rfl
    have count : (LosslessSessionFecMode.newRaptorq 1 [1]).symbolsPerBlock.toNat = 1 := rfl
    have present : (oversizeMode cache blocks).blocks[0]? = some ⟨symbols⟩ := held
    simp only [FecReceiver.blockDeficit, installed, kind, present, Option.map_some, Option.getD_some,
      count, many, if_true]
  have planned : oversizeShared.plan = some oversizePlan := rfl
  have blocksAre : oversizePlan.totalBlocks = 1 := rfl
  have unfinished : oversizeShared.hasAllBlocks = false := rfl
  have none : oversizeShared.completeBlocks = ∅ := rfl
  simp [FecReceiver.needReport, planned, blocksAre, unfinished, none, deficit, List.range_one,
    oneMissing]

theorem complete_reported {sink : List Byte} : (oversizeMode cache blocks).needReport
    { oversizeShared with sinkBuffer := some sink, completeBlocks := {0} } = some .complete := rfl

theorem oversize_installs
    (encoded : encodeControl 0 (.manifest oversizeManifest) = some bytes) :
    (ReceiverTask.new ⟨0, some [], true⟩).step crate crampedHost (.frame ⟨bytes, none⟩) =
      some (oversizeReceiver .empty ∅, [.ready]) := by
  have planned : BlockPlan.new oversizeManifest.totalBytes oversizeManifest.blockSize.toNat =
      .ok oversizePlan := rfl
  have kind : oversizeManifest.mode = .fec (.newRaptorq 1 [1]) := rfl
  have laidOut : SessionReceiver.receiverMode oversizePlan (.fec (.newRaptorq 1 [1])) =
      some (.fec (oversizeMode .empty ∅)) := rfl
  have grown : ReceiverShared.ensureSinkBufferLen crampedHost ⟨0, true, some [], none, none, ∅⟩
      oversizePlan.totalBytes =
        some ⟨0, true, some (ReceiverShared.growSink [] 98304), none, none, ∅⟩ := rfl
  have ready : sendControl 0 .ready = some [.ready] := rfl
  simp only [ReceiverTask.step, ReceiverTask.new, SessionReceiver.new, SessionReceiver.receiveFrame,
    SessionReceiver.dispatchFrame, decode_control_encode encoded, LosslessSessionControl.canonical,
    SessionReceiver.handleControlFrame, SessionReceiver.installManifest, planned, kind, laidOut,
    grown, ready]
  rfl

end Receiver

/-! ## What the crate makes of the symbols -/

/-- The first third of the source symbol, and the first two repair symbols. -/
def assembledBlock (crate : FountainCrate) (object : List Byte) : List Byte :=
  (oversizeSymbol object).take 32768 ++ oversizeRepair crate object 1 ++
    oversizeRepair crate object 2

section Assembled

variable {crate : FountainCrate}

theorem source_symbol_waits (assembles : AssemblesThree crate) (first : List Byte) :
    FecReceiver.decodeBlock crate crampedHost 0 0 ⟨1, 98304⟩ 1 98304
      ⟨(∅ : SymbolMap).insert 0 first⟩ = some none := by
  have listed : ((∅ : SymbolMap).insert 0 first).toList = [(0, first)] := rfl
  rw [cramped_decode (by simp [listed, encodingSymbolIdLimit]), listed, List.map_singleton,
    assembles.waits]
  rfl

theorem first_repair_waits (assembles : AssemblesThree crate) (first second : List Byte) :
    FecReceiver.decodeBlock crate crampedHost 0 0 ⟨1, 98304⟩ 1 98304
      ⟨((∅ : SymbolMap).insert 0 first).insert 1 second⟩ = some none := by
  have listed : (((∅ : SymbolMap).insert 0 first).insert 1 second).toList =
      [(0, first), (1, second)] := rfl
  rw [cramped_decode (by simp [listed, encodingSymbolIdLimit]), listed]
  simp only [List.map_cons, List.map_nil, assembles.waitsOn, Option.map_none]

theorem take_resize_zero {bytes : List Byte} {count length : Nat} (enough : count ≤ bytes.length)
    (inside : count ≤ length) : (resizeZero bytes length).take count = bytes.take count := by
  rw [resizeZero, List.take_append_of_le_length (by rw [List.length_take]; omega), List.take_take,
    min_eq_left inside]

theorem oversize_symbol_length (object : List Byte) : (oversizeSymbol object).length = 98304 := by
  have whole := oversize_block_length object
  rw [Nat.one_mul] at whole
  rw [oversizeSymbol, slice_length _ _ _ (by omega), Nat.zero_mul, Nat.zero_add, Nat.sub_zero]

theorem oversize_repair_length (assembles : AssemblesThree crate) (object : List Byte)
    (fountain : Nat) : (oversizeRepair crate object fountain).length = 32768 :=
  assembles.repairs _ _ ((oversize_block_length object).trans (Nat.one_mul _))

theorem assembled_block_length (assembles : AssemblesThree crate) (object : List Byte) :
    (assembledBlock crate object).length = 98304 := by
  simp only [assembledBlock, List.length_append, List.length_take, oversize_symbol_length,
    oversize_repair_length assembles]
  omega

theorem second_repair_assembles (assembles : AssemblesThree crate) (object : List Byte) :
    FecReceiver.decodeBlock crate crampedHost 0 0 ⟨1, 98304⟩ 1 98304
      ⟨(((∅ : SymbolMap).insert 0 (oversizeSymbol object)).insert 1
        (oversizeRepair crate object 1)).insert 2 (oversizeRepair crate object 2)⟩ =
      some (some (assembledBlock crate object)) := by
  have listed : ((((∅ : SymbolMap).insert 0 (oversizeSymbol object)).insert 1
      (oversizeRepair crate object 1)).insert 2 (oversizeRepair crate object 2)).toList =
        [(0, oversizeSymbol object), (1, oversizeRepair crate object 1),
          (2, oversizeRepair crate object 2)] := rfl
  have source : (resizeZero (oversizeSymbol object) 98304).take 32768 =
      (oversizeSymbol object).take 32768 :=
    take_resize_zero (by rw [oversize_symbol_length]; omega) (by omega)
  have repair (fountain : Nat) : (resizeZero (oversizeRepair crate object fountain) 98304).take 32768 =
      oversizeRepair crate object fountain := by
    have size := oversize_repair_length assembles object fountain
    rw [take_resize_zero (by omega) (by omega), ← size, List.take_length]
  have made : crate.decode cutOti 98304 [(0, resizeZero (oversizeSymbol object) 98304),
      (1, resizeZero (oversizeRepair crate object 1) 98304),
      (2, resizeZero (oversizeRepair crate object 2) 98304)] =
        some (assembledBlock crate object) := by
    rw [assembles.assembles, source, repair, repair, assembledBlock]
  have whole := assembled_block_length assembles object
  have all : (flatSymbol (assembledBlock crate object) 98304 0).take 98304 =
      assembledBlock crate object := by
    rw [flat_symbol_slice _ _ _ (by omega), slice, List.drop_zero, Nat.zero_add, List.take_take,
      Nat.min_self, ← whole, List.take_length]
  rw [cramped_decode (by simp [listed, encodingSymbolIdLimit]), listed]
  simp only [List.map_cons, List.map_nil, made, Option.map_some, all]

end Assembled

/-! ## The run -/

/-- A run leads to this sender and this state of receiver 7, with these frames on the wire. -/
def Reaches (crate : FountainCrate) (start : Network FecSender) (sender : SenderTask FecSender)
    (receiver : ReceiverTask) (wire : List WireFrame) : Prop :=
  ∃ events net, (system crate fecSenders).Run start events net ∧ net.sender = sender ∧
    net.receivers 7 = receiver ∧ ∀ sent ∈ wire, sent ∈ net.wire

section Run

variable {crate : FountainCrate} {start : Network FecSender} {sender next : SenderTask FecSender}
  {receiver after : ReceiverTask} {wire : List WireFrame} {bytes : List Byte}

theorem Reaches.silent (reached : Reaches crate start sender receiver wire)
    (stepped : sender.step crate (.turn 0 openIngress) = some (next, [])) :
    Reaches crate start next receiver [] := by
  obtain ⟨events, net, run, rfl, received, _⟩ := reached
  have step : net.step crate (.sender (.turn 0 openIngress)) = some (net.afterSender next []) := by
    simp [step, arrives, stepped]
  exact ⟨_, _, .snoc run step, rfl, received, by simp⟩

theorem Reaches.sends (reached : Reaches crate start sender receiver wire) {frame : SessionFrame}
    (stepped : sender.step crate (.turn 0 openIngress) = some (next, [frame]))
    (encoded : frame.encode sender.shared.sessionId = some bytes) :
    Reaches crate start next receiver [⟨none, bytes⟩] := by
  obtain ⟨events, net, run, rfl, received, _⟩ := reached
  have step : net.step crate (.sender (.turn 0 openIngress)) =
      some (net.afterSender next [frame]) := by
    simp [step, arrives, stepped]
  refine ⟨_, _, .snoc run step, rfl, received, ?_⟩
  simp [afterSender, sentBySender, encoded]

theorem Reaches.hears (reached : Reaches crate start sender receiver wire)
    (sent : ⟨some 7, bytes⟩ ∈ wire)
    (stepped : sender.step crate (.control ⟨bytes, some 7⟩) = some (next, [])) :
    Reaches crate start next receiver [] := by
  obtain ⟨events, net, run, rfl, received, onWire⟩ := reached
  have arrived : net.arrives (.sender (.control ⟨bytes, some 7⟩)) = true :=
    List.any_eq_true.mpr ⟨_, onWire _ sent, by simp⟩
  have step : net.step crate (.sender (.control ⟨bytes, some 7⟩)) =
      some (net.afterSender next []) := by
    simp [step, arrived, stepped]
  exact ⟨_, _, .snoc run step, rfl, received, by simp⟩

theorem Reaches.receives (reached : Reaches crate start sender receiver wire)
    (sent : ⟨none, bytes⟩ ∈ wire)
    (stepped : receiver.step crate crampedHost (.frame ⟨bytes, none⟩) = some (after, [])) :
    Reaches crate start sender after [] := by
  obtain ⟨events, net, run, same, rfl, onWire⟩ := reached
  have arrived : net.arrives (.receiver 7 crampedHost (.frame ⟨bytes, none⟩)) = true :=
    List.any_eq_true.mpr ⟨_, onWire _ sent, by simp⟩
  have step : net.step crate (.receiver 7 crampedHost (.frame ⟨bytes, none⟩)) =
      some (net.afterReceiver 7 after []) := by
    simp [step, arrived, stepped]
  refine ⟨_, _, .snoc run step, same, ?_, by simp⟩
  simp only [afterReceiver, Function.update_self]

theorem Reaches.answers (reached : Reaches crate start sender receiver wire)
    (sent : ⟨none, bytes⟩ ∈ wire) {control : LosslessSessionControl} {reply : List Byte}
    (stepped : receiver.step crate crampedHost (.frame ⟨bytes, none⟩) = some (after, [control]))
    (encoded : encodeControl receiver.receiver.shared.sessionId control = some reply) :
    Reaches crate start sender after [⟨some 7, reply⟩] := by
  obtain ⟨events, net, run, same, rfl, onWire⟩ := reached
  have arrived : net.arrives (.receiver 7 crampedHost (.frame ⟨bytes, none⟩)) = true :=
    List.any_eq_true.mpr ⟨_, onWire _ sent, by simp⟩
  have step : net.step crate (.receiver 7 crampedHost (.frame ⟨bytes, none⟩)) =
      some (net.afterReceiver 7 after [control]) := by
    simp [step, arrived, stepped]
  refine ⟨_, _, .snoc run step, same, ?_, ?_⟩
  · simp only [afterReceiver, Function.update_self]
  · simp [afterReceiver, sentByReceiver, encoded]

variable {object : List Byte} {encoder : Option Encoder} {fountain : Nat} {roundId : UInt32}
  {cache : NeedCache} {blocks : Std.ExtTreeMap Nat FecBlockState} {symbols : SymbolMap}

/-- In one round the receiver asks for a symbol, and the sender sends the next repair symbol. -/
theorem Reaches.round
    (reached : Reaches crate start (oversizeBetween object encoder fountain roundId)
      (oversizeReceiver cache blocks) wire)
    (built : encoder = none ∨ encoder = some (oversizeEncoder object))
    (small : 1 + (fountain - 1) < encodingSymbolIdLimit) (held : blocks[0]? = some ⟨symbols⟩)
    (many : 1 ≤ symbols.size) (later : ∀ last ∈ cache.lastSourceDoneRoundId, last < roundId) :
    Reaches crate start
      (oversizeReported object (some (oversizeEncoder object)) (fountain + 1) 1 roundId)
      (oversizeReceiver (reportedCache roundId) blocks)
      [⟨none, encodeBlockSymbol 0 0 (UInt32.ofNat fountain) 1
        (oversizeRepair crate object fountain)⟩] := by
  obtain ⟨asking, asked⟩ : ∃ bytes, encodeControl 0 (.sourceDone roundId) = some bytes := ⟨_, rfl⟩
  have valid : oneMissing.validate = .ok () := rfl
  obtain ⟨answering, answered⟩ : ∃ bytes, encodeControl 0 (.need roundId oneMissing) = some bytes :=
    ⟨_, (encode_control_some_iff 0 _ _).mpr ⟨valid, rfl⟩⟩
  have opened := reached.sends (oversize_opens_round crate object encoder fountain roundId) asked
  have replied := opened.answers (List.mem_singleton_self _)
    (source_done_answered asked rfl (one_missing_reported held many) valid later) answered
  have heard := replied.hears (List.mem_singleton_self _)
    (oversize_hears_deficit crate object encoder fountain roundId answered)
  exact heard.sends (oversize_repairs crate object encoder fountain roundId built small) rfl

/-- The receiver gets the source symbol and the repair symbols of two rounds, and has a host that
refuses the fast path. It writes what the crate makes of them, and the sender ends completed. -/
theorem oversize_assembled (assembles : AssemblesThree crate) (object : List Byte) :
    ∃ events finish,
      (system crate fecSenders).Run (ofSender (oversizeSender object) (some [])) events finish ∧
        finish.sender.stage = .finished .completed ∧
        finish.sender.shared.activeQuorum.active = {7} ∧
        (finish.receivers 7).receiver.shared.sinkBuffer = some (assembledBlock crate object) := by
  obtain ⟨offer, offered⟩ : ∃ bytes, encodeControl 0 (.manifest oversizeManifest) = some bytes :=
    ⟨_, (encode_control_some_iff 0 _ _).mpr ⟨rfl, rfl⟩⟩
  have repairSize := oversize_repair_length assembles object
  have sourceSize := oversize_symbol_length object
  have began : Reaches crate (ofSender (oversizeSender object) (some [])) (oversizeSender object)
      (.new ⟨0, some [], true⟩) [] := ⟨[], _, .nil, rfl, rfl, by simp⟩
  have advertised := (began.silent (oversize_begins crate object)).sends
    (oversize_advertises crate object) offered
  have joined := (advertised.answers (List.mem_singleton_self _) (oversize_installs offered) rfl).hears
    (List.mem_singleton_self _) (oversize_hears_ready crate object)
  have sent := (joined.silent (oversize_opens crate object)).sends (oversize_sends crate object) rfl
  have kept := sent.receives (List.mem_singleton_self _)
    (@symbol_kept crate .empty ∅ ∅ 0 _ rfl (by simp) (by rw [sourceSize]; decide)
      (source_symbol_waits assembles _) rfl)
  have first := kept.round (.inl rfl) (by decide) Std.ExtTreeMap.getElem?_insert_self le_rfl
    (by simp [NeedCache.empty])
  have waiting := first.receives (List.mem_singleton_self _)
    (@symbol_kept crate (reportedCache 0) _ _ 1 _ rfl (by simp) (by rw [repairSize]; decide)
      (first_repair_waits assembles _ _) rfl)
  have second := (waiting.silent (oversize_closes_round crate object _ _ _)).round (.inr rfl)
    (by decide) Std.ExtTreeMap.getElem?_insert_self (Nat.le_succ 1) (by simp [reportedCache]; decide)
  have written := second.receives (List.mem_singleton_self _)
    (@symbol_completes crate (reportedCache 1) _ _ 2 _ _ rfl (by simp) (by rw [repairSize]; decide)
      (assembled_block_length assembles object) (second_repair_assembles assembles object) rfl)
  have asked := (written.silent (oversize_closes_round crate object _ _ _)).sends
    (oversize_opens_round crate object _ _ _) rfl
  have answered := asked.answers (List.mem_singleton_self _)
    (source_done_answered rfl rfl complete_reported rfl (by simp [reportedCache]; decide)) rfl
  have covered := answered.hears (List.mem_singleton_self _)
    (oversize_hears_complete crate object _ _ _ rfl)
  obtain ⟨events, finish, run, senderIs, receiverIs, _⟩ :=
    covered.silent (oversize_ends crate object _ _ _)
  refine ⟨events, finish, run, ?_, ?_, ?_⟩
  · rw [senderIs]
  · rw [senderIs]
    rfl
  · rw [receiverIs]

end Run

theorem pair_crate_assembles : AssemblesThree pairCrate := by
  have three : (98304 : Nat) ⌈/⌉ 32768 = 3 := rfl
  have told : cutOti.symbolSize = 32768 := rfl
  have ids : List.range 3 = [0, 1, 2] := rfl
  refine ⟨?_, ?_, ?_, ?_⟩
  · intro block index length
    simp only [pairCrate, xorBytes, List.length_zipWith, List.length_take, List.length_drop, told,
      length]
    omega
  · intro first
    simp [pairCrate, three, ids, told, heldSymbol]
  · intro first second
    simp [pairCrate, three, ids, told, heldSymbol]
  · intro first second third
    simp [pairCrate, three, ids, told, heldSymbol]

theorem oversize_block_object (object : List Byte) :
    oversizeBlock object = BlockSource.object ⟨object⟩ 98304 := by
  have whole : (oversizeBlock object).take 98304 = oversizeBlock object :=
    List.take_of_length_le ((oversize_block_length object).trans (Nat.one_mul _)).le
  have cut := BlockSource.padded_symbol_bytes_take ⟨object⟩ ⟨0, 98304⟩ ⟨1, 98304⟩
    (Nat.one_mul _).ge
  have payload := BlockSource.block_payload_eq_slice ⟨object⟩ ⟨0, 98304⟩ 98304 (Nat.zero_add _).le
  rw [← whole, oversizeBlock, cut, payload, slice, List.drop_zero, Nat.zero_add]
  exact List.take_of_length_le (BlockSource.object_length _ _).le

def steppedObject (ones zeros : Nat) : List Byte := List.replicate ones 1 ++ List.replicate zeros 0

theorem stepped_byte (ones zeros position : Nat) :
    (steppedObject ones zeros).getD position 0 = if position < ones then 1 else 0 := by
  rw [steppedObject, List.getD_eq_getElem?_getD]
  by_cases before : position < ones
  · rw [if_pos before, List.getElem?_append_left (by rwa [List.length_replicate]),
      List.getElem?_replicate, if_pos before, Option.getD_some]
  · rw [if_neg before, List.getElem?_append_right (by rw [List.length_replicate]; omega),
      List.getElem?_replicate]
    split_ifs
    · rfl
    · rfl

/-- Where the second of the crate's symbols begins, its repair symbol has the sum of the first bytes
of both. -/
theorem assembled_byte (object : List Byte) : (assembledBlock pairCrate object)[32768]? =
    some (object.getD 0 0 ^^^ object.getD 32768 0) := by
  have front : ((oversizeSymbol object).take 32768).length = 32768 := by
    rw [List.length_take, oversize_symbol_length]
    omega
  have repair := oversize_repair_length pair_crate_assembles object 1
  have sum : oversizeRepair pairCrate object 1 =
      xorBytes ((oversizeBlock object).take 32768) ((oversizeBlock object).drop 32768) := rfl
  have first : (oversizeBlock object)[0]? = some (object.getD 0 0) := by
    rw [oversize_block_object]
    exact BlockSource.object_getElem? _ _ _ (by omega)
  have second : (oversizeBlock object)[32768]? = some (object.getD 32768 0) := by
    rw [oversize_block_object]
    exact BlockSource.object_getElem? _ _ _ (by omega)
  rw [assembledBlock, List.append_assoc, List.getElem?_append_right front.le, front, Nat.sub_self,
    List.getElem?_append_left (by omega), sum, xorBytes, List.getElem?_zipWith,
    List.getElem?_take_of_lt (by omega), List.getElem?_drop, first, Nat.add_zero, second]

end Nextmini.Session.Network
