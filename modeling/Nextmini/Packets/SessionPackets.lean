import Nextmini.Packets.Framing
import Nextmini.Session.EndToEnd

/-!
# Session frames in packets

The frames that sender and receiver sessions send, each in a packet of its own. A list of such
packets comes through the framing, with every message and its session and tree, exactly when all
frames fit the packet envelope; the block sizes and reports that the sessions accept go beyond it.
-/

namespace Nextmini.Packets

open Nextmini.Library Nextmini.Library.BigEndian
open Nextmini.Messages Nextmini.Session

set_option autoImplicit false

structure FrameRoute where
  sessionId : UInt64
  treeId : Option UInt16
  srcIp : Ipv4Addr
  srcPort : UInt16
  dstIp : Ipv4Addr
  dstPort : UInt16
  deriving DecidableEq, Repr

def buildPacket (route : FrameRoute) (payload : List Byte) : Packet :=
  .buildIpv4TcpPacketWithLosslessMeta route.srcIp route.srcPort route.dstIp route.dstPort
    (some ⟨route.sessionId, route.treeId⟩) payload

/-- A frame that is sent, with the bytes that its encoder writes. -/
structure SentFrame where
  route : FrameRoute
  frame : SessionFrame
  bytes : List Byte
  encoded : frame.encode route.sessionId = some bytes

def SentFrame.packet (sent : SentFrame) : Packet := buildPacket sent.route sent.bytes

/-- What the sessions read from a payload, in the order in which they try the kinds. -/
def readFrame (bytes : List Byte) : Option SessionFrame :=
  match decodeControl bytes with
  | some (_, control) => some (.control control)
  | none =>
      match decodeBlockData bytes with
      | some (_, data, payload) => some (.blockData data.blockId.toNat payload)
      | none => (decodeBlockSymbol bytes).map fun (_, symbol, payload) =>
          .blockSymbol symbol.blockId.toNat symbol.symbolId.toNat symbol.treeId payload

/-- The frames of all runs of senders that the runtime starts, and of all runs of receivers. -/
inductive Produced (crate : FountainCrate) : SessionFrame → Prop
  | plain {task next : SenderTask PlainSender} {event : SenderEvent} {frames : List SessionFrame}
      {frame : SessionFrame} : (senderSystem crate plainSenders).Reachable task →
      task.step crate event = some (next, frames) → frame ∈ frames → Produced crate frame
  | fec {task next : SenderTask FecSender} {event : SenderEvent} {frames : List SessionFrame}
      {frame : SessionFrame} : (senderSystem crate fecSenders).Reachable task →
      task.step crate event = some (next, frames) → frame ∈ frames → Produced crate frame
  | receiver {task next : ReceiverTask} {host : Host} {event : ReceiverEvent}
      {sent : List LosslessSessionControl} {message : LosslessSessionControl} :
      (receiverSystem crate).Reachable task → task.step crate host event = some (next, sent) →
      message ∈ sent → Produced crate (.control message)

/-- The packets come through the framing, and each gives back its message, session and tree. -/
structure Faithful (sent : List SentFrame) : Prop where
  framed : ∀ taken stream, writePackets taken (sent.map SentFrame.packet) = some stream →
    readPackets sent.length stream = some (sent.map SentFrame.packet, [])
  payload : ∀ frame ∈ sent, frame.packet.tcpPayload.bind readFrame = some frame.frame
  transport : ∀ frame ∈ sent,
    frame.packet.losslessTransportMeta = some ⟨frame.route.sessionId, frame.route.treeId⟩

def SentFrame.Fits (sent : SentFrame) : Prop :=
  Packet.losslessHeaderLen + sent.bytes.length ≤ maxFramedPacketSize

/-! ## Reading frames back -/

/-- Ids within the words of the wire, and no report that the wire writes as `Complete`. -/
def WellFormed : SessionFrame → Prop
  | .control message => message.canonical = message
  | .blockData blockId _ => blockId < 2 ^ 64
  | .blockSymbol blockId symbolId _ _ => blockId < 2 ^ 64 ∧ symbolId < 2 ^ 32

theorem read_frame_encode {sessionId : UInt64} {frame : SessionFrame} {bytes : List Byte}
    (wellFormed : WellFormed frame) (encoded : frame.encode sessionId = some bytes)
    (small : bytes.length < 2 ^ 32) : readFrame bytes = some frame := by
  cases frame with
  | control message =>
    rw [readFrame, decode_control_encode encoded, wellFormed]
  | blockData blockId payload =>
    have inside : (UInt64.ofNat blockId).toNat = blockId := UInt64.toNat_ofNat_of_lt' wellFormed
    rw [readFrame, decode_control_block_data encoded, decode_block_data_encode encoded]
    simp only [inside]
  | blockSymbol blockId symbolId treeId payload =>
    cases encoded
    have inside : (UInt64.ofNat blockId).toNat = blockId := UInt64.toNat_ofNat_of_lt' wellFormed.1
    have symbol : (UInt32.ofNat symbolId).toNat = symbolId :=
      UInt32.toNat_ofNat_of_lt' wellFormed.2
    have fits : blockSymbolFixedBodyLen + payload.length < 2 ^ 32 := by
      simp only [encodeBlockSymbol, List.length_append, encode_header_length] at small
      simp only [encode64_length, encode32_length, encode16_length] at small
      simp only [blockSymbolFixedBodyLen]
      omega
    rw [readFrame, decode_control_block_symbol, decode_block_data_block_symbol,
      decode_block_symbol_encode _ _ _ _ _ fits]
    simp only [Option.map_some, inside, symbol]

theorem faithful_iff {sent : List SentFrame} (wellFormed : ∀ frame ∈ sent, WellFormed frame.frame) :
    Faithful sent ↔ ∀ frame ∈ sent, frame.Fits := by
  have whole : ∀ packet ∈ sent.map SentFrame.packet, ∃ vec, packet = .fromVec vec ∧
      20 ≤ vec.length := by
    intro packet member
    obtain ⟨frame, _, rfl⟩ := List.mem_map.mp member
    refine ⟨_, rfl, ?_⟩
    rw [List.length_append, Packet.header_length, Packet.ipHlen]
    omega
  have size (frame : SentFrame) :
      frame.packet.packetSize = Packet.losslessHeaderLen + frame.bytes.length :=
    Packet.built_packet_size ..
  have read := read_packets_iff whole
  rw [List.length_map] at read
  constructor
  · intro faithful frame member
    obtain ⟨taken, written⟩ := write_packets_whole (sent.map SentFrame.packet)
    have bounded := read.mp (faithful.framed taken _ written) _ (List.mem_map_of_mem member)
    rwa [size] at bounded
  · intro fits
    refine ⟨?_, ?_, ?_⟩
    · intro taken stream written
      rw [write_packets_some written]
      apply read.mpr
      intro packet member
      obtain ⟨frame, inside, rfl⟩ := List.mem_map.mp member
      rw [size]
      exact fits frame inside
    · intro frame member
      have bound := fits frame member
      have small : frame.bytes.length < 2 ^ 32 := by
        simp only [SentFrame.Fits, maxFramedPacketSize] at bound
        omega
      have read : frame.packet.tcpPayload = some frame.bytes :=
        Packet.built_tcp_payload _ _ _ _ (some ⟨frame.route.sessionId, frame.route.treeId⟩) _ bound
      rw [read, Option.bind_some]
      exact read_frame_encode (wellFormed frame member) frame.encoded small
    · intro frame member
      exact Packet.built_transport_meta ..

/-! ## What the sessions send is well formed -/

section Senders

variable {crate : FountainCrate}

def NoNeed (frame : SessionFrame) : Prop := ∀ roundId report, frame ≠ .control (.need roundId report)

theorem genuine_well_formed {transfer : Transfer} {frame : SessionFrame}
    (genuine : transfer.Genuine crate frame) (noNeed : NoNeed frame) : WellFormed frame := by
  cases frame with
  | control message =>
    cases message with
    | manifest offered => rfl
    | ready => rfl
    | sourceDone roundId => rfl
    | need roundId report => exact absurd rfl (noNeed roundId report)
  | blockData blockId payload =>
    obtain ⟨span, placed, _⟩ := genuine
    exact (block_span_inside placed).trans transfer.plan.total_blocks_lt
  | blockSymbol blockId symbolId treeId payload =>
    obtain ⟨small, _, _, span, _, _, placed, _⟩ := genuine
    exact ⟨(block_span_inside placed).trans transfer.plan.total_blocks_lt, small⟩

theorem plain_turn_no_need {shared after : SenderShared} {mode next : PlainSender} {now : Nat}
    {frames : List SessionFrame} {turned : Turn}
    (step : PlainSender.TurnStep shared mode now after next frames turned) :
    ∀ frame ∈ frames, NoNeed frame := by
  have block {blockId : Nat} {later : SenderShared} {sent : List SessionFrame}
      (handed : PlainSender.sendBlock shared blockId = some (later, sent)) :
      ∀ frame ∈ sent, NoNeed frame := by
    rcases PlainSender.send_block_some handed with ⟨_, rfl, _⟩ | ⟨_, _, _, _, rfl, _⟩
    · simp
    · simp [NoNeed]
  cases step with
  | failed failed => simp
  | ended sound ended => simp
  | source sound running present sent => exact block sent
  | retransmit sound running queued sent => exact block sent
  | openEmpty sound running closed empty => simp [NoNeed]
  | openRound sound running closed members => simp [NoNeed]
  | allComplete sound running opened canClose all => simp
  | advance sound running opened canClose some => simp
  | wait sound running opened => simp

theorem fec_turn_no_need {shared after : SenderShared} {mode next : FecSender} {now : Nat}
    {frames : List SessionFrame} {turned : Turn}
    (step : FecSender.TurnStep crate shared mode now after next frames turned) :
    ∀ frame ∈ frames, NoNeed frame := by
  cases step with
  | failed failed => simp
  | sourceBlocked sound source => simp
  | source sound source tree sent => simp [NoNeed]
  | extraStuck sound extra => simp
  | extraBlocked sound extra encoded => simp
  | extra sound extra encoded tree coded => simp [NoNeed]
  | openEmpty sound sending empty => simp [NoNeed]
  | openRound sound sending members => simp [NoNeed]
  | finish sound waiting count => simp
  | wait sound done unclosed => simp

section Runs

variable {Mode : Type} [RoundView Mode] {tracked : RoundLog → SenderShared → Mode → Prop}
  {sourced : Transfer → Mode → Prop} {initial : SenderTask Mode → Prop}

theorem sent_well_formed (modes : ModeTracking crate Mode tracked)
    (source : ModeSource crate Mode tracked sourced)
    (initially : ∀ task, initial task →
      TaskTracked tracked ⟨[], []⟩ task ∧ sourced task.shared.transfer task.mode)
    (noNeed : ∀ {log shared mode now submit after next frames turned}, tracked log shared mode →
      SenderLoop.turn crate shared mode now submit = some (after, next, frames, turned) →
        ∀ frame ∈ frames, NoNeed frame)
    {task next : SenderTask Mode} (reachable : (senderSystem crate initial).Reachable task)
    {event : SenderEvent} {frames : List SessionFrame}
    (stepped : task.step crate event = some (next, frames)) :
    ∀ frame ∈ frames, WellFormed frame := by
  obtain ⟨log, before, holds⟩ := run_sourced modes source initially reachable
  have step := task_step_cases stepped
  obtain ⟨_, _, genuine⟩ := task_step_source modes source before holds step
  intro frame member
  apply genuine_well_formed (genuine frame member)
  cases step with
  | control handled => cases member
  | negotiate only earlier later =>
    rw [only frame member]
    simp [NoNeed]
  | start only stage =>
    rw [only frame member]
    simp [NoNeed]
  | turn stage result => exact noNeed before.mode result frame member
  | solicit stage late =>
    rw [List.mem_singleton.mp member]
    simp [NoNeed]
  | resumeFeedback stage => cases member
  | resumeSignal stage => cases member
  | abort noTurn => cases member

end Runs

end Senders

theorem produced_well_formed {crate : FountainCrate} {frame : SessionFrame}
    (produced : Produced crate frame) : WellFormed frame := by
  cases produced with
  | plain reachable stepped member =>
    exact sent_well_formed (plain_tracking crate) (plain_source crate)
      (fun _ initial => ⟨plain_sender_tracked initial, trivial⟩)
      (fun _ result => plain_turn_no_need (PlainSender.turn_cases result)) reachable stepped _ member
  | fec reachable stepped member =>
    exact sent_well_formed (fec_tracking crate) (fec_source crate)
      (fun _ initial => ⟨fec_sender_tracked initial, fec_sender_sourced initial⟩)
      (fun tracked result =>
        fec_turn_no_need (FecSender.turn_cases tracked.sending_of_unsent result))
      reachable stepped _ member
  | @receiver task next host event sent message reachable stepped member =>
    obtain ⟨start, labels, initial, run⟩ := reachable
    have whole : (receiverSystem crate).Run start (labels ++ [⟨event, sent⟩]) next :=
      .snoc run ⟨host, stepped⟩
    have answering := run_answering initial whole
    rcases Network.task_step_sends stepped message member with rfl | ⟨roundId, report, rfl⟩
    · rfl
    · have answered : (roundId, report) ∈ answers (labels ++ [⟨event, sent⟩]) := by
        rw [answers_append_single]
        exact List.mem_append_right _ (List.mem_filterMap.mpr ⟨_, member, rfl⟩)
      have canonical := answering.canonical _ answered
      simp only at canonical
      rw [WellFormed, LosslessSessionControl.canonical, canonical]

/-! ## A block of any size -/

section WholeBlock

variable (size : Nat)

def wholeBlockRequest : SenderRequest where
  sessionId := 0
  blockSize := size
  receiverIds := []
  totalBytes := UInt64.ofNat size
  sourceBuffer := List.replicate size 0
  readyGraceMs := 1
  peerReportTimeoutMs := 0

def wholeBlockManifest : LosslessSessionManifest :=
  ⟨UInt32.ofNat size, UInt64.ofNat size, 1, .plain⟩

def wholeBlockPlan (some : 0 < size) (small : size < 2 ^ 32) : BlockPlan where
  totalBytes := size
  blockSize := size
  totalBlocks := 1
  blockSizePositive := some
  blockCount := by
    rw [Nat.ceilDiv_eq_add_pred_div]
    exact (Nat.div_eq_of_lt_le (by omega) (by omega)).symm
  bytesFit := by omega

def wholeBlockSender (some : 0 < size) (small : size < 2 ^ 32) : SenderTask PlainSender where
  shared :=
    { sessionId := 0
      manifest := wholeBlockManifest size
      activeQuorum := ⟨∅, ∅, false⟩
      quorumLiveness := .new quorumSolicitationInterval 0
      plan := wholeBlockPlan size some small
      source := ⟨List.replicate size 0⟩
      readyGrace := 1
      payloadEmitted := false }
  mode := .default
  stage := .starting

variable {size} (some : 0 < size) (small : size < 2 ^ 32)

theorem whole_block_plan_new :
    BlockPlan.new (UInt64.ofNat size) size = .ok (wholeBlockPlan size some small) := by
  have bytes : (UInt64.ofNat size).toNat = size :=
    UInt64.toNat_ofNat_of_lt' (small.trans (by decide))
  have count := (wholeBlockPlan size some small).blockCount
  simp only [wholeBlockPlan] at count
  simp only [BlockPlan.new, some.ne', dite_false, bytes, if_false, ← count, wholeBlockPlan]

theorem whole_block_starts : plainSenders (wholeBlockSender size some small) := by
  have planned := whole_block_plan_new some small
  have width : (UInt32.ofNat size).toNat = size := UInt32.toNat_ofNat_of_lt' small
  refine ⟨⟨false, 1, []⟩, false, wholeBlockRequest size,
    ⟨0, [], List.replicate size 0, wholeBlockManifest size, 1, 0⟩, ?_, ?_⟩
  · have sized : validateBlockSize size = .ok (UInt32.ofNat size) :=
      (validate_block_size_ok_iff _ _).mpr ⟨some, small, rfl⟩
    simp only [senderConfig, wholeBlockRequest, sized]
    rw [planned]
    rfl
  · simp only [SessionSender.new, wholeBlockManifest, width, planned]
    rfl

def wholeBlockTransfer : SenderTask PlainSender :=
  { wholeBlockSender size some small with
    shared := (wholeBlockSender size some small).shared.freezeActiveQuorum
    mode := { PlainSender.default with sourceBlocks := [0], initialized := true }
    stage := .transferring }

theorem whole_block_begins : (wholeBlockSender size some small).step idleCrate (.turn 0 closedIngress) =
    .some (wholeBlockTransfer some small, []) := by
  rfl

/-- A sender of one block of that size sends it as one frame. -/
theorem whole_block_produced (some : 0 < size) (fits : blockDataFixedBodyLen + size < 2 ^ 32) :
    ∃ payload, payload.length = size ∧ Produced idleCrate (.blockData 0 payload) := by
  have small : size < 2 ^ 32 := by omega
  have placed := (wholeBlockPlan size some small).block_span_some 0 Nat.one_pos
  have length := BlockSource.block_payload_length ⟨List.replicate size 0⟩
    ⟨0 * size, min size (size - 0 * size)⟩
  simp only [Nat.zero_mul, Nat.sub_zero, Nat.min_self] at length
  generalize made : BlockSource.blockPayload ⟨List.replicate size 0⟩ ⟨0, size⟩ = payload at length
  have encoded : ∃ bytes, encodeBlockData 0 0 payload = .some bytes := by
    refine ⟨_, (encode_block_data_some_iff 0 0 payload _).mpr ⟨?_, rfl⟩⟩
    rwa [length]
  obtain ⟨bytes, encoded⟩ := encoded
  have handed : PlainSender.sendBlock (wholeBlockTransfer some small).shared 0 =
      .some ((wholeBlockTransfer some small).shared.markPayloadEmitted, [.blockData 0 payload]) := by
    have located : (wholeBlockTransfer some small).shared.plan.blockSpan 0 = .some ⟨0, size⟩ := by
      rw [show (wholeBlockTransfer some small).shared.plan = wholeBlockPlan size some small from rfl, placed]
      simp [wholeBlockPlan]
    have framed : sendFrame 0 (.blockData 0 payload) = .some [.blockData 0 payload] := by
      rw [sendFrame, SessionFrame.encode, show UInt64.ofNat 0 = 0 from rfl, encoded]
      rfl
    simp only [PlainSender.sendBlock, located]
    rw [show (wholeBlockTransfer some small).shared.source = ⟨List.replicate size 0⟩ from rfl, made]
    exact congrArg (Option.bind · _) framed
  refine ⟨payload, length, ?_⟩
  have reached : (senderSystem idleCrate plainSenders).Reachable (wholeBlockTransfer some small) :=
    reachable_step (TransitionSystem.reachable_of_initial (whole_block_starts some small))
      (whole_block_begins some small)
  have stepped : (wholeBlockTransfer some small).step idleCrate (.turn 0 closedIngress) =
      .some ({ wholeBlockTransfer some small with
        shared := (wholeBlockTransfer some small).shared.markPayloadEmitted
        mode := { (wholeBlockTransfer some small).mode with sourceCursor := 1 } },
        [.blockData 0 payload]) := by
    have next : (wholeBlockTransfer some small).mode.nextSourceBlock =
        .some (0, { (wholeBlockTransfer some small).mode with sourceCursor := 1 }) := rfl
    have turned : (wholeBlockTransfer some small).mode.turn (wholeBlockTransfer some small).shared 0 =
        .some ((wholeBlockTransfer some small).shared.markPayloadEmitted,
          { (wholeBlockTransfer some small).mode with sourceCursor := 1 }, [.blockData 0 payload],
          .again) := by
      have sound : (wholeBlockTransfer some small).mode.protocolError = false := rfl
      have running : (wholeBlockTransfer some small).mode.complete = false := rfl
      simp only [PlainSender.turn, sound, running, next, handed]
      rfl
    have stage : (wholeBlockTransfer some small).stage = .transferring := rfl
    simp only [SenderTask.step, SenderTask.onTurn, stage, SenderLoop.turn, turned]
    rfl
  exact .plain reached stepped (List.mem_singleton_self _)

def loopbackRoute : FrameRoute := ⟨0, none, ⟨10, 0, 0, 1⟩, 4760, ⟨10, 0, 0, 2⟩, 5760⟩

theorem whole_block_sent (some : 0 < size) (fits : blockDataFixedBodyLen + size < 2 ^ 32) :
    ∃ sent : SentFrame, (∀ frame ∈ [sent], Produced idleCrate frame.frame) ∧
      sent.bytes.length = headerLen + blockDataFixedBodyLen + size := by
  obtain ⟨payload, length, produced⟩ := whole_block_produced some fits
  have encoded : SessionFrame.encode 0 (.blockData 0 payload) =
      .some ((frameHeader .blockData 0 0 (blockDataFixedBodyLen + payload.length)).encodeInto ++
        encode64 0 ++ payload) :=
    (encode_block_data_some_iff 0 0 payload _).mpr ⟨length ▸ fits, rfl⟩
  refine ⟨⟨loopbackRoute, .blockData 0 payload, _, encoded⟩, ?_, ?_⟩
  · intro frame member
    rw [List.mem_singleton.mp member]
    exact produced
  · simp only [List.length_append, encode_header_length, encode64_length, length,
      blockDataFixedBodyLen]

end WholeBlock

/-! ## The envelope -/

/-- Any list of frames that the sessions send, under any session and tree, comes through the envelope
exactly when each of them fits it. -/
theorem produced_faithful_iff {crate : FountainCrate} {sent : List SentFrame}
    (produced : ∀ frame ∈ sent, Produced crate frame.frame) :
    Faithful sent ↔ ∀ frame ∈ sent, frame.Fits :=
  faithful_iff fun frame member => produced_well_formed (produced frame member)

/-- A block of one byte comes through. -/
theorem one_byte_block_faithful : ∃ sent : SentFrame,
    (∀ frame ∈ [sent], Produced idleCrate frame.frame) ∧ Faithful [sent] := by
  obtain ⟨sent, each, length⟩ := @whole_block_sent 1 (by decide) (by decide)
  refine ⟨sent, each, ?_⟩
  rw [produced_faithful_iff each]
  intro frame member
  rw [List.mem_singleton.mp member, SentFrame.Fits, length]
  decide

/-- A block of 65536 bytes does not. -/
theorem oversized_block_unreadable : ∃ sent : SentFrame,
    (∀ frame ∈ [sent], Produced idleCrate frame.frame) ∧ ¬Faithful [sent] := by
  obtain ⟨sent, each, length⟩ := @whole_block_sent 65536 (by decide) (by decide)
  refine ⟨sent, each, ?_⟩
  rw [faithful_iff fun frame member => produced_well_formed (each frame member)]
  intro fits
  have bound := fits sent (List.mem_singleton_self _)
  rw [SentFrame.Fits, length] at bound
  revert bound
  decide

end Nextmini.Packets
