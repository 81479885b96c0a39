import Nextmini.Session.EndToEnd
import Nextmini.Session.ReceiverInvariant

/-!
# Calls into the fountain-code crate

The calls that handling a symbol frame and taking a turn of the sender make into the external crate,
with the assertions of the adapter among them, and the domain in which the crate answers such a call.
Outside of it the crate panics or, where a symbol size was cut, codes another block.
-/

namespace Nextmini.Session

open Nextmini.Library Nextmini.Library.BigEndian
open Nextmini.Messages

set_option autoImplicit false

/-! ## Calls -/

inductive AdapterCall where
  | transmissionInformation (params : BlockParams)
  | newEncoder (params : BlockParams) (sourceBlock : List Byte)
  | repairPackets (encoder : Encoder) (start : Nat)
  | sourceSymbol (decoder : Decoder) (esi : Nat)
  | newDecoder (decoder : Decoder)
  | payloadId (esi : Nat)
  | decode (decoder : Decoder) (packets : List EncodingPacket)

def maxSourceSymbols : Nat := 56403

def maxSymbolSize : Nat := 2 ^ 16 - 1

/-- What the crate demands of a call, and for a source symbol what the adapter asserts. -/
def InDomain : AdapterCall → Prop
  | .transmissionInformation params => 0 < params.sourceSymbols ∧
      params.sourceSymbols ≤ maxSourceSymbols ∧ 0 < params.symbolSize ∧
      params.oti.symbolSize = params.symbolSize
  | .newEncoder params sourceBlock =>
      sourceBlock.length = params.sourceSymbols * params.symbolSize
  | .repairPackets encoder start => encoder.k + start < encodingSymbolIdLimit
  | .sourceSymbol decoder esi => esi < decoder.k
  | .newDecoder decoder => decoder.blockLength = decoder.k * decoder.symbolSize
  | .payloadId esi => esi < encodingSymbolIdLimit
  | .decode decoder packets => ∀ packet ∈ packets, packet.2.length = decoder.symbolSize

def Encoder.fromBlockCalls (params : BlockParams) (sourceBlock : List Byte) : List AdapterCall :=
  if params.sourceSymbols = 0 then []
  else if sourceBlock.length ≠ params.sourceSymbols * params.symbolSize then []
  else [.transmissionInformation params, .newEncoder params sourceBlock]

def Encoder.codedSymbolCalls (encoder : Encoder) (esi : Nat) : List AdapterCall :=
  [.repairPackets encoder (esi - encoder.k)]

def Decoder.decodeCalls (decoder : Decoder) (symbols : List EncodingPacket) : List AdapterCall :=
  .newDecoder decoder :: symbols.map (fun symbol => .payloadId symbol.1) ++ [.decode decoder symbols]

/-! ## The receiver -/

namespace DecodeAttempt

def decoder (attempt : DecodeAttempt) : Decoder := .fromBlock attempt.params

/-- Every symbol of the block can be padded. -/
def Padded (attempt : DecodeAttempt) (host : Host) : Prop :=
  ¬∃ symbol ∈ attempt.blockState.symbols.toList,
    ¬host.tryReserve .symbolPadding (attempt.params.symbolSize - symbol.2.length)

instance (attempt : DecodeAttempt) (host : Host) : Decidable (attempt.Padded host) :=
  inferInstanceAs (Decidable (¬_))

def received (attempt : DecodeAttempt) : List EncodingPacket :=
  attempt.blockState.symbols.toList.map fun symbol =>
    (symbol.1, resizeZero symbol.2 attempt.params.symbolSize)

def calls (attempt : DecodeAttempt) (host : Host) : List AdapterCall :=
  .transmissionInformation attempt.params ::
    if attempt.Padded host then
      (attempt.received.filter fun symbol => symbol.1 < attempt.params.sourceSymbols).map
          (fun symbol => .sourceSymbol attempt.decoder symbol.1) ++
        attempt.decoder.decodeCalls attempt.received
    else []

/-- The bounds that nothing in front of the crate checks. -/
def WithinCrate (attempt : DecodeAttempt) (host : Host) : Prop :=
  attempt.params.sourceSymbols ≤ maxSourceSymbols ∧ attempt.params.symbolSize ≤ maxSymbolSize ∧
    (attempt.Padded host →
      ∀ symbol ∈ attempt.blockState.symbols.toList, symbol.1 < encodingSymbolIdLimit)

instance (attempt : DecodeAttempt) (host : Host) : Decidable (attempt.WithinCrate host) :=
  inferInstanceAs (Decidable (_ ∧ _ ∧ (_ → _)))

end DecodeAttempt

namespace SessionReceiver

def symbolFrameCalls (host : Host) (receiver : SessionReceiver) (bytes : List Byte) :
    List AdapterCall :=
  match receiver.frameAttempt host bytes with
  | none => []
  | some attempt => attempt.calls host

/-- Every call of the frame is in the domain, and the frame is handled without a panic. -/
def SafeFrame (crate : FountainCrate) (host : Host) (receiver : SessionReceiver)
    (bytes : List Byte) : Prop :=
  (∀ call ∈ receiver.symbolFrameCalls host bytes, InDomain call) ∧
    (receiver.handleBlockSymbolFrame crate host bytes).isSome

end SessionReceiver

/-! ## The sender -/

namespace FecSender

def dueExtraSymbol (mode : FecSender) : Option (Nat × Nat) :=
  if mode.protocolError then none
  else
    match mode.nextSourceSymbol with
    | some _ => none
    | none => mode.nextExtraSymbol

def ensureEncoderCalls (shared : SenderShared) (mode : FecSender) (blockId : Nat) :
    List AdapterCall :=
  match mode.blocks[blockId]? with
  | none => []
  | some block =>
      match block.encoder, shared.plan.blockSpan blockId with
      | none, some span =>
          Encoder.fromBlockCalls
            ⟨mode.symbolsPerBlock.toNat, mode.geometry.symbolSize,
              blockSeed shared.sessionId (UInt64.ofNat blockId)⟩
            (shared.source.paddedSymbolBytes span mode.geometry)
      | _, _ => []

def extraSymbolCalls (shared : SenderShared) (mode : FecSender) (blockId symbolId : Nat) :
    List AdapterCall :=
  mode.ensureEncoderCalls shared blockId ++
    match mode.ensureEncoder shared blockId with
    | none => []
    | some (_, encoder) => encoder.codedSymbolCalls symbolId

def turnCalls (shared : SenderShared) (mode : FecSender) : List AdapterCall :=
  match mode.dueExtraSymbol with
  | none => []
  | some (blockId, symbolId) => mode.extraSymbolCalls shared blockId symbolId

/-- Every call of the turn is in the domain, and its extra symbol is made without a panic. -/
def SafeTurn (crate : FountainCrate) (shared : SenderShared) (mode : FecSender)
    (submit : Nat → SendOutcome) : Prop :=
  (∀ call ∈ mode.turnCalls shared, InDomain call) ∧
    ∀ due ∈ mode.dueExtraSymbol, (mode.sendExtraSymbol crate shared submit due.1 due.2).isSome

/-- The bounds that nothing in front of the crate checks: on the symbols of a block where its encoder
is still to be built, and on the id of the extra symbol. -/
def TurnWithinCrate (mode : FecSender) : Prop :=
  ∀ due ∈ mode.dueExtraSymbol,
    (∀ block ∈ mode.blocks[due.1]?, block.encoder = none →
      mode.symbolsPerBlock.toNat ≤ maxSourceSymbols ∧ mode.geometry.symbolSize ≤ maxSymbolSize) ∧
      due.2 < encodingSymbolIdLimit

end FecSender

/-! ## One attempt -/

section Attempts

variable {crate : FountainCrate} {host : Host} {attempt : DecodeAttempt}

theorem oti_symbol_size_iff (params : BlockParams) :
    params.oti.symbolSize = params.symbolSize ↔ params.symbolSize ≤ maxSymbolSize := by
  simp only [BlockParams.oti, maxSymbolSize]
  omega

theorem transmission_in_domain_iff {params : BlockParams} (sourceSymbols : 0 < params.sourceSymbols)
    (symbolSize : 0 < params.symbolSize) : InDomain (.transmissionInformation params) ↔
      params.sourceSymbols ≤ maxSourceSymbols ∧ params.symbolSize ≤ maxSymbolSize := by
  rw [← oti_symbol_size_iff]
  exact ⟨fun domain => ⟨domain.2.1, domain.2.2.2⟩,
    fun bounds => ⟨sourceSymbols, bounds.1, symbolSize, bounds.2⟩⟩

theorem decoder_input_received (params : BlockParams) (symbol : EncodingPacket) :
    FecReceiver.decoderInput (.fromBlock params) params.sourceSymbols symbol.1 symbol.2 =
      some (symbol.1, resizeZero symbol.2 params.symbolSize) := by
  unfold FecReceiver.decoderInput
  split_ifs with source
  · exact if_pos source
  · rfl

theorem decoder_answers_iff (decoder : Decoder) (symbols : List EncodingPacket) :
    (decoder.decode crate symbols).isSome ↔
      ∀ symbol ∈ symbols, symbol.1 < encodingSymbolIdLimit := by
  unfold Decoder.decode
  split_ifs with small
  · exact ⟨fun _ => small, fun _ => rfl⟩
  · exact ⟨fun impossible => absurd impossible (by simp), fun fine => absurd fine small⟩

theorem received_ids_iff : (∀ symbol ∈ attempt.received, symbol.1 < encodingSymbolIdLimit) ↔
    ∀ symbol ∈ attempt.blockState.symbols.toList, symbol.1 < encodingSymbolIdLimit := by
  simp only [DecodeAttempt.received, List.mem_map, forall_exists_index, and_imp,
    forall_apply_eq_imp_iff₂]

/-- Decoding a block panics on nothing but an id, and on that only once the symbols are padded. -/
theorem decode_block_some_iff {sessionId : UInt64} {blockId : Nat} {geometry : SymbolGeometry}
    {sourceSymbols : Nat} (blockLen : Nat)
    (params : attempt.params =
      ⟨sourceSymbols, geometry.symbolSize, blockSeed sessionId (UInt64.ofNat blockId)⟩) :
    (FecReceiver.decodeBlock crate host sessionId blockId geometry sourceSymbols blockLen
        attempt.blockState).isSome ↔
      (attempt.Padded host →
        ∀ symbol ∈ attempt.blockState.symbols.toList, symbol.1 < encodingSymbolIdLimit) := by
  have sourceCount : sourceSymbols = attempt.params.sourceSymbols := by rw [params]
  have symbolSize : geometry.symbolSize = attempt.params.symbolSize := by rw [params]
  unfold FecReceiver.decodeBlock
  simp only [← params]
  rw [sourceCount, symbolSize]
  split_ifs with refused
  · exact ⟨fun _ padded => absurd refused padded, fun _ => rfl⟩
  · have collected : (attempt.blockState.symbols.toList.mapM fun symbol =>
        FecReceiver.decoderInput (.fromBlock attempt.params) attempt.params.sourceSymbols symbol.1
          symbol.2) = some attempt.received := by
      simp only [decoder_input_received]
      exact List.mapM_pure
    rw [collected, Option.bind_eq_bind, Option.bind_some]
    have padded : attempt.Padded host := refused
    rw [← received_ids_iff, ← @decoder_answers_iff crate (.fromBlock attempt.params)]
    cases answer : (Decoder.fromBlock attempt.params).decode crate attempt.received with
    | none => simp [padded]
    | some output =>
      refine ⟨fun _ _ => rfl, fun _ => ?_⟩
      cases output with
      | none => rfl
      | some symbols =>
        simp only [Option.bind_eq_bind, Option.bind_some]
        split_ifs
        · rfl
        · rfl
        · rfl

theorem calls_in_domain_iff (sourceSymbols : 0 < attempt.params.sourceSymbols)
    (symbolSize : 0 < attempt.params.symbolSize) :
    (∀ call ∈ attempt.calls host, InDomain call) ↔ attempt.WithinCrate host := by
  unfold DecodeAttempt.calls DecodeAttempt.WithinCrate
  rw [List.forall_mem_cons, transmission_in_domain_iff sourceSymbols symbolSize, and_assoc]
  refine and_congr_right fun _ => and_congr_right fun _ => ?_
  split_ifs with padded
  · rw [forall_prop_of_true padded, ← received_ids_iff]
    refine ⟨?_, ?_⟩
    · intro domain symbol member
      have call : AdapterCall.payloadId symbol.1 ∈ attempt.decoder.decodeCalls attempt.received :=
        List.mem_cons_of_mem _ (List.mem_append_left _ (List.mem_map_of_mem member))
      exact domain _ (List.mem_append_right _ call)
    · intro small call member
      rcases List.mem_append.mp member with asserted | member
      · obtain ⟨symbol, source, rfl⟩ := List.mem_map.mp asserted
        have below : symbol.1 < attempt.params.sourceSymbols :=
          of_decide_eq_true (List.mem_filter.mp source).2
        exact below
      · rcases List.mem_append.mp member with member | member
        · rcases List.mem_cons.mp member with rfl | member
          · rfl
          · obtain ⟨symbol, present, rfl⟩ := List.mem_map.mp member
            exact small symbol present
        · rw [List.mem_singleton.mp member]
          intro packet present
          obtain ⟨symbol, _, rfl⟩ := List.mem_map.mp present
          simp only [resizeZero, List.length_append, List.length_take, List.length_replicate,
            DecodeAttempt.decoder, Decoder.fromBlock]
          omega
  · exact ⟨fun _ impossible => absurd impossible padded, fun _ call member => by cases member⟩

end Attempts

/-! ## Frames -/

section Frames

variable {crate : FountainCrate} {host : Host}

/-- The ids of an attempt for which the crate does not panic. -/
def DecodeAttempt.KnownIds (attempt : DecodeAttempt) (host : Host) : Prop :=
  attempt.Padded host →
    ∀ symbol ∈ attempt.blockState.symbols.toList, symbol.1 < encodingSymbolIdLimit

theorem try_decode_some_iff (mode : FecReceiver) (shared : ReceiverShared) (blockId : Nat)
    (fecMode : LosslessSessionFecMode) :
    (mode.tryDecodeFecBlock crate host shared blockId fecMode).isSome ↔
      ∀ attempt ∈ mode.blockAttempt host shared blockId fecMode, attempt.KnownIds host := by
  unfold FecReceiver.tryDecodeFecBlock FecReceiver.blockAttempt
  cases shared.plan with
  | none => simp
  | some plan =>
    cases mode.blocks[blockId]? with
    | none => simp
    | some blockState =>
      simp only
      split_ifs
      · simp
      · cases plan.blockLen blockId with
        | none => simp
        | some blockLen =>
          simp only
          cases FecReceiver.systematicBlockPayload host blockState
              fecMode.symbolsPerBlock.toNat mode.geometry.symbolSize blockLen with
          | some block => simp
          | none =>
            simp only [Option.mem_some_iff, forall_eq']
            rw [DecodeAttempt.KnownIds, ← @decode_block_some_iff crate host _
              shared.sessionId blockId mode.geometry fecMode.symbolsPerBlock.toNat blockLen
              rfl]
            cases FecReceiver.decodeBlock crate host shared.sessionId blockId mode.geometry
                fecMode.symbolsPerBlock.toNat blockLen blockState with
            | none => simp
            | some output =>
              cases output with
              | none => simp
              | some block => simp

theorem symbol_frame_some_iff (mode : FecReceiver) (shared : ReceiverShared) (bytes : List Byte) :
    (mode.handleBlockSymbolFrame crate host shared bytes).isSome ↔
      ∀ attempt ∈ mode.frameAttempt host shared bytes, attempt.KnownIds host := by
  unfold FecReceiver.handleBlockSymbolFrame FecReceiver.frameAttempt
  cases shared.manifest with
  | none => simp
  | some manifest =>
    simp only
    cases manifest.mode with
    | plain => simp
    | fec fecMode =>
      simp only
      cases decodeBlockSymbol bytes with
      | none => simp
      | some decoded =>
        obtain ⟨header, symbol, payload⟩ := decoded
        simp only
        cases manifest.validateBlockSymbol symbol with
        | error reason => simp
        | ok valid =>
          simp only
          split_ifs
          · simp
          · simp
          · exact try_decode_some_iff _ shared _ fecMode

theorem frame_handled_iff (receiver : SessionReceiver) (bytes : List Byte) :
    (receiver.handleBlockSymbolFrame crate host bytes).isSome ↔
      ∀ attempt ∈ receiver.frameAttempt host bytes, attempt.KnownIds host := by
  unfold SessionReceiver.handleBlockSymbolFrame SessionReceiver.frameAttempt
  cases receiver.mode with
  | none => simp
  | some running =>
    cases running with
    | plain mode => simp
    | fec mode =>
      simp only
      rw [← @symbol_frame_some_iff crate host]
      cases mode.handleBlockSymbolFrame crate host receiver.shared bytes with
      | none => simp
      | some result => simp

theorem attempt_geometry {receiver : SessionReceiver} {bytes : List Byte} {attempt : DecodeAttempt}
    (consistent : Consistent receiver) (made : receiver.frameAttempt host bytes = some attempt) :
    0 < attempt.params.sourceSymbols ∧ 0 < attempt.params.symbolSize := by
  unfold SessionReceiver.frameAttempt at made
  rcases consistent with fresh | ⟨known, plan, mode, installation⟩
  · rw [fresh.modeIs] at made
    cases made
  · rw [installation.modeIs] at made
    have matched := installation.modeMatches
    cases matched with
    | plain kind => cases made
    | fec offered laidOut =>
      obtain ⟨manifest, fecMode, installed, kind, count, size⟩ := FecReceiver.frame_attempt_params made
      rw [installation.manifestIs] at installed
      cases installed
      rw [kind] at offered
      cases offered
      rw [count, size]
      exact geometry_positive laidOut

/-- What a consistent receiver asks the crate for is in its domain up to the unchecked bounds. -/
theorem safe_frame_iff {receiver : SessionReceiver} (consistent : Consistent receiver)
    (bytes : List Byte) : receiver.SafeFrame crate host bytes ↔
      ∀ attempt ∈ receiver.frameAttempt host bytes, attempt.WithinCrate host := by
  unfold SessionReceiver.SafeFrame SessionReceiver.symbolFrameCalls
  rw [frame_handled_iff]
  cases made : receiver.frameAttempt host bytes with
  | none => simp
  | some attempt =>
    obtain ⟨someSymbols, someBytes⟩ := attempt_geometry consistent made
    simp only [Option.mem_some_iff, forall_eq']
    rw [calls_in_domain_iff someSymbols someBytes]
    exact ⟨fun safe => safe.1, fun within => ⟨within, within.2.2⟩⟩

end Frames

/-! ## Turns -/

section Turns

variable {crate : FountainCrate} {shared : SenderShared} {mode : FecSender}
  {submit : Nat → SendOutcome} {blockId symbolId : Nat}

theorem encoder_for_symbols {transfer : Transfer} {symbolsPerBlock : UInt16}
    {geometry : SymbolGeometry} {encoder : Encoder}
    (built : EncoderFor transfer symbolsPerBlock geometry blockId encoder) :
    encoder.k = symbolsPerBlock.toNat := by
  obtain ⟨span, placed, fresh⟩ := built
  unfold Encoder.fromBlock at fresh
  split_ifs at fresh
  cases fresh
  rfl

theorem from_block_some {params : BlockParams} {sourceBlock : List Byte}
    (positive : 0 < params.sourceSymbols)
    (length : sourceBlock.length = params.sourceSymbols * params.symbolSize) :
    ∃ encoder, Encoder.fromBlock params sourceBlock = some encoder ∧
      encoder.k = params.sourceSymbols ∧ Encoder.fromBlockCalls params sourceBlock =
        [.transmissionInformation params, .newEncoder params sourceBlock] := by
  rw [Encoder.from_block_of_length positive length, Encoder.fromBlockCalls,
    if_neg (Nat.pos_iff_ne_zero.mp positive), if_neg (not_not_intro length)]
  exact ⟨_, rfl, rfl, rfl⟩

theorem encoder_ensured (sourced : FecSourced shared.transfer mode)
    (size : mode.blocks.length = shared.plan.totalBlocks) {block : FecSendBlock}
    (present : mode.blocks[blockId]? = some block) :
    ∃ next encoder, mode.ensureEncoder shared blockId = some (next, encoder) ∧
      encoder.k = mode.symbolsPerBlock.toNat ∧
      ((∀ call ∈ mode.ensureEncoderCalls shared blockId, InDomain call) ↔
        (block.encoder = none → mode.symbolsPerBlock.toNat ≤ maxSourceSymbols ∧
          mode.geometry.symbolSize ≤ maxSymbolSize)) := by
  unfold FecSender.ensureEncoder FecSender.ensureEncoderCalls
  rw [present, Option.bind_eq_bind, Option.bind_some]
  cases held : block.encoder with
  | some encoder =>
    have built := sourced.encoders blockId block encoder present held
    refine ⟨mode, encoder, rfl, encoder_for_symbols built, ?_⟩
    simp [held]
  | none =>
    have inside : blockId < shared.plan.totalBlocks := by
      rw [← size]
      exact (List.getElem?_eq_some_iff.mp present).1
    have placed := shared.plan.block_span_some blockId inside
    generalize (⟨blockId * shared.plan.blockSize, min shared.plan.blockSize
      (shared.plan.totalBytes - blockId * shared.plan.blockSize)⟩ : BlockSpan) = span at placed
    obtain ⟨someSymbols, someBytes⟩ := geometry_positive sourced.laidOut
    have count := (symbol_geometry_covers _ _ sourced.laidOut).1
    have length := shared.source.padded_symbol_bytes_length span mode.geometry
    rw [count] at length
    obtain ⟨encoder, fresh, symbols, calls⟩ := @from_block_some
      ⟨mode.symbolsPerBlock.toNat, mode.geometry.symbolSize,
        blockSeed shared.sessionId (UInt64.ofNat blockId)⟩ _ someSymbols length
    refine ⟨{ mode with
      blocks := mode.blocks.modify blockId fun block =>
        { block with encoder := some encoder } }, encoder, ?_, symbols, ?_⟩
    · simp [placed, fresh]
    · simp only [held, placed, calls]
      rw [List.forall_mem_cons, List.forall_mem_singleton, forall_prop_of_true trivial,
        transmission_in_domain_iff someSymbols someBytes]
      exact ⟨fun domain => domain.1, fun bounds => ⟨bounds, length⟩⟩

theorem send_extra_some_iff {next : FecSender} {encoder : Encoder}
    (ensured : mode.ensureEncoder shared blockId = some (next, encoder))
    (beyond : encoder.k ≤ symbolId) :
    (mode.sendExtraSymbol crate shared submit blockId symbolId).isSome ↔
      symbolId < encodingSymbolIdLimit := by
  unfold FecSender.sendExtraSymbol
  simp only [ensured, Encoder.codedSymbol, Nat.add_sub_cancel' beyond]
  split_ifs with small
  · simp only [Option.bind_eq_bind, Option.bind_some, small, iff_true]
    cases next.trySendSymbol submit blockId symbolId
        (crate.repairPacket encoder.oti encoder.sourceBlock (symbolId - encoder.k)) with
    | none => rfl
    | some sent => rfl
  · simp [small]

theorem extra_symbol_safe_iff {log : RoundLog} (tracked : FecTracked log shared mode)
    (sourced : FecSourced shared.transfer mode) {block : FecSendBlock}
    (present : mode.blocks[blockId]? = some block) (next : symbolId = block.nextFountainSymbol) :
    ((∀ call ∈ mode.extraSymbolCalls shared blockId symbolId, InDomain call) ∧
        (mode.sendExtraSymbol crate shared submit blockId symbolId).isSome) ↔
      (block.encoder = none → mode.symbolsPerBlock.toNat ≤ maxSourceSymbols ∧
          mode.geometry.symbolSize ≤ maxSymbolSize) ∧ symbolId < encodingSymbolIdLimit := by
  obtain ⟨after, encoder, ensured, symbols, building⟩ :=
    encoder_ensured sourced tracked.size present
  have beyond : encoder.k ≤ symbolId := by
    rw [symbols, next]
    exact (tracked.blocks blockId block present).fountain
  have repair : InDomain (.repairPackets encoder (symbolId - encoder.k)) ↔
      symbolId < encodingSymbolIdLimit := by
    simp only [InDomain, Nat.add_sub_cancel' beyond]
  rw [send_extra_some_iff ensured beyond, FecSender.extraSymbolCalls, List.forall_mem_append,
    building, ensured]
  simp only [Encoder.codedSymbolCalls, List.forall_mem_singleton, repair]
  exact ⟨fun safe => safe.1, fun bounds => ⟨bounds, bounds.2⟩⟩

/-- What a tracked sender asks the crate for is in its domain up to the unchecked bounds. -/
theorem safe_turn_iff {log : RoundLog} (tracked : FecTracked log shared mode)
    (sourced : FecSourced shared.transfer mode) :
    mode.SafeTurn crate shared submit ↔ mode.TurnWithinCrate := by
  unfold FecSender.SafeTurn FecSender.TurnWithinCrate FecSender.turnCalls
  cases due : mode.dueExtraSymbol with
  | none => simp
  | some asked =>
    obtain ⟨blockId, symbolId⟩ := asked
    have extra : mode.nextExtraSymbol = some (blockId, symbolId) := by
      unfold FecSender.dueExtraSymbol at due
      split_ifs at due
      split at due
      next => cases due
      next => exact due
    obtain ⟨block, present, next, _⟩ := FecSender.next_extra_symbol_some extra
    simp only [Option.mem_some_iff, forall_eq', present]
    exact extra_symbol_safe_iff tracked sourced present next

end Turns

/-! ## Runs -/

namespace ReceiverTask

def symbolFrame (task : ReceiverTask) : ReceiverEvent → Option (List Byte)
  | .frame frame =>
      if task.inLoop ∧ (decodeControl frame.bytes).isNone ∧ (decodeBlockData frame.bytes).isNone ∧
          (decodeBlockSymbol frame.bytes).isSome then
        some frame.bytes
      else none
  | _ => none

def stepOn (crate : FountainCrate) (task : ReceiverTask) (input : Host × ReceiverEvent) :
    Option (ReceiverTask × List LosslessSessionControl) :=
  task.step crate input.1 input.2

def SafeEvent (crate : FountainCrate) (task : ReceiverTask) (input : Host × ReceiverEvent) : Prop :=
  ∀ bytes ∈ task.symbolFrame input.2, task.receiver.SafeFrame crate input.1 bytes

def EventWithinCrate (task : ReceiverTask) (input : Host × ReceiverEvent) : Prop :=
  ∀ bytes ∈ task.symbolFrame input.2,
    ∀ attempt ∈ task.receiver.frameAttempt input.1 bytes, attempt.WithinCrate input.1

end ReceiverTask

namespace SenderTask

def SafeEvent (crate : FountainCrate) (task : SenderTask FecSender) : SenderEvent → Prop
  | .turn _ submit => task.stage = .transferring → task.mode.SafeTurn crate task.shared submit
  | _ => True

def EventWithinCrate (task : SenderTask FecSender) : SenderEvent → Prop
  | .turn _ _ => task.stage = .transferring → task.mode.TurnWithinCrate
  | _ => True

end SenderTask

open TransitionSystem

/-- Over a whole run, whatever the frames, hosts, reports and ingress do, a session stays in the
domain of the crate as long as it stays within the bounds that nothing checks. -/
theorem crate_calls_safe_iff (crate : FountainCrate) :
    (∀ cfg inputs, Along (ReceiverTask.stepOn crate) (ReceiverTask.SafeEvent crate) (.new cfg) inputs ↔
      Along (ReceiverTask.stepOn crate) ReceiverTask.EventWithinCrate (.new cfg) inputs) ∧
    ∀ task, fecSenders task → ∀ events,
      Along (SenderTask.step crate) (SenderTask.SafeEvent crate) task events ↔
        Along (SenderTask.step crate) SenderTask.EventWithinCrate task events := by
  constructor
  · intro cfg inputs
    apply along_iff (motive := fun task => Consistent task.receiver)
    · intro task input consistent
      exact forall_congr' fun bytes => forall_congr' fun _ => safe_frame_iff consistent bytes
    · intro task input next sent consistent stepped
      exact (task_step_consistent consistent stepped).1
    · exact .inl ⟨rfl, rfl, rfl, rfl⟩
  · intro start initial events
    apply along_iff (motive := (senderSystem crate fecSenders).Reachable)
    · intro task event reachable
      cases event with
      | turn now submit =>
        obtain ⟨log, tracked, sourced⟩ := run_sourced (fec_tracking crate) (fec_source crate)
          (fun task initial => ⟨fec_sender_tracked initial, fec_sender_sourced initial⟩) reachable
        exact forall_congr' fun _ => safe_turn_iff tracked.mode sourced
      | control frame => exact Iff.rfl
      | wake now => exact Iff.rfl
      | closed => exact Iff.rfl
    · intro task event next frames reachable stepped
      exact reachable_step reachable stepped
    · exact reachable_of_initial initial

/-- A receiver that installs a manifest of one symbol a block and gets a symbol beyond the ids that
the crate knows. -/
theorem large_symbol_id_panics : ∃ cfg inputs,
    ¬Along (ReceiverTask.stepOn idleCrate) (ReceiverTask.SafeEvent idleCrate) (.new cfg) inputs := by
  refine ⟨⟨0, none, true⟩,
    [(roomyHost, .frame ⟨Network.controlBytes (.manifest Network.soleBlockFecManifest), none⟩),
      (roomyHost, .frame ⟨encodeBlockSymbol 0 0 (2 ^ 24) 1 [0], none⟩)], ?_⟩
  intro safe
  have handed : ((ReceiverTask.new ⟨0, none, true⟩).stepOn idleCrate
      (roomyHost, .frame ⟨Network.controlBytes (.manifest Network.soleBlockFecManifest),
        none⟩)).map (fun taken =>
          (taken.1.symbolFrame (.frame ⟨encodeBlockSymbol 0 0 (2 ^ 24) 1 [0], none⟩),
            (taken.1.receiver.handleBlockSymbolFrame idleCrate roomyHost
              (encodeBlockSymbol 0 0 (2 ^ 24) 1 [0])).isSome)) =
        some (some (encodeBlockSymbol 0 0 (2 ^ 24) 1 [0]), false) := by
    decide +kernel
  obtain ⟨⟨next, sent⟩, taken, same⟩ := Option.map_eq_some_iff.mp handed
  obtain ⟨brought, panics⟩ := Prod.mk.inj same
  have handled := (safe.2 next sent taken).1 _ brought
  rw [handled.2] at panics
  cases panics

end Nextmini.Session
