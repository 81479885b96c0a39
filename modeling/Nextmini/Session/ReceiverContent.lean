import Nextmini.Session.BlockDecoding
import Nextmini.Session.ReceiverInvariant

/-!
# What a receiver holds

A receiver that is only given genuine frames of one transfer holds genuine data at all times: the
symbols it keeps are symbols of the transfer, and its sink agrees with the object on every block
it counts as complete.
-/

namespace Nextmini.Session

open Nextmini.Library Nextmini.Library.BigEndian Nextmini.Library.BufferPatch
open Nextmini.Messages

set_option autoImplicit false

/-- The frame was encoded from a genuine one. -/
def Carries (crate : FountainCrate) (transfer : Transfer) (bytes : List Byte) : Prop :=
  ∃ frame, transfer.Genuine crate frame ∧ frame.encode transfer.sessionId = some bytes

/-- The sink, given what it was at the start: untouched before the manifest, then long enough and
in agreement with the object on every complete block. -/
def SinkHolds (transfer : Transfer) (shared : ReceiverShared) : Option (List Byte) → Prop
  | none => shared.sinkBuffer = none
  | some before => ∃ sink, shared.sinkBuffer = some sink ∧
      (shared.manifest = none → sink = before) ∧
      (shared.manifest.isSome → sink.length = max before.length transfer.plan.totalBytes) ∧
      ∀ blockId ∈ shared.completeBlocks, ∀ span, transfer.plan.blockSpan blockId = some span →
        Agrees sink transfer.object span.offset (span.offset + span.len)

def GenuineState (crate : FountainCrate) (transfer : Transfer) (blockId : Nat)
    (state : FecBlockState) : Prop :=
  ∀ (symbolId : Nat) (payload : List Byte), state.symbols[symbolId]? = some payload →
    transfer.IsSymbol crate blockId symbolId payload

def GenuineSymbols (crate : FountainCrate) (transfer : Transfer)
    (blocks : Std.ExtTreeMap Nat FecBlockState) : Prop :=
  ∀ (blockId : Nat) (state : FecBlockState), blocks[blockId]? = some state →
    GenuineState crate transfer blockId state

structure Holding (crate : FountainCrate) (transfer : Transfer) (given : Option (List Byte))
    (receiver : SessionReceiver) : Prop where
  session : receiver.shared.sessionId = transfer.sessionId
  manifestIs : ∀ manifest ∈ receiver.shared.manifest, manifest = transfer.manifest
  sink : SinkHolds transfer receiver.shared given
  symbols : ∀ mode, receiver.mode = some (.fec mode) → GenuineSymbols crate transfer mode.blocks

section Content

variable {crate : FountainCrate} {host : Host} {transfer : Transfer} {given : Option (List Byte)}
  {shared : ReceiverShared}

theorem write_block_genuine {blockId : Nat} {payload sink : List Byte}
    (planIs : shared.plan = some transfer.plan) (sinkIs : shared.sinkBuffer = some sink)
    (long : transfer.plan.totalBytes ≤ sink.length) {span : BlockSpan}
    (placed : transfer.plan.blockSpan blockId = some span)
    (payloadIs : payload = transfer.source.blockPayload span) :
    (shared.writeBlock blockId payload).sinkBuffer =
      some (overwrite sink span.offset
        (slice transfer.object span.offset (span.offset + span.len))) := by
  have inside := transfer.plan.span_in_object placed
  have grown : ReceiverShared.growSink sink transfer.plan.totalBytes = sink :=
    if_neg (Nat.not_lt.mpr long)
  have length : payload.length = span.len := by
    rw [payloadIs, BlockSource.block_payload_length]
  have whole : payload.take span.len = payload := by
    rw [← length, List.take_length]
  have fits : span.offset + span.len ≤ sink.length := inside.trans long
  simp only [ReceiverShared.writeBlock, planIs, placed, sinkIs, grown, length, Nat.min_self,
    Nat.add_sub_cancel_left, whole, fits, if_true]
  rw [payloadIs, transfer.source.block_payload_eq_slice span transfer.plan.totalBytes inside]
  rfl

theorem SinkHolds.write (holds : SinkHolds transfer shared given)
    (planIs : shared.plan = some transfer.plan) (installed : shared.manifest.isSome)
    {blockId : Nat} {payload : List Byte} (isBlock : transfer.IsBlock blockId payload) :
    SinkHolds transfer
      { shared.writeBlock blockId payload with
        completeBlocks := insert blockId (shared.writeBlock blockId payload).completeBlocks }
      given := by
  obtain ⟨span, placed, payloadIs⟩ := isBlock
  cases given with
  | none =>
    have empty : shared.sinkBuffer = none := holds
    simp only [SinkHolds, ReceiverShared.writeBlock, planIs, placed, empty]
  | some before =>
    obtain ⟨sink, sinkIs, _, length, agrees⟩ := holds
    have long : transfer.plan.totalBytes ≤ sink.length := by
      rw [length installed]
      exact le_max_right _ _
    have written := write_block_genuine planIs sinkIs long placed payloadIs
    have inside := transfer.plan.span_in_object placed
    have inObject : span.offset + span.len ≤ transfer.object.length := by
      rw [Transfer.object, BlockSource.object_length]
      exact inside
    have width := slice_length transfer.object span.offset (span.offset + span.len) inObject
    refine ⟨_, written, ?_, ?_, ?_⟩
    · intro none
      rw [write_block_manifest] at none
      rw [none] at installed
      cases installed
    · intro _
      rw [overwrite_length _ _ _ (by omega)]
      exact length installed
    · intro other member otherSpan otherPlaced
      simp only [write_block_complete, Finset.mem_insert] at member
      rcases member with rfl | earlier
      · rw [placed] at otherPlaced
        cases otherPlaced
        exact overwrite_agrees_part sink transfer.object span.offset span.len
          (inside.trans long) inObject
      · exact overwrite_agrees sink transfer.object span.offset span.len _ _
          (inside.trans long) inObject (agrees other earlier otherSpan otherPlaced)

theorem SinkHolds.install (holds : SinkHolds transfer shared given)
    (fresh : shared.manifest = none) (noBlocks : shared.completeBlocks = ∅) {plan : BlockPlan}
    (totalBytes : plan.totalBytes = transfer.plan.totalBytes)
    {manifest : LosslessSessionManifest} :
    SinkHolds transfer
      { shared with
        sinkBuffer := shared.sinkBuffer.map (ReceiverShared.growSink · plan.totalBytes)
        plan := some plan
        manifest := some manifest } given := by
  cases given with
  | none =>
    have empty : shared.sinkBuffer = none := holds
    simp only [SinkHolds, empty, Option.map_none]
  | some before =>
    obtain ⟨sink, sinkIs, untouched, _, _⟩ := holds
    obtain rfl := untouched fresh
    refine ⟨ReceiverShared.growSink sink plan.totalBytes, by rw [sinkIs]; rfl, by simp, ?_, ?_⟩
    · intro _
      rw [ReceiverShared.growSink, ← totalBytes]
      split_ifs with short
      · rw [List.length_append, List.length_replicate]
        omega
      · omega
    · simp [noBlocks]

/-! ## Symbols -/

theorem grown_state_genuine {mode : FecReceiver} {symbol : LosslessSessionBlockSymbol}
    {payload : List Byte} (held : GenuineSymbols crate transfer mode.blocks)
    (genuine : transfer.IsSymbol crate symbol.blockId.toNat symbol.symbolId.toNat payload) :
    GenuineState crate transfer symbol.blockId.toNat (mode.grownState symbol payload) := by
  have before : GenuineState crate transfer symbol.blockId.toNat
      ((mode.blocks[symbol.blockId.toNat]?).getD ⟨∅⟩) := by
    intro symbolId other present
    cases known : mode.blocks[symbol.blockId.toNat]? with
    | none => simp [known] at present
    | some state =>
      rw [known] at present
      exact held _ state known symbolId other present
  unfold FecReceiver.grownState
  simp only
  split_ifs
  · exact before
  · intro symbolId other present
    rw [Std.ExtTreeMap.getElem?_insert] at present
    split_ifs at present with same
    · rw [← Nat.compare_eq_eq.mp same, ← Option.some.inj present]
      exact genuine
    · exact before symbolId other present

theorem GenuineSymbols.insert {blocks : Std.ExtTreeMap Nat FecBlockState} {blockId : Nat}
    {grown : FecBlockState} (held : GenuineSymbols crate transfer blocks)
    (new : GenuineState crate transfer blockId grown) :
    GenuineSymbols crate transfer (blocks.insert blockId grown) := by
  intro other state present
  rw [Std.ExtTreeMap.getElem?_insert] at present
  split_ifs at present with same
  · rw [← Nat.compare_eq_eq.mp same, ← Option.some.inj present]
    exact new
  · exact held other state present

theorem GenuineSymbols.erase {blocks : Std.ExtTreeMap Nat FecBlockState}
    (held : GenuineSymbols crate transfer blocks) (blockId : Nat) :
    GenuineSymbols crate transfer (blocks.erase blockId) := by
  intro other state present
  rw [Std.ExtTreeMap.getElem?_erase] at present
  split_ifs at present
  exact held other state present

/-! ## One frame -/

theorem Holding.plan_is {receiver : SessionReceiver} {manifest : LosslessSessionManifest}
    {plan : BlockPlan} {mode : ReceiverMode} (holding : Holding crate transfer given receiver)
    (planned : BlockPlan.new transfer.manifest.totalBytes transfer.manifest.blockSize.toNat =
      .ok transfer.plan)
    (installed : Installed receiver manifest plan mode) :
    manifest = transfer.manifest ∧ plan = transfer.plan := by
  have same := holding.manifestIs manifest installed.manifestIs
  refine ⟨same, ?_⟩
  have given := installed.planned
  rw [same, planned] at given
  exact (Except.ok.inj given).symm

theorem new_mode_blocks {plan : BlockPlan} {kind : LosslessSessionMode} {mode : FecReceiver}
    (chosen : SessionReceiver.receiverMode plan kind = some (.fec mode)) : mode.blocks = ∅ := by
  cases kind with
  | plain => cases chosen
  | fec fec =>
    simp only [SessionReceiver.receiverMode] at chosen
    split at chosen
    next => cases chosen
    next =>
      cases chosen
      rfl

theorem symbol_step_holding {mode next : FecReceiver} {after : ReceiverShared} {bytes : List Byte}
    (sound : DecodesGenuine crate) (session : shared.sessionId = transfer.sessionId)
    (manifestIs : shared.manifest = some transfer.manifest)
    (planIs : shared.plan = some transfer.plan)
    (laidOut : ∀ fec, transfer.manifest.mode = .fec fec →
      transfer.plan.symbolGeometry fec.symbolsPerBlock = .ok mode.geometry)
    (valid : transfer.manifest.validate = .ok ())
    (planned : BlockPlan.new transfer.manifest.totalBytes transfer.manifest.blockSize.toNat =
      .ok transfer.plan)
    (sink : SinkHolds transfer shared given) (held : GenuineSymbols crate transfer mode.blocks)
    (carried : Carries crate transfer bytes)
    (uncut : ∀ attempt ∈ mode.frameAttempt host shared bytes, attempt.params.symbolSize < 2 ^ 16)
    (step : FecReceiver.SymbolStep crate host mode shared bytes next after) :
    SinkHolds transfer after given ∧ GenuineSymbols crate transfer next.blocks := by
  obtain ⟨frame, genuine, encoded⟩ := carried
  cases step with
  | ignore => exact ⟨sink, held⟩
  | keep installed decoded accepted fresh =>
    exact ⟨sink, held.insert (grown_state_genuine held (genuine_block_symbol genuine encoded decoded))⟩
  | @complete manifest header symbol payload fec plan blockLen block installed kind decoded accepted
      fresh plannedHere length gives direct =>
      rw [manifestIs] at installed
      cases installed
      rw [planIs] at plannedHere
      cases plannedHere
      have grown := grown_state_genuine held (genuine_block_symbol genuine encoded decoded)
      have inside : symbol.blockId.toNat < transfer.plan.totalBlocks := by
        rw [(plan_total_blocks valid planned).1]
        exact UInt64.lt_iff_toNat_lt.mp (validate_block_symbol_id accepted)
      rw [session] at gives
      have known : FecReceiver.systematicBlockPayload host (mode.grownState symbol payload)
          fec.symbolsPerBlock.toNat mode.geometry.symbolSize blockLen = some block ∨
          mode.geometry.symbolSize < 2 ^ 16 := by
        cases made : mode.frameAttempt host shared bytes with
        | none => exact .inl (direct made)
        | some attempt =>
          obtain ⟨_, _, _, _, _, size⟩ := FecReceiver.frame_attempt_params made
          rw [← size]
          exact .inr (uncut attempt made)
      have isBlock := FecReceiver.decoded_block_genuine sound kind (laidOut fec kind) length inside
        grown gives known
      exact ⟨sink.write planIs (by rw [manifestIs]; rfl) isBlock,
        (held.insert grown).erase symbol.blockId.toNat⟩

theorem receive_step_holding {receiver next : SessionReceiver} {frame : InboundFrame}
    {sent : List LosslessSessionControl}
    (sound : ∀ fec, transfer.manifest.mode = .fec fec → DecodesGenuine crate)
    (planned : BlockPlan.new transfer.manifest.totalBytes transfer.manifest.blockSize.toNat =
      .ok transfer.plan)
    (consistent : Consistent receiver) (holding : Holding crate transfer given receiver)
    (carried : Carries crate transfer frame.bytes)
    (uncut : ∀ fec, transfer.manifest.mode = .fec fec →
      ∀ attempt ∈ receiver.frameAttempt host frame.bytes, attempt.params.symbolSize < 2 ^ 16)
    (step : ReceiveStep crate host receiver frame next sent) :
    Holding crate transfer given next := by
  cases step with
  | ignore => exact holding
  | readyAgain decoded installed => exact holding
  | @install header manifest plan mode grown decoded fresh plannedHere chosen ensured =>
    obtain rfl := ensure_sink_buffer ensured
    obtain ⟨sentFrame, genuine, encoded⟩ := carried
    obtain rfl := genuine_manifest genuine encoded decoded
    rw [planned] at plannedHere
    cases plannedHere
    rcases consistent with empty | ⟨manifest, plan, other, installed⟩
    · refine ⟨holding.session, ?_, holding.sink.install fresh empty.noBlocks rfl, ?_⟩
      · intro manifest member
        exact (Option.some.inj member).symm
      · rintro fecMode ⟨⟩
        rw [new_mode_blocks chosen]
        intro blockId state present
        simp at present
    · rw [installed.manifestIs] at fresh
      cases fresh
  | @answer header roundId mode cache sent decoded running answered =>
    refine ⟨holding.session, holding.manifestIs, holding.sink, ?_⟩
    intro fecMode renewed
    cases mode with
    | plain mode => cases renewed
    | fec mode =>
      cases renewed
      exact holding.symbols mode running
  | @block mode manifest header data payload running installed decoded valid fresh =>
    rcases consistent with empty | ⟨manifest, plan, other, here⟩
    · rw [empty.modeIs] at running
      cases running
    · obtain ⟨rfl, rfl⟩ := holding.plan_is planned here
      obtain ⟨sentFrame, genuine, encoded⟩ := carried
      have isBlock := genuine_block_data genuine encoded decoded
      refine ⟨?_, ?_, holding.sink.write here.planIs (by rw [here.manifestIs]; rfl) isBlock, ?_⟩
      · simp [holding.session]
      · simpa using holding.manifestIs
      · intro fecMode other
        rw [running] at other
        cases other
  | @symbol mode after shared running step =>
    rcases consistent with empty | ⟨manifest, plan, other, here⟩
    · rw [empty.modeIs] at running
      cases running
    · obtain ⟨rfl, rfl⟩ := holding.plan_is planned here
      obtain ⟨session, manifestKept, planKept, _⟩ := symbol_step_shared step
      have matched := here.modeMatches
      have made : receiver.frameAttempt host frame.bytes =
          mode.frameAttempt host receiver.shared frame.bytes := by
        rw [SessionReceiver.frameAttempt, running]
      rw [made] at uncut
      rw [here.modeIs] at running
      cases running
      cases matched with
      | @fec fec _ kind laidOut =>
        have geometryIs : ∀ other, transfer.manifest.mode = .fec other →
            transfer.plan.symbolGeometry other.symbolsPerBlock = .ok mode.geometry := by
          intro other same
          rw [kind] at same
          cases same
          exact laidOut
        obtain ⟨sink, symbols⟩ := symbol_step_holding (sound fec kind) holding.session
          here.manifestIs here.planIs geometryIs here.valid planned holding.sink
          (holding.symbols mode here.modeIs) carried (uncut fec kind) step
        refine ⟨session.trans holding.session, ?_, sink, ?_⟩
        · intro manifest member
          rw [Option.mem_def, manifestKept] at member
          exact holding.manifestIs manifest member
        · rintro fecMode ⟨⟩
          exact symbols

/-! ## The whole task -/

theorem Holding.frame {receiver next : SessionReceiver}
    (holding : Holding crate transfer given receiver) (shared : next.shared = receiver.shared)
    (mode : next.mode = receiver.mode) : Holding crate transfer given next where
  session := shared ▸ holding.session
  manifestIs := shared ▸ holding.manifestIs
  sink := shared ▸ holding.sink
  symbols := mode ▸ holding.symbols

theorem new_receiver_holds {cfg : ReceiverConfig} (session : cfg.sessionId = transfer.sessionId) :
    Holding crate transfer cfg.sinkBuffer (.new cfg) := by
  refine ⟨session, by simp [SessionReceiver.new], ?_, by simp [SessionReceiver.new]⟩
  cases sink : cfg.sinkBuffer with
  | none => exact sink
  | some before => exact ⟨before, sink, fun _ => rfl, by simp [SessionReceiver.new],
      by simp [SessionReceiver.new]⟩

theorem task_step_holding {task next : ReceiverTask} {event : ReceiverEvent}
    {sent : List LosslessSessionControl}
    (sound : ∀ fec, transfer.manifest.mode = .fec fec → DecodesGenuine crate)
    (planned : BlockPlan.new transfer.manifest.totalBytes transfer.manifest.blockSize.toNat =
      .ok transfer.plan)
    (consistent : Consistent task.receiver) (holding : Holding crate transfer given task.receiver)
    (carried : ∀ frame, event = .frame frame → Carries crate transfer frame.bytes)
    (uncut : ∀ fec, transfer.manifest.mode = .fec fec → ∀ frame, event = .frame frame →
      ∀ attempt ∈ task.receiver.frameAttempt host frame.bytes, attempt.params.symbolSize < 2 ^ 16)
    (stepped : task.step crate host event = some (next, sent)) :
    Holding crate transfer given next.receiver := by
  cases event with
  | frame frame =>
    simp only [ReceiverTask.step] at stepped
    split_ifs at stepped
    · obtain ⟨⟨receiver, out⟩, received, same⟩ := Option.bind_eq_some_iff.mp stepped
      cases same
      obtain ⟨middle, step, rfl⟩ := SessionReceiver.receive_frame_cases received
      obtain ⟨shared, mode⟩ := mark_passive_shared middle
      exact (receive_step_holding sound planned consistent holding (carried frame rfl)
        (fun fec kind => uncut fec kind frame rfl) step).frame shared mode
    · obtain ⟨_, _, same⟩ := Option.bind_eq_some_iff.mp stepped
      cases same
      exact holding
  | passiveTimeout =>
    simp only [ReceiverTask.step] at stepped
    split_ifs at stepped
    cases stepped
    exact holding.frame rfl rfl
  | channelClosed =>
    simp only [ReceiverTask.step] at stepped
    split_ifs at stepped
    cases stepped
    exact holding.frame rfl rfl

/-! ## A receiver with all blocks -/

/-- All blocks of the session are complete, and a sink that the receiver was given begins with the object. -/
structure Delivered (transfer : Transfer) (given : Option (List Byte))
    (receiver : SessionReceiver) : Prop where
  session : receiver.shared.sessionId = transfer.sessionId
  blocks : receiver.shared.completeBlocks = Finset.range transfer.plan.totalBlocks
  sink : ∀ before ∈ given, ∃ sink, receiver.shared.sinkBuffer = some sink ∧
    sink.take transfer.plan.totalBytes = transfer.object ∧
    sink.length = max before.length transfer.plan.totalBytes

theorem Holding.delivered {receiver : SessionReceiver} {manifest : LosslessSessionManifest}
    {plan : BlockPlan} {mode : ReceiverMode} (holding : Holding crate transfer given receiver)
    (planned : BlockPlan.new transfer.manifest.totalBytes transfer.manifest.blockSize.toNat =
      .ok transfer.plan)
    (installed : Installed receiver manifest plan mode)
    (full : receiver.shared.completeBlocks = Finset.range plan.totalBlocks) :
    Delivered transfer given receiver := by
  obtain ⟨rfl, rfl⟩ := holding.plan_is planned installed
  refine ⟨holding.session, full, ?_⟩
  rintro before rfl
  obtain ⟨sink, sinkIs, _, length, agrees⟩ := holding.sink
  refine ⟨sink, sinkIs, ?_, length (by rw [installed.manifestIs]; rfl)⟩
  have whole := transfer.plan.agrees_of_spans sink transfer.object fun blockId inside span placed =>
    agrees blockId (by rw [full]; exact Finset.mem_range.mpr inside) span placed
  have size : transfer.object.length = transfer.plan.totalBytes := BlockSource.object_length _ _
  rw [← size] at whole ⊢
  exact take_eq_of_agrees sink transfer.object whole

end Content

end Nextmini.Session
