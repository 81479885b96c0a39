import Nextmini.Session.ReceiverSteps

/-!
# Geometry of a reachable receiver

A receiver is either fresh, or it has installed one validated manifest together with the plan and
the mode that belong to it. Its completed blocks are blocks of that plan, and they only grow.
-/

namespace Nextmini.Session

open Nextmini.Library Nextmini.Library.BigEndian
open Nextmini.Messages

set_option autoImplicit false

inductive ModeMatches (manifest : LosslessSessionManifest) (plan : BlockPlan) :
    ReceiverMode → Prop
  | plain {mode : PlainReceiver} : manifest.mode = .plain → ModeMatches manifest plan (.plain mode)
  | fec {fec : LosslessSessionFecMode} {mode : FecReceiver} :
      manifest.mode = .fec fec → plan.symbolGeometry fec.symbolsPerBlock = .ok mode.geometry →
        ModeMatches manifest plan (.fec mode)

structure Installed (receiver : SessionReceiver) (manifest : LosslessSessionManifest)
    (plan : BlockPlan) (mode : ReceiverMode) : Prop where
  manifestIs : receiver.shared.manifest = some manifest
  planIs : receiver.shared.plan = some plan
  modeIs : receiver.mode = some mode
  valid : manifest.validate = .ok ()
  planned : BlockPlan.new manifest.totalBytes manifest.blockSize.toNat = .ok plan
  modeMatches : ModeMatches manifest plan mode
  bounded : receiver.shared.completeBlocks ⊆ Finset.range plan.totalBlocks

structure Fresh (receiver : SessionReceiver) : Prop where
  manifestIs : receiver.shared.manifest = none
  planIs : receiver.shared.plan = none
  modeIs : receiver.mode = none
  noBlocks : receiver.shared.completeBlocks = ∅

def Consistent (receiver : SessionReceiver) : Prop :=
  Fresh receiver ∨ ∃ manifest plan mode, Installed receiver manifest plan mode

/-! ## The sink is the only thing a write changes -/

theorem write_block_sink (shared : ReceiverShared) (blockId : Nat) (payload : List Byte) :
    ∃ sink, shared.writeBlock blockId payload = { shared with sinkBuffer := sink } := by
  unfold ReceiverShared.writeBlock
  split
  next => exact ⟨shared.sinkBuffer, rfl⟩
  next =>
    split
    next => exact ⟨shared.sinkBuffer, rfl⟩
    next =>
      split
      next => exact ⟨shared.sinkBuffer, rfl⟩
      next =>
        simp only
        split_ifs
        · exact ⟨_, rfl⟩
        · exact ⟨_, rfl⟩

theorem ensure_sink_buffer {host : Host} {shared grown : ReceiverShared} {objectLen : Nat}
    (ensured : shared.ensureSinkBufferLen host objectLen = some grown) :
    grown = { shared with sinkBuffer := shared.sinkBuffer.map (ReceiverShared.growSink · objectLen) } := by
  unfold ReceiverShared.ensureSinkBufferLen at ensured
  split at ensured
  next empty =>
    cases ensured
    rw [empty, Option.map_none, ← empty]
  next sink present =>
    split_ifs at ensured with short room
    · cases ensured
      rw [present]
      rfl
    · cases ensured
      rw [present]
      simp only [Option.map_some, ReceiverShared.growSink, short, if_false]
      rw [← present]

section WriteBlock

variable (shared : ReceiverShared) (blockId : Nat) (payload : List Byte)

@[simp] theorem write_block_manifest :
    (shared.writeBlock blockId payload).manifest = shared.manifest := by
  obtain ⟨sink, same⟩ := write_block_sink shared blockId payload
  rw [same]

@[simp] theorem write_block_plan : (shared.writeBlock blockId payload).plan = shared.plan := by
  obtain ⟨sink, same⟩ := write_block_sink shared blockId payload
  rw [same]

@[simp] theorem write_block_session :
    (shared.writeBlock blockId payload).sessionId = shared.sessionId := by
  obtain ⟨sink, same⟩ := write_block_sink shared blockId payload
  rw [same]

@[simp] theorem write_block_complete :
    (shared.writeBlock blockId payload).completeBlocks = shared.completeBlocks := by
  obtain ⟨sink, same⟩ := write_block_sink shared blockId payload
  rw [same]

end WriteBlock

/-! ## Plans of validated manifests -/

theorem plan_total_blocks {manifest : LosslessSessionManifest} {plan : BlockPlan}
    (valid : manifest.validate = .ok ())
    (planned : BlockPlan.new manifest.totalBytes manifest.blockSize.toNat = .ok plan) :
    plan.totalBlocks = manifest.totalBlocks.toNat ∧ plan.totalBytes = manifest.totalBytes.toNat ∧
      plan.blockSize = manifest.blockSize.toNat := by
  obtain ⟨_, count, _⟩ := (validate_manifest_ok_iff manifest).mp valid
  have shape : plan.totalBytes = manifest.totalBytes.toNat ∧
      plan.blockSize = manifest.blockSize.toNat := by
    simp only [BlockPlan.new] at planned
    split_ifs at planned
    · cases planned
      exact ⟨rfl, rfl⟩
    · cases planned
      exact ⟨rfl, rfl⟩
  refine ⟨?_, shape⟩
  have fits := plan.total_blocks_lt
  rw [count, ← shape.1, ← shape.2, ← plan.blockCount, UInt64.toNat_ofNat_of_lt' fits]

theorem validate_block_id_ok {manifest : LosslessSessionManifest} {blockId : UInt64}
    (checked : manifest.validateBlockId blockId = .ok ()) : blockId < manifest.totalBlocks := by
  obtain ⟨_, _, checked⟩ := bind_ok_iff.mp checked
  split_ifs at checked with beyond
  exact UInt64.not_le.mp beyond

theorem validate_block_data_id {manifest : LosslessSessionManifest}
    {data : LosslessSessionBlockData} {length : Nat}
    (valid : manifest.validateBlockData data length = .ok ()) :
    data.blockId < manifest.totalBlocks := by
  unfold LosslessSessionManifest.validateBlockData at valid
  split_ifs at valid
  obtain ⟨expected, computed, _⟩ := bind_ok_iff.mp valid
  obtain ⟨_, checked, _⟩ := bind_ok_iff.mp computed
  exact validate_block_id_ok checked

theorem validate_block_symbol_id {manifest : LosslessSessionManifest}
    {symbol : LosslessSessionBlockSymbol} (valid : manifest.validateBlockSymbol symbol = .ok ()) :
    symbol.blockId < manifest.totalBlocks := by
  unfold LosslessSessionManifest.validateBlockSymbol at valid
  split at valid
  next => cases valid
  next =>
    obtain ⟨_, checked, _⟩ := bind_ok_iff.mp valid
    exact validate_block_id_ok checked

/-! ## Preservation -/

theorem installed_insert {receiver : SessionReceiver} {manifest : LosslessSessionManifest}
    {plan : BlockPlan} {blockId : UInt64} (valid : manifest.validate = .ok ())
    (planned : BlockPlan.new manifest.totalBytes manifest.blockSize.toNat = .ok plan)
    (bounded : receiver.shared.completeBlocks ⊆ Finset.range plan.totalBlocks)
    (inside : blockId < manifest.totalBlocks) :
    insert blockId.toNat receiver.shared.completeBlocks ⊆ Finset.range plan.totalBlocks := by
  refine Finset.insert_subset ?_ bounded
  rw [Finset.mem_range, (plan_total_blocks valid planned).1]
  exact UInt64.lt_iff_toNat_lt.mp inside

theorem receiver_mode_matches {manifest : LosslessSessionManifest} {plan : BlockPlan}
    {mode : ReceiverMode}
    (chosen : SessionReceiver.receiverMode plan manifest.mode = some mode) :
    ModeMatches manifest plan mode ∧ mode.cache = .empty := by
  cases kind : manifest.mode with
  | plain =>
    simp only [kind, SessionReceiver.receiverMode] at chosen
    cases chosen
    exact ⟨.plain kind, rfl⟩
  | fec fec =>
    simp only [kind, SessionReceiver.receiverMode] at chosen
    split at chosen
    next => cases chosen
    next geometry built =>
      cases chosen
      exact ⟨.fec kind built, rfl⟩

theorem ModeMatches.with_cache {manifest : LosslessSessionManifest} {plan : BlockPlan}
    {mode : ReceiverMode} (matched : ModeMatches manifest plan mode) (cache : NeedCache) :
    ModeMatches manifest plan (mode.withCache cache) := by
  cases matched with
  | plain kind => exact .plain kind
  | fec kind built => exact .fec kind built

/-- What stays of a receiver over any step: its session and, once installed, its manifest, plan
and mode; its blocks only grow. -/
structure Extends (before after : SessionReceiver) : Prop where
  session : after.shared.sessionId = before.shared.sessionId
  manifestKept : before.shared.manifest.isSome → after.shared.manifest = before.shared.manifest
  planKept : before.shared.plan.isSome → after.shared.plan = before.shared.plan
  blocksGrow : before.shared.completeBlocks ⊆ after.shared.completeBlocks

theorem Extends.refl (receiver : SessionReceiver) : Extends receiver receiver :=
  ⟨rfl, fun _ => rfl, fun _ => rfl, subset_rfl⟩

theorem mark_passive_shared (receiver : SessionReceiver) :
    receiver.markPassive.shared = receiver.shared ∧
      receiver.markPassive.mode = receiver.mode := by
  unfold SessionReceiver.markPassive
  split_ifs
  · exact ⟨rfl, rfl⟩
  · exact ⟨rfl, rfl⟩

section Steps

variable {crate : FountainCrate} {host : Host} {receiver next : SessionReceiver}
  {frame : InboundFrame} {sent : List LosslessSessionControl}

theorem symbol_step_shared {mode after : FecReceiver} {shared later : ReceiverShared}
    {bytes : List Byte}
    (step : FecReceiver.SymbolStep crate host mode shared bytes after later) :
    later.sessionId = shared.sessionId ∧ later.manifest = shared.manifest ∧
      later.plan = shared.plan ∧ after.geometry = mode.geometry ∧
      after.toNeedCache = mode.toNeedCache ∧
      (later.completeBlocks = shared.completeBlocks ∨
        ∃ manifest blockId, shared.manifest = some manifest ∧ blockId < manifest.totalBlocks ∧
          later.completeBlocks = insert blockId.toNat shared.completeBlocks) := by
  cases step with
  | ignore => exact ⟨rfl, rfl, rfl, rfl, rfl, .inl rfl⟩
  | keep installed decoded valid fresh => exact ⟨rfl, rfl, rfl, rfl, rfl, .inl rfl⟩
  | complete installed kind decoded valid fresh planned length gives direct =>
    simp only [FecReceiver.completeBlock, write_block_session, write_block_manifest,
      write_block_plan, write_block_complete, true_and]
    exact .inr ⟨_, _, installed, validate_block_symbol_id valid, rfl⟩

theorem receive_step_extends (consistent : Consistent receiver)
    (step : ReceiveStep crate host receiver frame next sent) : Extends receiver next := by
  cases step with
  | ignore => exact .refl receiver
  | readyAgain decoded installed => exact .refl receiver
  | install decoded fresh planned chosen grown =>
    obtain rfl := ensure_sink_buffer grown
    rcases consistent with empty | ⟨manifest, plan, mode, installed⟩
    · refine ⟨rfl, ?_, ?_, subset_rfl⟩
      · simp [fresh]
      · simp [empty.planIs]
    · rw [installed.manifestIs] at fresh
      cases fresh
  | answer decoded running answered => exact ⟨rfl, fun _ => rfl, fun _ => rfl, subset_rfl⟩
  | block running installed decoded valid fresh =>
    refine ⟨?_, ?_, ?_, ?_⟩ <;> simp
  | symbol running step =>
    obtain ⟨session, manifest, plan, _, _, blocks⟩ := symbol_step_shared step
    refine ⟨session, fun _ => manifest, fun _ => plan, ?_⟩
    rcases blocks with same | ⟨_, blockId, _, _, grown⟩
    · simp [same]
    · simp [grown]

theorem receive_step_consistent (consistent : Consistent receiver)
    (step : ReceiveStep crate host receiver frame next sent) : Consistent next := by
  cases step with
  | ignore => exact consistent
  | readyAgain decoded installed => exact consistent
  | install decoded fresh planned chosen grown =>
    obtain rfl := ensure_sink_buffer grown
    rcases consistent with empty | ⟨manifest, plan, mode, installed⟩
    · refine .inr ⟨_, _, _, ⟨rfl, rfl, rfl, decode_control_validates decoded, planned, ?_, ?_⟩⟩
      · exact (receiver_mode_matches chosen).1
      · simp [empty.noBlocks]
    · rw [installed.manifestIs] at fresh
      cases fresh
  | answer decoded running answered =>
    rcases consistent with empty | ⟨manifest, plan, mode, installed⟩
    · rw [empty.modeIs] at running
      cases running
    · rw [installed.modeIs] at running
      cases running
      exact .inr ⟨manifest, plan, _, ⟨installed.manifestIs, installed.planIs, rfl,
        installed.valid, installed.planned, installed.modeMatches.with_cache _,
        installed.bounded⟩⟩
  | block running present decoded valid fresh =>
    rcases consistent with empty | ⟨manifest, plan, mode, installed⟩
    · rw [empty.modeIs] at running
      cases running
    · rw [installed.manifestIs] at present
      cases present
      refine .inr ⟨_, plan, mode, ⟨?_, ?_, installed.modeIs, installed.valid,
        installed.planned, installed.modeMatches, ?_⟩⟩
      · rw [write_block_manifest, installed.manifestIs]
      · rw [write_block_plan, installed.planIs]
      · simp only [write_block_complete]
        exact installed_insert installed.valid installed.planned installed.bounded
          (validate_block_data_id valid)
  | symbol running step =>
    obtain ⟨session, manifestKept, planKept, geometry, _, blocks⟩ := symbol_step_shared step
    rcases consistent with empty | ⟨manifest, plan, mode, installed⟩
    · rw [empty.modeIs] at running
      cases running
    · rw [installed.modeIs] at running
      cases running
      have matched := installed.modeMatches
      refine .inr ⟨manifest, plan, _, ⟨manifestKept.trans installed.manifestIs,
        planKept.trans installed.planIs, rfl, installed.valid, installed.planned, ?_, ?_⟩⟩
      · cases matched with
        | fec kind built => exact .fec kind (geometry ▸ built)
      · rcases blocks with same | ⟨other, blockId, present, inside, grown⟩
        · rw [same]
          exact installed.bounded
        · rw [installed.manifestIs] at present
          cases present
          rw [grown]
          exact installed_insert installed.valid installed.planned installed.bounded inside

theorem receive_frame_consistent (consistent : Consistent receiver)
    (received : receiver.receiveFrame crate host frame = some (next, sent)) :
    Consistent next ∧ Extends receiver next := by
  obtain ⟨middle, step, rfl⟩ := SessionReceiver.receive_frame_cases received
  obtain ⟨sharedSame, modeSame⟩ := mark_passive_shared middle
  have middleConsistent := receive_step_consistent consistent step
  have middleExtends := receive_step_extends consistent step
  refine ⟨?_, ?_⟩
  · rcases middleConsistent with empty | ⟨manifest, plan, mode, installed⟩
    · exact .inl ⟨sharedSame ▸ empty.manifestIs, sharedSame ▸ empty.planIs,
        modeSame ▸ empty.modeIs, sharedSame ▸ empty.noBlocks⟩
    · exact .inr ⟨manifest, plan, mode, ⟨sharedSame ▸ installed.manifestIs,
        sharedSame ▸ installed.planIs, modeSame ▸ installed.modeIs, installed.valid,
        installed.planned, installed.modeMatches, sharedSame ▸ installed.bounded⟩⟩
  · exact ⟨sharedSame ▸ middleExtends.session, sharedSame ▸ middleExtends.manifestKept,
      sharedSame ▸ middleExtends.planKept, sharedSame ▸ middleExtends.blocksGrow⟩

end Steps

/-! ## The whole task -/

theorem task_step_consistent {crate : FountainCrate} {host : Host} {task next : ReceiverTask}
    {event : ReceiverEvent} {sent : List LosslessSessionControl}
    (consistent : Consistent task.receiver)
    (stepped : task.step crate host event = some (next, sent)) :
    Consistent next.receiver ∧ Extends task.receiver next.receiver := by
  have left : Consistent task.leaveLoop.receiver ∧
      Extends task.receiver task.leaveLoop.receiver := by
    refine ⟨?_, ⟨rfl, fun _ => rfl, fun _ => rfl, subset_rfl⟩⟩
    rcases consistent with empty | ⟨manifest, plan, mode, installed⟩
    · exact .inl ⟨empty.manifestIs, empty.planIs, empty.modeIs, empty.noBlocks⟩
    · exact .inr ⟨manifest, plan, mode, ⟨installed.manifestIs, installed.planIs,
        installed.modeIs, installed.valid, installed.planned, installed.modeMatches,
        installed.bounded⟩⟩
  cases event with
  | frame frame =>
    simp only [ReceiverTask.step] at stepped
    split_ifs at stepped
    · obtain ⟨⟨receiver, out⟩, received, same⟩ := Option.bind_eq_some_iff.mp stepped
      cases same
      exact receive_frame_consistent consistent received
    · obtain ⟨_, _, same⟩ := Option.bind_eq_some_iff.mp stepped
      cases same
      exact ⟨consistent, .refl _⟩
  | passiveTimeout =>
    simp only [ReceiverTask.step] at stepped
    split_ifs at stepped
    cases stepped
    exact left
  | channelClosed =>
    simp only [ReceiverTask.step] at stepped
    split_ifs at stepped
    cases stepped
    exact left

end Nextmini.Session
