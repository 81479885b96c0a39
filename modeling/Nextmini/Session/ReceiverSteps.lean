import Nextmini.Session.ReceiverTask
import Nextmini.Messages.ControlRoundTrip

/-!
# What a receiver step can do

Every frame a receiver handles does one of six things. The geometry of a receiver follows from the
one manifest it installs, and its completed blocks stay inside that geometry.
-/

namespace Nextmini.Session

open Nextmini.Library Nextmini.Library.BigEndian
open Nextmini.Messages

set_option autoImplicit false

def ReceiverMode.snapshot (shared : ReceiverShared) : ReceiverMode → Option NeedReport
  | .plain _ => shared.plainNeed
  | .fec mode => mode.needReport shared

def ReceiverMode.withCache (cache : NeedCache) : ReceiverMode → ReceiverMode
  | .plain _ => .plain ⟨cache⟩
  | .fec mode => .fec { mode with toNeedCache := cache }

@[simp] theorem cache_with_cache (cache : NeedCache) (mode : ReceiverMode) :
    (mode.withCache cache).cache = cache := by
  cases mode <;> rfl

/-- The decoding of a block that the fast path has left to the crate. -/
structure DecodeAttempt where
  params : BlockParams
  blockState : FecBlockState

namespace FecReceiver

def blockAttempt (host : Host) (mode : FecReceiver) (shared : ReceiverShared) (blockId : Nat)
    (fecMode : LosslessSessionFecMode) : Option DecodeAttempt :=
  match shared.plan, mode.blocks[blockId]? with
  | some plan, some blockState =>
      let sourceSymbols := fecMode.symbolsPerBlock.toNat
      if blockState.symbols.size < sourceSymbols then none
      else
        match plan.blockLen blockId with
        | none => none
        | some blockLen =>
            match systematicBlockPayload host blockState sourceSymbols mode.geometry.symbolSize
                blockLen with
            | some _ => none
            | none =>
                some ⟨⟨sourceSymbols, mode.geometry.symbolSize,
                  blockSeed shared.sessionId (UInt64.ofNat blockId)⟩, blockState⟩
  | _, _ => none

def frameAttempt (host : Host) (mode : FecReceiver) (shared : ReceiverShared) (bytes : List Byte) :
    Option DecodeAttempt :=
  match shared.manifest with
  | none => none
  | some manifest =>
      match manifest.mode with
      | .plain => none
      | .fec fecMode =>
          match decodeBlockSymbol bytes with
          | none => none
          | some (_, symbol, payload) =>
              match manifest.validateBlockSymbol symbol with
              | .error _ => none
              | .ok () =>
                  let blockId := symbol.blockId.toNat
                  if blockId ∈ shared.completeBlocks then none
                  else
                    let state := (mode.blocks[blockId]?).getD ⟨∅⟩
                    if symbol.symbolId.toNat ∈ state.symbols then none
                    else
                      let grown : FecBlockState :=
                        ⟨state.symbols.insert symbol.symbolId.toNat payload⟩
                      blockAttempt host { mode with blocks := mode.blocks.insert blockId grown }
                        shared blockId fecMode

theorem block_attempt_params {host : Host} {mode : FecReceiver} {shared : ReceiverShared} {blockId : Nat}
    {fecMode : LosslessSessionFecMode} {attempt : DecodeAttempt}
    (made : mode.blockAttempt host shared blockId fecMode = some attempt) :
    attempt.params.sourceSymbols = fecMode.symbolsPerBlock.toNat ∧
      attempt.params.symbolSize = mode.geometry.symbolSize := by
  unfold blockAttempt at made
  split at made
  next =>
    simp only at made
    split_ifs at made
    split at made
    next => cases made
    next =>
      split at made
      next => cases made
      next =>
        cases made
        exact ⟨rfl, rfl⟩
  next => cases made

theorem frame_attempt_params {host : Host} {mode : FecReceiver} {shared : ReceiverShared} {bytes : List Byte}
    {attempt : DecodeAttempt} (made : mode.frameAttempt host shared bytes = some attempt) :
    ∃ manifest fecMode, shared.manifest = some manifest ∧ manifest.mode = .fec fecMode ∧
      attempt.params.sourceSymbols = fecMode.symbolsPerBlock.toNat ∧
      attempt.params.symbolSize = mode.geometry.symbolSize := by
  unfold frameAttempt at made
  split at made
  next => cases made
  next manifest installed =>
    split at made
    next => cases made
    next fecMode kind =>
      split at made
      next => cases made
      next =>
        split at made
        next => cases made
        next =>
          simp only at made
          split_ifs at made
          obtain ⟨count, size⟩ := block_attempt_params made
          exact ⟨manifest, fecMode, installed, kind, count, size⟩

def grownState (mode : FecReceiver) (symbol : LosslessSessionBlockSymbol)
    (payload : List Byte) : FecBlockState :=
  let state := (mode.blocks[symbol.blockId.toNat]?).getD ⟨∅⟩
  if symbol.symbolId.toNat ∈ state.symbols then state
  else ⟨state.symbols.insert symbol.symbolId.toNat payload⟩

/-- The block that a block's symbols give, by the fast path or by the crate's decoder. -/
def DecodesTo (crate : FountainCrate) (host : Host) (sessionId : UInt64) (blockId : Nat)
    (geometry : SymbolGeometry) (sourceSymbols blockLen : Nat) (state : FecBlockState)
    (block : List Byte) : Prop :=
  systematicBlockPayload host state sourceSymbols geometry.symbolSize blockLen = some block ∨
    decodeBlock crate host sessionId blockId geometry sourceSymbols blockLen state =
      some (some block)

/-- What handling a symbol frame does: nothing, keep the symbol, or complete its block. -/
inductive SymbolStep (crate : FountainCrate) (host : Host) (mode : FecReceiver)
    (shared : ReceiverShared) (bytes : List Byte) : FecReceiver → ReceiverShared → Prop
  | ignore : SymbolStep crate host mode shared bytes mode shared
  | keep {manifest : LosslessSessionManifest} {header : LosslessSessionHeader}
      {symbol : LosslessSessionBlockSymbol} {payload : List Byte} :
      shared.manifest = some manifest →
        decodeBlockSymbol bytes = some (header, symbol, payload) →
        manifest.validateBlockSymbol symbol = .ok () →
        symbol.blockId.toNat ∉ shared.completeBlocks →
        SymbolStep crate host mode shared bytes
          { mode with
            blocks := mode.blocks.insert symbol.blockId.toNat (mode.grownState symbol payload) }
          shared
  | complete {manifest : LosslessSessionManifest} {header : LosslessSessionHeader}
      {symbol : LosslessSessionBlockSymbol} {payload : List Byte}
      {fecMode : LosslessSessionFecMode} {plan : BlockPlan} {blockLen : Nat} {block : List Byte} :
      shared.manifest = some manifest → manifest.mode = .fec fecMode →
        decodeBlockSymbol bytes = some (header, symbol, payload) →
        manifest.validateBlockSymbol symbol = .ok () →
        symbol.blockId.toNat ∉ shared.completeBlocks →
        shared.plan = some plan → plan.blockLen symbol.blockId.toNat = some blockLen →
        DecodesTo crate host shared.sessionId symbol.blockId.toNat mode.geometry
          fecMode.symbolsPerBlock.toNat blockLen (mode.grownState symbol payload) block →
        (mode.frameAttempt host shared bytes = none →
          systematicBlockPayload host (mode.grownState symbol payload)
            fecMode.symbolsPerBlock.toNat mode.geometry.symbolSize blockLen = some block) →
        SymbolStep crate host mode shared bytes
          (completeBlock
            { mode with
              blocks := mode.blocks.insert symbol.blockId.toNat (mode.grownState symbol payload) }
            shared symbol.blockId.toNat block).1
          (completeBlock mode shared symbol.blockId.toNat block).2

theorem try_decode_cases {crate : FountainCrate} {host : Host} {mode next : FecReceiver}
    {shared after : ReceiverShared} {blockId : Nat} {fecMode : LosslessSessionFecMode}
    (decoded : tryDecodeFecBlock crate host mode shared blockId fecMode = some (next, after)) :
    (next = mode ∧ after = shared) ∨
      ∃ plan state blockLen block, shared.plan = some plan ∧ mode.blocks[blockId]? = some state ∧
        plan.blockLen blockId = some blockLen ∧
        DecodesTo crate host shared.sessionId blockId mode.geometry
          fecMode.symbolsPerBlock.toNat blockLen state block ∧
        (blockAttempt host mode shared blockId fecMode = none →
          systematicBlockPayload host state fecMode.symbolsPerBlock.toNat
            mode.geometry.symbolSize blockLen = some block) ∧
        (next, after) = mode.completeBlock shared blockId block := by
  cases planned : shared.plan with
  | none =>
    simp only [tryDecodeFecBlock, planned, Option.some.injEq, Prod.mk.injEq] at decoded
    exact .inl ⟨decoded.1.symm, decoded.2.symm⟩
  | some plan =>
    cases present : mode.blocks[blockId]? with
    | none =>
      simp only [tryDecodeFecBlock, planned, present, Option.some.injEq,
        Prod.mk.injEq] at decoded
      exact .inl ⟨decoded.1.symm, decoded.2.symm⟩
    | some state =>
      simp only [tryDecodeFecBlock, planned, present] at decoded
      split_ifs at decoded with few
      · simp only [Option.some.injEq, Prod.mk.injEq] at decoded
        exact .inl ⟨decoded.1.symm, decoded.2.symm⟩
      · cases length : plan.blockLen blockId with
        | none =>
          simp only [length, Option.some.injEq, Prod.mk.injEq] at decoded
          exact .inl ⟨decoded.1.symm, decoded.2.symm⟩
        | some blockLen =>
          simp only [length] at decoded
          split at decoded
          next block systematic =>
            refine .inr ⟨plan, state, blockLen, block, rfl, rfl, length, ?_, ?_, ?_⟩
            · exact .inl systematic
            · exact fun _ => systematic
            · exact (Option.some.inj decoded).symm
          next left =>
            obtain ⟨result, coded, decoded⟩ := Option.bind_eq_some_iff.mp decoded
            cases result with
            | none =>
              simp only [Option.some.injEq, Prod.mk.injEq] at decoded
              exact .inl ⟨decoded.1.symm, decoded.2.symm⟩
            | some block =>
              refine .inr ⟨plan, state, blockLen, block, rfl, rfl, length, ?_, ?_, ?_⟩
              · exact .inr coded
              · intro none
                simp only [blockAttempt, planned, present, few, if_false, length, left] at none
                cases none
              · exact (Option.some.inj decoded).symm

theorem handle_block_symbol_cases {crate : FountainCrate} {host : Host} {mode next : FecReceiver}
    {shared after : ReceiverShared} {bytes : List Byte}
    (handled : mode.handleBlockSymbolFrame crate host shared bytes = some (next, after)) :
    SymbolStep crate host mode shared bytes next after := by
  cases installed : shared.manifest with
  | none =>
    simp only [handleBlockSymbolFrame, installed, Option.some.injEq, Prod.mk.injEq] at handled
    obtain ⟨rfl, rfl⟩ := handled
    exact .ignore
  | some manifest =>
    cases kind : manifest.mode with
    | plain =>
      simp only [handleBlockSymbolFrame, installed, kind, Option.some.injEq,
        Prod.mk.injEq] at handled
      obtain ⟨rfl, rfl⟩ := handled
      exact .ignore
    | fec fecMode =>
      simp only [handleBlockSymbolFrame, installed, kind] at handled
      split at handled
      next =>
        simp only [Option.some.injEq, Prod.mk.injEq] at handled
        obtain ⟨rfl, rfl⟩ := handled
        exact .ignore
      next header symbol payload decoded =>
        split at handled
        next =>
          simp only [Option.some.injEq, Prod.mk.injEq] at handled
          obtain ⟨rfl, rfl⟩ := handled
          exact .ignore
        next valid =>
          split_ifs at handled with done known
          · simp only [Option.some.injEq, Prod.mk.injEq] at handled
            obtain ⟨rfl, rfl⟩ := handled
            exact .ignore
          · simp only [Option.some.injEq, Prod.mk.injEq] at handled
            obtain ⟨rfl, rfl⟩ := handled
            have known : mode.grownState symbol payload =
                (mode.blocks[symbol.blockId.toNat]?).getD ⟨∅⟩ := by
              simp only [grownState, known, if_true]
            rw [← known]
            exact .keep installed decoded valid done
          · have grown : mode.grownState symbol payload =
                ⟨((mode.blocks[symbol.blockId.toNat]?).getD ⟨∅⟩).symbols.insert
                  symbol.symbolId.toNat payload⟩ := by
              simp only [grownState, known, if_false]
            rw [← grown] at handled
            rcases try_decode_cases handled with ⟨rfl, rfl⟩ | complete
            · exact .keep installed decoded valid done
            · obtain ⟨plan, state, blockLen, block, planned, present, length, gives, direct,
                same⟩ := complete
              simp only [Std.ExtTreeMap.getElem?_insert_self, Option.some.injEq] at present
              subst present
              obtain ⟨rfl, rfl⟩ := Prod.mk.inj same
              refine .complete installed kind decoded valid done planned length gives ?_
              intro none
              apply direct
              simp only [frameAttempt, installed, kind, decoded, valid, done, known, if_false,
                ← grown] at none
              exact none

end FecReceiver

/-! ## One frame -/

/-- What handling one frame does, before the receiver looks whether it has reported completion. -/
inductive ReceiveStep (crate : FountainCrate) (host : Host) (receiver : SessionReceiver)
    (frame : InboundFrame) : SessionReceiver → List LosslessSessionControl → Prop
  | ignore : ReceiveStep crate host receiver frame receiver []
  | readyAgain {header : LosslessSessionHeader} {manifest : LosslessSessionManifest} :
      decodeControl frame.bytes = some (header, .manifest manifest) →
        receiver.shared.manifest = some manifest →
        ReceiveStep crate host receiver frame receiver [.ready]
  | install {header : LosslessSessionHeader} {manifest : LosslessSessionManifest}
      {plan : BlockPlan} {mode : ReceiverMode} {grown : ReceiverShared} :
      decodeControl frame.bytes = some (header, .manifest manifest) →
        receiver.shared.manifest = none →
        BlockPlan.new manifest.totalBytes manifest.blockSize.toNat = .ok plan →
        SessionReceiver.receiverMode plan manifest.mode = some mode →
        receiver.shared.ensureSinkBufferLen host plan.totalBytes = some grown →
        ReceiveStep crate host receiver frame
          { receiver with
            shared := { grown with plan := some plan, manifest := some manifest }
            mode := some mode }
          [.ready]
  | answer {header : LosslessSessionHeader} {roundId : UInt32} {mode : ReceiverMode}
      {cache : NeedCache} {sent : List LosslessSessionControl} :
      decodeControl frame.bytes = some (header, .sourceDone roundId) →
        receiver.mode = some mode →
        answerSourceDone receiver.shared.sessionId (mode.snapshot receiver.shared) mode.cache
          roundId = some (cache, sent) →
        ReceiveStep crate host receiver frame
          { receiver with mode := some (mode.withCache cache) } sent
  | block {mode : PlainReceiver} {manifest : LosslessSessionManifest}
      {header : LosslessSessionHeader} {data : LosslessSessionBlockData} {payload : List Byte} :
      receiver.mode = some (.plain mode) → receiver.shared.manifest = some manifest →
        decodeBlockData frame.bytes = some (header, data, payload) →
        manifest.validateBlockData data payload.length = .ok () →
        data.blockId.toNat ∉ receiver.shared.completeBlocks →
        ReceiveStep crate host receiver frame
          { receiver with
            shared :=
              { receiver.shared.writeBlock data.blockId.toNat payload with
                completeBlocks := insert data.blockId.toNat
                  (receiver.shared.writeBlock data.blockId.toNat payload).completeBlocks } }
          []
  | symbol {mode next : FecReceiver} {after : ReceiverShared} :
      receiver.mode = some (.fec mode) →
        FecReceiver.SymbolStep crate host mode receiver.shared frame.bytes next after →
        ReceiveStep crate host receiver frame
          { receiver with shared := after, mode := some (.fec next) } []

namespace SessionReceiver

def frameAttempt (host : Host) (receiver : SessionReceiver) (bytes : List Byte) :
    Option DecodeAttempt :=
  match receiver.mode with
  | some (.fec mode) => mode.frameAttempt host receiver.shared bytes
  | _ => none

/-- The end of a turn of the loop. -/
def markPassive (receiver : SessionReceiver) : SessionReceiver :=
  if receiver.reportedComplete then receiver.enterPassiveComplete else receiver

theorem send_ready_some {sessionId : UInt64} {sent : List LosslessSessionControl}
    (sending : sendControl sessionId .ready = some sent) : sent = [.ready] := by
  obtain ⟨_, _, rfl⟩ := Option.map_eq_some_iff.mp sending
  rfl

theorem handle_source_done_cases {crate : FountainCrate} {host : Host}
    {receiver next : SessionReceiver} {frame : InboundFrame} {header : LosslessSessionHeader}
    {roundId : UInt32} {sent : List LosslessSessionControl}
    (decoded : decodeControl frame.bytes = some (header, .sourceDone roundId))
    (handled : receiver.handleSourceDone roundId = some (next, sent)) :
    ReceiveStep crate host receiver frame next sent := by
  unfold handleSourceDone at handled
  split at handled
  next =>
    cases handled
    exact .ignore
  next mode running =>
    obtain ⟨⟨answered, out⟩, result, handled⟩ := Option.bind_eq_some_iff.mp handled
    cases handled
    obtain ⟨⟨cache, out⟩, result, same⟩ := Option.bind_eq_some_iff.mp result
    cases same
    exact @ReceiveStep.answer _ _ _ _ _ _ (.plain mode) _ _ decoded running result
  next mode running =>
    obtain ⟨⟨answered, out⟩, result, handled⟩ := Option.bind_eq_some_iff.mp handled
    cases handled
    obtain ⟨⟨cache, out⟩, result, same⟩ := Option.bind_eq_some_iff.mp result
    cases same
    exact @ReceiveStep.answer _ _ _ _ _ _ (.fec mode) _ _ decoded running result

theorem install_manifest_cases {crate : FountainCrate} {host : Host}
    {receiver next : SessionReceiver} {frame : InboundFrame} {header : LosslessSessionHeader}
    {manifest : LosslessSessionManifest} {sent : List LosslessSessionControl}
    (decoded : decodeControl frame.bytes = some (header, .manifest manifest))
    (handled : receiver.installManifest host manifest = some (next, sent)) :
    ReceiveStep crate host receiver frame next sent := by
  unfold installManifest at handled
  split at handled
  next existing installed =>
    split_ifs at handled with same
    · obtain ⟨out, sending, handled⟩ := Option.bind_eq_some_iff.mp handled
      cases handled
      obtain rfl := send_ready_some sending
      exact .readyAgain decoded (same ▸ installed)
    · cases handled
      exact .ignore
  next fresh =>
    split_ifs at handled
    · cases handled
      exact .ignore
    · split at handled
      next =>
        cases handled
        exact .ignore
      next plan planned =>
        split at handled
        next =>
          cases handled
          exact .ignore
        next mode chosen =>
          split at handled
          next =>
            cases handled
            exact .ignore
          next grown reserved =>
            obtain ⟨out, sending, handled⟩ := Option.bind_eq_some_iff.mp handled
            cases handled
            obtain rfl := send_ready_some sending
            exact .install decoded fresh planned chosen reserved

theorem handle_block_data_cases {crate : FountainCrate} {host : Host} (receiver : SessionReceiver)
    (frame : InboundFrame) :
    ReceiveStep crate host receiver frame (receiver.handleBlockDataFrame frame.bytes) [] := by
  obtain ⟨shared, mode, lifecycle⟩ := receiver
  unfold handleBlockDataFrame
  split
  next plain running =>
    unfold PlainReceiver.handleBlockDataFrame
    split
    next => exact .ignore
    next manifest installed =>
      split_ifs
      · exact .ignore
      · split
        next => exact .ignore
        next header data payload decoded =>
          split
          next => exact .ignore
          next valid =>
            split_ifs with done
            · exact .ignore
            · exact .block running installed decoded valid done
  next => exact .ignore

theorem receive_frame_cases {crate : FountainCrate} {host : Host}
    {receiver next : SessionReceiver} {frame : InboundFrame}
    {sent : List LosslessSessionControl}
    (received : receiver.receiveFrame crate host frame = some (next, sent)) :
    ∃ middle, ReceiveStep crate host receiver frame middle sent ∧ next = middle.markPassive := by
  obtain ⟨⟨middle, out⟩, dispatched, received⟩ := Option.bind_eq_some_iff.mp received
  have passive : next = middle.markPassive ∧ sent = out := by
    by_cases complete : middle.reportedComplete
    · simp only [complete, if_true, Option.some.injEq, Prod.mk.injEq] at received
      rw [markPassive, if_pos complete]
      exact ⟨received.1.symm, received.2.symm⟩
    · simp only [complete, Bool.false_eq_true, if_false, Option.some.injEq,
        Prod.mk.injEq] at received
      rw [markPassive, if_neg complete]
      exact ⟨received.1.symm, received.2.symm⟩
  obtain ⟨rfl, rfl⟩ := passive
  refine ⟨middle, ?_, rfl⟩
  unfold dispatchFrame at dispatched
  split at dispatched
  next header control decoded =>
    cases control with
    | manifest manifest => exact install_manifest_cases decoded dispatched
    | ready =>
      cases dispatched
      exact .ignore
    | need roundId report =>
      cases dispatched
      exact .ignore
    | sourceDone roundId => exact handle_source_done_cases decoded dispatched
  next =>
    split_ifs at dispatched
    · cases dispatched
      exact handle_block_data_cases receiver frame
    · obtain ⟨handled, symbol, dispatched⟩ := Option.bind_eq_some_iff.mp dispatched
      cases dispatched
      unfold handleBlockSymbolFrame at symbol
      split at symbol
      next mode running =>
        obtain ⟨⟨after, shared⟩, stepped, symbol⟩ := Option.bind_eq_some_iff.mp symbol
        cases symbol
        exact .symbol running (FecReceiver.handle_block_symbol_cases stepped)
      next =>
        cases symbol
        exact .ignore
    · cases dispatched
      exact .ignore

end SessionReceiver

end Nextmini.Session
