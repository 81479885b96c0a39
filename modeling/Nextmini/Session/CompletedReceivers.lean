import Nextmini.Session.ReceiverGuarantees

/-!
# Completed receivers

A receiver that has reported completion stays completed, takes every frame, and answers each
`SourceDone` it reads, unless the round is older than the last one it has heard of. Its replay
answers for that last round alone.
-/

namespace Nextmini.Session

open Nextmini.Library
open Nextmini.Messages

set_option autoImplicit false

/-! ## A receiver that has reported completion -/

def SessionReceiver.lastRound (receiver : SessionReceiver) : Option UInt32 :=
  receiver.mode.bind fun mode => mode.cache.lastSourceDoneRoundId

def laterRound (lastRoundId roundId : UInt32) : UInt32 :=
  if roundId < lastRoundId then lastRoundId else roundId

def completeAnswer (lastRoundId roundId : UInt32) : List LosslessSessionControl :=
  if roundId < lastRoundId then [] else [.need roundId .complete]

def completeCache (roundId : UInt32) : NeedCache := ⟨true, some roundId, some .complete⟩

structure Completed (receiver : SessionReceiver) (roundId : UInt32)
    (manifest : LosslessSessionManifest) (plan : BlockPlan) (mode : ReceiverMode) : Prop where
  installed : Installed receiver manifest plan mode
  cache : mode.cache = completeCache roundId
  full : receiver.shared.completeBlocks = Finset.range plan.totalBlocks

theorem completed_of_reported {given : List Answer} {receiver : SessionReceiver}
    (answering : Answering given ⟨receiver, none⟩) (reported : receiver.reportedComplete = true) :
    ∃ roundId manifest plan mode, Completed receiver roundId manifest plan mode := by
  rcases answering.consistent with fresh | ⟨manifest, plan, mode, installed⟩
  · rw [SessionReceiver.reportedComplete, fresh.modeIs] at reported
    cases reported
  · have cacheIs := answering.cacheIs mode installed.modeIs
    rw [SessionReceiver.reportedComplete, installed.modeIs] at reported
    simp only [cacheIs, cacheOf] at reported
    cases last : given.getLast? with
    | none =>
      rw [last] at reported
      cases reported
    | some answer =>
      rcases answer with ⟨roundId, report⟩
      rw [last] at reported
      have complete : report = .complete := of_decide_eq_true reported
      have member := List.mem_of_getLast? last
      refine ⟨roundId, manifest, plan, mode, installed, ?_, ?_⟩
      · rw [cacheIs, cacheOf, last, complete]
        rfl
      · exact answering.full _ member complete plan installed.planIs

section Receiver

variable {crate : FountainCrate} {receiver : SessionReceiver} {roundId : UInt32}
  {manifest : LosslessSessionManifest} {plan : BlockPlan} {mode : ReceiverMode}

theorem last_round_of_completed (completed : Completed receiver roundId manifest plan mode) :
    receiver.lastRound = some roundId := by
  rw [SessionReceiver.lastRound, completed.installed.modeIs, Option.bind_some, completed.cache]
  rfl

theorem send_complete (sessionId : UInt64) (roundId : UInt32) :
    sendControl sessionId (.need roundId .complete) = some [.need roundId .complete] := by
  have encodable := (send_control_isSome sessionId (.need roundId .complete)).mpr rfl
  rcases Option.isSome_iff_exists.mp encodable with ⟨sent, sending⟩
  rw [sending, (send_control_some sending).1]

theorem answer_completed (sessionId : UInt64) (lastRoundId roundId : UInt32) :
    answerSourceDone sessionId (some .complete) (completeCache lastRoundId) roundId =
      some (completeCache (laterRound lastRoundId roundId), completeAnswer lastRoundId roundId) := by
  simp only [answerSourceDone, completeCache, laterRound, completeAnswer]
  by_cases stale : roundId < lastRoundId
  · simp only [stale, if_true]
  · by_cases same : roundId = lastRoundId
    · simp only [same, if_true, send_complete]
      simp
    · simp only [stale, if_false, same, answerRound, send_complete]
      simp

theorem receive_dispatched {host : Host} {frame : InboundFrame} {next : SessionReceiver}
    {sent : List LosslessSessionControl}
    (dispatched : receiver.dispatchFrame crate host frame = some (next, sent)) :
    receiver.receiveFrame crate host frame = some (next.markPassive, sent) := by
  rw [SessionReceiver.receiveFrame, dispatched, SessionReceiver.markPassive]
  simp only [Option.bind_eq_bind, Option.bind_some]
  split_ifs <;> rfl

theorem completed_mark_passive (completed : Completed receiver roundId manifest plan mode) :
    Completed receiver.markPassive roundId manifest plan mode := by
  rcases mark_passive_shared receiver with ⟨sharedSame, modeSame⟩
  rcases completed with ⟨installed, cache, full⟩
  refine ⟨⟨?_, ?_, ?_, installed.valid, installed.planned, installed.modeMatches, ?_⟩, cache, ?_⟩
  · rw [sharedSame, installed.manifestIs]
  · rw [sharedSame, installed.planIs]
  · rw [modeSame, installed.modeIs]
  · rw [sharedSame]
    exact installed.bounded
  · rw [sharedSame, full]

theorem completed_with_round (completed : Completed receiver roundId manifest plan mode)
    (later : UInt32) :
    Completed { receiver with mode := some (mode.withCache (completeCache later)) } later manifest
      plan (mode.withCache (completeCache later)) := by
  rcases completed with ⟨installed, _, full⟩
  exact ⟨⟨installed.manifestIs, installed.planIs, rfl, installed.valid, installed.planned,
    installed.modeMatches.with_cache _, installed.bounded⟩, cache_with_cache _ _, full⟩

/-- A `SourceDone` is answered, unless it is stale, and moves the last round up. -/
theorem completed_hears_source_done (crate : FountainCrate) (host : Host)
    (completed : Completed receiver roundId manifest plan mode) {frame : InboundFrame}
    {header : LosslessSessionHeader} {asked : UInt32}
    (decoded : decodeControl frame.bytes = some (header, .sourceDone asked)) :
    ∃ next, receiver.receiveFrame crate host frame = some (next, completeAnswer roundId asked) ∧
      Completed next (laterRound roundId asked) manifest plan
        (mode.withCache (completeCache (laterRound roundId asked))) := by
  have snapshot := (snapshot_complete_iff completed.installed).mpr completed.full
  have answered := answer_completed receiver.shared.sessionId roundId asked
  have dispatched : receiver.dispatchFrame crate host frame =
      some ({ receiver with
        mode := some (mode.withCache (completeCache (laterRound roundId asked))) },
          completeAnswer roundId asked) := by
    rw [SessionReceiver.dispatchFrame, decoded]
    simp only [SessionReceiver.handleControlFrame]
    rw [handle_source_done_eq completed.installed.modeIs, snapshot, completed.cache, answered]
    rfl
  exact ⟨_, receive_dispatched dispatched, completed_mark_passive (completed_with_round completed _)⟩

theorem completed_ignores_block (completed : Completed receiver roundId manifest plan mode)
    (bytes : List Library.BigEndian.Byte) : receiver.handleBlockDataFrame bytes = receiver := by
  rw [SessionReceiver.handleBlockDataFrame, completed.installed.modeIs]
  cases mode with
  | fec mode => rfl
  | plain mode =>
    have unchanged : PlainReceiver.handleBlockDataFrame receiver.shared bytes = receiver.shared := by
      rw [PlainReceiver.handleBlockDataFrame, completed.installed.manifestIs]
      simp only
      split_ifs
      · rfl
      · split
        next => rfl
        next header data payload decoded =>
          split
          next => rfl
          next valid =>
            have inside := UInt64.lt_iff_toNat_lt.mp (validate_block_data_id valid)
            rw [← (plan_total_blocks completed.installed.valid completed.installed.planned).1]
              at inside
            rw [if_pos (completed.full ▸ Finset.mem_range.mpr inside)]
    simp only [unchanged]
    rw [← completed.installed.modeIs]

theorem completed_ignores_symbol (completed : Completed receiver roundId manifest plan mode)
    {host : Host} (bytes : List Library.BigEndian.Byte) :
    receiver.handleBlockSymbolFrame crate host bytes = some receiver := by
  rw [SessionReceiver.handleBlockSymbolFrame, completed.installed.modeIs]
  cases mode with
  | plain mode => rfl
  | fec mode =>
    have unchanged : mode.handleBlockSymbolFrame crate host receiver.shared bytes =
        some (mode, receiver.shared) := by
      rw [FecReceiver.handleBlockSymbolFrame, completed.installed.manifestIs]
      simp only
      split
      next => rfl
      next fecMode _ =>
        split
        next => rfl
        next header symbol payload decoded =>
          split
          next => rfl
          next valid =>
            have inside := UInt64.lt_iff_toNat_lt.mp (validate_block_symbol_id valid)
            rw [← (plan_total_blocks completed.installed.valid completed.installed.planned).1]
              at inside
            rw [if_pos (completed.full ▸ Finset.mem_range.mpr inside)]
    simp only [unchanged, Option.bind_eq_bind, Option.bind_some]
    rw [← completed.installed.modeIs]

/-- Any other frame leaves the receiver as it is, and none makes it panic or report. -/
theorem completed_hears_other (crate : FountainCrate) (host : Host)
    (completed : Completed receiver roundId manifest plan mode) {frame : InboundFrame}
    (other : ∀ header asked, decodeControl frame.bytes ≠ some (header, .sourceDone asked)) :
    ∃ sent, receiver.receiveFrame crate host frame = some (receiver.markPassive, sent) ∧
      ∀ asked report, .need asked report ∉ sent := by
  have dispatched : ∃ sent, receiver.dispatchFrame crate host frame = some (receiver, sent) ∧
      ∀ asked report, .need asked report ∉ sent := by
    have silent : ∀ asked report, LosslessSessionControl.need asked report ∉ [] :=
      fun _ _ => List.not_mem_nil
    rw [SessionReceiver.dispatchFrame]
    split
    next header control decoded =>
      cases control with
      | manifest announced =>
        simp only [SessionReceiver.handleControlFrame, SessionReceiver.installManifest,
          completed.installed.manifestIs]
        split_ifs
        · have encodable := (send_control_isSome receiver.shared.sessionId .ready).mpr rfl
          rcases Option.isSome_iff_exists.mp encodable with ⟨sent, sending⟩
          refine ⟨sent, by rw [sending]; rfl, ?_⟩
          intro asked report
          rw [(send_control_some sending).1]
          simp
        · exact ⟨[], rfl, silent⟩
      | ready => exact ⟨[], rfl, silent⟩
      | need asked report => exact ⟨[], rfl, silent⟩
      | sourceDone asked => exact absurd decoded (other header asked)
    next =>
      split_ifs
      · exact ⟨[], by rw [completed_ignores_block completed], silent⟩
      · refine ⟨[], ?_, silent⟩
        rw [completed_ignores_symbol completed]
        rfl
      · exact ⟨[], rfl, silent⟩
  rcases dispatched with ⟨sent, dispatched, silent⟩
  exact ⟨sent, receive_dispatched dispatched, silent⟩

theorem completed_receives (crate : FountainCrate) (host : Host)
    (completed : Completed receiver roundId manifest plan mode) (frame : InboundFrame) :
    ∃ next sent lastRoundId after, receiver.receiveFrame crate host frame = some (next, sent) ∧
      Completed next lastRoundId manifest plan after ∧ roundId ≤ lastRoundId ∧
      ∀ header asked, decodeControl frame.bytes = some (header, .sourceDone asked) →
        sent = completeAnswer roundId asked := by
  by_cases asking : ∃ header asked, decodeControl frame.bytes = some (header, .sourceDone asked)
  · rcases asking with ⟨header, asked, decoded⟩
    rcases completed_hears_source_done crate host completed decoded with ⟨next, received, later⟩
    refine ⟨next, _, _, _, received, later, ?_, ?_⟩
    · rw [laterRound]
      split_ifs with stale
      · exact UInt32.le_refl _
      · exact UInt32.not_lt.mp stale
    · intro other again same
      rw [decoded] at same
      cases same
      rfl
  · have other : ∀ header asked, decodeControl frame.bytes ≠ some (header, .sourceDone asked) :=
      fun header asked decoded => asking ⟨header, asked, decoded⟩
    rcases completed_hears_other crate host completed other with ⟨sent, received, _⟩
    refine ⟨_, sent, roundId, mode, received, completed_mark_passive completed, UInt32.le_refl _, ?_⟩
    intro header asked decoded
    exact absurd decoded (other header asked)

end Receiver

/-! ## Its replay -/

/-- What the runtime sends for a `SourceDone` of a round when a completed receiver has left. -/
def replayAnswer (lastRoundId roundId : UInt32) : List LosslessSessionControl :=
  if roundId = lastRoundId then [.need roundId .complete] else []

theorem completed_replay {receiver : SessionReceiver} {roundId : UInt32}
    {manifest : LosslessSessionManifest} {plan : BlockPlan} {mode : ReceiverMode}
    (completed : Completed receiver roundId manifest plan mode) :
    ∃ replay, receiver.completedReplay = some replay ∧ replay.roundId = roundId ∧
      replay.report = .complete := by
  have cache := completed.cache
  rw [SessionReceiver.completedReplay, completed.installed.modeIs]
  cases mode with
  | plain mode =>
    simp only [ReceiverMode.cache] at cache
    simp only [cache, completeCache, if_true, Option.map_some]
    exact ⟨_, rfl, rfl, rfl⟩
  | fec mode =>
    simp only [ReceiverMode.cache] at cache
    simp only [cache, completeCache, if_true, Option.map_some]
    exact ⟨_, rfl, rfl, rfl⟩

theorem replay_answered {sessionId : UInt64} {replay : CompletedReceiverReplay}
    (complete : replay.report = .complete) {frame : InboundFrame} {header : LosslessSessionHeader}
    {asked : UInt32} (decoded : decodeControl frame.bytes = some (header, .sourceDone asked)) :
    ∃ answered, replayCompletedReceiver sessionId (some replay) frame =
      some (replayAnswer replay.roundId asked, answered) := by
  simp only [replayCompletedReceiver, decoded, replayAnswer, complete, send_complete]
  by_cases same : asked = replay.roundId
  · rw [if_neg (not_not_intro same), if_pos same]
    exact ⟨true, rfl⟩
  · rw [if_pos same, if_neg same]
    exact ⟨false, rfl⟩

end Nextmini.Session
