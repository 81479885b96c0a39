import Nextmini.Session.FecRounds
import Nextmini.Session.PlainRounds
import Nextmini.Session.Transfer

/-!
# What a sender sends

Both senders send nothing but genuine frames. The plain sender reads each block straight from the
source; the FEC sender keeps source symbols in a cache and repair symbols behind encoders, and both
stay those of the source.
-/

namespace Nextmini.Session

open Nextmini.Library Nextmini.Library.BigEndian
open Nextmini.Messages

set_option autoImplicit false

/-- A mode invariant under which every frame of every turn is genuine. -/
structure ModeSource (crate : FountainCrate) (Mode : Type) [RoundView Mode]
    (tracked : RoundLog → SenderShared → Mode → Prop)
    (sourced : Transfer → Mode → Prop) : Prop where
  start : ∀ {shared mode}, sourced shared.transfer mode →
    sourced shared.transfer (SenderLoop.beginTransfer shared mode)
  need : ∀ {shared mode peerId roundId report}, sourced shared.transfer mode →
    sourced shared.transfer (ModeHooks.onNeed shared mode peerId roundId report).2
  turn : ∀ {log shared mode now submit after next frames turned}, tracked log shared mode →
    sourced shared.transfer mode →
    SenderLoop.turn crate shared mode now submit = some (after, next, frames, turned) →
    sourced shared.transfer next ∧ ∀ frame ∈ frames, shared.transfer.Genuine crate frame

/-! ## Plain -/

section Plain

variable {crate : FountainCrate} {shared after : SenderShared} {frames : List SessionFrame}

theorem send_block_genuine {blockId : Nat}
    (sent : PlainSender.sendBlock shared blockId = some (after, frames)) :
    ∀ frame ∈ frames, shared.transfer.Genuine crate frame := by
  intro frame member
  rcases PlainSender.send_block_some sent with ⟨_, rfl, _⟩ | ⟨span, _, _, placed, rfl, _⟩
  · cases member
  · rw [List.mem_singleton.mp member]
    exact ⟨span, placed, rfl⟩

theorem plain_turn_genuine {mode next : PlainSender} {now : Nat} {turned : Turn}
    (step : PlainSender.TurnStep shared mode now after next frames turned) :
    ∀ frame ∈ frames, shared.transfer.Genuine crate frame := by
  cases step with
  | failed failed => simp
  | ended sound ended => simp
  | source sound running source sent => exact send_block_genuine sent
  | retransmit sound running queued sent => exact send_block_genuine sent
  | openEmpty sound running closed empty => simp [Transfer.Genuine]
  | openRound sound running closed members => simp [Transfer.Genuine]
  | allComplete sound running opened canClose all => simp
  | advance sound running opened canClose some => simp
  | wait sound running opened => simp

end Plain

theorem plain_source (crate : FountainCrate) :
    ModeSource crate PlainSender PlainTracked fun _ _ => True where
  start _ := trivial
  need _ := trivial
  turn _ _ result := ⟨trivial, plain_turn_genuine (PlainSender.turn_cases result)⟩

/-! ## FEC -/

/-- The encoder that the crate builds for a block of the source. -/
def EncoderFor (transfer : Transfer) (symbolsPerBlock : UInt16) (geometry : SymbolGeometry)
    (blockId : Nat) (encoder : Encoder) : Prop :=
  ∃ span, transfer.plan.blockSpan blockId = some span ∧
    Encoder.fromBlock (transfer.blockParams symbolsPerBlock.toNat geometry.symbolSize blockId)
      (transfer.source.paddedSymbolBytes span geometry) = some encoder

structure Sourced (transfer : Transfer) (symbolsPerBlock : UInt16) (geometry : SymbolGeometry)
    (cache : Option (Nat × List (List Byte))) (blocks : List FecSendBlock) : Prop where
  mode : ∃ fec, transfer.manifest.mode = .fec fec ∧ fec.symbolsPerBlock = symbolsPerBlock
  laidOut : transfer.plan.symbolGeometry symbolsPerBlock = .ok geometry
  cached : ∀ blockId symbols, cache = some (blockId, symbols) →
    ∃ span, transfer.plan.blockSpan blockId = some span ∧
      symbols = transfer.source.sourceSymbols span geometry
  encoders : ∀ (blockId : Nat) (block : FecSendBlock) (encoder : Encoder),
    blocks[blockId]? = some block → block.encoder = some encoder →
      EncoderFor transfer symbolsPerBlock geometry blockId encoder

def FecSourced (transfer : Transfer) (mode : FecSender) : Prop :=
  Sourced transfer mode.symbolsPerBlock mode.geometry mode.currentSourceCache mode.blocks

def KeepsEncoders (before after : List FecSendBlock) : Prop :=
  ∀ (blockId : Nat) (block : FecSendBlock), after[blockId]? = some block →
    ∃ earlier, before[blockId]? = some earlier ∧ earlier.encoder = block.encoder

theorem KeepsEncoders.of_widens {before after : List FecSendBlock}
    (widens : FecSender.Widens before after) : KeepsEncoders before after := by
  intro blockId block present
  have bound : blockId < before.length := by
    rw [widens.1]
    exact (List.getElem?_eq_some_iff.mp present).1
  obtain ⟨required, _, widened⟩ := widens.2 blockId _ (List.getElem?_eq_getElem bound)
  rw [present] at widened
  cases widened
  exact ⟨_, List.getElem?_eq_getElem bound, rfl⟩

theorem KeepsEncoders.of_modify (blocks : List FecSendBlock) (blockId : Nat)
    {change : FecSendBlock → FecSendBlock}
    (same : ∀ block, (change block).encoder = block.encoder) :
    KeepsEncoders blocks (blocks.modify blockId change) := by
  intro index block present
  rw [List.getElem?_modify] at present
  obtain ⟨earlier, found, equal⟩ := Option.map_eq_some_iff.mp present
  refine ⟨earlier, found, ?_⟩
  rw [← equal]
  split_ifs
  · exact (same earlier).symm
  · rfl

section Fec

variable {crate : FountainCrate} {transfer : Transfer} {symbolsPerBlock : UInt16}
  {geometry : SymbolGeometry} {cache : Option (Nat × List (List Byte))}
  {blocks after : List FecSendBlock}

theorem Sourced.keep (sourced : Sourced transfer symbolsPerBlock geometry cache blocks)
    (keeps : KeepsEncoders blocks after) :
    Sourced transfer symbolsPerBlock geometry cache after where
  mode := sourced.mode
  laidOut := sourced.laidOut
  cached := sourced.cached
  encoders blockId block encoder present found := by
    obtain ⟨earlier, known, same⟩ := keeps blockId block present
    exact sourced.encoders blockId earlier encoder known (same.trans found)

theorem finish_sourced {shared : SenderShared} {mode : FecSender}
    (sourced : FecSourced transfer mode) :
    FecSourced transfer (mode.finishReportRound shared).2 := by
  have merged := sourced.keep
    (.of_widens (FecSender.merge_reports_widens (recorded mode.roundReports) mode.blocks true))
  unfold FecSender.finishReportRound
  simp only
  split_ifs
  · exact merged
  · exact merged
  · exact merged
  · refine merged.keep ?_
    intro blockId block present
    rw [List.getElem?_map] at present
    obtain ⟨earlier, found, same⟩ := Option.map_eq_some_iff.mp present
    exact ⟨earlier, found, by rw [← same]; rfl⟩

theorem fec_need_sourced {shared : SenderShared} {mode : FecSender} {peerId : Nat}
    {roundId : UInt32} {report : NeedReport} (sourced : FecSourced transfer mode) :
    FecSourced transfer (FecSender.onNeed shared mode peerId roundId report).2 := by
  have merging {merged : List FecSendBlock}
      (into : FecSender.MergedInto mode.blocks report merged) (window : Nat) :
      FecSourced transfer (mode.heard peerId report merged window) := by
    refine sourced.keep (.of_widens ?_)
    cases into with
    | complete => exact .refl _
    | deficits needs => exact FecSender.merge_deficits_widens mode.blocks needs
  have step := FecSender.on_need_cases shared mode peerId roundId report
  generalize (FecSender.onNeed shared mode peerId roundId report).1 = later at step
  generalize (FecSender.onNeed shared mode peerId roundId report).2 = next at step ⊢
  cases step with
  | ignore reason => exact sourced
  | changed waiting current present different => exact sourced
  | mismatch waiting current absent kind => exact sourced
  | record waiting current absent into => exact merging into _
  | recordLast waiting current absent into count => exact finish_sourced (merging into _)

/-- Reading a source symbol leaves the right symbols in the cache and gives one of them. -/
theorem source_symbol_payload_sourced {shared : SenderShared} {mode : FecSender}
    (blockId symbolId : Nat) (sourced : FecSourced shared.transfer mode) :
    FecSourced shared.transfer (mode.sourceSymbolPayload shared blockId symbolId).1 ∧
      ∀ payload, (mode.sourceSymbolPayload shared blockId symbolId).2 = some payload →
        ∃ span, shared.plan.blockSpan blockId = some span ∧
          (shared.source.sourceSymbols span mode.geometry)[symbolId]? = some payload := by
  unfold FecSender.sourceSymbolPayload
  simp only
  split
  next symbols hit =>
    refine ⟨sourced, ?_⟩
    intro payload present
    split at hit
    next cachedBlockId cachedSymbols filled =>
      split_ifs at hit with here
      cases hit
      obtain ⟨span, placed, same⟩ := sourced.cached _ _ filled
      subst here
      exact ⟨span, placed, same ▸ present⟩
    next => cases hit
  next =>
    split
    next => exact ⟨sourced, by simp⟩
    next span placed =>
      refine ⟨⟨sourced.mode, sourced.laidOut, ?_, sourced.encoders⟩, ?_⟩
      · intro other symbols filled
        cases filled
        exact ⟨span, placed, rfl⟩
      · intro payload present
        exact ⟨span, placed, present⟩

theorem source_symbol_genuine {span : BlockSpan} {blockId symbolId : Nat} {payload : List Byte}
    (sourced : Sourced transfer symbolsPerBlock geometry cache blocks)
    (placed : transfer.plan.blockSpan blockId = some span)
    (inside : symbolId < symbolsPerBlock.toNat)
    (present : (transfer.source.sourceSymbols span geometry)[symbolId]? = some payload) :
    symbolId < 2 ^ 32 ∧ transfer.IsSymbol crate blockId symbolId payload := by
  obtain ⟨fec, kind, rfl⟩ := sourced.mode
  have count := (symbol_geometry_covers transfer.plan fec.symbolsPerBlock sourced.laidOut).1
  refine ⟨?_, fec, geometry, span, kind, sourced.laidOut, placed, ?_⟩
  · have small := fec.symbolsPerBlock.toNat_lt
    omega
  · rw [BlockSource.source_symbols_getElem? _ _ _ _ (count ▸ inside)] at present
    rw [genuineSymbol, Transfer.blockParams, if_pos inside]
    exact (Option.some.inj present).symm

theorem encoder_step_sourced {shared : SenderShared} {mode next : FecSender} {blockId : Nat}
    {encoder : Encoder} (sourced : FecSourced shared.transfer mode)
    (step : FecSender.EncoderStep shared mode blockId next encoder) :
    FecSourced shared.transfer next ∧
      EncoderFor shared.transfer mode.symbolsPerBlock mode.geometry blockId encoder := by
  cases step with
  | cached present found => exact ⟨sourced, sourced.encoders _ _ _ present found⟩
  | @built span _ placed fresh =>
    have built : EncoderFor shared.transfer mode.symbolsPerBlock mode.geometry blockId encoder :=
      ⟨span, placed, fresh⟩
    refine ⟨⟨sourced.mode, sourced.laidOut, sourced.cached, ?_⟩, built⟩
    intro index block other present found
    rw [List.getElem?_modify] at present
    obtain ⟨earlier, known, equal⟩ := Option.map_eq_some_iff.mp present
    split_ifs at equal with here
    · subst here equal
      cases found
      exact built
    · subst equal
      exact sourced.encoders index _ other known found

theorem extra_symbol_genuine {blockId symbolId : Nat} {payload : List Byte} {encoder : Encoder}
    (sourced : Sourced transfer symbolsPerBlock geometry cache blocks)
    (built : EncoderFor transfer symbolsPerBlock geometry blockId encoder)
    (beyond : symbolsPerBlock.toNat ≤ symbolId)
    (coded : encoder.codedSymbol crate symbolId = some payload) :
    symbolId < 2 ^ 32 ∧ transfer.IsSymbol crate blockId symbolId payload := by
  obtain ⟨fec, kind, rfl⟩ := sourced.mode
  obtain ⟨span, placed, fresh⟩ := built
  unfold Encoder.fromBlock at fresh
  split_ifs at fresh
  cases fresh
  obtain ⟨small, same⟩ := Option.ite_none_right_eq_some.mp coded
  simp only [Transfer.blockParams, encodingSymbolIdLimit] at small
  refine ⟨by omega, fec, geometry, span, kind, sourced.laidOut, placed, ?_⟩
  rw [genuineSymbol, Transfer.blockParams, if_neg (Nat.not_lt.mpr beyond)]
  exact (Option.some.inj same).symm

theorem fec_turn_sourced {log : RoundLog} {shared later : SenderShared} {mode next : FecSender}
    {now : Nat} {frames : List SessionFrame} {turned : Turn} (tracked : FecTracked log shared mode)
    (sourced : FecSourced shared.transfer mode)
    (step : FecSender.TurnStep crate shared mode now later next frames turned) :
    FecSourced shared.transfer next ∧ ∀ frame ∈ frames, shared.transfer.Genuine crate frame := by
  cases step with
  | failed failed => exact ⟨sourced, by simp⟩
  | @sourceBlocked blockId symbolId sound source =>
    exact ⟨(source_symbol_payload_sourced blockId symbolId sourced).1, by simp⟩
  | @source blockId symbolId cursor treeId payload sound source tree sent =>
    obtain ⟨read, genuine⟩ := source_symbol_payload_sourced blockId symbolId sourced
    obtain ⟨span, placed, present⟩ := genuine payload sent
    obtain ⟨_, block, _, _, inside⟩ := FecSender.next_source_symbol_some source
    refine ⟨read.keep (.of_modify _ _ fun _ => rfl), ?_⟩
    intro frame member
    rw [List.mem_singleton.mp member]
    exact source_symbol_genuine sourced placed inside present
  | extraStuck sound extra => exact ⟨sourced, by simp⟩
  | extraBlocked sound extra encoded => exact ⟨(encoder_step_sourced sourced encoded).1, by simp⟩
  | @extra blockId symbolId cursor treeId payload _ _ sound extra encoded tree coded =>
    obtain ⟨kept, built⟩ := encoder_step_sourced sourced encoded
    obtain ⟨block, present, symbol, _⟩ := FecSender.next_extra_symbol_some extra
    refine ⟨kept.keep (.of_modify _ _ fun _ => rfl), ?_⟩
    intro frame member
    rw [List.mem_singleton.mp member]
    exact extra_symbol_genuine sourced built
      (symbol ▸ (tracked.blocks blockId block present).fountain) coded
  | openEmpty sound sending empty => exact ⟨sourced, by simp [Transfer.Genuine]⟩
  | openRound sound sending members => exact ⟨sourced, by simp [Transfer.Genuine]⟩
  | finish sound waiting count => exact ⟨finish_sourced sourced, by simp⟩
  | wait sound done unclosed => exact ⟨sourced, by simp⟩

theorem fec_source (crate : FountainCrate) :
    ModeSource crate FecSender FecTracked FecSourced where
  start sourced := sourced
  need sourced := fec_need_sourced sourced
  turn tracked sourced result :=
    fec_turn_sourced tracked sourced (FecSender.turn_cases tracked.sending_of_unsent result)

end Fec

/-! ## The whole task -/

theorem task_step_source {Mode : Type} [RoundView Mode] {crate : FountainCrate}
    {tracked : RoundLog → SenderShared → Mode → Prop} {sourced : Transfer → Mode → Prop}
    {log : RoundLog} {task next : SenderTask Mode} {event : SenderEvent}
    {frames : List SessionFrame} (modes : ModeTracking crate Mode tracked)
    (source : ModeSource crate Mode tracked sourced) (before : TaskTracked tracked log task)
    (holds : sourced task.shared.transfer task.mode)
    (step : TaskStep crate task event frames next) :
    next.shared.transfer = task.shared.transfer ∧ sourced task.shared.transfer next.mode ∧
      ∀ frame ∈ frames, task.shared.transfer.Genuine crate frame := by
  have manifestOnly (only : ∀ frame ∈ frames, frame = .control (.manifest task.shared.manifest)) :
      ∀ frame ∈ frames, task.shared.transfer.Genuine crate frame := by
    intro frame member
    rw [only frame member]
    rfl
  cases step with
  | @control frame _ stepped =>
    obtain ⟨_, _, _, session⟩ := control_tracked modes before.mode frame
    obtain ⟨shared, mode⟩ := on_control_state stepped
    rw [shared, mode]
    refine ⟨session.transfer, ?_, by simp⟩
    have step := handle_control_cases task.shared task.mode frame
    generalize (handleControl task.shared task.mode frame).1 = later at step
    generalize (handleControl task.shared task.mode frame).2 = after at step ⊢
    cases step with
    | ignore => exact holds
    | ready decoded sender unfrozen known => exact holds
    | need decoded sender member valid => exact source.need holds
  | negotiate only earlier later => exact ⟨rfl, holds, manifestOnly only⟩
  | start only stage =>
    have same := (freeze_session task.shared).transfer
    rw [SenderTask.startTransfer, loop_head_shared, loop_head_mode]
    refine ⟨same, ?_, manifestOnly only⟩
    rw [← same] at holds ⊢
    exact source.start holds
  | turn stage result =>
    obtain ⟨_, effect⟩ := modes.turn before.mode (before.frozen (by rw [stage]; rfl)) result
    rw [after_turn_shared, after_turn_mode]
    exact ⟨effect.session.transfer, source.turn before.mode holds result⟩
  | solicit stage late =>
    rw [after_feedback_shared, after_feedback_mode]
    refine ⟨rfl, holds, ?_⟩
    intro frame member
    rw [List.mem_singleton.mp member]
    trivial
  | resumeFeedback stage =>
    rw [after_feedback_shared, after_feedback_mode]
    exact ⟨rfl, holds, by simp⟩
  | resumeSignal stage =>
    rw [loop_head_shared, loop_head_mode]
    exact ⟨rfl, holds, by simp⟩
  | abort noTurn => exact ⟨rfl, holds, by simp⟩

theorem run_sourced {Mode : Type} [RoundView Mode] {crate : FountainCrate}
    {tracked : RoundLog → SenderShared → Mode → Prop} {sourced : Transfer → Mode → Prop}
    {initial : SenderTask Mode → Prop} (modes : ModeTracking crate Mode tracked)
    (source : ModeSource crate Mode tracked sourced)
    (initially : ∀ task, initial task →
      TaskTracked tracked ⟨[], []⟩ task ∧ sourced task.shared.transfer task.mode)
    {task : SenderTask Mode} (reachable : (senderSystem crate initial).Reachable task) :
    ∃ log, TaskTracked tracked log task ∧ sourced task.shared.transfer task.mode := by
  obtain ⟨start, labels, isInitial, run⟩ := reachable
  refine TransitionSystem.run_preserves (motive := fun task =>
    ∃ log, TaskTracked tracked log task ∧ sourced task.shared.transfer task.mode) ?_ run
      ⟨_, initially start isInitial⟩
  rintro state label next ⟨log, before, holds⟩ step
  have cases := task_step_cases step
  obtain ⟨same, after, _⟩ := task_step_source modes source before holds cases
  exact ⟨_, task_step_tracked modes before cases, same ▸ after⟩

end Nextmini.Session
