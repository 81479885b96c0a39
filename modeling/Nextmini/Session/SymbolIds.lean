import Nextmini.Session.FecRounds

/-!
# The symbols of a block

The ids queued for one block over a whole run are 0, 1, 2 and so on: its source symbols in order, and
then its extra symbols, whose numbering goes on from round to round.
-/

namespace Nextmini.Session

open Nextmini.Library
open Nextmini.Messages

set_option autoImplicit false

/-- The block and the id of a symbol. -/
def SessionFrame.symbol : SessionFrame → Option (Nat × Nat)
  | .blockSymbol blockId symbolId _ _ => some (blockId, symbolId)
  | _ => none

def queuedSymbols (labels : List SenderLabel) : List (Nat × Nat) :=
  (labels.flatMap SenderLabel.frames).filterMap SessionFrame.symbol

def symbolIds (blockId : Nat) (symbols : List (Nat × Nat)) : List Nat :=
  (symbols.filter fun symbol => symbol.1 = blockId).map Prod.snd

theorem queued_symbols_snoc (labels : List SenderLabel) (label : SenderLabel) :
    queuedSymbols (labels ++ [label]) =
      queuedSymbols labels ++ label.frames.filterMap SessionFrame.symbol := by
  simp [queuedSymbols]

theorem symbol_ids_append (blockId : Nat) (symbols more : List (Nat × Nat)) :
    symbolIds blockId (symbols ++ more) = symbolIds blockId symbols ++ symbolIds blockId more := by
  simp [symbolIds]

theorem mem_symbol_ids {blockId symbolId : Nat} {symbols : List (Nat × Nat)} :
    symbolId ∈ symbolIds blockId symbols ↔ (blockId, symbolId) ∈ symbols := by
  simp [symbolIds]

theorem nodup_of_symbol_ids {symbols : List (Nat × Nat)}
    (distinct : ∀ blockId, (symbolIds blockId symbols).Nodup) : symbols.Nodup := by
  induction symbols with
  | nil => exact List.nodup_nil
  | cons symbol rest induction =>
    have split (blockId : Nat) : (symbolIds blockId ([symbol] ++ rest)).Nodup := distinct blockId
    simp only [symbol_ids_append, List.nodup_append] at split
    refine List.nodup_cons.mpr ⟨?_, induction fun blockId => (split blockId).2.1⟩
    intro later
    have first : symbol.2 ∈ symbolIds symbol.1 [symbol] :=
      mem_symbol_ids.mpr (List.mem_singleton_self _)
    exact (split symbol.1).2.2 _ first _ (mem_symbol_ids.mpr later) rfl

/-! ## The invariant -/

/-- How the cursors of a block stand to the ids queued for it. -/
structure BlockNumbered (sourceSymbols : Nat) (phase : RoundPhase) (ids : List Nat)
    (cursors : Nat × Nat) : Prop where
  source : cursors.1 ≤ sourceSymbols
  fountain : sourceSymbols ≤ cursors.2
  sourcesFirst : phase = .waitingForReports ∨ sourceSymbols < cursors.2 → cursors.1 = sourceSymbols
  ids : ids = List.range (cursors.1 + (cursors.2 - sourceSymbols))

/-- The next source symbol and the next extra symbol. -/
def FecSendBlock.cursors (block : FecSendBlock) : Nat × Nat :=
  (block.nextSourceSymbol, block.nextFountainSymbol)

structure SymbolsNumbered (symbols : List (Nat × Nat)) (mode : FecSender) : Prop where
  blocks : ∀ blockId cursors, (mode.blocks.map FecSendBlock.cursors)[blockId]? = some cursors →
    BlockNumbered mode.symbolsPerBlock.toNat mode.phase (symbolIds blockId symbols) cursors
  outside : ∀ blockId, (mode.blocks.map FecSendBlock.cursors)[blockId]? = none →
    symbolIds blockId symbols = []

/-- A change of a sender that leaves its cursors alone and opens no round. -/
structure KeepsCursors (mode next : FecSender) : Prop where
  symbolsPerBlock : next.symbolsPerBlock = mode.symbolsPerBlock
  cursors : next.blocks.map FecSendBlock.cursors = mode.blocks.map FecSendBlock.cursors
  phase : next.phase = .waitingForReports → mode.phase = .waitingForReports

section Steps

variable {crate : FountainCrate} {shared after : SenderShared} {mode next : FecSender}
  {symbols : List (Nat × Nat)}

theorem KeepsCursors.refl (mode : FecSender) : KeepsCursors mode mode := ⟨rfl, rfl, id⟩

theorem KeepsCursors.trans {last : FecSender} (first : KeepsCursors mode next)
    (second : KeepsCursors next last) : KeepsCursors mode last :=
  ⟨second.symbolsPerBlock.trans first.symbolsPerBlock, second.cursors.trans first.cursors,
    fun waiting => first.phase (second.phase waiting)⟩

theorem SymbolsNumbered.keep (numbered : SymbolsNumbered symbols mode)
    (keeps : KeepsCursors mode next) : SymbolsNumbered symbols next := by
  refine ⟨?_, ?_⟩
  · intro blockId cursors present
    rw [keeps.cursors] at present
    have block := numbered.blocks blockId cursors present
    rw [keeps.symbolsPerBlock]
    exact ⟨block.source, block.fountain,
      fun open' => block.sourcesFirst (open'.imp_left keeps.phase), block.ids⟩
  · rw [keeps.cursors]
    exact numbered.outside

theorem finish_cursors (shared : SenderShared) (mode : FecSender) :
    KeepsCursors mode (mode.finishReportRound shared).2 := by
  have merged := (FecSender.merge_reports_widens (recorded mode.roundReports) mode.blocks
    true).map_eq FecSendBlock.cursors fun _ _ => rfl
  unfold FecSender.finishReportRound
  generalize FecSender.mergeReports (recorded mode.roundReports) mode.blocks true = result at merged
  rcases result with ⟨blocks, allComplete, mismatch⟩
  simp only
  split_ifs
  · exact ⟨rfl, merged, id⟩
  · exact ⟨rfl, merged, id⟩
  · exact ⟨rfl, merged, id⟩
  · refine ⟨rfl, ?_, fun waiting => ?_⟩
    · rw [← merged, List.map_map]
      rfl
    · cases waiting

theorem heard_cursors {peerId : Nat} {report : NeedReport} {blocks : List FecSendBlock}
    (merged : FecSender.MergedInto mode.blocks report blocks) (window : Nat) :
    KeepsCursors mode (mode.heard peerId report blocks window) := by
  refine ⟨rfl, ?_, id⟩
  cases merged with
  | complete => rfl
  | deficits needs =>
    exact (FecSender.merge_deficits_widens mode.blocks needs).map_eq FecSendBlock.cursors
      fun _ _ => rfl

theorem control_cursors (shared : SenderShared) (mode : FecSender) (frame : InboundFrame) :
    KeepsCursors mode (handleControl shared mode frame).2 := by
  have step := handle_control_cases shared mode frame
  generalize (handleControl shared mode frame).1 = after at step
  generalize (handleControl shared mode frame).2 = next at step ⊢
  cases step with
  | ignore => exact .refl mode
  | ready decoded sender unfrozen known => exact .refl mode
  | @need header peerId roundId report decoded sender member valid =>
    have step := FecSender.on_need_cases shared mode peerId roundId report
    show KeepsCursors mode (FecSender.onNeed shared mode peerId roundId report).2
    generalize (FecSender.onNeed shared mode peerId roundId report).1 = after at step
    generalize (FecSender.onNeed shared mode peerId roundId report).2 = next at step ⊢
    cases step with
    | ignore reason => exact .refl mode
    | changed waiting current present different => exact ⟨rfl, rfl, id⟩
    | mismatch waiting current absent kind => exact ⟨rfl, rfl, id⟩
    | record waiting current absent merged => exact heard_cursors merged _
    | recordLast waiting current absent merged count =>
      exact (heard_cursors merged _).trans (finish_cursors shared _)

/-- A round is opened when no source symbol is left. -/
theorem opens_after_sources {now : Nat} {submit : Nat → SendOutcome}
    {message : LosslessSessionControl} {turned : Turn}
    (stepped : mode.turn crate shared now submit =
      some (after, next, [.control message], turned)) : mode.nextSourceSymbol = none := by
  unfold FecSender.turn at stepped
  by_cases failed : mode.protocolError
  · rw [if_pos failed] at stepped
    cases stepped
  rw [if_neg failed] at stepped
  cases source : mode.nextSourceSymbol with
  | none => rfl
  | some symbol =>
    obtain ⟨blockId, symbolId⟩ := symbol
    simp only [source, FecSender.sendSourceSymbol] at stepped
    cases payload : (mode.sourceSymbolPayload shared blockId symbolId).2 with
    | none => simp [payload] at stepped
    | some bytes =>
      simp only [payload] at stepped
      split at stepped
      next => simp at stepped
      next sentMode frame sent =>
        obtain ⟨treeId, _, cursor, _, rfl⟩ := FecSender.try_send_symbol_some sent
        simp at stepped

theorem sources_sent (noSource : mode.nextSourceSymbol = none) (sending : mode.phase = .sendingData)
    {blockId : Nat} {cursors : Nat × Nat}
    (present : (mode.blocks.map FecSendBlock.cursors)[blockId]? = some cursors) :
    mode.symbolsPerBlock.toNat ≤ cursors.1 := by
  rw [List.getElem?_map] at present
  obtain ⟨block, found, rfl⟩ := Option.map_eq_some_iff.mp present
  have none : mode.blocks.findIdx? (fun block =>
      block.nextSourceSymbol < mode.symbolsPerBlock.toNat ∧ mode.phase = .sendingData) = none := by
    by_contra some
    obtain ⟨index, search⟩ := Option.ne_none_iff_exists'.mp some
    have bound := (List.findIdx?_eq_some_iff_getElem.mp search).1
    simp only [FecSender.nextSourceSymbol, search, Option.bind_eq_bind, Option.bind_some,
      List.getElem?_eq_getElem bound] at noSource
    cases noSource
  have all := List.findIdx?_eq_none_iff.mp none block (List.mem_of_getElem? found)
  simp only [sending, and_true, decide_eq_false_iff_not, not_lt] at all
  exact all

/-! ## One turn -/

theorem map_cursors_modify (blocks : List FecSendBlock) (blockId : Nat)
    {change : FecSendBlock → FecSendBlock} {move : Nat × Nat → Nat × Nat}
    (moves : ∀ block, (change block).cursors = move block.cursors) :
    (blocks.modify blockId change).map FecSendBlock.cursors =
      (blocks.map FecSendBlock.cursors).modify blockId move := by
  apply List.ext_getElem?
  intro index
  rw [List.getElem?_map, List.getElem?_modify, List.getElem?_modify, List.getElem?_map]
  cases blocks[index]? with
  | none => rfl
  | some block =>
    split_ifs
    · simp [moves]
    · simp

theorem SymbolsNumbered.queue (numbered : SymbolsNumbered symbols mode) {blockId symbolId : Nat}
    {move : Nat × Nat → Nat × Nat} {cursors : Nat × Nat}
    (symbolsPerBlock : next.symbolsPerBlock = mode.symbolsPerBlock) (phase : next.phase = mode.phase)
    (moved : next.blocks.map FecSendBlock.cursors =
      (mode.blocks.map FecSendBlock.cursors).modify blockId move)
    (present : (mode.blocks.map FecSendBlock.cursors)[blockId]? = some cursors)
    (after : BlockNumbered mode.symbolsPerBlock.toNat mode.phase
      (symbolIds blockId symbols ++ [symbolId]) (move cursors)) :
    SymbolsNumbered (symbols ++ [(blockId, symbolId)]) next := by
  have own : symbolIds blockId [(blockId, symbolId)] = [symbolId] := by simp [symbolIds]
  have other {index : Nat} (apart : blockId ≠ index) : symbolIds index [(blockId, symbolId)] = [] := by
    simp [symbolIds, apart]
  refine ⟨?_, ?_⟩
  · intro index current found
    rw [symbolsPerBlock, phase, symbol_ids_append]
    rw [moved] at found
    by_cases here : blockId = index
    · subst here
      rw [List.getElem?_modify_eq, present] at found
      rw [own, ← Option.some.inj found]
      exact after
    · rw [List.getElem?_modify_ne _ _ here] at found
      rw [other here, List.append_nil]
      exact numbered.blocks index current found
  · intro index absent
    rw [moved, List.getElem?_eq_none_iff, List.length_modify] at absent
    have apart : blockId ≠ index := by
      rintro rfl
      rw [List.getElem?_eq_none absent] at present
      cases present
    rw [symbol_ids_append, other apart, numbered.outside index (List.getElem?_eq_none absent)]
    rfl

theorem encoder_cursors {blockId : Nat} {encoder : Encoder}
    (step : FecSender.EncoderStep shared mode blockId next encoder) : KeepsCursors mode next := by
  cases step with
  | cached present found => exact .refl mode
  | built inside fresh => exact ⟨rfl, FecSender.map_modify _ _ _ fun _ => rfl, id⟩

theorem BlockNumbered.source_next {sourceSymbols : Nat} {ids : List Nat} {cursors : Nat × Nat}
    (numbered : BlockNumbered sourceSymbols .sendingData ids cursors)
    (early : cursors.1 < sourceSymbols) :
    BlockNumbered sourceSymbols .sendingData (ids ++ [cursors.1]) (cursors.1 + 1, cursors.2) := by
  have noExtra : cursors.2 = sourceSymbols := by
    by_contra some
    have late := numbered.sourcesFirst (.inr (by have := numbered.fountain; omega))
    omega
  refine ⟨early, numbered.fountain, ?_, ?_⟩
  · rintro (waiting | some)
    · cases waiting
    · exact absurd noExtra some.ne'
  · rw [numbered.ids]
    simp [noExtra, List.range_succ]

/-- In an open round the next extra symbol of a block is the next id. -/
theorem BlockNumbered.extra_next {sourceSymbols : Nat} {ids : List Nat} {cursors : Nat × Nat}
    (numbered : BlockNumbered sourceSymbols .waitingForReports ids cursors) :
    BlockNumbered sourceSymbols .waitingForReports (ids ++ [cursors.2]) (cursors.1, cursors.2 + 1) := by
  have all := numbered.sourcesFirst (.inl rfl)
  have fountain := numbered.fountain
  refine ⟨numbered.source, Nat.le_succ_of_le fountain, fun _ => all, ?_⟩
  have whole : cursors.1 + (cursors.2 - sourceSymbols) = cursors.2 := by omega
  have next : cursors.1 + (cursors.2 + 1 - sourceSymbols) = cursors.2 + 1 := by omega
  simp only [whole, next, numbered.ids, List.range_succ]

theorem SymbolsNumbered.open_round (numbered : SymbolsNumbered symbols mode)
    (noSource : mode.nextSourceSymbol = none) (sending : mode.phase = .sendingData)
    (symbolsPerBlock : next.symbolsPerBlock = mode.symbolsPerBlock)
    (cursors : next.blocks = mode.blocks) (message : LosslessSessionControl) :
    SymbolsNumbered (symbols ++ [SessionFrame.control message].filterMap SessionFrame.symbol)
      next := by
  have noSymbol : [SessionFrame.control message].filterMap SessionFrame.symbol = [] := rfl
  rw [noSymbol, List.append_nil]
  refine ⟨?_, ?_⟩
  · intro blockId current present
    rw [cursors] at present
    have block := numbered.blocks blockId current present
    have late := sources_sent noSource sending present
    rw [symbolsPerBlock]
    exact ⟨block.source, block.fountain, fun _ => le_antisymm block.source late, block.ids⟩
  · rw [cursors]
    exact numbered.outside

theorem SymbolsNumbered.turn (numbered : SymbolsNumbered symbols mode) {log : RoundLog}
    (tracked : FecTracked log shared mode) {now : Nat} {submit : Nat → SendOutcome}
    {frames : List SessionFrame} {turned : Turn}
    (result : mode.turn crate shared now submit = some (after, next, frames, turned))
    (step : FecSender.TurnStep crate shared mode now after next frames turned) :
    SymbolsNumbered (symbols ++ frames.filterMap SessionFrame.symbol) next := by
  have none (keeps : KeepsCursors mode next) : SymbolsNumbered (symbols ++ []) next := by
    rw [List.append_nil]
    exact numbered.keep keeps
  cases step with
  | failed failed => exact none (.refl mode)
  | @sourceBlocked blockId symbolId sound source =>
    obtain ⟨cache, cached⟩ := FecSender.source_symbol_payload_mode shared mode blockId symbolId
    rw [cached] at none ⊢
    exact none ⟨rfl, rfl, id⟩
  | @source blockId symbolId cursor treeId payload sound source tree sent =>
    obtain ⟨cache, cached⟩ := FecSender.source_symbol_payload_mode shared mode blockId symbolId
    obtain ⟨sending, block, found, rfl, early⟩ := FecSender.next_source_symbol_some source
    have present : (mode.blocks.map FecSendBlock.cursors)[blockId]? = some block.cursors := by
      rw [List.getElem?_map, found]
      rfl
    have before := numbered.blocks blockId _ present
    rw [sending] at before
    have after := before.source_next early
    rw [cached]
    rw [← sending] at after
    exact @SymbolsNumbered.queue mode _ symbols numbered blockId _
      (fun cursors => (cursors.1 + 1, cursors.2)) block.cursors rfl rfl
      (map_cursors_modify mode.blocks blockId fun _ => rfl) present after
  | extraStuck sound extra => exact none (.refl mode)
  | extraBlocked sound extra encoded => exact none (encoder_cursors encoded)
  | @extra blockId symbolId cursor treeId payload encoding encoder sound extra encoded tree coded =>
    obtain ⟨block, found, rfl, owed⟩ := FecSender.next_extra_symbol_some extra
    have waiting := (tracked.owing found (Nat.zero_lt_of_lt owed)).1
    have keeps := encoder_cursors encoded
    have present : (encoding.blocks.map FecSendBlock.cursors)[blockId]? = some block.cursors := by
      rw [keeps.cursors, List.getElem?_map, found]
      rfl
    have kept := numbered.keep keeps
    have phase : encoding.phase = .waitingForReports := by
      cases encoded with
      | cached present found => exact waiting
      | built inside fresh => exact waiting
    have before := kept.blocks blockId _ present
    rw [phase] at before
    have after := before.extra_next
    rw [← phase] at after
    exact @SymbolsNumbered.queue encoding _ symbols kept blockId _
      (fun cursors => (cursors.1, cursors.2 + 1)) block.cursors rfl rfl
      (map_cursors_modify encoding.blocks blockId fun _ => rfl) present after
  | openEmpty sound sending empty =>
    refine numbered.open_round (opens_after_sources result) sending ?_ ?_ _
    · rfl
    · rfl
  | openRound sound sending members =>
    refine numbered.open_round (opens_after_sources result) sending ?_ ?_ _
    · rfl
    · rfl
  | finish sound waiting count => exact none (finish_cursors shared mode)
  | wait sound done unclosed => exact none (.refl mode)

end Steps

/-! ## Runs -/

theorem sender_numbered {task : SenderTask FecSender} (initial : fecSenders task) :
    SymbolsNumbered (queuedSymbols []) task.mode := by
  obtain ⟨config, treeVisible, request, cfg, built, started⟩ := initial
  obtain ⟨plan, mode, planned, created, rfl⟩ := fec_sender_new started
  obtain ⟨fec, geometry, offered, _, rfl⟩ := fec_sender_some created
  refine ⟨?_, fun _ _ => rfl⟩
  intro blockId cursors present
  rw [List.getElem?_map] at present
  obtain ⟨block, found, rfl⟩ := Option.map_eq_some_iff.mp present
  obtain ⟨_, rfl⟩ := List.mem_replicate.mp (List.mem_of_getElem? found)
  refine ⟨Nat.zero_le _, le_rfl, ?_, ?_⟩
  · rintro (waiting | some)
    · cases waiting
    · exact absurd some (lt_irrefl _)
  · simp [FecSendBlock.cursors, symbolIds, queuedSymbols]

theorem run_numbered {crate : FountainCrate} {start task : SenderTask FecSender}
    {labels : List SenderLabel} (initial : fecSenders start)
    (run : (senderSystem crate fecSenders).Run start labels task) :
    SymbolsNumbered (queuedSymbols labels) task.mode := by
  refine TransitionSystem.history_of_run
    (motive := fun labels task => SymbolsNumbered (queuedSymbols labels) task.mode) run
    (sender_numbered initial) ?_
  intro before state label next passed numbered stepped
  have tracked := (run_tracked (fec_tracking crate) (fec_sender_tracked initial) passed).mode
  rw [queued_symbols_snoc]
  cases FecSender.fec_step_cases tracked.sending_of_unsent stepped with
  | idle same quorum session controls =>
    have noSymbol : label.frames.filterMap SessionFrame.symbol = [] := by
      rw [List.filterMap_eq_nil_iff]
      intro frame member
      obtain ⟨message, rfl⟩ := controls frame member
      rfl
    rw [noSymbol, List.append_nil, same]
    exact numbered
  | control shared handled =>
    rw [handled, List.filterMap_nil, List.append_nil]
    exact numbered.keep (control_cursors _ _ _)
  | turn turned step => exact numbered.turn tracked turned step

section Ids

variable {symbols : List (Nat × Nat)} {mode : FecSender}

theorem SymbolsNumbered.ids_range (numbered : SymbolsNumbered symbols mode) (blockId : Nat) :
    ∃ count, symbolIds blockId symbols = List.range count := by
  cases present : (mode.blocks.map FecSendBlock.cursors)[blockId]? with
  | none => exact ⟨0, numbered.outside blockId present⟩
  | some cursors => exact ⟨_, (numbered.blocks blockId cursors present).ids⟩

/-- A number that comes after others in an initial segment comes after all smaller ones. -/
theorem range_split {count middle : Nat} {front back : List Nat}
    (split : front ++ middle :: back = List.range count) : front = List.range middle := by
  have here := congrArg (·[front.length]?) split
  simp only [List.getElem?_append_right (le_refl _), Nat.sub_self, List.getElem?_cons_zero] at here
  obtain ⟨bound, same⟩ := List.getElem?_eq_some_iff.mp here.symm
  rw [List.getElem_range] at same
  rw [List.length_range] at bound
  have taken := congrArg (List.take front.length) split
  rw [List.take_left, List.take_range, min_eq_left bound.le] at taken
  rw [taken, same]

theorem SymbolsNumbered.nodup (numbered : SymbolsNumbered symbols mode) : symbols.Nodup := by
  apply nodup_of_symbol_ids
  intro blockId
  obtain ⟨count, ids⟩ := numbered.ids_range blockId
  rw [ids]
  exact List.nodup_range

/-- Before a symbol of a block come all of the block's symbols with smaller ids. -/
theorem SymbolsNumbered.earlier (numbered : SymbolsNumbered symbols mode)
    {front back : List (Nat × Nat)} {blockId symbolId : Nat}
    (split : symbols = front ++ (blockId, symbolId) :: back) {smaller : Nat}
    (less : smaller < symbolId) : (blockId, smaller) ∈ front := by
  obtain ⟨count, ids⟩ := numbered.ids_range blockId
  have own : symbolIds blockId ((blockId, symbolId) :: back) = symbolId :: symbolIds blockId back := by
    simp [symbolIds]
  rw [split, symbol_ids_append, own] at ids
  rw [← mem_symbol_ids, range_split ids]
  exact List.mem_range.mpr less

theorem range_filter (first count : Nat) :
    (List.range count).filter (first ≤ ·) = List.range' first (count - first) := by
  induction count with
  | zero => simp
  | succ count induction =>
    rw [List.range_succ, List.filter_append, induction]
    by_cases late : first ≤ count
    · have more : count + 1 - first = count - first + 1 := by omega
      have last : first + (count - first) = count := by omega
      rw [more, List.range'_1_concat, last]
      simp [late]
    · have none : count + 1 - first = count - first := by omega
      rw [none]
      simp [late]

/-- The extra symbols of a block are numbered on from its source symbols. -/
theorem SymbolsNumbered.extra_ids (numbered : SymbolsNumbered symbols mode)
    (blockId sourceSymbols : Nat) : ∃ count,
    (symbolIds blockId symbols).filter (sourceSymbols ≤ ·) = List.range' sourceSymbols count := by
  obtain ⟨count, ids⟩ := numbered.ids_range blockId
  exact ⟨count - sourceSymbols, by rw [ids, range_filter]⟩

end Ids

end Nextmini.Session
