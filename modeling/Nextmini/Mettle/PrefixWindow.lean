import Nextmini.Mettle.DecoderContents
import Nextmini.Mettle.SkippedSources

/-!
# The window of released payloads

The decoder keeps the payloads of the last released sources only. A bin that has an open toucher
still reaches no further back than that: its range begins at most one coupling window before its
latest source, and its latest source is not behind the next one. Whatever is pushed or skipped, a
decoded source in the range of a bin is found there or among the sources decoded ahead.
-/

namespace Nextmini.Mettle

open Nextmini.Library

set_option autoImplicit false

variable {size : Nat}

namespace MettleDecoder

variable {decoder : MettleDecoder size} {sourceId binId : Nat} {payload : Payload size}

/-- Every decoded source in the possible range of a bin still has its payload. -/
def FindsDecoded (decoder : MettleDecoder size) (binId : Nat) : Prop :=
  ∀ earliest last, decoder.possibleSourceIdRangeForBin binId = some (earliest, last) →
    ∀ sourceId, earliest ≤ sourceId → sourceId ≤ last → decoder.sourceIsDecoded sourceId →
      ∃ payload, decoder.decodedSourcePayload sourceId = some payload

/-- A bin that passes every check of a push is new and not closed, so it is peeled and taken. -/
structure Accepts (decoder : MettleDecoder size) (bin : MettleBin) : Prop where
  running : ¬decoder.finished
  sized : ∃ payload : Payload size, Payload.ofBytes bin.payload = some payload
  known : ∃ latest, decoder.params.latestSourceIdForBin bin.binId = some latest
  fresh : bin.binId ∉ decoder.seenBinIds
  needed : decoder.isTleBinId bin.binId ∨ ¬decoder.binHasNoUndecodedTouchers bin.binId

/-- As many payloads are kept as were released, up to the length of the window. -/
structure Windowed (decoder : MettleDecoder size) : Prop where
  start : decoder.decodedPrefixStartSourceId = decoder.nextDecodedSourceId - decodedPrefixWindow
  held : decoder.decodedPrefixPayloads.length =
    decoder.nextDecodedSourceId - decoder.decodedPrefixStartSourceId

/-- The window is full, and the stored bins that are not systematic are still open. -/
structure Retaining (decoder : MettleDecoder size) : Prop where
  windowed : decoder.Windowed
  stored : ∀ binId ∈ decoder.receivedBins, ¬decoder.isTleBinId binId →
    ¬decoder.binHasNoUndecodedTouchers binId

theorem Windowed.finds_released (windowed : decoder.Windowed)
    (near : decoder.nextDecodedSourceId ≤ sourceId + decodedPrefixWindow)
    (released : sourceId < decoder.nextDecodedSourceId) :
    ∃ payload, decoder.decodedPrefixPayload sourceId = some payload := by
  have start := windowed.start
  have held := windowed.held
  have inside : sourceId - decoder.decodedPrefixStartSourceId <
      decoder.decodedPrefixPayloads.length := by omega
  rw [decodedPrefixPayload, if_neg (by omega), List.getElem?_eq_getElem inside]
  exact ⟨_, rfl⟩

theorem Windowed.finds_decoded (windowed : decoder.Windowed)
    (waiting : ¬decoder.binHasNoUndecodedTouchers binId) : decoder.FindsDecoded binId := by
  intro earliest last range sourceId notBefore _ decoded
  rcases MettleParams.range_bounded range with ⟨_, latest, known, _⟩
  rcases (MettleParams.range_bounds known range).1.1 with ⟨inStream, _, inside⟩
  have wide := decoder.params.window_end_terminal_le inStream
  rw [binHasNoUndecodedTouchers, not_or, not_lt] at waiting
  have reached := decoder.params.reached_in_window waiting.2 (lt_of_lt_of_le inside wide)
  have window : decodedPrefixWindow = MettleParams.couplingWindow + 1 := rfl
  rw [decodedSourcePayload]
  by_cases released : sourceId < decoder.nextDecodedSourceId
  · rcases windowed.finds_released (by omega) released with ⟨payload, found⟩
    exact ⟨payload, by rw [found, Option.some_or]⟩
  · rcases (mem_iff_get _ _).mp (decoded.resolve_left released) with ⟨payload, found⟩
    rw [found]
    exact ⟨_, Option.or_some ..⟩

/-! ## What the operations keep -/

theorem Windowed.congr {later : MettleDecoder size} (windowed : decoder.Windowed)
    (next : later.nextDecodedSourceId = decoder.nextDecodedSourceId)
    (start : later.decodedPrefixStartSourceId = decoder.decodedPrefixStartSourceId)
    (payloads : later.decodedPrefixPayloads = decoder.decodedPrefixPayloads) : later.Windowed where
  start := by rw [start, next, windowed.start]
  held := by rw [payloads, next, start, windowed.held]

theorem Retaining.congr {later : MettleDecoder size} (retaining : decoder.Retaining)
    (params : later.params = decoder.params)
    (terminal : later.terminalSourceCount = decoder.terminalSourceCount)
    (next : later.nextDecodedSourceId = decoder.nextDecodedSourceId)
    (start : later.decodedPrefixStartSourceId = decoder.decodedPrefixStartSourceId)
    (payloads : later.decodedPrefixPayloads = decoder.decodedPrefixPayloads)
    (received : ∀ binId ∈ later.receivedBins, binId ∈ decoder.receivedBins) : later.Retaining where
  windowed := retaining.windowed.congr next start payloads
  stored binId member systematic := by
    have systematicHere : ¬decoder.isTleBinId binId := by
      rwa [isTleBinId, tle_source_congr params terminal] at systematic
    rw [binHasNoUndecodedTouchers, finished_congr terminal next, params, next]
    exact retaining.stored binId (received binId member) systematicHere

theorem advance_windowed (windowed : decoder.Windowed) :
    (decoder.advancePrefix payload).Windowed := by
  have start := windowed.start
  have held := windowed.held
  have window : 0 < decodedPrefixWindow := Nat.succ_pos _
  simp only [advancePrefix, pushDecodedPrefixPayload, List.length_append, List.length_singleton]
  split_ifs with full
  · constructor
    · simp only
      omega
    · simp only [List.length_tail, List.length_append, List.length_singleton]
      omega
  · constructor
    · simp only
      omega
    · simp only [List.length_append, List.length_singleton]
      omega

theorem release_retaining (windowed : decoder.Windowed) :
    (decoder.releasePrefixSource sourceId payload).1.Retaining := by
  constructor
  · apply (advance_windowed windowed).congr
    · exact drop_keep _ (·.nextDecodedSourceId) fun _ _ _ _ => rfl
    · exact drop_keep _ (·.decodedPrefixStartSourceId) fun _ _ _ _ => rfl
    · exact drop_keep _ (·.decodedPrefixPayloads) fun _ _ _ _ => rfl
  · intro binId member _
    rcases (mem_iff_get _ _).mp member with ⟨bin, found⟩
    rw [release_received] at found
    split_ifs at found with done behind
    rw [binHasNoUndecodedTouchers, release_params, release_next, not_or, not_lt]
    exact ⟨done, behind⟩

theorem release_futures_retaining (fuel : Nat) (retaining : decoder.Retaining) :
    (releaseFutures fuel decoder).1.Retaining := by
  apply release_futures_preserves (motive := Retaining) _ fuel retaining
  intro later payload holds _
  rw [releaseAhead]
  exact release_retaining (holds.windowed.congr rfl rfl rfl)

theorem apply_edges_retaining (retaining : decoder.Retaining) (sourceId : Nat)
    (payload : Payload size) : (decoder.applyDecodedSourceEdges sourceId payload).Retaining := by
  apply retaining.congr
  · exact apply_edges_params decoder sourceId payload
  · exact apply_edges_terminal decoder sourceId payload
  · exact apply_edges_next decoder sourceId payload
  · exact apply_edges_prefix_start decoder sourceId payload
  · exact apply_edges_prefix decoder sourceId payload
  · intro binId member
    rcases (mem_iff_get _ _).mp member with ⟨bin, found⟩
    rw [apply_edges_received, Option.map_eq_some_iff] at found
    rcases found with ⟨before, found, _⟩
    exact (mem_iff_get _ _).mpr ⟨before, found⟩

/-- Nothing is asked of the source: after a skip the next source may have been decoded ahead. -/
theorem decode_retaining (retaining : decoder.Retaining) (sourceId : Nat) (payload : Payload size) :
    (decoder.decodeSourceAndRelease sourceId payload).1.Retaining := by
  have applied := apply_edges_retaining retaining sourceId payload
  rw [decodeSourceAndRelease]
  generalize decoder.applyDecodedSourceEdges sourceId payload = later at applied
  by_cases here : sourceId = later.nextDecodedSourceId
  · simp only [if_pos here]
    exact release_futures_retaining _ (release_retaining applied.windowed)
  · simp only [if_neg here]
    exact applied.congr rfl rfl rfl rfl rfl fun _ member => member

theorem drain_retaining (retaining : decoder.Retaining) :
    decoder.drainDecodableSources.1.Retaining := by
  refine drain_turns_preserves (motive := fun later _ => later.Retaining) ?_
    decoder.receivedBins.size [] retaining
  intro middle _ later decoded holds step
  rcases drain_once_step step with ⟨sourceId, binId, bin, _, decode⟩
  have removed : (middle.withoutBin binId).Retaining :=
    holds.congr rfl rfl rfl rfl rfl fun _ member => Std.ExtTreeMap.mem_of_mem_erase member
  have kept := decode_retaining removed sourceId bin.payload
  rw [decode] at kept
  exact kept

theorem take_bin_retaining (retaining : decoder.Retaining) :
    (decoder.takeBin binId payload).1.Retaining := by
  generalize taken : decoder.takeBin binId payload = result
  have ways := take_bin_cases decoder binId payload
  rw [taken] at ways
  cases ways with
  | direct _ _ =>
    apply decode_retaining
    exact retaining.congr rfl rfl rfl rfl rfl fun _ member => member
  | closed _ _ => exact retaining
  | inOrder _ decode drain =>
    rw [← drain, ← decode]
    exact drain_retaining (decode_retaining retaining _ _)
  | unneeded _ => exact retaining
  | stored _ needed _ drain =>
    rw [← drain]
    apply drain_retaining
    refine ⟨retaining.windowed.congr rfl rfl rfl, fun other member systematic => ?_⟩
    rcases Std.ExtTreeMap.mem_insert.mp member with same | earlier
    · rw [Std.LawfulEqCmp.compare_eq_iff_eq] at same
      subst same
      exact needed.resolve_left systematic
    · exact retaining.stored other earlier systematic

theorem push_bin_retaining (retaining : decoder.Retaining) (bin : MettleBin) :
    (decoder.pushBin bin).1.Retaining := by
  rcases push_bin_cases decoder bin with ⟨ignored, _⟩ | ⟨payload, _, _, _, _, _, taken⟩
  · rw [ignored]
    exact retaining
  · rw [taken]
    exact take_bin_retaining (retaining.congr rfl rfl rfl rfl rfl fun _ member => member)

theorem skip_retaining (retaining : decoder.Retaining) :
    decoder.skipNextSourceWithoutEdges.1.Retaining := by
  have released : (decoder.releasePrefixSource decoder.nextDecodedSourceId 0).1.Retaining :=
    release_retaining retaining.windowed
  exact drain_retaining released

theorem new_retaining (params : MettleParams) (seed : UInt64) (terminal : Option Nat) :
    (newWithTerminalSourceCount params seed terminal : MettleDecoder size).Retaining where
  windowed := ⟨(Nat.zero_sub _).symm, rfl⟩
  stored _ member := absurd member Std.ExtTreeMap.not_mem_empty

theorem reachable_retaining (reachable : (decoderSystem size).Reachable decoder) :
    decoder.Retaining := by
  apply TransitionSystem.invariant_of_reachable (motive := Retaining) _ _ reachable
  · rintro _ ⟨params, seed, terminal, rfl⟩
    exact new_retaining params seed terminal
  · intro before operation later retaining step
    cases operation with
    | push bin =>
      have pushed : later = (before.pushBin bin).1 := step
      rw [pushed]
      exact push_bin_retaining retaining bin
    | skip =>
      rcases step with ⟨_, skipped⟩
      rw [skipped]
      exact skip_retaining retaining

/-- Over any pushes and skips, the payloads kept are enough for every bin that is not systematic,
both for those stored and for those that a push would accept. -/
theorem prefix_window_suffices (reachable : (decoderSystem size).Reachable decoder) :
    (∀ binId ∈ decoder.receivedBins, ¬decoder.isTleBinId binId → decoder.FindsDecoded binId) ∧
      ∀ bin, decoder.Accepts bin → ¬decoder.isTleBinId bin.binId →
        decoder.FindsDecoded bin.binId := by
  have retaining := reachable_retaining reachable
  constructor
  · intro binId member systematic
    exact retaining.windowed.finds_decoded (retaining.stored binId member systematic)
  · intro bin accepts systematic
    exact retaining.windowed.finds_decoded (accepts.needed.resolve_left systematic)

/-- Source zero of a stream of two is released when a bin behind the last systematic one comes. -/
theorem prefix_window_after_source_zero :
    ∃ decoder : MettleDecoder 1, (decoderSystem 1).Reachable decoder ∧
      decoder.Accepts ⟨2, [5]⟩ ∧ ¬decoder.isTleBinId 2 ∧ decoder.sourceIsDecoded 0 ∧
        ∃ payload, decoder.decodedSourcePayload 0 = some payload := by
  have start : (decoderSystem 1).Reachable (newTerminated .perThousand 7 2) :=
    TransitionSystem.reachable_of_initial ⟨.perThousand, 7, some 2, rfl⟩
  have pushed : (decoderSystem 1).step (newTerminated .perThousand 7 2) (.push ⟨0, [9]⟩)
      ((newTerminated .perThousand 7 2 : MettleDecoder 1).pushBin ⟨0, [9]⟩).1 := rfl
  have reached := start.step pushed
  have evaluated : (fun decoder : MettleDecoder 1 => decide (¬decoder.finished ∧
      decoder.params.latestSourceIdForBin 2 = some 2 ∧ 2 ∉ decoder.seenBinIds ∧
        ¬decoder.binHasNoUndecodedTouchers 2 ∧ ¬decoder.isTleBinId 2 ∧
          decoder.possibleSourceIdRangeForBin 2 = some (0, 1) ∧ decoder.sourceIsDecoded 0))
      ((newTerminated .perThousand 7 2 : MettleDecoder 1).pushBin ⟨0, [9]⟩).1 = true := by
    decide +kernel
  generalize ((newTerminated .perThousand 7 2 : MettleDecoder 1).pushBin ⟨0, [9]⟩).1 = decoder
    at reached evaluated
  rcases of_decide_eq_true evaluated with
    ⟨running, known, fresh, waiting, systematic, range, decoded⟩
  have accepts : decoder.Accepts ⟨2, [5]⟩ :=
    ⟨running, ⟨_, rfl⟩, ⟨2, known⟩, fresh, .inr waiting⟩
  have found := (prefix_window_suffices reached).2 ⟨2, [5]⟩ accepts systematic
  exact ⟨decoder, reached, accepts, systematic, decoded,
    found 0 1 range 0 le_rfl (by decide) decoded⟩

end MettleDecoder

end Nextmini.Mettle
