import Mathlib.Algebra.BigOperators.Intervals
import Nextmini.Mettle.Encoder

/-!
# Closed form of the encoder

After some sources the open bins hold what these sources contribute from the departure frontier on,
and everything before the frontier has left. A terminated encoder so emits each bin up to its end
once, in order, with the contributions of all sources.
-/

namespace Nextmini.Mettle

open Nextmini.Library.TransitionSystem (execute)

set_option autoImplicit false

variable {size : Nat}

section Stream

variable (params : MettleParams) (seed : UInt64) (terminal : Option Nat)

def contribution (source : Nat → Payload size) (binId sourceId : Nat) : Payload size :=
  (params.edgeBinIdsWithTerminalSourceCount sourceId seed terminal).count binId • source sourceId

def binValue (source : Nat → Payload size) (binId : Nat) : Payload size :=
  ∑ sourceId ∈ params.touchers seed terminal binId,
    contribution params seed terminal source binId sourceId

def encodedBin (source : Nat → Payload size) (binId : Nat) : MettleBin :=
  ⟨binId, (binValue params seed terminal source binId).toBytes⟩

/-- The bins that leave when the source after the first `count` is pushed. -/
def departed (source : Nat → Payload size) (count : Nat) : List MettleBin :=
  (List.range' (params.tleBinId count) (params.tleBinId (count + 1) - params.tleBinId count)).map
    (encodedBin params seed terminal source)

/-- The encoder after its first `count` sources. -/
structure Pushed (source : Nat → Payload size) (count : Nat) (encoder : MettleEncoder size) :
    Prop where
  sameParams : encoder.params = params
  sameSeed : encoder.seed = seed
  sameTerminal : encoder.terminalSourceCount = terminal
  sourceId : encoder.nextSourceId = count
  departure : encoder.nextDepartureBinId = params.tleBinId count
  stored : ∀ binId, params.tleBinId count ≤ binId → encoder.openBins.getD binId 0 =
    ∑ sourceId ∈ Finset.range count, contribution params seed terminal source binId sourceId
  present : ∀ binId, binId ∈ encoder.openBins ↔ params.tleBinId count ≤ binId ∧
    ∃ sourceId < count,
      binId ∈ params.edgeBinIdsWithTerminalSourceCount sourceId seed terminal

end Stream

variable {params : MettleParams} {seed : UInt64} {terminal : Option Nat}
variable {source : Nat → Payload size} {count : Nat} {encoder : MettleEncoder size}

theorem contribution_apart {binId sourceId : Nat}
    (apart : binId ∉ params.edgeBinIdsWithTerminalSourceCount sourceId seed terminal) :
    contribution params seed terminal source binId sourceId = 0 := by
  rw [contribution, List.count_eq_zero_of_not_mem apart, zero_nsmul]

/-- The first sources make up a bin when the others that touch it hold zeros. -/
theorem sum_eq_bin_value {binId : Nat} (inStream : ∀ sourceId < count, InStream terminal sourceId)
    (rest : ∀ sourceId ∈ params.touchers seed terminal binId, count ≤ sourceId →
      source sourceId = 0) :
    ∑ sourceId ∈ Finset.range count, contribution params seed terminal source binId sourceId =
      binValue params seed terminal source binId := by
  have inRange : ∑ sourceId ∈ Finset.range count,
      contribution params seed terminal source binId sourceId =
        ∑ sourceId ∈ Finset.range count ∪ params.touchers seed terminal binId,
          contribution params seed terminal source binId sourceId := by
    apply Finset.sum_subset Finset.subset_union_left
    intro sourceId member beyond
    rw [Finset.mem_range, not_lt] at beyond
    rcases Finset.mem_union.mp member with below | touches
    · exact absurd (Finset.mem_range.mp below) (not_lt.mpr beyond)
    · rw [contribution, rest sourceId touches beyond, nsmul_zero]
  rw [inRange]
  symm
  apply Finset.sum_subset Finset.subset_union_right
  intro sourceId member apart
  apply contribution_apart
  intro edge
  apply apart
  rcases Finset.mem_union.mp member with below | touches
  · exact MettleParams.mem_touchers.mpr ⟨inStream sourceId (Finset.mem_range.mp below), edge⟩
  · exact touches

theorem toucher_before_frontier {binId sourceId : Nat} (before : binId < params.tleBinId count)
    (touches : sourceId ∈ params.touchers seed terminal binId) : sourceId < count := by
  rcases MettleParams.mem_touchers.mp touches with ⟨inStream, edge⟩
  have reached := (params.edge_in_window inStream edge).1
  exact params.tle_strict_mono.lt_iff_lt.mp (lt_of_le_of_lt reached before)

/-! ## Departure -/

theorem take_finalized_bins {endExclusive : Nat}
    (notBefore : ∀ binId ∈ encoder.openBins, encoder.nextDepartureBinId ≤ binId) :
    (encoder.takeFinalizedBinsUntil endExclusive).2 =
      (List.range' encoder.nextDepartureBinId (endExclusive - encoder.nextDepartureBinId)).map
        fun binId => ⟨binId, (encoder.openBins.getD binId 0).toBytes⟩ := by
  have listed : ∀ entry ∈ (encoder.openBins.filter fun binId _ => binId < endExclusive).toList,
      (encoder.openBins.filter fun binId _ => binId < endExclusive)[entry.1]? = some entry.2 := by
    rintro ⟨binId, payload⟩ member
    exact Std.ExtTreeMap.mem_toList_iff_getElem?_eq_some.mp member
  rw [MettleEncoder.takeFinalizedBinsUntil, emit_bins_eq
    (fun binId => (encoder.openBins.filter fun binId _ => binId < endExclusive).getD binId 0)]
  · apply List.map_congr_left
    intro binId member
    have below : binId < endExclusive := by
      rw [List.mem_range'_1] at member
      omega
    rw [getD_filter_keys, if_pos (decide_eq_true below)]
  · apply Std.ExtTreeMap.ordered_keys_toList.imp
    intro left right before
    exact Nat.compare_eq_lt.mp before
  · intro entry member
    apply notBefore
    have present : entry.1 ∈ encoder.openBins.filter fun binId _ => binId < endExclusive := by
      rw [Std.ExtTreeMap.mem_iff_isSome_getElem?, listed entry member]
      rfl
    exact Std.ExtTreeMap.mem_of_mem_filter present
  · intro entry member
    rw [Std.ExtTreeMap.getD_eq_getD_getElem?, listed entry member, Option.getD_some]
  · intro binId _ absent
    apply Std.ExtTreeMap.getD_eq_fallback
    intro present
    exact absent (binId, _) (Std.ExtTreeMap.mem_toList_iff_getElem?_eq_some.mpr
      (Std.ExtTreeMap.getElem?_eq_some_getElem present)) rfl

theorem push_source_spec {payload : List UInt8}
    (pushed : Pushed params seed terminal source count encoder) (fits : payload.length ≤ size)
    (inStream : InStream terminal count) (padded : source count = Payload.padded payload) :
    ∃ later, encoder.pushSource payload = some (later, departed params seed terminal source count) ∧
      Pushed params seed terminal source (count + 1) later := by
  have frontier := params.tle_strict_mono (Nat.lt_add_one count)
  have edgesBehind : ∀ binId ∈ params.edgeBinIdsWithTerminalSourceCount count seed terminal,
      params.tleBinId count ≤ binId := fun binId edge => (params.edge_in_window inStream edge).1
  have sums : ∀ binId, params.tleBinId count ≤ binId →
      ((params.edgeBinIdsWithTerminalSourceCount count seed terminal).foldl
        (addEdge (Payload.padded payload)) encoder.openBins).getD binId 0 =
          ∑ sourceId ∈ Finset.range (count + 1),
            contribution params seed terminal source binId sourceId := by
    intro binId behind
    rw [getD_add_edges, pushed.stored binId behind, Finset.sum_range_succ, ← padded, contribution]
  have keys : ∀ binId, binId ∈ (params.edgeBinIdsWithTerminalSourceCount count seed terminal).foldl
        (addEdge (Payload.padded payload)) encoder.openBins ↔ params.tleBinId count ≤ binId ∧
          ∃ sourceId < count + 1,
            binId ∈ params.edgeBinIdsWithTerminalSourceCount sourceId seed terminal := by
    intro binId
    rw [mem_add_edges, pushed.present]
    constructor
    · rintro (⟨behind, sourceId, below, edge⟩ | edge)
      · exact ⟨behind, sourceId, Nat.lt_succ_of_lt below, edge⟩
      · exact ⟨edgesBehind binId edge, count, Nat.lt_succ_self count, edge⟩
    · rintro ⟨behind, sourceId, below, edge⟩
      rcases Nat.lt_succ_iff_lt_or_eq.mp below with earlier | same
      · exact .inl ⟨behind, sourceId, earlier, edge⟩
      · subst same
        exact .inr edge
  have step : encoder.pushSource payload = some (MettleEncoder.takeFinalizedBinsUntil
      { encoder with
        openBins := (params.edgeBinIdsWithTerminalSourceCount count seed terminal).foldl
          (addEdge (Payload.padded payload)) encoder.openBins
        nextSourceId := count + 1 } (params.tleBinId (count + 1))) := by
    simp only [MettleEncoder.pushSource, MettleEncoder.edgeBinIds, pushed.sameParams,
      pushed.sameSeed, pushed.sameTerminal, pushed.sourceId]
    rw [if_pos ⟨fits, inStream⟩]
    rfl
  refine ⟨_, step.trans (congrArg some (Prod.ext rfl ?_)), ?_⟩
  · simp only
    rw [take_finalized_bins]
    · simp only [pushed.departure, departed]
      apply List.map_congr_left
      intro binId member
      rw [List.mem_range'_1] at member
      rw [sums binId member.1, encodedBin, sum_eq_bin_value]
      · intro sourceId below
        exact inStream.of_le (Nat.lt_succ_iff.mp below)
      · intro sourceId touches late
        have before : binId < params.tleBinId (count + 1) := by omega
        exact absurd (toucher_before_frontier before touches) (not_lt.mpr late)
    · intro binId member
      rw [pushed.departure]
      exact ((keys binId).mp member).1
  · constructor
    · exact pushed.sameParams
    · exact pushed.sameSeed
    · exact pushed.sameTerminal
    · rfl
    · rfl
    · intro binId behind
      simp only [MettleEncoder.takeFinalizedBinsUntil]
      rw [getD_filter_keys, if_pos (decide_eq_true behind), sums binId (by omega)]
    · intro binId
      simp only [MettleEncoder.takeFinalizedBinsUntil]
      rw [mem_filter_keys, keys, decide_eq_true_eq]
      constructor
      · rintro ⟨⟨_, touched⟩, behind⟩
        exact ⟨behind, touched⟩
      · rintro ⟨behind, touched⟩
        exact ⟨⟨by omega, touched⟩, behind⟩

theorem push_sources_spec {payloads : List (List UInt8)}
    (pushed : Pushed params seed terminal source count encoder)
    (fits : ∀ payload ∈ payloads, payload.length ≤ size)
    (inStream : ∀ sourceId < count + payloads.length, InStream terminal sourceId)
    (padded : ∀ (index : Nat) (below : index < payloads.length),
      source (count + index) = Payload.padded payloads[index]) :
    ∃ finished outputs, execute MettleEncoder.pushSource encoder payloads = some (finished, outputs) ∧
      Pushed params seed terminal source (count + payloads.length) finished ∧
      outputs.map Prod.snd =
        (List.range' count payloads.length).map (departed params seed terminal source) := by
  induction payloads generalizing count encoder with
  | nil => exact ⟨encoder, [], rfl, pushed, rfl⟩
  | cons payload rest induction =>
    rw [List.length_cons] at inStream
    have first := padded 0 (Nat.succ_pos _)
    rcases push_source_spec pushed (fits payload List.mem_cons_self) (inStream count (by omega))
      first with ⟨later, step, kept⟩
    rcases induction kept (fun payload member => fits payload (List.mem_cons_of_mem _ member))
      (fun sourceId below => inStream sourceId (by omega))
      (fun index below => by
        have shifted := padded (index + 1) (Nat.succ_lt_succ below)
        rw [List.getElem_cons_succ] at shifted
        rw [← shifted, Nat.add_assoc, Nat.add_comm 1 index])
      with ⟨finished, outputs, run, final, emitted⟩
    refine ⟨finished, (payload, departed params seed terminal source count) :: outputs, ?_, ?_, ?_⟩
    · simp only [execute, step, Option.bind_some, run, Option.map_some]
    · rw [List.length_cons, ← Nat.add_assoc, Nat.add_right_comm]
      exact final
    · rw [List.map_cons, emitted, List.length_cons, List.range'_succ, List.map_cons]

theorem range_join {start middle finish : Nat} (first : start ≤ middle) (second : middle ≤ finish) :
    List.range' start (middle - start) ++ List.range' middle (finish - middle) =
      List.range' start (finish - start) := by
  rcases Nat.exists_eq_add_of_le first with ⟨front, rfl⟩
  rcases Nat.exists_eq_add_of_le second with ⟨back, rfl⟩
  rw [Nat.add_sub_cancel_left, Nat.add_sub_cancel_left, List.range'_append_1, Nat.add_assoc,
    Nat.add_sub_cancel_left]

theorem departed_flatten (start count : Nat) :
    ((List.range' start count).map (departed params seed terminal source)).flatten =
      (List.range' (params.tleBinId start) (params.tleBinId (start + count) -
        params.tleBinId start)).map (encodedBin params seed terminal source) := by
  induction count generalizing start with
  | zero => simp
  | succ count induction =>
    have first := params.tle_strict_mono (Nat.lt_add_one start)
    have rest := params.tle_strict_mono.monotone (Nat.le_add_right (start + 1) count)
    rw [List.range'_succ, List.map_cons, List.flatten_cons, induction, departed, ← List.map_append,
      show start + (count + 1) = start + 1 + count by omega]
    rw [range_join first.le rest]

theorem new_pushed : Pushed params seed terminal source 0
    (MettleEncoder.newWithTerminalSourceCount params seed terminal) where
  sameParams := rfl
  sameSeed := rfl
  sameTerminal := rfl
  sourceId := rfl
  departure := by simp [MettleEncoder.newWithTerminalSourceCount, MettleParams.tleBinId]
  stored binId _ := by simp [MettleEncoder.newWithTerminalSourceCount]
  present binId := by simp [MettleEncoder.newWithTerminalSourceCount]

/-! ## Finishing -/

theorem Pushed.not_before (pushed : Pushed params seed terminal source count encoder) :
    ∀ binId ∈ encoder.openBins, encoder.nextDepartureBinId ≤ binId := by
  intro binId member
  rw [pushed.departure]
  exact ((pushed.present binId).mp member).1

theorem finish_terminated (pushed : Pushed params seed (some count) source count encoder) :
    encoder.finish = (List.range' (params.tleBinId count)
      (params.terminalDepartureEndExclusive count - params.tleBinId count)).map
        (encodedBin params seed (some count) source) := by
  simp only [MettleEncoder.finish, pushed.sameTerminal, pushed.sameParams]
  rw [take_finalized_bins pushed.not_before, pushed.departure]
  apply List.map_congr_left
  intro binId member
  rw [pushed.stored binId (List.mem_range'_1.mp member).1, encodedBin, sum_eq_bin_value]
  · intro sourceId below
    exact in_stream_some.mpr below
  · intro sourceId touches beyond
    have below := in_stream_some.mp (MettleParams.mem_touchers.mp touches).1
    exact absurd below (not_lt.mpr beyond)

/-- An encoder without an end flushes the bins its sources touch behind the frontier, in order. -/
theorem finish_unterminated (pushed : Pushed params seed none source count encoder)
    (silent : ∀ sourceId, count ≤ sourceId → source sourceId = 0) :
    ∃ flushed : List Nat, encoder.finish = flushed.map (encodedBin params seed none source) ∧
      flushed.Pairwise (· < ·) ∧
      ∀ binId, binId ∈ flushed ↔ params.tleBinId count ≤ binId ∧
        ∃ sourceId < count, binId ∈ params.edgeBinIdsWithTerminalSourceCount sourceId seed none := by
  refine ⟨encoder.openBins.keys, ?_, ?_, ?_⟩
  · simp only [MettleEncoder.finish, pushed.sameTerminal, MettleEncoder.flushOpenBins]
    rw [← Std.ExtTreeMap.map_fst_toList_eq_keys, List.map_map]
    apply List.map_congr_left
    rintro ⟨binId, payload⟩ member
    have found := Std.ExtTreeMap.mem_toList_iff_getElem?_eq_some.mp member
    have present : binId ∈ encoder.openBins := by
      rw [Std.ExtTreeMap.mem_iff_isSome_getElem?, found]
      rfl
    have stored := pushed.stored binId ((pushed.present binId).mp present).1
    rw [Std.ExtTreeMap.getD_eq_getD_getElem?, found, Option.getD_some] at stored
    rw [Function.comp_apply, encodedBin, stored, sum_eq_bin_value]
    · intro sourceId _
      exact in_stream_none sourceId
    · intro sourceId _ beyond
      exact silent sourceId beyond
  · apply Std.ExtTreeMap.ordered_keys.imp
    intro left right before
    exact Nat.compare_eq_lt.mp before
  · intro binId
    rw [Std.ExtTreeMap.mem_keys, pushed.present]

/-- The symbol of a source: its payload filled up, and zeros where there is none. -/
def sourcePayload (payloads : List (List UInt8)) (sourceId : Nat) : Payload size :=
  Payload.padded (payloads.getD sourceId [])

theorem source_payload_beyond {payloads : List (List UInt8)} {sourceId : Nat}
    (beyond : payloads.length ≤ sourceId) : (sourcePayload payloads sourceId : Payload size) = 0 := by
  apply Payload.ext_bytes
  intro index below
  simp [Payload.zero_bytes, sourcePayload, Payload.padded, List.getElem?_eq_none beyond]

/-- Everything pushed: the departures up to the frontier, and the encoder that is left. -/
theorem push_all (params : MettleParams) (seed : UInt64) (terminal : Option Nat)
    {payloads : List (List UInt8)} (fits : ∀ payload ∈ payloads, payload.length ≤ size)
    (inStream : ∀ sourceId < payloads.length, InStream terminal sourceId) :
    ∃ (finished : MettleEncoder size) (outputs : List (List UInt8 × List MettleBin)),
      execute MettleEncoder.pushSource (.newWithTerminalSourceCount params seed terminal) payloads =
          some (finished, outputs) ∧
        Pushed params seed terminal (sourcePayload payloads) payloads.length finished ∧
        outputs.map Prod.snd = (List.range payloads.length).map
          (departed params seed terminal (sourcePayload payloads : Nat → Payload size)) := by
  have start : Pushed params seed terminal (sourcePayload payloads : Nat → Payload size) 0
      (.newWithTerminalSourceCount params seed terminal) := new_pushed
  rcases push_sources_spec start fits (by simpa using inStream)
    (fun index below => by
      simp [sourcePayload, List.getElem?_eq_getElem below])
    with ⟨finished, outputs, run, pushed, emitted⟩
  rw [Nat.zero_add] at pushed
  rw [← List.range_eq_range'] at emitted
  exact ⟨finished, outputs, run, pushed, emitted⟩

theorem departures_flatten {outputs : List (List UInt8 × List MettleBin)}
    (emitted : outputs.map Prod.snd =
      (List.range count).map (departed params seed terminal source)) :
    (outputs.map Prod.snd).flatten =
      (List.range (params.tleBinId count)).map (encodedBin params seed terminal source) := by
  have start : params.tleBinId 0 = 0 := by simp [MettleParams.tleBinId]
  rw [emitted, List.range_eq_range', departed_flatten, start, Nat.zero_add, Nat.sub_zero,
    ← List.range_eq_range']

theorem encode_of_run {payloads : List (List UInt8)} {finished : MettleEncoder size}
    {outputs : List (List UInt8 × List MettleBin)}
    (run : execute MettleEncoder.pushSource encoder payloads = some (finished, outputs)) :
    encoder.encode payloads = some ((outputs.map Prod.snd).flatten ++ finished.finish) := by
  rw [MettleEncoder.encode, run]
  rfl

theorem encode_terminated (params : MettleParams) (seed : UInt64) {payloads : List (List UInt8)}
    (fits : ∀ payload ∈ payloads, payload.length ≤ size) :
    (MettleEncoder.newTerminated params seed payloads.length : MettleEncoder size).encode payloads =
      some ((List.range (params.terminalDepartureEndExclusive payloads.length)).map
        (encodedBin params seed (some payloads.length)
          (sourcePayload payloads : Nat → Payload size))) := by
  rcases push_all params seed (some payloads.length) fits (fun sourceId below =>
    in_stream_some.mpr below) with ⟨finished, outputs, run, pushed, emitted⟩
  have within := params.frontier_le_terminal_end payloads.length
  have joined := range_join (Nat.zero_le (params.tleBinId payloads.length)) within
  rw [Nat.sub_zero, Nat.sub_zero, ← List.range_eq_range', ← List.range_eq_range'] at joined
  rw [MettleEncoder.newTerminated, encode_of_run run, departures_flatten emitted,
    finish_terminated pushed, ← List.map_append, joined]

theorem payloads_fit {payloads : List (List UInt8)} {finished : MettleEncoder size}
    {outputs : List (List UInt8 × List MettleBin)}
    (run : execute MettleEncoder.pushSource encoder payloads = some (finished, outputs)) :
    ∀ payload ∈ payloads, payload.length ≤ size := by
  induction payloads generalizing encoder outputs with
  | nil => simp
  | cons first rest induction =>
    rw [execute, Option.bind_eq_some_iff] at run
    rcases run with ⟨⟨next, bins⟩, step, run⟩
    rcases Option.map_eq_some_iff.mp run with ⟨⟨last, later⟩, restRun, same⟩
    cases same
    rw [MettleEncoder.pushSource] at step
    split_ifs at step with valid
    rw [List.forall_mem_cons]
    exact ⟨valid.1, induction restRun⟩

theorem encoded_bins {payloads : List (List UInt8)} {encoded : List MettleBin}
    (produced : (MettleEncoder.newTerminated params seed payloads.length :
      MettleEncoder size).encode payloads = some encoded) :
    encoded = (List.range (params.terminalDepartureEndExclusive payloads.length)).map
      (encodedBin params seed (some payloads.length)
        (sourcePayload payloads : Nat → Payload size)) := by
  rcases Option.map_eq_some_iff.mp produced with ⟨⟨finished, outputs⟩, run, _⟩
  have closed := encode_terminated params seed (payloads_fit run)
  rw [produced] at closed
  exact Option.some.inj closed

/-- What an encoder without an end has emitted: the bins in front of the frontier, and behind it
those its sources touch. -/
theorem encoded_unterminated {payloads : List (List UInt8)} {encoded : List MettleBin}
    (produced : (MettleEncoder.new params seed : MettleEncoder size).encode payloads =
      some encoded) :
    ∃ flushed : List Nat,
      encoded = (List.range (params.tleBinId payloads.length) ++ flushed).map
        (encodedBin params seed none (sourcePayload payloads : Nat → Payload size)) ∧
      flushed.Pairwise (· < ·) ∧
      ∀ binId, binId ∈ flushed ↔ params.tleBinId payloads.length ≤ binId ∧
        ∃ sourceId < payloads.length,
          binId ∈ params.edgeBinIdsWithTerminalSourceCount sourceId seed none := by
  rcases Option.map_eq_some_iff.mp produced with ⟨⟨pushed, emitted⟩, ran, _⟩
  rcases push_all params seed none (payloads_fit ran) (fun sourceId _ => in_stream_none sourceId)
    with ⟨finished, outputs, run, state, departures⟩
  rcases finish_unterminated state (fun sourceId => source_payload_beyond) with
    ⟨flushed, rest, ascending, listed⟩
  refine ⟨flushed, ?_, ascending, listed⟩
  have all := encode_of_run run
  rw [departures_flatten departures, rest, ← List.map_append] at all
  exact Option.some.inj (produced.symm.trans all)

/-- A terminated encoder emits the bins up to its terminal end, each once and in ascending order.
A bin holds the payload of each source once for each edge that hits it, and leaves only after the
last source that touches it was pushed. -/
theorem terminated_encoder_closed_form (params : MettleParams) (seed : UInt64)
    (payloads : List (List UInt8)) (fits : ∀ payload ∈ payloads, payload.length ≤ size) :
    ∃ (finished : MettleEncoder size) (outputs : List (List UInt8 × List MettleBin)),
      execute MettleEncoder.pushSource (.newTerminated params seed payloads.length) payloads =
          some (finished, outputs) ∧
        (outputs.map Prod.snd).flatten ++ finished.finish =
          (List.range (params.terminalDepartureEndExclusive payloads.length)).map (fun binId =>
            ⟨binId, (∑ sourceId ∈ Finset.range payloads.length,
              (params.edgeBinIdsWithTerminalSourceCount sourceId seed
                (some payloads.length)).count binId •
                  (sourcePayload payloads sourceId : Payload size)).toBytes⟩) ∧
        ∀ index bins, (outputs.map Prod.snd)[index]? = some bins → ∀ bin ∈ bins,
          ∀ sourceId < payloads.length,
            bin.binId ∈ params.edgeBinIdsWithTerminalSourceCount sourceId seed
              (some payloads.length) → sourceId ≤ index := by
  rcases push_all params seed (some payloads.length) fits (fun sourceId below =>
    in_stream_some.mpr below) with ⟨finished, outputs, run, pushed, emitted⟩
  have encoded := encode_terminated params seed fits
  rw [MettleEncoder.newTerminated, encode_of_run run, Option.some.injEq] at encoded
  refine ⟨finished, outputs, run, ?_, ?_⟩
  · rw [encoded]
    apply List.map_congr_left
    intro binId _
    rw [encodedBin, ← sum_eq_bin_value (fun sourceId below => in_stream_some.mpr below)]
    · rfl
    · intro sourceId touches beyond
      have below := in_stream_some.mp (MettleParams.mem_touchers.mp touches).1
      exact absurd below (not_lt.mpr beyond)
  · intro index bins found bin member sourceId below edge
    rw [emitted, List.getElem?_map, Option.map_eq_some_iff] at found
    rcases found with ⟨count, position, rfl⟩
    rcases List.getElem?_eq_some_iff.mp position with ⟨_, rfl⟩
    rw [List.getElem_range, departed] at member
    rcases List.mem_map.mp member with ⟨binId, listed, rfl⟩
    have before : binId < params.tleBinId (index + 1) := by
      rw [List.mem_range'_1] at listed
      omega
    have touches := MettleParams.mem_touchers.mpr ⟨in_stream_some.mpr below, edge⟩
    exact Nat.lt_succ_iff.mp (toucher_before_frontier before touches)

theorem two_sources_closed_form :
    ∃ (finished : MettleEncoder 2) (outputs : List (List UInt8 × List MettleBin)),
      execute MettleEncoder.pushSource (.newTerminated .perThousand 7 2) [[1, 2], [3]] =
          some (finished, outputs) ∧
        ((outputs.map Prod.snd).flatten ++ finished.finish).map MettleBin.binId =
          List.range (MettleParams.perThousand.terminalDepartureEndExclusive 2) := by
  rcases @terminated_encoder_closed_form 2 .perThousand 7 [[1, 2], [3]] (by decide) with
    ⟨finished, outputs, run, closed, _⟩
  refine ⟨finished, outputs, run, ?_⟩
  rw [closed, List.map_map]
  exact List.map_id _

end Nextmini.Mettle
