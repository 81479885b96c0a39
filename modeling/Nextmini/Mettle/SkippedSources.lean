import Nextmini.Library.TransitionSystem
import Nextmini.Mettle.DecoderOrder

/-!
# Skipped sources

A skip gives the next source up and moves on to the one behind it, without the loop that releases
what was decoded ahead. Where the source behind was decoded ahead, it stays in the map of the future
sources for good: it is not released from there, and the next source is then in that map.
-/

namespace Nextmini.Mettle

open Nextmini.Library

set_option autoImplicit false

variable {size : Nat}

namespace MettleDecoder

variable {decoder : MettleDecoder size} {sourceId : Nat} {payload : Payload size}

inductive DecoderOperation where
  | push (bin : MettleBin)
  | skip
  deriving DecidableEq, Repr

/-- A decoder over any pushes and skips; a source that is skipped has a 64-bit id. -/
def decoderSystem (size : Nat) : TransitionSystem (MettleDecoder size) DecoderOperation where
  initial decoder := ∃ params seed terminal,
    decoder = newWithTerminalSourceCount params seed terminal
  step decoder operation later :=
    match operation with
    | .push bin => later = (decoder.pushBin bin).1
    | .skip => decoder.nextDecodedSourceId < 2 ^ 64 ∧ later = decoder.skipNextSourceWithoutEdges.1

/-- The sources decoded ahead that become contiguous when the next one is given up. -/
def Uncovered (decoder : MettleDecoder size) (sourceId : Nat) : Prop :=
  decoder.nextDecodedSourceId < sourceId ∧
    ∀ between, decoder.nextDecodedSourceId < between → between ≤ sourceId →
      between ∈ decoder.decodedFuturePayloads

/-- After a skip the next source is still to be decoded, and what the skip uncovered was released
out of the map with its payload. -/
def SkipSound (decoder : MettleDecoder size) : Prop :=
  let result := decoder.skipNextSourceWithoutEdges
  result.1.nextDecodedSourceId ∉ result.1.decodedFuturePayloads ∧
    ∀ sourceId payload, decoder.Uncovered sourceId →
      decoder.decodedFuturePayloads[sourceId]? = some payload →
        sourceId ∉ result.1.decodedFuturePayloads ∧ ⟨sourceId, payload⟩ ∈ result.2

/-- A skip only where the source behind the next one was not decoded ahead. -/
def UncoversNothing (decoder : MettleDecoder size) (operation : DecoderOperation) : Prop :=
  operation = .skip → decoder.nextDecodedSourceId + 1 ∉ decoder.decodedFuturePayloads

/-! ## What stays in the map -/

/-- A source in the map that is not behind the next one. -/
def Left (sourceId : Nat) (decoder : MettleDecoder size) : Prop :=
  sourceId ≤ decoder.nextDecodedSourceId ∧ sourceId ∈ decoder.decodedFuturePayloads

theorem release_futures_left (fuel : Nat) (passed : sourceId < decoder.nextDecodedSourceId)
    (member : sourceId ∈ decoder.decodedFuturePayloads) :
    Left sourceId (releaseFutures fuel decoder).1 := by
  have kept := release_futures_preserves (motive := fun later : MettleDecoder size =>
    sourceId < later.nextDecodedSourceId ∧ sourceId ∈ later.decodedFuturePayloads)
    (fun later payload holds _ => by
      rw [release_ahead_next, release_ahead_futures]
      refine ⟨Nat.lt_succ_of_lt holds.1, ?_⟩
      rcases (mem_iff_get _ _).mp holds.2 with ⟨value, found⟩
      have apart : later.nextDecodedSourceId ≠ sourceId := holds.1.ne'
      exact (mem_iff_get _ _).mpr ⟨value, by rw [get_erase, if_neg apart, found]⟩)
    fuel ⟨passed, member⟩
  exact ⟨kept.1.le, kept.2⟩

theorem decode_left (left : Left sourceId decoder) (other : Nat) (payload : Payload size) :
    Left sourceId (decoder.decodeSourceAndRelease other payload).1 := by
  have next := apply_edges_next decoder other payload
  have futures := apply_edges_futures decoder other payload
  rw [decodeSourceAndRelease]
  generalize decoder.applyDecodedSourceEdges other payload = applied at next futures
  rcases left with ⟨reached, member⟩
  by_cases here : other = applied.nextDecodedSourceId
  · simp only [if_pos here]
    apply release_futures_left
    · rw [release_next]
      omega
    · rw [release_futures, futures]
      exact member
  · simp only [if_neg here]
    refine ⟨next.symm ▸ reached, ?_⟩
    rw [futures, Std.ExtTreeMap.mem_insert]
    exact .inr member

theorem drain_left (left : Left sourceId decoder) :
    Left sourceId decoder.drainDecodableSources.1 := by
  refine drain_turns_preserves (motive := fun later _ => Left sourceId later) ?_
    decoder.receivedBins.size [] left
  intro middle _ later decoded holds step
  rcases drain_once_step step with ⟨other, binId, bin, _, decode⟩
  have kept : Left sourceId (middle.withoutBin binId) := holds
  have moved := decode_left kept other bin.payload
  rw [decode] at moved
  exact moved

/-- A source that was decoded ahead of a skip stays in the map once the skip has reached it. -/
theorem skip_left (member : decoder.nextDecodedSourceId + 1 ∈ decoder.decodedFuturePayloads) :
    decoder.nextDecodedSourceId + 1 ∈
      decoder.skipNextSourceWithoutEdges.1.decodedFuturePayloads := by
  have left : Left (decoder.nextDecodedSourceId + 1)
      (decoder.releasePrefixSource decoder.nextDecodedSourceId 0).1 := by
    rw [Left, release_next, release_futures]
    exact ⟨le_rfl, member⟩
  exact (drain_left left).2

/-! ## Skips that uncover nothing -/

/-- Without a stored bin, a skip releases the zeros and nothing else. -/
theorem skip_without_bins (empty : decoder.receivedBins = ∅) :
    decoder.skipNextSourceWithoutEdges =
      ((decoder.releasePrefixSource decoder.nextDecodedSourceId 0).1,
        [⟨decoder.nextDecodedSourceId, 0⟩]) := by
  have received : (decoder.releasePrefixSource decoder.nextDecodedSourceId 0).1.receivedBins = ∅ := by
    apply eq_empty_of_get
    intro binId
    rw [release_received, empty]
    simp
  simp only [skipNextSourceWithoutEdges, drain_of_empty received]
  rfl

theorem skip_released_ordered (ordered : decoder.Ordered) (running : ¬decoder.finished)
    (fits : decoder.nextDecodedSourceId < 2 ^ 64)
    (nothing : decoder.nextDecodedSourceId + 1 ∉ decoder.decodedFuturePayloads) :
    (decoder.releasePrefixSource decoder.nextDecodedSourceId payload).1.Ordered := by
  constructor
  · constructor
    · intro sourceId member
      rw [release_futures] at member
      rw [release_next]
      exact ordered.later member
    · intro sourceId member
      rw [release_futures] at member
      rw [Decodes, release_terminal]
      exact ordered.futures sourceId member
    · intro count terminated
      rw [release_terminal] at terminated
      rw [release_next]
      exact in_stream_of_running running count terminated
    · rw [release_next]
      exact fits
    · intro done
      apply eq_empty_of_get
      intro binId
      rw [release_received, if_pos done]
    · intro binId stored
      rcases (mem_iff_get _ _).mp stored with ⟨bin, found⟩
      rw [release_received] at found
      split_ifs at found
      rw [release_params]
      exact ordered.known binId ((mem_iff_get _ _).mpr ⟨bin, found⟩)
  · rw [release_next, release_futures]
    exact nothing

theorem skip_ordered (ordered : decoder.Ordered) (running : ¬decoder.finished)
    (fits : decoder.nextDecodedSourceId < 2 ^ 64)
    (nothing : decoder.nextDecodedSourceId + 1 ∉ decoder.decodedFuturePayloads) :
    decoder.skipNextSourceWithoutEdges.1.Ordered :=
  (drain_ordered (skip_released_ordered ordered running fits nothing)).1

/-- All sources are decoded or given up, and nothing is stored. -/
structure Ended (decoder : MettleDecoder size) : Prop where
  complete : decoder.finished
  futures : decoder.decodedFuturePayloads = ∅
  received : decoder.receivedBins = ∅

theorem Ordered.ended (ordered : decoder.Ordered) (done : decoder.finished) : decoder.Ended where
  complete := done
  futures := by
    apply eq_empty_of_get
    intro sourceId
    apply Std.ExtTreeMap.getElem?_eq_none
    intro member
    exact not_finished_of_in_stream (ordered.futures sourceId member).1
      (ordered.notBehind sourceId member) done
  received := ordered.closed done

theorem Ended.skip (ended : decoder.Ended) : decoder.skipNextSourceWithoutEdges.1.Ended := by
  have done : (decoder.releasePrefixSource decoder.nextDecodedSourceId 0).1.finished := by
    rcases ended.complete with ⟨count, terminated, reached⟩
    rw [finished, release_terminal, release_next]
    exact ⟨count, terminated, Nat.le_succ_of_le reached⟩
  rw [skip_without_bins ended.received]
  refine ⟨done, ?_, ?_⟩
  · rw [release_futures, ended.futures]
  · apply eq_empty_of_get
    intro binId
    rw [release_received, if_pos done]

theorem Ended.push (ended : decoder.Ended) (bin : MettleBin) : decoder.pushBin bin = (decoder, []) := by
  rw [pushBin, if_pos ended.complete]

/-- What the runs whose skips uncover nothing go through. -/
def InOrder (decoder : MettleDecoder size) : Prop := decoder.Ordered ∨ decoder.Ended

theorem InOrder.ahead (inOrder : decoder.InOrder) :
    decoder.nextDecodedSourceId ∉ decoder.decodedFuturePayloads := by
  rcases inOrder with ordered | ended
  · exact ordered.ahead
  · rw [ended.futures]
    exact Std.ExtTreeMap.not_mem_empty

theorem InOrder.skip (inOrder : decoder.InOrder) (fits : decoder.nextDecodedSourceId < 2 ^ 64)
    (nothing : decoder.nextDecodedSourceId + 1 ∉ decoder.decodedFuturePayloads) :
    decoder.skipNextSourceWithoutEdges.1.InOrder := by
  rcases inOrder with ordered | ended
  · by_cases done : decoder.finished
    · exact .inr (ordered.ended done).skip
    · exact .inl (skip_ordered ordered done fits nothing)
  · exact .inr ended.skip

theorem in_order_step {later : MettleDecoder size} {operation : DecoderOperation}
    (inOrder : decoder.InOrder) (guarded : decoder.UncoversNothing operation)
    (step : (decoderSystem size).step decoder operation later) : later.InOrder := by
  cases operation with
  | push bin =>
    have taken : later = (decoder.pushBin bin).1 := step
    rw [taken]
    rcases inOrder with ordered | ended
    · exact .inl (push_bin_ordered ordered bin).1
    · rw [ended.push]
      exact .inr ended
  | skip =>
    rcases step with ⟨fits, skipped⟩
    rw [skipped]
    exact inOrder.skip fits (guarded rfl)

theorem reachable_in_order
    (reachable : ((decoderSystem size).restrict UncoversNothing).Reachable decoder) :
    decoder.InOrder := by
  apply TransitionSystem.invariant_of_reachable (motive := InOrder) _ _ reachable
  · rintro _ ⟨params, seed, terminal, rfl⟩
    exact .inl (new_ordered params seed terminal)
  · rintro _ operation _ inOrder ⟨guarded, step⟩
    exact in_order_step inOrder guarded step

/-! ## Exactly the skips that uncover nothing are sound -/

theorem uncovered_behind (uncovered : decoder.Uncovered sourceId) :
    decoder.nextDecodedSourceId + 1 ∈ decoder.decodedFuturePayloads :=
  uncovered.2 _ (Nat.lt_succ_self _) uncovered.1

/-- Over any pushes and any skips that uncover nothing, the next source is never in the map, and a
further skip is sound exactly where it uncovers nothing. -/
theorem skip_sound_iff
    (reachable : ((decoderSystem size).restrict UncoversNothing).Reachable decoder)
    (fits : decoder.nextDecodedSourceId < 2 ^ 64) :
    decoder.nextDecodedSourceId ∉ decoder.decodedFuturePayloads ∧
      (decoder.SkipSound ↔ decoder.nextDecodedSourceId + 1 ∉ decoder.decodedFuturePayloads) := by
  have inOrder := reachable_in_order reachable
  refine ⟨inOrder.ahead, ?_, ?_⟩
  · rintro ⟨_, released⟩ member
    rcases (mem_iff_get _ _).mp member with ⟨payload, found⟩
    have uncovered : decoder.Uncovered (decoder.nextDecodedSourceId + 1) := by
      refine ⟨Nat.lt_succ_self _, fun between after before => ?_⟩
      have same : between = decoder.nextDecodedSourceId + 1 := by omega
      rw [same]
      exact member
    exact (released _ payload uncovered found).1 (skip_left member)
  · intro nothing
    refine ⟨(inOrder.skip fits nothing).ahead, ?_⟩
    intro sourceId payload uncovered _
    exact absurd (uncovered_behind uncovered) nothing

/-- Source two arrives first and is decoded ahead. The skip of source zero does not reach it. -/
theorem skip_before_ahead_sound :
    let decoder := ((newTerminated .perThousand 7 3 : MettleDecoder 1).pushBin ⟨2, [9]⟩).1
    2 ∈ decoder.decodedFuturePayloads ∧ decoder.SkipSound := by
  have initial : ((decoderSystem 1).restrict UncoversNothing).initial
      (newTerminated .perThousand 7 3) := ⟨.perThousand, 7, some 3, rfl⟩
  have pushed : ((decoderSystem 1).restrict UncoversNothing).step (newTerminated .perThousand 7 3)
      (.push ⟨2, [9]⟩) ((newTerminated .perThousand 7 3 : MettleDecoder 1).pushBin ⟨2, [9]⟩).1 :=
    ⟨nofun, rfl⟩
  have reached := (TransitionSystem.reachable_of_initial initial).step pushed
  have evaluated : (fun decoder : MettleDecoder 1 => decide (decoder.nextDecodedSourceId = 0 ∧
      1 ∉ decoder.decodedFuturePayloads ∧ 2 ∈ decoder.decodedFuturePayloads))
      ((newTerminated .perThousand 7 3 : MettleDecoder 1).pushBin ⟨2, [9]⟩).1 = true := by
    decide +kernel
  generalize ((newTerminated .perThousand 7 3 : MettleDecoder 1).pushBin ⟨2, [9]⟩).1 = decoder
    at reached evaluated
  rcases of_decide_eq_true evaluated with ⟨next, apart, ahead⟩
  refine ⟨ahead, (skip_sound_iff reached ?_).2.mpr ?_⟩
  · rw [next]
    decide
  · rwa [next]

/-- Source one of a stream of two arrives first and is decoded ahead. The skip of source zero leaves
it in the map, as the next source, and does not release it. -/
theorem decoded_source_left_behind :
    ∃ decoder : MettleDecoder 1, (decoderSystem 1).Reachable decoder ∧
      decoder.nextDecodedSourceId ∉ decoder.decodedFuturePayloads ∧
      decoder.Uncovered 1 ∧
      decoder.skipNextSourceWithoutEdges.1.nextDecodedSourceId ∈
        decoder.skipNextSourceWithoutEdges.1.decodedFuturePayloads ∧
      decoder.skipNextSourceWithoutEdges.2.map DecodedSource.sourceId = [0] ∧
      ¬decoder.SkipSound := by
  have start : (decoderSystem 1).Reachable (newTerminated .perThousand 7 2) :=
    TransitionSystem.reachable_of_initial ⟨.perThousand, 7, some 2, rfl⟩
  have pushed : (decoderSystem 1).step (newTerminated .perThousand 7 2) (.push ⟨1, [9]⟩)
      ((newTerminated .perThousand 7 2 : MettleDecoder 1).pushBin ⟨1, [9]⟩).1 := rfl
  have reached := start.step pushed
  have evaluated : (fun decoder : MettleDecoder 1 => decide (decoder.nextDecodedSourceId = 0 ∧
      0 ∉ decoder.decodedFuturePayloads ∧ 1 ∈ decoder.decodedFuturePayloads ∧
        decoder.receivedBins.isEmpty))
      ((newTerminated .perThousand 7 2 : MettleDecoder 1).pushBin ⟨1, [9]⟩).1 = true := by
    decide +kernel
  generalize ((newTerminated .perThousand 7 2 : MettleDecoder 1).pushBin ⟨1, [9]⟩).1 = decoder
    at reached evaluated
  rcases of_decide_eq_true evaluated with ⟨next, undecoded, ahead, stored⟩
  have skipped := skip_without_bins (Std.ExtTreeMap.isEmpty_iff.mp stored)
  have stuck : decoder.skipNextSourceWithoutEdges.1.nextDecodedSourceId = 1 := by
    rw [skipped, release_next, next]
  have released : decoder.skipNextSourceWithoutEdges.2.map DecodedSource.sourceId = [0] := by
    rw [skipped, next]
    rfl
  have left : 1 ∈ decoder.skipNextSourceWithoutEdges.1.decodedFuturePayloads := by
    have later : decoder.nextDecodedSourceId + 1 ∈ decoder.decodedFuturePayloads := by
      rwa [next]
    have kept := skip_left later
    rwa [next] at kept
  have blocked : decoder.skipNextSourceWithoutEdges.1.nextDecodedSourceId ∈
      decoder.skipNextSourceWithoutEdges.1.decodedFuturePayloads := by
    rw [stuck]
    exact left
  refine ⟨decoder, reached, ?_, ?_, blocked, released, fun sound => sound.1 blocked⟩
  · rw [next]
    exact undecoded
  · refine ⟨by omega, fun between after before => ?_⟩
    have same : between = 1 := by omega
    rw [same]
    exact ahead

end MettleDecoder

end Nextmini.Mettle
