import Nextmini.Mettle.Completeness
import Nextmini.Mettle.PackedSampling
import Nextmini.Mettle.Soundness

/-!
# Round trip without an end

Bins in ascending order are never overtaken, so a decoder that takes the whole output of an encoder
in order releases the pushed payloads first. Nothing tells it where the stream ends: a bin that the
encoder flushed behind its last source may be the last one missing for a source that was never
pushed, and the decoder then goes on with zeros.
-/

namespace Nextmini.Mettle

open Nextmini.Library
open Nextmini.Library.Peeling (Peelable)

set_option autoImplicit false

variable {size : Nat}

namespace MettleDecoder

variable {decoder : MettleDecoder size} {source : Nat → Payload size} {sourceId binId : Nat}
variable {bins : List MettleBin}

theorem Settled.decoded_reaches (settled : decoder.Settled bins ∅)
    (decoded : sourceId ∈ decoder.decodedSources) :
    ∃ bin ∈ bins, decoder.params.tleBinId sourceId ≤ bin.binId := by
  cases settled.sound sourceId decoded with
  | given member => exact absurd member (Set.notMem_empty _)
  | last delivery touches _ =>
    rcases delivery.1 with ⟨bin, member, rfl⟩
    exact ⟨bin, member, toucher_reaches touches⟩

theorem Settled.not_misread (settled : decoder.Settled bins ∅) (clean : decoder.Clean binId)
    (behind : ∀ bin ∈ bins, bin.binId < binId) : ¬decoder.Misread source binId := by
  intro misread
  rcases misread.overtaken clean with ⟨_, _, _, sourceId, systematic, decoded, _⟩
  rcases settled.decoded_reaches (mem_decoded_sources.mpr decoded) with ⟨bin, member, reached⟩
  rw [((tle_source_spec _).mp systematic).2.2] at reached
  exact absurd (behind bin member) (not_lt.mpr reached)

end MettleDecoder

open MettleDecoder

variable {params : MettleParams} {seed : UInt64} {terminal : Option Nat}
variable {source : Nat → Payload size} {decoder : MettleDecoder size}

theorem ascending_genuine {before : List MettleBin} {binIds : List Nat}
    (settled : decoder.Settled before ∅) (following : Following params seed terminal source decoder)
    (clean : ∀ binId ∈ binIds, decoder.Clean binId) (ascending : binIds.Pairwise (· < ·))
    (behind : ∀ bin ∈ before, ∀ binId ∈ binIds, bin.binId < binId) :
    GenuineOutputs source
      (decoder.pushBins (binIds.map (encodedBin params seed terminal source))).2 := by
  induction binIds generalizing decoder before with
  | nil => exact genuine_outputs_nil
  | cons binId rest induction =>
    rcases List.pairwise_cons.mp ascending with ⟨first, later⟩
    have cleanHere := clean binId List.mem_cons_self
    have released := (push_bin_ordered settled.ordered
      (encodedBin params seed terminal source binId)).2
    have kept := push_bin_following following (settled.not_misread cleanHere
      fun bin member => behind bin member binId List.mem_cons_self)
    have pushed : Settled (before ++ [encodedBin params seed terminal source binId]) ∅
        (decoder.pushBin (encodedBin params seed terminal source binId)).1 :=
      push_bin_settled settled ⟨⟨_, Payload.of_to_bytes _⟩, cleanHere⟩
    rw [List.map_cons, pushBins]
    apply kept.2.append
    apply induction pushed kept.1 _ later
    · intro bin member other otherMember
      rcases List.mem_append.mp member with old | new
      · exact behind bin old other (List.mem_cons_of_mem _ otherMember)
      · rw [List.mem_singleton.mp new]
        exact first other otherMember
    · intro other member
      rw [Clean, touchers_congr released.params released.seed released.terminal,
        edges_congr released.params released.seed released.terminal]
      exact clean other (List.mem_cons_of_mem _ member)

/-! ## The whole output -/

/-- The bins that an encoder without an end flushes after its last source. -/
def Flushed (params : MettleParams) (seed : UInt64) (count binId : Nat) : Prop :=
  params.tleBinId count ≤ binId ∧ (params.latestSourceIdForBin binId).isSome ∧
    ∃ sourceId < count, binId ∈ params.edgeBinIdsWithTerminalSourceCount sourceId seed none

/-- The sources that follow from the flushed bins and the pushed sources. -/
abbrev FollowsFromFlushed (params : MettleParams) (seed : UInt64) (count sourceId : Nat) : Prop :=
  Peelable (params.touchers seed none) (Set.ofPred (Flushed params seed count)) (Set.Iio count)
    sourceId

section Stream

variable {payloads : List (List UInt8)} {encoded : List MettleBin}

theorem delivered_unterminated (fits : payloads.length < 2 ^ 64)
    (produced : (MettleEncoder.new params seed : MettleEncoder size).encode payloads =
      some encoded) (binId : Nat) :
    Delivered params encoded binId ↔
      binId < params.tleBinId payloads.length ∨ Flushed params seed payloads.length binId := by
  rcases encoded_unterminated produced with ⟨flushed, rfl, _, listed⟩
  simp only [Delivered, List.mem_map, List.mem_append, List.mem_range, Flushed,
    Option.isSome_iff_exists]
  constructor
  · rintro ⟨⟨bin, ⟨other, place, rfl⟩, rfl⟩, known⟩
    rcases place with front | back
    · exact .inl front
    · rcases (listed other).mp back with ⟨behind, touched⟩
      exact .inr ⟨behind, known, touched⟩
  · rintro (front | ⟨behind, known, touched⟩)
    · rcases params.latest_of_lt_frontier fits.le front with ⟨latest, known, _⟩
      exact ⟨⟨_, ⟨binId, .inl front, rfl⟩, rfl⟩, latest, known⟩
    · exact ⟨⟨_, ⟨binId, .inr ((listed binId).mpr ⟨behind, touched⟩), rfl⟩, rfl⟩, known⟩

/-- The bins in front of the frontier give the pushed sources, and nothing else. -/
theorem peelable_unterminated (fits : payloads.length < 2 ^ 64)
    (produced : (MettleEncoder.new params seed : MettleEncoder size).encode payloads =
      some encoded) {decoder : MettleDecoder size} (sameParams : decoder.params = params)
    (sameSeed : decoder.seed = seed) (sameTerminal : decoder.terminalSourceCount = none)
    (sourceId : Nat) :
    Peelable decoder.touchers (Delivered decoder.params encoded) ∅ sourceId ↔
      FollowsFromFlushed params seed payloads.length sourceId := by
  have touchers (binId : Nat) : decoder.touchers binId = params.touchers seed none binId := by
    rw [MettleDecoder.touchers, sameParams, sameSeed, sameTerminal]
  constructor
  · intro peelable
    induction peelable with
    | given member => exact absurd member (Set.notMem_empty _)
    | @last binId sourceId delivery touches _ others =>
      have place : Delivered decoder.params encoded binId := delivery
      rw [sameParams, delivered_unterminated fits produced] at place
      rcases place with front | flushed
      · rw [touchers] at touches
        exact .given (toucher_before_frontier front touches)
      · have member : binId ∈ Set.ofPred (Flushed params seed payloads.length) := flushed
        rw [touchers] at touches others
        exact .last member touches others
  · intro follows
    induction follows with
    | @given sourceId member =>
      apply @systematic_peelable size decoder encoded ∅ payloads.length
      · intro other _
        rw [sameTerminal]
        exact in_stream_none other
      · intro other below
        rw [sameParams, delivered_unterminated fits produced]
        exact .inl (params.tle_strict_mono below)
      · exact member
    | @last binId sourceId flushed touches _ others =>
      have member : binId ∈ Set.ofPred (Delivered decoder.params encoded) := by
        have delivery : Delivered decoder.params encoded binId := by
          rw [sameParams, delivered_unterminated fits produced]
          exact .inr flushed
        exact delivery
      rw [← touchers] at touches others
      exact .last member touches others

/-- The sources of a bin that the encoder emits are at most one window behind the last pushed. -/
theorem emitted_touchers {flushed : List Nat}
    (listed : ∀ binId, binId ∈ flushed ↔ params.tleBinId payloads.length ≤ binId ∧
      ∃ sourceId < payloads.length,
        binId ∈ params.edgeBinIdsWithTerminalSourceCount sourceId seed none) {binId sourceId : Nat}
    (member : binId ∈ List.range (params.tleBinId payloads.length) ++ flushed)
    (touches : sourceId ∈ params.touchers seed none binId) : sourceId < payloads.length + 600 := by
  have window : MettleParams.couplingWindow = 600 := rfl
  rcases List.mem_append.mp member with front | back
  · have before := toucher_before_frontier (List.mem_range.mp front) touches
    omega
  · rcases ((listed binId).mp back).2 with ⟨pushed, below, edge⟩
    have inStream := in_stream_none pushed
    have inside := (params.edge_in_window inStream edge).2
    rcases MettleParams.mem_touchers.mp touches with ⟨_, touchedEdge⟩
    have reached := (params.edge_in_window (in_stream_none sourceId) touchedEdge).1
    have near := params.reached_in_window reached
      (lt_of_lt_of_le inside (params.window_end_terminal_le inStream))
    omega

/-- What a decoder without an end releases of the whole output, and how far it gets. -/
theorem unterminated_releases (fits : payloads.length < 2 ^ 64)
    (distinct : ∀ sourceId < payloads.length + 600,
      (params.edgeBinIdsWithTerminalSourceCount sourceId seed none).Nodup)
    (produced : (MettleEncoder.new params seed : MettleEncoder size).encode payloads =
      some encoded) :
    ∃ reached, payloads.length ≤ reached ∧
      (reached = payloads.length ↔
        ¬FollowsFromFlushed params seed payloads.length payloads.length) ∧
      ((MettleDecoder.new params seed : MettleDecoder size).pushBins encoded).2.map
        (fun released => (released.sourceId, released.payload)) =
          (List.range reached).map fun sourceId => (sourceId, sourcePayload payloads sourceId) := by
  rcases encoded_unterminated produced with ⟨flushed, same, ascending, listed⟩
  have start := @new_settled size params seed none ∅
  have following : Following params seed none (sourcePayload payloads)
      (newWithTerminalSourceCount params seed none : MettleDecoder size) :=
    ⟨new_sound params seed none _, rfl, rfl, rfl⟩
  have clean : ∀ binId ∈ List.range (params.tleBinId payloads.length) ++ flushed,
      (newWithTerminalSourceCount params seed none : MettleDecoder size).Clean binId := by
    intro binId member sourceId touches
    have near := emitted_touchers listed member touches
    exact List.count_eq_one_of_mem (distinct sourceId near) (mem_touchers.mp touches).2
  have fair : ∀ bin ∈ encoded,
      (newWithTerminalSourceCount params seed none : MettleDecoder size).Fair bin := by
    intro bin member
    rw [same] at member
    rcases List.mem_map.mp member with ⟨binId, place, rfl⟩
    exact ⟨⟨_, Payload.of_to_bytes _⟩, clean binId place⟩
  have ordered : (List.range (params.tleBinId payloads.length) ++ flushed).Pairwise (· < ·) := by
    rw [List.pairwise_append]
    refine ⟨List.pairwise_lt_range, ascending, ?_⟩
    intro front frontMember back backMember
    exact lt_of_lt_of_le (List.mem_range.mp frontMember) ((listed back).mp backMember).1
  have outputs := ascending_genuine start following clean ordered
    (fun bin member => absurd member List.not_mem_nil)
  rw [← same] at outputs
  have settled := push_bins_settled start fair
  have released := (push_bins_ordered start.ordered encoded).2
  rw [MettleDecoder.new]
  generalize (newWithTerminalSourceCount params seed none : MettleDecoder size).pushBins encoded =
    result at outputs settled released
  have sameParams : result.1.params = params := released.params
  have peelable := peelable_unterminated fits produced sameParams released.seed released.terminal
  have decodedIff (sourceId : Nat) : sourceId ∈ result.1.decodedSources ↔
      FollowsFromFlushed params seed payloads.length sourceId := by
    rw [← peelable]
    constructor
    · exact settled.sound sourceId
    · exact settled.decoded fun _ member => absurd member (Set.notMem_empty _)
  have enough : payloads.length ≤ result.1.nextDecodedSourceId := by
    apply settled.ordered.all_released
    intro sourceId below
    rw [decodedIff]
    exact .given below
  refine ⟨result.1.nextDecodedSourceId, enough, ?_, ?_⟩
  · rw [← decodedIff]
    constructor
    · intro exact_
      rw [← exact_]
      exact settled.ordered.next_open
    · intro undecoded
      apply Nat.le_antisymm _ enough
      by_contra further
      exact undecoded (range_subset_decoded (Finset.mem_range.mpr (not_le.mp further)))
  · have zero : (newWithTerminalSourceCount params seed none :
      MettleDecoder size).nextDecodedSourceId = 0 := rfl
    have next := released.next
    have ids := released.ids
    rw [zero, Nat.zero_add] at next
    rw [zero, ← next, ← List.range_eq_range'] at ids
    rw [← ids, List.map_map]
    apply List.map_congr_left
    intro one member
    rw [outputs one member]
    rfl

/-- A decoder that takes the whole output of an encoder without an end releases the pushed payloads
and nothing else exactly if the source behind the last one does not follow from the flushed bins. -/
theorem unterminated_round_trip (fits : payloads.length < 2 ^ 64)
    (distinct : ∀ sourceId < payloads.length + 600,
      (params.edgeBinIdsWithTerminalSourceCount sourceId seed none).Nodup)
    (produced : (MettleEncoder.new params seed : MettleEncoder size).encode payloads =
      some encoded) :
    ((MettleDecoder.new params seed : MettleDecoder size).pushBins encoded).2.map
        (fun released => (released.sourceId, released.payload)) =
      (List.range payloads.length).map (fun sourceId => (sourceId, sourcePayload payloads sourceId)) ↔
        ¬FollowsFromFlushed params seed payloads.length payloads.length := by
  rcases @unterminated_releases size params seed payloads encoded fits distinct produced with
    ⟨reached, _, condition, released⟩
  rw [released, ← condition]
  constructor
  · intro same
    have lengths := congrArg List.length same
    rw [List.length_map, List.length_map, List.length_range, List.length_range] at lengths
    exact lengths
  · intro same
    rw [same]

theorem encodes_unterminated (params : MettleParams) (seed : UInt64) {payloads : List (List UInt8)}
    (fits : ∀ payload ∈ payloads, payload.length ≤ size) :
    ∃ encoded, (MettleEncoder.new params seed : MettleEncoder size).encode payloads =
      some encoded := by
  rcases push_all params seed none fits (fun sourceId _ => in_stream_none sourceId) with
    ⟨finished, outputs, run, _⟩
  exact ⟨_, encode_of_run run⟩

/-- The systematic bin of the source behind the last one lets it follow as soon as it is flushed. -/
theorem follows_from_own_bin {count hit : Nat} (fits : count < 2 ^ 64) (below : hit < count)
    (edge : params.tleBinId count ∈ params.edgeBinIdsWithTerminalSourceCount hit seed none) :
    FollowsFromFlushed params seed count count := by
  have flushed : params.tleBinId count ∈ Set.ofPred (Flushed params seed count) := by
    have systematic : Flushed params seed count (params.tleBinId count) :=
      ⟨le_rfl, by rw [params.latest_of_tle fits]; rfl, hit, below, edge⟩
    exact systematic
  apply Peelable.last flushed
  · exact MettleParams.mem_touchers.mpr
      ⟨in_stream_none count, params.tle_mem_edges seed none count⟩
  · intro other touches apart
    have before := toucher_before_frontier (params.tle_strict_mono (Nat.lt_succ_self count)) touches
    apply Peelable.given
    rw [Set.mem_Iio]
    omega

end Stream

theorem distinct_edges : ∀ sourceId < 856,
    (MettleParams.perThousand.edgeBinIdsWithTerminalSourceCount sourceId 209 none).Nodup := by
  have packed : ∀ sourceId < 856, (MettleParams.perThousand.packedEdgeBinIds (lanesOf 600) sourceId
      209 none).Nodup := by decide +kernel
  intro sourceId below
  rw [MettleParams.per_thousand_edges (in_stream_none sourceId)]
  exact packed sourceId below

/-- Each bin that is flushed after two sources, with a later source that has an edge in it too. -/
def sharedFlushed : List (Nat × Nat) :=
  [(317, 20), (449, 14), (507, 64), (296, 7), (468, 16), (541, 19)]

theorem flushed_edges : ∀ sourceId < 602,
    let edges := MettleParams.perThousand.packedEdgeBinIds (lanesOf 600) sourceId 7 none
    edges.Nodup ∧ (sourceId < 2 → ∀ binId ∈ edges, 2 ≤ binId → binId ∈ sharedFlushed.map Prod.fst) ∧
      ∀ shared ∈ sharedFlushed, shared.2 = sourceId → shared.1 ∈ edges := by
  decide +kernel

/-- The source of a flushed bin's own and the later one are both open, so nothing follows. -/
theorem two_flushed_quiet : ¬FollowsFromFlushed .perThousand 7 2 2 := by
  have own : ∀ shared ∈ sharedFlushed, MettleParams.perThousand.tleBinId shared.1 = shared.1 ∧
      2 ≤ shared.2 ∧ shared.2 < shared.1 ∧ shared.2 < 602 := by decide
  have packed (sourceId : Nat) := MettleParams.per_thousand_edges (in_stream_none sourceId) 7
  have open_ {sourceId binId : Nat} (later : 2 ≤ sourceId)
      (edge : binId ∈ MettleParams.perThousand.edgeBinIdsWithTerminalSourceCount sourceId 7 none) :
      sourceId ∈ Peeling.openTouchers (MettleParams.perThousand.touchers 7 none) (Finset.range 2)
        binId := by
    rw [Peeling.mem_open_touchers, Finset.mem_range]
    exact ⟨MettleParams.mem_touchers.mpr ⟨in_stream_none sourceId, edge⟩, not_lt.mpr later⟩
  intro follows
  have known : 2 ∈ Finset.range 2 := by
    apply Peeling.peelable_known _ _ follows
    · rintro binId ⟨behind, _, sourceId, below, edge⟩
      rw [packed] at edge
      rcases List.mem_map.mp ((flushed_edges sourceId (by omega)).2.1 below binId edge behind) with
        ⟨shared, listed, rfl⟩
      rcases own shared listed with ⟨systematic, later, before, near⟩
      have first := open_ (later.trans before.le)
        (systematic ▸ MettleParams.perThousand.tle_mem_edges 7 none shared.1)
      have second := open_ later (packed shared.2 ▸ (flushed_edges _ near).2.2 shared listed rfl)
      exact (Finset.one_lt_card.mpr ⟨_, first, _, second, before.ne'⟩).ne'
    · intro source given
      exact Finset.mem_range.mpr given
  exact absurd known Finset.notMem_range_self

theorem two_sources_round_trip :
    ∃ encoded, (MettleEncoder.new .perThousand 7 : MettleEncoder 1).encode [[5], [7]] = some encoded ∧
      ((MettleDecoder.new .perThousand 7 : MettleDecoder 1).pushBins encoded).2.map
          (fun released => (released.sourceId, released.payload)) =
        (List.range 2).map fun sourceId => (sourceId, sourcePayload [[5], [7]] sourceId) := by
  rcases @encodes_unterminated 1 .perThousand 7 [[5], [7]] (by decide) with ⟨encoded, produced⟩
  refine ⟨encoded, produced, ?_⟩
  apply (@unterminated_round_trip 1 .perThousand 7 [[5], [7]] encoded (by norm_num) _ produced).mpr
  · exact two_flushed_quiet
  · intro sourceId near
    rw [MettleParams.per_thousand_edges (in_stream_none sourceId)]
    exact (flushed_edges sourceId near).1

/-- An edge of source 0 flushes the systematic bin of source 256, which was never pushed. -/
theorem unpushed_source_released :
    ∃ encoded, (MettleEncoder.new .perThousand 209 : MettleEncoder 1).encode
        (List.replicate 256 [1]) = some encoded ∧
      (∀ sourceId < 856,
        (MettleParams.perThousand.edgeBinIdsWithTerminalSourceCount sourceId 209 none).Nodup) ∧
      ∃ released ∈ ((MettleDecoder.new .perThousand 209 : MettleDecoder 1).pushBins encoded).2,
        released.sourceId = 256 := by
  have fits : ∀ payload ∈ List.replicate 256 [(1 : UInt8)], payload.length ≤ 1 := by
    intro payload member
    rw [List.eq_of_mem_replicate member]
    exact le_rfl
  have length : (List.replicate 256 [(1 : UInt8)]).length = 256 := List.length_replicate
  rcases encodes_unterminated .perThousand 209 fits with ⟨encoded, produced⟩
  have edge : MettleParams.perThousand.tleBinId 256 ∈
      MettleParams.perThousand.edgeBinIdsWithTerminalSourceCount 0 209 none := by decide +kernel
  have follows := follows_from_own_bin (by norm_num : 256 < 2 ^ 64) (by norm_num) edge
  rcases unterminated_releases (by rw [length]; norm_num) (by rw [length]; exact distinct_edges)
    produced with ⟨reached, enough, condition, released⟩
  rw [length] at enough condition
  have further : 256 < reached := by
    apply Nat.lt_of_le_of_ne enough
    intro same
    exact condition.mp same.symm follows
  have listed : (256, sourcePayload (List.replicate 256 [1]) 256) ∈
      ((MettleDecoder.new .perThousand 209 : MettleDecoder 1).pushBins encoded).2.map
        (fun released => (released.sourceId, released.payload)) := by
    rw [released]
    exact List.mem_map.mpr ⟨256, List.mem_range.mpr further, rfl⟩
  rcases List.mem_map.mp listed with ⟨one, member, same⟩
  exact ⟨encoded, produced, distinct_edges, one, member, congrArg Prod.fst same⟩

end Nextmini.Mettle
