import Nextmini.Mettle.Completeness
import Nextmini.Mettle.PackedSampling
import Nextmini.Mettle.Soundness

/-!
# Overtaken bins

What the soundness of the decoder excludes does happen. A source that is decoded ahead of its
systematic bin never enters the prefix sum of that bin, so it is still in the bin when the others
are peeled from it, and is released as part of the last of them.
-/

namespace Nextmini.Mettle

open Nextmini.Library
open Nextmini.Library.Peeling (openTouchers)

set_option autoImplicit false

variable {size : Nat}

namespace MettleDecoder

variable {decoder : MettleDecoder size} {source : Nat → Payload size} {sourceId binId : Nat}

theorem decode_next_outputs (decoder : MettleDecoder size) (payload : Payload size) :
    ∃ later, (decoder.decodeSourceAndRelease decoder.nextDecodedSourceId payload).2 =
      ⟨decoder.nextDecodedSourceId, payload⟩ :: later := by
  rw [decode_next_eq]
  exact ⟨_, rfl⟩

/-- A stored bin with one open source that the next source touches is drained for that source. -/
theorem drain_starts_with_next {bin : BufferedBin size}
    (decodable : decoder.Decodable decoder.nextDecodedSourceId binId bin)
    (only : ∀ sourceId otherId other, decoder.Decodable sourceId otherId other →
      sourceId = decoder.nextDecodedSourceId ∧ other = bin) :
    ∃ released ∈ decoder.drainDecodableSources.2,
      released.sourceId = decoder.nextDecodedSourceId ∧ released.payload = bin.payload := by
  rw [drainDecodableSources]
  have member := (mem_iff_get _ _).mpr ⟨bin, decodable.stored⟩
  cases fuel : decoder.receivedBins.size with
  | zero =>
    rw [Std.ExtTreeMap.eq_empty_iff_size_eq_zero.mpr fuel] at member
    exact absurd member Std.ExtTreeMap.not_mem_empty
  | succ fuel =>
    rw [drainTurns]
    cases step : decoder.drainOnce with
    | none => exact absurd decodable (drain_once_none step _ _ _)
    | some result =>
      rcases result with ⟨later, decoded⟩
      rcases drain_once_step step with ⟨chosen, chosenBin, taken, chosenDecodable, decode⟩
      rcases only chosen chosenBin taken chosenDecodable with ⟨rfl, rfl⟩
      rcases decode_next_outputs (decoder.withoutBin chosenBin) taken.payload with ⟨rest, outputs⟩
      have next : (decoder.withoutBin chosenBin).nextDecodedSourceId =
        decoder.nextDecodedSourceId := rfl
      rw [next, decode] at outputs
      simp only at outputs
      refine ⟨⟨decoder.nextDecodedSourceId, taken.payload⟩, ?_, rfl, rfl⟩
      rw [outputs]
      exact List.mem_append_left _ List.mem_cons_self

end MettleDecoder

open MettleDecoder

/-- A stream in which source `own` can be decoded from a bin of its own before its systematic bin,
which it shares with source 0, is delivered. -/
structure Overtaking (params : MettleParams) (seed : UInt64) (count own first : Nat) : Prop where
  positive : 0 < own
  below : own < count
  fits : own < 2 ^ 64
  known : (params.latestSourceIdForBin first).isSome
  distinct : ∀ sourceId < count,
    (params.edgeBinIdsWithTerminalSourceCount sourceId seed (some count)).Nodup
  alone : params.touchers seed (some count) first = {own}
  shared : params.touchers seed (some count) (params.tleBinId own) = {0, own}

section Run

variable {params : MettleParams} {seed : UInt64} {count own first : Nat}
variable {source : Nat → Payload size}

/-- The decoder that has decoded one source ahead. -/
structure Ahead (params : MettleParams) (seed : UInt64) (count own first : Nat)
    (source : Nat → Payload size) (decoder : MettleDecoder size) : Prop
    extends Following params seed (some count) source decoder where
  next : decoder.nextDecodedSourceId = 0
  decoded : decoder.decodedSources = {own}
  received : ∀ binId ∈ decoder.receivedBins, binId = first

theorem own_source_decoded_ahead (overtaking : Overtaking params seed count own first) :
    let decoder := ((newTerminated params seed count : MettleDecoder size).pushBin
      (encodedBin params seed (some count) source first)).1
    Ahead params seed count own first source decoder ∧
      ∀ binId ∈ decoder.seenBinIds, binId = first := by
  have clean : (newTerminated params seed count : MettleDecoder size).Clean first := by
    apply clean_of_distinct
    intro sourceId inStream
    exact overtaking.distinct sourceId (in_stream_some.mp inStream)
  have start : Following params seed (some count) source
      (newTerminated params seed count : MettleDecoder size) :=
    ⟨new_sound params seed (some count) source, rfl, rfl, rfl⟩
  have right : ¬(newTerminated params seed count : MettleDecoder size).Misread source first := by
    intro misread
    rcases misread.overtaken clean with ⟨_, _, _, sourceId, _, decoded, _⟩
    exact new_undecoded (some count) sourceId decoded
  have following := (push_bin_following start right).1
  have settled : Settled ([] ++ [encodedBin params seed (some count) source first]) ∅
      ((newTerminated params seed count : MettleDecoder size).pushBin
        (encodedBin params seed (some count) source first)).1 :=
    push_bin_settled (new_settled params seed (some count) ∅) ⟨⟨_, Payload.of_to_bytes _⟩, clean⟩
  generalize ((newTerminated params seed count : MettleDecoder size).pushBin
    (encodedBin params seed (some count) source first)).1 = decoder at following settled
  have touchers (binId : Nat) : decoder.touchers binId =
      params.touchers seed (some count) binId := by
    rw [MettleDecoder.touchers, following.sameParams, following.sameSeed, following.sameTerminal]
  have delivered {binId : Nat} (delivery : Delivered decoder.params
      ([] ++ [encodedBin params seed (some count) source first]) binId) : binId = first := by
    rcases delivery with ⟨⟨bin, member, same⟩, _⟩
    rw [List.nil_append, List.mem_singleton] at member
    rw [← same, member]
    rfl
  have decoded : decoder.decodedSources = {own} := by
    ext sourceId
    rw [Finset.mem_singleton]
    constructor
    · intro known
      cases settled.sound sourceId known with
      | given member => exact absurd member (Set.notMem_empty _)
      | last member touches _ =>
        rw [delivered member, touchers, overtaking.alone] at touches
        exact Finset.mem_singleton.mp touches
    · rintro rfl
      apply settled.decoded (fun _ member => absurd member (Set.notMem_empty _))
      have delivery : first ∈ Set.ofPred (Delivered decoder.params
          ([] ++ [encodedBin params seed (some count) source first])) := by
        refine ⟨⟨_, List.mem_singleton_self _, rfl⟩, ?_⟩
        rw [following.sameParams]
        exact Option.isSome_iff_exists.mp overtaking.known
      apply Peeling.Peelable.last delivery
      · rw [touchers, overtaking.alone]
        exact Finset.mem_singleton_self _
      · intro other touches apart
        rw [touchers, overtaking.alone] at touches
        exact absurd (Finset.mem_singleton.mp touches) apart
  refine ⟨⟨following, ?_, decoded, fun binId member => delivered (settled.stored binId member)⟩,
    fun binId member => delivered (settled.seen binId member)⟩
  by_contra passed
  have zero : 0 ∈ decoder.decodedSources :=
    range_subset_decoded (Finset.mem_range.mpr (Nat.pos_of_ne_zero passed))
  rw [decoded, Finset.mem_singleton] at zero
  exact overtaking.positive.ne zero

variable {decoder : MettleDecoder size}

theorem Ahead.touchers_eq (ahead : Ahead params seed count own first source decoder) (binId : Nat) :
    decoder.touchers binId = params.touchers seed (some count) binId := by
  rw [MettleDecoder.touchers, ahead.sameParams, ahead.sameSeed, ahead.sameTerminal]

theorem Ahead.clean (overtaking : Overtaking params seed count own first)
    (ahead : Ahead params seed count own first source decoder) (binId : Nat) :
    decoder.Clean binId := by
  apply clean_of_distinct
  intro sourceId inStream
  rw [ahead.sameTerminal] at inStream
  rw [edgeBinIds, ahead.sameParams, ahead.sameSeed, ahead.sameTerminal]
  exact overtaking.distinct sourceId (in_stream_some.mp inStream)

theorem Ahead.in_stream (overtaking : Overtaking params seed count own first)
    (ahead : Ahead params seed count own first source decoder) :
    InStream decoder.terminalSourceCount own := by
  rw [ahead.sameTerminal]
  exact in_stream_some.mpr overtaking.below

theorem Ahead.systematic (overtaking : Overtaking params seed count own first)
    (ahead : Ahead params seed count own first source decoder) :
    decoder.tleSourceIdForBin (params.tleBinId own) = some own := by
  rw [tle_source_spec, ahead.sameParams]
  exact ⟨params.latest_of_tle overtaking.fits, ahead.in_stream overtaking, rfl⟩

theorem Ahead.only_open (overtaking : Overtaking params seed count own first)
    (ahead : Ahead params seed count own first source decoder) :
    openTouchers decoder.touchers decoder.decodedSources (params.tleBinId own) = {0} ∧
      openTouchers decoder.touchers decoder.decodedSources first = ∅ := by
  have positive := overtaking.positive
  constructor
  · rw [Peeling.openTouchers, ahead.touchers_eq, overtaking.shared, ahead.decoded]
    ext sourceId
    simp only [Finset.mem_sdiff, Finset.mem_insert, Finset.mem_singleton]
    omega
  · rw [Peeling.openTouchers, ahead.touchers_eq, overtaking.alone, ahead.decoded, sdiff_self]
    rfl

/-- The prefix sum of the systematic bin is empty, so both of its sources stay in it. -/
theorem Ahead.peeled (overtaking : Overtaking params seed count own first)
    (ahead : Ahead params seed count own first source decoder) :
    decoder.peelKnownPrefixFromBin (params.tleBinId own)
      (decoder.valueOf source (params.tleBinId own)) = source 0 + source own := by
  have systematic := ahead.systematic overtaking
  have systematicHere := systematic
  rw [← ahead.sameParams] at systematicHere
  have reached : decoder.nextDecodedSourceId ≤ own := by
    rw [ahead.next]
    exact Nat.zero_le own
  have sum := ahead.genuine.sums own (Nat.zero_le _) reached systematicHere
  have none : decoder.decodedSources.filter (· < own) = ∅ := by
    rw [ahead.decoded, Finset.filter_singleton, if_neg (lt_irrefl own)]
  rw [none, Finset.sum_empty] at sum
  have once : ∀ sourceId ∈ decoder.touchers (params.tleBinId own),
      decoder.share source (params.tleBinId own) sourceId = source sourceId := by
    intro sourceId touches
    rw [share, ahead.clean overtaking _ sourceId touches, one_nsmul]
  rw [peelKnownPrefixFromBin, systematic]
  simp only
  rw [xor_peeled_prefix_eq, sum, add_zero, valueOf, Finset.sum_congr rfl once, ahead.touchers_eq,
    overtaking.shared, Finset.sum_pair overtaking.positive.ne]

theorem mixed_bin_drained (overtaking : Overtaking params seed count own first)
    (ahead : Ahead params seed count own first source decoder) :
    ∃ released ∈ (drainDecodableSources
      { decoder with
        receivedBins := decoder.receivedBins.insert (params.tleBinId own)
          ⟨source 0 + source own, 1⟩ }).2,
        released.sourceId = 0 ∧ released.payload = source 0 + source own := by
  rcases ahead.only_open overtaking with ⟨onlyOpen, firstDone⟩
  have zeroOpen : 0 ∈ openTouchers decoder.touchers decoder.decodedSources (params.tleBinId own) := by
    rw [onlyOpen]
    exact Finset.mem_singleton_self 0
  have edge := (mem_touchers.mp (Peeling.mem_open_touchers.mp zeroOpen).1).2
  have known : decoder.params.latestSourceIdForBin (params.tleBinId own) = some own := by
    rw [ahead.sameParams]
    exact params.latest_of_tle overtaking.fits
  have openIff (sourceId : Nat) :
      sourceId ∈ decoder.undecodedTouchers (params.tleBinId own) ↔ sourceId = 0 := by
    rw [mem_undecoded_iff known, onlyOpen, Finset.mem_singleton]
  have drained := @drain_starts_with_next size
    { decoder with
      receivedBins := decoder.receivedBins.insert (params.tleBinId own)
        ⟨source 0 + source own, 1⟩ } (params.tleBinId own) ⟨source 0 + source own, 1⟩
    ⟨(get_insert _ _ _ _).trans (if_pos rfl), rfl, .inl ⟨rfl, by rw [ahead.next]; exact edge⟩⟩
    (by
      intro sourceId otherId other decodable
      have stored := decodable.stored
      rw [get_insert] at stored
      split_ifs at stored with same
      · subst same
        refine ⟨?_, (Option.some.inj stored).symm⟩
        rcases decodable.chosen with ⟨chosen, _⟩ | ⟨later, unique⟩
        · exact chosen
        · have listed : decoder.undecodedTouchers (params.tleBinId own) = [sourceId] :=
            unique_undecoded_spec unique
          have zero : sourceId = 0 := by
            rw [← openIff, listed]
            exact List.mem_singleton_self sourceId
          rw [zero] at later
          exact absurd later (Nat.not_lt_zero _)
      · have here := ahead.received otherId ((mem_iff_get _ _).mpr ⟨other, stored⟩)
        have count := (ahead.counts otherId other stored).2
        rw [here, firstDone, Finset.card_empty, decodable.single] at count
        exact absurd count Nat.one_ne_zero)
  rcases drained with ⟨released, member, first, payload⟩
  exact ⟨released, member, first.trans ahead.next, payload⟩

theorem overtaken_bin_taken (overtaking : Overtaking params seed count own first)
    (ahead : Ahead params seed count own first source decoder) :
    ∃ released ∈ (decoder.takeBin (params.tleBinId own)
      (decoder.valueOf source (params.tleBinId own))).2,
        released.sourceId = 0 ∧ released.payload = source 0 + source own := by
  have known : decoder.params.latestSourceIdForBin (params.tleBinId own) = some own := by
    rw [ahead.sameParams]
    exact params.latest_of_tle overtaking.fits
  have notNext : params.tleBinId own ≠ decoder.params.tleBinId decoder.nextDecodedSourceId := by
    rw [ahead.sameParams, ahead.next]
    exact (params.tle_strict_mono overtaking.positive).ne'
  have onlyOpen := (ahead.only_open overtaking).1
  have remaining := count_remaining_eq known
  rw [onlyOpen, Finset.card_singleton] at remaining
  generalize taken : decoder.takeBin (params.tleBinId own)
    (decoder.valueOf source (params.tleBinId own)) = result
  have ways := take_bin_cases decoder (params.tleBinId own)
    (decoder.valueOf source (params.tleBinId own))
  rw [taken] at ways
  cases ways with
  | direct systematic _ => exact absurd systematic notNext
  | closed irregular _ =>
    rw [isTleBinId, ahead.systematic overtaking] at irregular
    exact absurd rfl irregular
  | inOrder systematic _ _ => exact absurd systematic notNext
  | unneeded none =>
    rw [remaining] at none
    exact absurd none Nat.one_ne_zero
  | stored _ _ _ drain =>
    rw [ahead.peeled overtaking, remaining] at drain
    rw [← drain]
    exact mixed_bin_drained overtaking ahead

/-- The systematic bin is taken for the other source, with both payloads in it. -/
theorem overtaken_bin_mixes (overtaking : Overtaking params seed count own first)
    (ahead : Ahead params seed count own first source decoder)
    (seen : ∀ binId ∈ decoder.seenBinIds, binId = first) :
    ∃ released ∈ (decoder.pushBin
      (encodedBin params seed (some count) source (params.tleBinId own))).2,
        released.sourceId = 0 ∧ released.payload = source 0 + source own := by
  have apart : params.tleBinId own ≠ first := by
    intro same
    have zero : 0 ∈ params.touchers seed (some count) (params.tleBinId own) := by
      rw [overtaking.shared]
      exact Finset.mem_insert_self _ _
    rw [same, overtaking.alone, Finset.mem_singleton] at zero
    exact overtaking.positive.ne zero
  rcases push_bin_cases decoder (encodedBin params seed (some count) source (params.tleBinId own))
    with ⟨_, reason⟩ | ⟨payload, latest, running, parsed, _, fresh, taken⟩
  · exfalso
    rcases reason with done | short | unknown | earlier
    · apply not_finished_of_in_stream (ahead.in_stream overtaking) _ done
      rw [ahead.next]
      exact Nat.zero_le own
    · rw [encodedBin, Payload.of_to_bytes] at short
      cases short
    · rw [encodedBin, ahead.sameParams, params.latest_of_tle overtaking.fits] at unknown
      cases unknown
    · exact apart (seen _ earlier)
  · have same : payload = decoder.valueOf source (params.tleBinId own) := by
      rw [encodedBin, Payload.of_to_bytes, Option.some.injEq] at parsed
      rw [← parsed, ← bin_value_eq, ahead.sameParams, ahead.sameSeed, ahead.sameTerminal]
    have marked : Ahead params seed count own first source
        ({ decoder with seenBinIds := insert (params.tleBinId own) decoder.seenBinIds } :
          MettleDecoder size) :=
      { toSound := ahead.toSound.with_seen _
        sameParams := ahead.sameParams
        sameSeed := ahead.sameSeed
        sameTerminal := ahead.sameTerminal
        next := ahead.next
        decoded := ahead.decoded
        received := ahead.received }
    rw [taken, same]
    exact overtaken_bin_taken overtaking marked

end Run

/-- The edges of the 248 sources: bin 404 is hit by the last source only, and the systematic bin of
the last source by it and the first one. -/
theorem overtaking_edges : ∀ sourceId < 248,
    let edges := MettleParams.perThousand.packedEdgeBinIds (lanesOf 600) sourceId 79785 (some 248)
    edges.Nodup ∧ (404 ∈ edges ↔ sourceId = 247) ∧
      (247 ∈ edges ↔ sourceId = 0 ∨ sourceId = 247) := by
  decide +kernel

theorem overtaking_stream : Overtaking .perThousand 79785 248 247 404 := by
  have systematic : MettleParams.perThousand.tleBinId 247 = 247 := by decide
  have edges (sourceId : Nat) (below : sourceId < 248) :
      (MettleParams.perThousand.edgeBinIdsWithTerminalSourceCount sourceId 79785
        (some 248)).Nodup ∧
      (404 ∈ MettleParams.perThousand.edgeBinIdsWithTerminalSourceCount sourceId 79785
        (some 248) ↔ sourceId = 247) ∧
      (247 ∈ MettleParams.perThousand.edgeBinIdsWithTerminalSourceCount sourceId 79785
        (some 248) ↔ sourceId = 0 ∨ sourceId = 247) := by
    rw [MettleParams.per_thousand_edges (in_stream_some.mpr below)]
    exact overtaking_edges sourceId below
  constructor
  · norm_num
  · norm_num
  · norm_num
  · decide
  · intro sourceId below
    exact (edges sourceId below).1
  · ext sourceId
    rw [MettleParams.mem_touchers, in_stream_some, Finset.mem_singleton]
    constructor
    · rintro ⟨below, edge⟩
      exact (edges sourceId below).2.1.mp edge
    · rintro rfl
      exact ⟨by norm_num, (edges 247 (by norm_num)).2.1.mpr rfl⟩
  · ext sourceId
    rw [systematic, MettleParams.mem_touchers, in_stream_some, Finset.mem_insert,
      Finset.mem_singleton]
    constructor
    · rintro ⟨below, edge⟩
      exact (edges sourceId below).2.2.mp edge
    · intro listed
      have below : sourceId < 248 := by omega
      exact ⟨below, (edges sourceId below).2.2.mpr listed⟩

/-- Source 247 is decoded from bin 404 and then overtaken, and source 0 is released with its payload
mixed in. -/
theorem overtaken_source_released_wrong :
    ∃ (encoded : List MettleBin) (decoder : MettleDecoder 1)
      (first second : List (DecodedSource 1)) (ahead overtaken : MettleBin),
      (MettleEncoder.newTerminated .perThousand 79785 248 : MettleEncoder 1).encode
          (List.replicate 247 [0] ++ [[1]]) = some encoded ∧
        (∀ sourceId < 248, (MettleParams.perThousand.edgeBinIdsWithTerminalSourceCount sourceId
          79785 (some 248)).Nodup) ∧
        (decoding .perThousand 79785 (some 248) encoded).Run
          (.newTerminated .perThousand 79785 248) [(ahead, first), (overtaken, second)] decoder ∧
        ∃ released ∈ second, released.sourceId = 0 ∧
          released.payload ≠ sourcePayload (List.replicate 247 [0] ++ [[1]]) 0 := by
  have fits : ∀ payload ∈ List.replicate 247 [(0 : UInt8)] ++ [[1]], payload.length ≤ 1 := by
    intro payload member
    rcases List.mem_append.mp member with zero | one
    · rw [List.eq_of_mem_replicate zero]
      exact le_rfl
    · rw [List.mem_singleton.mp one]
      exact le_rfl
  have length : (List.replicate 247 [(0 : UInt8)] ++ [[1]]).length = 248 := by
    rw [List.length_append, List.length_replicate, List.length_singleton]
  have produced := encode_terminated .perThousand 79785 fits
  have apart : (sourcePayload (List.replicate 247 [0] ++ [[1]]) 0 : Payload 1) +
      sourcePayload (List.replicate 247 [0] ++ [[1]]) 247 ≠
        sourcePayload (List.replicate 247 [0] ++ [[1]]) 0 := by decide +kernel
  rw [length] at produced
  generalize (sourcePayload (List.replicate 247 [0] ++ [[1]]) : Nat → Payload 1) = source
    at produced apart ⊢
  have systematic : MettleParams.perThousand.tleBinId 247 = 247 := by decide
  have hit : 247 ∈ MettleParams.perThousand.touchers 79785 (some 248) 404 := by
    rw [overtaking_stream.alone]
    exact Finset.mem_singleton_self 247
  have behind := MettleParams.perThousand.edge_lt_terminal_end (by norm_num : 247 < 248)
    (MettleParams.mem_touchers.mp hit).2
  have listed (binId : Nat) (within : binId ≤ 404) :
      encodedBin .perThousand 79785 (some 248) source binId ∈
        (List.range (MettleParams.perThousand.terminalDepartureEndExclusive 248)).map
          (encodedBin .perThousand 79785 (some 248) source) :=
    List.mem_map_of_mem (List.mem_range.mpr (lt_of_le_of_lt within behind))
  rcases @own_source_decoded_ahead 1 _ _ _ _ _ source overtaking_stream with ⟨ahead, seen⟩
  rcases overtaken_bin_mixes overtaking_stream ahead seen with ⟨released, member, zero, mixed⟩
  rw [systematic] at member
  have first := push_step .perThousand 79785 (some 248)
    (.newTerminated .perThousand 79785 248 : MettleDecoder 1) (listed 404 le_rfl)
  have second := push_step .perThousand 79785 (some 248)
    ((newTerminated .perThousand 79785 248 : MettleDecoder 1).pushBin
      (encodedBin .perThousand 79785 (some 248) source 404)).1 (listed 247 (by norm_num))
  refine ⟨_, _, _, _, _, _, produced, overtaking_stream.distinct,
    TransitionSystem.Run.append (.single first) (.single second), released, member, zero, ?_⟩
  rw [mixed]
  exact apart

end Nextmini.Mettle
