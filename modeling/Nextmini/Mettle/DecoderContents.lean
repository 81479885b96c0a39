import Mathlib.Algebra.BigOperators.Group.Finset.Piecewise
import Nextmini.Mettle.DecoderCounts
import Nextmini.Mettle.EncodedStream

/-!
# Contents of the decoder

What a decoder holds when every bin it was given is one of the stream: genuine payloads of the
sources it knows, and in a stored bin what is left of its sum. A new bin keeps it so unless it is
misread: the peeling takes a decoded source once where the encoder added it more often, passes over
the source of a systematic bin, and counts an open source once.
-/

namespace Nextmini.Mettle

open Nextmini.Library
open Nextmini.Library.Peeling (openTouchers)

set_option autoImplicit false

variable {size : Nat}

namespace MettleDecoder

variable {decoder : MettleDecoder size} {sourceId binId first : Nat} {payload : Payload size}
variable {source : Nat → Payload size}

def share (decoder : MettleDecoder size) (source : Nat → Payload size) (binId sourceId : Nat) :
    Payload size :=
  (decoder.edgeBinIds sourceId).count binId • source sourceId

def HoldsPrefix (source : Nat → Payload size) (decoder : MettleDecoder size) : Prop :=
  decoder.decodedPrefixStartSourceId = decoder.nextDecodedSourceId - decodedPrefixWindow ∧
    decoder.decodedPrefixPayloads = (List.range' decoder.decodedPrefixStartSourceId
      (decoder.nextDecodedSourceId - decoder.decodedPrefixStartSourceId)).map source

/-- What the decoder holds is genuine. The prefix sums are looked at from source `first` on. -/
structure Genuine (source : Nat → Payload size) (first : Nat) (decoder : MettleDecoder size) :
    Prop where
  futures : ∀ sourceId payload, decoder.decodedFuturePayloads[sourceId]? = some payload →
    payload = source sourceId
  held : decoder.HoldsPrefix source
  stored : ∀ binId bin, decoder.receivedBins[binId]? = some bin →
    bin.payload = Peeling.residue decoder.touchers source decoder.decodedSources binId
  sums : ∀ later, first ≤ later → decoder.nextDecodedSourceId ≤ later →
    decoder.tleSourceIdForBin (decoder.params.tleBinId later) = some later →
      decoder.decodedTlePrefixXors.getD later 0 =
        ∑ sourceId ∈ decoder.decodedSources with sourceId < later,
          decoder.share source (decoder.params.tleBinId later) sourceId

def GenuineOutputs (source : Nat → Payload size) (released : List (DecodedSource size)) : Prop :=
  ∀ one ∈ released, one.payload = source one.sourceId

/-! ## Released payloads -/

theorem advance_holds (held : decoder.HoldsPrefix source) :
    (decoder.advancePrefix (source decoder.nextDecodedSourceId)).HoldsPrefix source := by
  rcases held with ⟨start, payloads⟩
  have window : 0 < decodedPrefixWindow := Nat.succ_pos _
  have pushed : decoder.decodedPrefixPayloads ++ [source decoder.nextDecodedSourceId] =
      (List.range' decoder.decodedPrefixStartSourceId
        (decoder.nextDecodedSourceId - decoder.decodedPrefixStartSourceId + 1)).map source := by
    have last : decoder.decodedPrefixStartSourceId +
        (decoder.nextDecodedSourceId - decoder.decodedPrefixStartSourceId) =
          decoder.nextDecodedSourceId := by omega
    rw [payloads, List.range'_1_concat, List.map_append, last]
    rfl
  rw [HoldsPrefix]
  simp only [advancePrefix, pushDecodedPrefixPayload, pushed, List.length_map, List.length_range']
  split_ifs with full
  · simp only [← List.map_tail, List.tail_range']
    refine ⟨by omega, ?_⟩
    congr 2
    omega
  · refine ⟨by simp only; omega, ?_⟩
    simp only
    congr 2
    omega

theorem decoded_prefix_payload (held : decoder.HoldsPrefix source) (sourceId : Nat) :
    decoder.decodedPrefixPayload sourceId =
      if decoder.nextDecodedSourceId ≤ sourceId + decodedPrefixWindow ∧
          sourceId < decoder.nextDecodedSourceId then some (source sourceId) else none := by
  rcases held with ⟨start, payloads⟩
  rw [decodedPrefixPayload]
  by_cases before : sourceId < decoder.decodedPrefixStartSourceId
  · rw [if_pos before, if_neg (by omega)]
  · rw [if_neg before, payloads, List.getElem?_map]
    by_cases inside : sourceId < decoder.nextDecodedSourceId
    · rw [if_pos (by omega), List.getElem?_range' (by omega)]
      simp only [Option.map_some, Nat.one_mul, Option.some.injEq]
      congr 1
      omega
    · rw [if_neg (by omega), List.getElem?_eq_none (by simp; omega), Option.map_none]

theorem Genuine.decoded_payload (genuine : decoder.Genuine source first)
    (found : decoder.decodedSourcePayload sourceId = some payload) :
    payload = source sourceId ∧ decoder.sourceIsDecoded sourceId := by
  rw [decodedSourcePayload, decoded_prefix_payload genuine.held] at found
  split_ifs at found with inside
  · rw [Option.some_or, Option.some.injEq] at found
    exact ⟨found.symm, .inl inside.2⟩
  · rw [Option.none_or] at found
    exact ⟨genuine.futures sourceId payload found, .inr ((mem_iff_get _ _).mpr ⟨payload, found⟩)⟩

theorem Genuine.finds_decoded (genuine : decoder.Genuine source first)
    (near : decoder.nextDecodedSourceId ≤ sourceId + decodedPrefixWindow)
    (decoded : decoder.sourceIsDecoded sourceId) :
    decoder.decodedSourcePayload sourceId = some (source sourceId) := by
  rw [decodedSourcePayload, decoded_prefix_payload genuine.held]
  by_cases before : sourceId < decoder.nextDecodedSourceId
  · rw [if_pos ⟨near, before⟩, Option.some_or]
  · rw [if_neg (fun inside => before inside.2), Option.none_or]
    rcases decoded with earlier | future
    · exact absurd earlier before
    · rcases (mem_iff_get _ _).mp future with ⟨payload, found⟩
      rw [found, genuine.futures sourceId payload found]

/-! ## Decoding a source -/

theorem shares_congr {later : MettleDecoder size} (params : later.params = decoder.params)
    (seed : later.seed = decoder.seed)
    (terminal : later.terminalSourceCount = decoder.terminalSourceCount) :
    later.share = decoder.share := by
  funext source binId sourceId
  rw [share, share, edges_congr params seed terminal]

theorem tle_source_congr {later : MettleDecoder size} (params : later.params = decoder.params)
    (terminal : later.terminalSourceCount = decoder.terminalSourceCount) :
    later.tleSourceIdForBin = decoder.tleSourceIdForBin := by
  funext binId
  rw [tleSourceIdForBin, tleSourceIdForBin, params, terminal]

theorem release_ahead_genuine (genuine : decoder.Genuine source first)
    (ahead : decoder.decodedFuturePayloads[decoder.nextDecodedSourceId]? = some payload) :
    (decoder.releaseAhead payload).1.Genuine source first := by
  have setup := @release_ahead_released size decoder payload
  have here := genuine.futures _ payload ahead
  constructor
  · intro sourceId other found
    rw [release_ahead_futures, get_erase] at found
    split_ifs at found
    exact genuine.futures sourceId other found
  · have advanced : ({ decoder with decodedFuturePayloads :=
        decoder.decodedFuturePayloads.erase decoder.nextDecodedSourceId } :
          MettleDecoder size).HoldsPrefix source := genuine.held
    have released := advance_holds advanced
    rw [releaseAhead, releasePrefixSource, HoldsPrefix,
      drop_keep _ (·.decodedPrefixStartSourceId) fun _ _ _ _ => rfl,
      drop_keep _ (·.decodedPrefixPayloads) fun _ _ _ _ => rfl,
      drop_keep _ (·.nextDecodedSourceId) fun _ _ _ _ => rfl, here]
    exact released
  · intro binId bin found
    rw [touchers_congr setup.params setup.seed setup.terminal, release_ahead_decoded ahead]
    exact genuine.stored binId bin (release_ahead_received found)
  · intro later notBefore reached systematic
    have systematicHere := systematic
    rw [tle_source_congr setup.params setup.terminal, setup.params] at systematic
    rw [release_ahead_next] at reached
    have running : ¬(decoder.releaseAhead payload).1.finished := by
      have inStream := ((tle_source_spec _).mp systematicHere).2.1
      apply not_finished_of_in_stream inStream
      rw [release_ahead_next]
      exact reached
    rw [releaseAhead] at running
    have kept := release_prefix_xors { decoder with
      decodedFuturePayloads := decoder.decodedFuturePayloads.erase decoder.nextDecodedSourceId }
      decoder.nextDecodedSourceId payload reached running
    rw [shares_congr setup.params setup.seed setup.terminal, release_ahead_decoded ahead,
      setup.params, releaseAhead, kept]
    exact genuine.sums later notBefore (by omega) systematic

theorem recorded_genuine (genuine : decoder.Genuine source first) (counts : decoder.Counts)
    (inStream : InStream decoder.terminalSourceCount sourceId)
    (fresh : sourceId ∉ decoder.decodedSources) :
    (decoder.recorded sourceId (source sourceId)).Genuine source first := by
  have setup := @recorded_released size decoder sourceId (source sourceId)
  constructor
  · intro other payload found
    have recordedFutures : (decoder.recorded sourceId (source sourceId)).decodedFuturePayloads =
        decoder.decodedFuturePayloads.insert sourceId (source sourceId) := by
      simp [recorded, recordAhead]
    rw [recordedFutures, get_insert] at found
    split_ifs at found with same
    · rw [← same]
      exact (Option.some.inj found).symm
    · exact genuine.futures other payload found
  · have kept : (decoder.recorded sourceId (source sourceId)).HoldsPrefix source ↔
        decoder.HoldsPrefix source := by
      simp [HoldsPrefix, recorded, recordAhead]
    exact kept.mpr genuine.held
  · intro binId bin found
    rw [recorded_received, Option.map_eq_some_iff] at found
    rcases found with ⟨before, found, rfl⟩
    rw [touchers_congr setup.params setup.seed setup.terminal, recorded_decoded]
    simp only
    rw [genuine.stored binId before found, edge_count (counts binId before found).1 inStream fresh]
    split_ifs with touches
    · have learned := @Peeling.residue_learn _ _ _ _ _ _ binId _ _ source touches fresh
      rw [one_nsmul, ← learned, add_comm, Payload.add_add_cancel]
    · rw [zero_nsmul, add_zero, Peeling.residue_learn_apart touches]
  · intro later notBefore reached systematic
    rw [tle_source_congr setup.params setup.terminal, setup.params] at systematic
    have next : (decoder.recorded sourceId (source sourceId)).nextDecodedSourceId =
        decoder.nextDecodedSourceId := by simp [recorded, recordAhead]
    have prefixXors : (decoder.recorded sourceId (source sourceId)).decodedTlePrefixXors =
        (decoder.applyDecodedSourceEdges sourceId (source sourceId)).decodedTlePrefixXors := by
      rw [recorded, recordAhead]
    rw [next] at reached
    rw [shares_congr setup.params setup.seed setup.terminal, recorded_decoded, setup.params,
      prefixXors, apply_edges_prefix_xors, genuine.sums later notBefore reached systematic,
      Finset.filter_insert]
    by_cases before : sourceId < later
    · rw [if_pos ⟨before, systematic⟩, if_pos before, Finset.sum_insert, add_comm]
      · rfl
      · intro member
        exact fresh (Finset.mem_filter.mp member).1
    · rw [if_neg (fun both => before both.1), if_neg before, add_zero]

structure Sound (source : Nat → Payload size) (first : Nat) (decoder : MettleDecoder size) :
    Prop where
  ordered : decoder.Ordered
  counts : decoder.Counts
  genuine : decoder.Genuine source first

theorem decode_sound (sound : decoder.Sound source first)
    (notBefore : decoder.nextDecodedSourceId ≤ sourceId) (decodes : decoder.Decodes sourceId)
    (fresh : sourceId ∉ decoder.decodedSources) :
    (decoder.decodeSourceAndRelease sourceId (source sourceId)).1.Sound source first ∧
      GenuineOutputs source (decoder.decodeSourceAndRelease sourceId (source sourceId)).2 := by
  have recorded := recorded_genuine sound.genuine sound.counts decodes.1 fresh
  refine ⟨⟨(decode_ordered sound.ordered notBefore decodes).1, ?_, ?_⟩, ?_⟩
  · have covers : decoder.Covers (fun _ => False) (insert sourceId decoder.decodedSources) :=
      fun _ none => none.elim
    exact (decode_counts sound.ordered sound.counts covers decodes.1 fresh).1
  · rw [decode_eq_release sound.ordered.ahead]
    apply release_futures_preserves (motive := Genuine source first) _ _ recorded
    intro later payload genuine ahead
    exact release_ahead_genuine genuine ahead
  · rw [decode_eq_release sound.ordered.ahead]
    intro one member
    exact recorded.futures one.sourceId one.payload ((release_futures_outputs _).2.2 one member)

theorem without_bin_sound (sound : decoder.Sound source first) (binId : Nat) :
    (decoder.withoutBin binId).Sound source first where
  ordered := without_bin_ordered sound.ordered binId
  counts other bin stored := by
    rw [withoutBin, get_erase] at stored
    split_ifs at stored
    exact sound.counts other bin stored
  genuine :=
    { futures := sound.genuine.futures
      held := sound.genuine.held
      stored := by
        intro other bin stored
        rw [withoutBin, get_erase] at stored
        split_ifs at stored
        exact sound.genuine.stored other bin stored
      sums := sound.genuine.sums }

/-- What a turn of the drain decodes is genuine: the bin has no other open source. -/
theorem decodable_genuine {bin : BufferedBin size} (sound : decoder.Sound source first)
    (decodable : decoder.Decodable sourceId binId bin) :
    bin.payload = source sourceId ∧ (decoder.edgeBinIds sourceId).count binId = 1 := by
  rcases decodable_decodes sound.ordered decodable with ⟨notBefore, absent, edge, decodes⟩
  rcases sound.counts binId bin decodable.stored with ⟨once, count⟩
  have touches := mem_touchers.mpr ⟨decodes.1, edge⟩
  have fresh := not_decoded notBefore absent
  have only := count.symm.trans decodable.single
  constructor
  · rw [sound.genuine.stored binId bin decodable.stored]
    exact Peeling.residue_of_only_open only touches fresh
  · exact once sourceId (Peeling.mem_open_touchers.mpr ⟨touches, fresh⟩)

theorem drain_once_sound {later : MettleDecoder size} {decoded : List (DecodedSource size)}
    (sound : decoder.Sound source first) (step : decoder.drainOnce = some (later, decoded)) :
    later.Sound source first ∧ GenuineOutputs source decoded := by
  rcases drain_once_step step with ⟨sourceId, binId, bin, decodable, decode⟩
  rcases decodable_decodes sound.ordered decodable with ⟨notBefore, absent, _, decodes⟩
  rw [(decodable_genuine sound decodable).1] at decode
  have kept := decode_sound (without_bin_sound sound binId) notBefore decodes
    (not_decoded notBefore absent)
  rw [decode] at kept
  exact kept

theorem GenuineOutputs.append {first second : List (DecodedSource size)}
    (front : GenuineOutputs source first) (back : GenuineOutputs source second) :
    GenuineOutputs source (first ++ second) := by
  intro one member
  rcases List.mem_append.mp member with earlier | later
  · exact front one earlier
  · exact back one later

theorem genuine_outputs_nil : GenuineOutputs source [] :=
  fun _ member => absurd member List.not_mem_nil

theorem drain_sound (sound : decoder.Sound source first) :
    decoder.drainDecodableSources.1.Sound source first ∧
      GenuineOutputs source decoder.drainDecodableSources.2 :=
  drain_turns_preserves
    (motive := fun later decoded => later.Sound source first ∧ GenuineOutputs source decoded)
    (fun middle before later decoded holds step => by
      rcases drain_once_sound holds.1 step with ⟨kept, outputs⟩
      exact ⟨kept, holds.2.append outputs⟩)
    decoder.receivedBins.size [] ⟨sound, genuine_outputs_nil⟩

/-! ## Peeling a new bin -/

def valueOf (decoder : MettleDecoder size) (source : Nat → Payload size) (binId : Nat) :
    Payload size :=
  ∑ sourceId ∈ decoder.touchers binId, decoder.share source binId sourceId

theorem bin_value_eq : binValue decoder.params decoder.seed decoder.terminalSourceCount source binId =
    decoder.valueOf source binId := rfl

/-- How the decoder takes a source of a new bin agrees with how the encoder added it. -/
def Reads (decoder : MettleDecoder size) (source : Nat → Payload size) (binId sourceId : Nat) :
    Prop :=
  if decoder.sourceIsDecoded sourceId then
    match decoder.tleSourceIdForBin binId with
    | some tleSourceId => sourceId = tleSourceId → decoder.share source binId sourceId = 0
    | none => decoder.share source binId sourceId = source sourceId
  else (decoder.edgeBinIds sourceId).count binId = 1

/-- A new bin with open sources, one of whose sources the decoder does not take as the encoder added
it. -/
def Misread (decoder : MettleDecoder size) (source : Nat → Payload size) (binId : Nat) : Prop :=
  binId ∉ decoder.seenBinIds ∧ (decoder.params.latestSourceIdForBin binId).isSome ∧
    (openTouchers decoder.touchers decoder.decodedSources binId).Nonempty ∧
      ∃ sourceId ∈ decoder.touchers binId, ¬decoder.Reads source binId sourceId

theorem Ordered.decoded_in_stream (ordered : decoder.Ordered)
    (decoded : decoder.sourceIsDecoded sourceId) : InStream decoder.terminalSourceCount sourceId := by
  rcases decoded with before | future
  · intro count terminated
    exact lt_of_lt_of_le before (ordered.bounded count terminated)
  · exact (ordered.futures sourceId future).1

theorem share_apart (inStream : InStream decoder.terminalSourceCount sourceId)
    (apart : sourceId ∉ decoder.touchers binId) : decoder.share source binId sourceId = 0 := by
  rw [share, List.count_eq_zero_of_not_mem, zero_nsmul]
  intro edge
  exact apart (mem_touchers.mpr ⟨inStream, edge⟩)

theorem open_once_of_reads (reads : ∀ sourceId ∈ decoder.touchers binId,
    decoder.Reads source binId sourceId) : decoder.OpenOnce binId := by
  intro sourceId member
  rcases Peeling.mem_open_touchers.mp member with ⟨touches, fresh⟩
  have read := reads sourceId touches
  rw [Reads, if_neg fun decoded => fresh (mem_decoded_sources.mpr decoded)] at read
  exact read

/-- What is left of a bin once the shares of its decoded sources are taken away. -/
theorem peel_decoded (once : decoder.OpenOnce binId) : decoder.valueOf source binId +
    ∑ sourceId ∈ decoder.decodedSources with sourceId ∈ decoder.touchers binId,
      decoder.share source binId sourceId =
        Peeling.residue decoder.touchers source decoder.decodedSources binId := by
  have openShares : ∑ sourceId ∈ openTouchers decoder.touchers decoder.decodedSources binId,
      decoder.share source binId sourceId =
        Peeling.residue decoder.touchers source decoder.decodedSources binId := by
    apply Finset.sum_congr rfl
    intro sourceId member
    rw [share, once sourceId member, one_nsmul]
  have split := Finset.sum_inter_add_sum_sdiff (decoder.touchers binId) decoder.decodedSources
    (decoder.share source binId)
  rw [Finset.filter_mem_eq_inter, Finset.inter_comm, valueOf, ← split, ← openShares, add_comm,
    Payload.add_add_cancel, openTouchers]

/-- A stored systematic bin: the prefix sum has the shares of the decoded sources. -/
theorem systematic_shares {tleSourceId : Nat} (ordered : decoder.Ordered)
    (genuine : decoder.Genuine source 0) (reached : decoder.nextDecodedSourceId ≤ tleSourceId)
    (systematic : decoder.tleSourceIdForBin binId = some tleSourceId)
    (reads : ∀ sourceId ∈ decoder.touchers binId, decoder.Reads source binId sourceId) :
    decoder.decodedTlePrefixXors.getD tleSourceId 0 =
      ∑ sourceId ∈ decoder.decodedSources with sourceId ∈ decoder.touchers binId,
        decoder.share source binId sourceId := by
  have place := (tle_source_spec _).mp systematic
  have systematicHere : decoder.tleSourceIdForBin (decoder.params.tleBinId tleSourceId) =
      some tleSourceId := by
    rw [place.2.2]
    exact systematic
  rw [genuine.sums tleSourceId (Nat.zero_le _) reached systematicHere, place.2.2, Finset.sum_filter,
    Finset.sum_filter]
  apply Finset.sum_congr rfl
  intro sourceId member
  have decoded := mem_decoded_sources.mp member
  by_cases touches : sourceId ∈ decoder.touchers binId
  · rw [if_pos touches]
    have upTo := Finset.mem_range.mp (systematic_touchers place.2.2.symm touches)
    split_ifs with before
    · rfl
    · have read := reads sourceId touches
      rw [Reads, if_pos decoded, systematic] at read
      exact (read (by omega)).symm
  · rw [if_neg touches, share_apart (ordered.decoded_in_stream decoded) touches]
    split_ifs
    · rfl
    · rfl

theorem fold_xor {items : List Nat} {step : Payload size → Nat → Payload size}
    (value : Nat → Payload size) (adds : ∀ payload item, step payload item = payload + value item)
    (payload : Payload size) : items.foldl step payload = payload + (items.map value).sum := by
  induction items generalizing payload with
  | nil => rw [List.foldl_nil, List.map_nil, List.sum_nil, add_zero]
  | cons item rest induction =>
    rw [List.foldl_cons, induction, adds, List.map_cons, List.sum_cons, add_assoc]

/-- A bin that is no systematic one: the scan over its range finds the decoded sources. -/
theorem scanned_shares {latest earliest last : Nat} (ordered : decoder.Ordered)
    (genuine : decoder.Genuine source 0)
    (known : decoder.params.latestSourceIdForBin binId = some latest)
    (open_ : (openTouchers decoder.touchers decoder.decodedSources binId).Nonempty)
    (irregular : decoder.tleSourceIdForBin binId = none)
    (reads : ∀ sourceId ∈ decoder.touchers binId, decoder.Reads source binId sourceId)
    (range : decoder.possibleSourceIdRangeForBin binId = some (earliest, last)) :
    ((List.range' earliest (last + 1 - earliest)).map fun sourceId =>
      match decoder.decodedSourcePayload sourceId with
      | some payload => if binId ∈ decoder.edgeBinIds sourceId then payload else 0
      | none => 0).sum =
        ∑ sourceId ∈ decoder.decodedSources with sourceId ∈ decoder.touchers binId,
          decoder.share source binId sourceId := by
  rcases open_ with ⟨opened, member⟩
  rcases Peeling.mem_open_touchers.mp member with ⟨openTouches, fresh⟩
  have openReached := (decoder.params.latest_spec known opened).mp (toucher_reaches openTouches)
  have openBehind : decoder.nextDecodedSourceId ≤ opened := by
    by_contra before
    exact fresh (range_subset_decoded (Finset.mem_range.mpr (not_le.mp before)))
  rw [← List.sum_toFinset _ List.nodup_range']
  symm
  have listed : (decoder.decodedSources.filter (· ∈ decoder.touchers binId)) ⊆
      (List.range' earliest (last + 1 - earliest)).toFinset := by
    intro sourceId member
    rcases MettleParams.range_of_toucher known (Finset.mem_filter.mp member).2 with
      ⟨first, final, sameRange, above, below⟩
    have same := sameRange.symm.trans range
    cases same
    rw [List.mem_toFinset, List.mem_range'_1]
    omega
  apply (Finset.sum_congr rfl _).trans (Finset.sum_subset listed _)
  · intro sourceId member
    rcases Finset.mem_filter.mp member with ⟨decoded, touches⟩
    rcases mem_touchers.mp touches with ⟨inStream, edge⟩
    have inside := (decoder.params.edge_in_window inStream edge).2
    have near := decoder.params.latest_in_window known
      (lt_of_lt_of_le inside (decoder.params.window_end_terminal_le inStream))
    have window : decodedPrefixWindow = MettleParams.couplingWindow + 1 := rfl
    have read := reads sourceId touches
    rw [Reads, if_pos (mem_decoded_sources.mp decoded), irregular] at read
    rw [genuine.finds_decoded (by omega) (mem_decoded_sources.mp decoded)]
    simp only [if_pos edge]
    exact read
  · intro sourceId _ apart
    cases found : decoder.decodedSourcePayload sourceId with
    | none => rfl
    | some payload =>
      have decoded := (genuine.decoded_payload found).2
      simp only
      rw [if_neg]
      intro edge
      apply apart
      rw [Finset.mem_filter]
      exact ⟨mem_decoded_sources.mpr decoded,
        mem_touchers.mpr ⟨ordered.decoded_in_stream decoded, edge⟩⟩

/-- Peeling a bin that is read right leaves the sum of its open sources. -/
theorem peel_residue {latest : Nat} (ordered : decoder.Ordered)
    (genuine : decoder.Genuine source 0)
    (known : decoder.params.latestSourceIdForBin binId = some latest)
    (open_ : (openTouchers decoder.touchers decoder.decodedSources binId).Nonempty)
    (reads : ∀ sourceId ∈ decoder.touchers binId, decoder.Reads source binId sourceId) :
    decoder.peelKnownPrefixFromBin binId (decoder.valueOf source binId) =
      Peeling.residue decoder.touchers source decoder.decodedSources binId := by
  rw [← peel_decoded (open_once_of_reads reads), peelKnownPrefixFromBin]
  rcases open_ with ⟨opened, member⟩
  have touches := (Peeling.mem_open_touchers.mp member).1
  cases systematic : decoder.tleSourceIdForBin binId with
  | some tleSourceId =>
    have upTo := Finset.mem_range.mp (systematic_touchers
      ((tle_source_spec _).mp systematic).2.2.symm touches)
    have reached : decoder.nextDecodedSourceId ≤ tleSourceId := by
      by_contra before
      apply (Peeling.mem_open_touchers.mp member).2
      apply range_subset_decoded
      rw [Finset.mem_range]
      omega
    simp only
    rw [xor_peeled_prefix_eq, systematic_shares ordered genuine reached systematic reads]
  | none =>
    rcases MettleParams.range_of_toucher known touches with ⟨earliest, last, range, _, _⟩
    have ranged : decoder.possibleSourceIdRangeForBin binId = some (earliest, last) := range
    simp only [ranged]
    rw [fold_xor _ _ (decoder.valueOf source binId),
      scanned_shares ordered genuine known ⟨opened, member⟩ systematic reads ranged]
    intro payload sourceId
    cases decoder.decodedSourcePayload sourceId with
    | none => exact (add_zero payload).symm
    | some decodedPayload =>
      simp only
      split_ifs
      · rfl
      · exact (add_zero payload).symm

/-! ## Taking a new bin -/

/-- The systematic bin of the next source holds its payload behind the prefix sum. -/
theorem next_residue {latest : Nat} (sound : decoder.Sound source 0) (running : ¬decoder.finished)
    (known : decoder.params.latestSourceIdForBin binId = some latest)
    (systematic : binId = decoder.params.tleBinId decoder.nextDecodedSourceId)
    (reads : ∀ sourceId ∈ decoder.touchers binId, decoder.Reads source binId sourceId) :
    decoder.tleSourceIdForBin binId = some decoder.nextDecodedSourceId ∧
      decoder.peelKnownPrefixFromBin binId (decoder.valueOf source binId) =
        source decoder.nextDecodedSourceId := by
  have inStream := in_stream_of_running running
  have touches := systematic_touches inStream systematic
  have fresh := sound.ordered.next_open
  have only := systematic_only_open sound.ordered inStream systematic
  have opened : decoder.nextDecodedSourceId ∈
      openTouchers decoder.touchers decoder.decodedSources binId :=
    Peeling.mem_open_touchers.mpr ⟨touches, fresh⟩
  constructor
  · have decodes := (next_decodes running known systematic).2
    rw [tle_source_spec, systematic]
    exact ⟨decoder.params.latest_of_tle decodes, inStream, rfl⟩
  · rw [peel_residue sound.ordered sound.genuine known ⟨_, opened⟩ reads]
    exact Peeling.residue_of_only_open only touches fresh

theorem decode_next_passes (ordered : decoder.Ordered) (counts : decoder.Counts)
    (decodes : decoder.Decodes decoder.nextDecodedSourceId) (payload : Payload size) :
    decoder.nextDecodedSourceId + 1 ≤
      (decoder.decodeSourceAndRelease decoder.nextDecodedSourceId payload).1.nextDecodedSourceId := by
  have fresh := ordered.next_open
  have covers : decoder.Covers (fun _ => False)
      (insert decoder.nextDecodedSourceId decoder.decodedSources) := fun _ none => none.elim
  have known := (@decode_counts size decoder _ payload _ ordered counts covers decodes.1 fresh).2.2.1
  rcases @decode_ordered size decoder _ payload ordered le_rfl decodes with ⟨kept, released⟩
  have notBefore := released.next
  by_contra short
  apply kept.next_open
  rw [known, show (decoder.decodeSourceAndRelease decoder.nextDecodedSourceId
    payload).1.nextDecodedSourceId = decoder.nextDecodedSourceId by omega]
  exact Finset.mem_insert_self _ _

/-- A new bin that is read right is stored with what is left of it. -/
theorem stored_sound {latest : Nat} (sound : decoder.Sound source 0) (running : ¬decoder.finished)
    (known : decoder.params.latestSourceIdForBin binId = some latest)
    (several : decoder.countRemainingTouchers binId ≠ 0)
    (reads : (openTouchers decoder.touchers decoder.decodedSources binId).Nonempty →
      ∀ sourceId ∈ decoder.touchers binId, decoder.Reads source binId sourceId) :
    Sound source 0 ({ decoder with
      receivedBins := decoder.receivedBins.insert binId
        ⟨decoder.peelKnownPrefixFromBin binId (decoder.valueOf source binId),
          decoder.countRemainingTouchers binId⟩ } : MettleDecoder size) := by
  rw [count_remaining_eq known] at several ⊢
  have nonempty := Finset.card_pos.mp (Nat.pos_of_ne_zero several)
  rw [peel_residue sound.ordered sound.genuine known nonempty (reads nonempty)]
  exact
    { ordered := sound.ordered.with_bin running known _
      counts := by
        intro other bin found
        rw [get_insert] at found
        split_ifs at found with same
        · subst same
          cases found
          exact ⟨open_once_of_reads (reads nonempty), rfl⟩
        · exact sound.counts other bin found
      genuine :=
        { futures := sound.genuine.futures
          held := sound.genuine.held
          stored := by
            intro other bin found
            rw [get_insert] at found
            split_ifs at found with same
            · subst same
              cases found
              rfl
            · exact sound.genuine.stored other bin found
          sums := sound.genuine.sums } }

theorem take_bin_sound {latest : Nat} (sound : decoder.Sound source 0) (running : ¬decoder.finished)
    (known : decoder.params.latestSourceIdForBin binId = some latest)
    (reads : (openTouchers decoder.touchers decoder.decodedSources binId).Nonempty →
      ∀ sourceId ∈ decoder.touchers binId, decoder.Reads source binId sourceId) :
    (decoder.takeBin binId (decoder.valueOf source binId)).1.Sound source 0 ∧
      GenuineOutputs source (decoder.takeBin binId (decoder.valueOf source binId)).2 := by
  have inStream := in_stream_of_running running
  have opened (systematic : binId = decoder.params.tleBinId decoder.nextDecodedSourceId) :
      (openTouchers decoder.touchers decoder.decodedSources binId).Nonempty :=
    ⟨_, Peeling.mem_open_touchers.mpr ⟨systematic_touches inStream systematic,
      sound.ordered.next_open⟩⟩
  generalize taken : decoder.takeBin binId (decoder.valueOf source binId) = result
  have ways := take_bin_cases decoder binId (decoder.valueOf source binId)
  rw [taken] at ways
  cases ways with
  | direct systematic empty =>
    have decodes := next_decodes running known systematic
    rcases next_residue sound running known systematic (reads (opened systematic)) with
      ⟨own, residue⟩
    rw [peelKnownPrefixFromBin, own] at residue
    simp only at residue
    rw [xor_peeled_prefix_eq] at residue
    rw [residue]
    -- The erased prefix sum is the one of the source that is decoded.
    have ready : Sound source (decoder.nextDecodedSourceId + 1)
        ({ decoder with decodedTlePrefixXors :=
          decoder.decodedTlePrefixXors.erase decoder.nextDecodedSourceId } :
            MettleDecoder size) :=
      { ordered := sound.ordered.with_sums _ _
        counts := sound.counts
        genuine :=
          { futures := sound.genuine.futures
            held := sound.genuine.held
            stored := sound.genuine.stored
            sums := by
              intro later behind reached systematicLater
              have apart : decoder.nextDecodedSourceId ≠ later := by omega
              rw [Std.ExtTreeMap.getD_eq_getD_getElem?, get_erase, if_neg apart,
                ← Std.ExtTreeMap.getD_eq_getD_getElem?]
              exact sound.genuine.sums later (Nat.zero_le _) reached systematicLater } }
    rcases decode_sound ready le_rfl decodes sound.ordered.next_open with ⟨kept, outputs⟩
    have passed := decode_next_passes ready.ordered ready.counts decodes
      (source decoder.nextDecodedSourceId)
    refine ⟨⟨kept.ordered, kept.counts, kept.genuine.futures, kept.genuine.held,
      kept.genuine.stored, ?_⟩, outputs⟩
    intro later _ reached
    exact kept.genuine.sums later (passed.trans reached) reached
  | closed irregular behind => exact ⟨sound, genuine_outputs_nil⟩
  | inOrder systematic decode drain =>
    have decodes := next_decodes running known systematic
    rw [(next_residue sound running known systematic (reads (opened systematic))).2] at decode
    have kept := decode_sound sound le_rfl decodes sound.ordered.next_open
    rw [decode] at kept
    have drained := drain_sound kept.1
    rw [drain] at drained
    exact ⟨drained.1, kept.2.append drained.2⟩
  | unneeded none => exact ⟨sound, genuine_outputs_nil⟩
  | stored apart undecided several drain =>
    have drained := drain_sound (stored_sound sound running known several reads)
    rw [drain] at drained
    exact drained

theorem new_sound (params : MettleParams) (seed : UInt64) (terminal : Option Nat)
    (source : Nat → Payload size) :
    (newWithTerminalSourceCount params seed terminal : MettleDecoder size).Sound source 0 where
  ordered := new_ordered params seed terminal
  counts binId bin stored := by simp [newWithTerminalSourceCount] at stored
  genuine :=
    { futures := by
        intro sourceId payload found
        simp [newWithTerminalSourceCount] at found
      held := by simp [HoldsPrefix, newWithTerminalSourceCount]
      stored := by
        intro binId bin stored
        simp [newWithTerminalSourceCount] at stored
      sums := by
        intro later _ _ _
        have none : (newWithTerminalSourceCount params seed terminal :
            MettleDecoder size).decodedSources = ∅ := by
          simp [decodedSources, newWithTerminalSourceCount]
        rw [none, Finset.filter_empty, Finset.sum_empty]
        simp [newWithTerminalSourceCount] }

theorem Sound.with_seen {first : Nat} (sound : decoder.Sound source first)
    (seenBinIds : Finset Nat) :
    Sound source first ({ decoder with seenBinIds := seenBinIds } : MettleDecoder size) where
  ordered := sound.ordered.with_sums _ _
  counts := sound.counts
  genuine :=
    { futures := sound.genuine.futures
      held := sound.genuine.held
      stored := sound.genuine.stored
      sums := sound.genuine.sums }

theorem push_bin_sound (sound : decoder.Sound source 0) (right : ¬decoder.Misread source binId) :
    let result := decoder.pushBin
      (encodedBin decoder.params decoder.seed decoder.terminalSourceCount source binId)
    result.1.Sound source 0 ∧ GenuineOutputs source result.2 := by
  rcases push_bin_cases decoder
    (encodedBin decoder.params decoder.seed decoder.terminalSourceCount source binId) with
    ⟨ignored, _⟩ | ⟨payload, latest, running, parsed, known, fresh, taken⟩
  · simp only [ignored]
    exact ⟨sound, genuine_outputs_nil⟩
  · rw [encodedBin, Payload.of_to_bytes, Option.some.injEq, bin_value_eq] at parsed
    simp only [encodedBin] at taken known fresh ⊢
    rw [taken, ← parsed]
    apply take_bin_sound (sound.with_seen (insert binId decoder.seenBinIds)) running known
    intro nonempty sourceId touches
    by_contra wrong
    exact right ⟨fresh, by rw [known]; rfl, nonempty, sourceId, touches, wrong⟩

end MettleDecoder

end Nextmini.Mettle
