import Nextmini.Library.Peeling
import Nextmini.Mettle.DecoderOrder

/-!
# Open touchers of stored bins

The decoder as a peeling decoder. As long as no source hits a delivered bin twice, the counter of
a stored bin is the number of its sources that are not decoded, no delivered bin is lost before all
of its sources are decoded, and after every push no stored bin has a single open source.
-/

namespace Nextmini.Mettle

open Nextmini.Library
open Nextmini.Library.Peeling (openTouchers)

set_option autoImplicit false

variable {size : Nat}

namespace MettleDecoder

variable {decoder : MettleDecoder size} {sourceId binId : Nat} {payload : Payload size}

def touchers (decoder : MettleDecoder size) (binId : Nat) : Finset Nat :=
  decoder.params.touchers decoder.seed decoder.terminalSourceCount binId

def decodedSources (decoder : MettleDecoder size) : Finset Nat :=
  Finset.range decoder.nextDecodedSourceId ∪ decoder.decodedFuturePayloads.keys.toFinset

theorem mem_decoded_sources : sourceId ∈ decoder.decodedSources ↔ decoder.sourceIsDecoded sourceId := by
  rw [decodedSources, Finset.mem_union, Finset.mem_range, List.mem_toFinset,
    Std.ExtTreeMap.mem_keys, sourceIsDecoded]

theorem mem_touchers : sourceId ∈ decoder.touchers binId ↔
    InStream decoder.terminalSourceCount sourceId ∧ binId ∈ decoder.edgeBinIds sourceId :=
  MettleParams.mem_touchers

theorem mem_undecoded_iff {latest : Nat}
    (known : decoder.params.latestSourceIdForBin binId = some latest) :
    sourceId ∈ decoder.undecodedTouchers binId ↔
      sourceId ∈ openTouchers decoder.touchers decoder.decodedSources binId := by
  rw [Peeling.mem_open_touchers, mem_decoded_sources]
  constructor
  · intro member
    rcases mem_undecoded member with ⟨notBefore, absent, edge, decodes⟩
    refine ⟨mem_touchers.mpr ⟨decodes.1, edge⟩, ?_⟩
    rintro (before | future)
    · exact absurd before (not_lt.mpr notBefore)
    · exact absent future
  · rintro ⟨touches, fresh⟩
    rcases MettleParams.range_of_toucher known touches with ⟨earliest, last, range, above, below⟩
    have notBefore : decoder.nextDecodedSourceId ≤ sourceId := by
      by_contra before
      exact fresh (.inl (not_le.mp before))
    have ranged : decoder.possibleSourceIdRangeForBin binId = some (earliest, last) := range
    simp only [undecodedTouchers, ranged, List.mem_filter, List.mem_range'_1, decide_eq_true_eq]
    exact ⟨by omega, fresh, (mem_touchers.mp touches).2⟩

theorem undecoded_nodup (binId : Nat) : (decoder.undecodedTouchers binId).Nodup := by
  rw [undecodedTouchers]
  split
  · exact List.nodup_nil
  · exact List.Nodup.filter _ List.nodup_range'

theorem count_remaining_eq {latest : Nat}
    (known : decoder.params.latestSourceIdForBin binId = some latest) :
    decoder.countRemainingTouchers binId =
      (openTouchers decoder.touchers decoder.decodedSources binId).card := by
  rw [countRemainingTouchers, ← List.toFinset_card_of_nodup (undecoded_nodup binId)]
  congr 1
  ext sourceId
  rw [List.mem_toFinset, mem_undecoded_iff known]

/-- No source of the stream hits the bin twice. -/
def Clean (decoder : MettleDecoder size) (binId : Nat) : Prop :=
  ∀ sourceId ∈ decoder.touchers binId, (decoder.edgeBinIds sourceId).count binId = 1

theorem clean_of_distinct (distinct : ∀ sourceId, InStream decoder.terminalSourceCount sourceId →
    (decoder.edgeBinIds sourceId).Nodup) (binId : Nat) : decoder.Clean binId := by
  intro sourceId touches
  rcases mem_touchers.mp touches with ⟨inStream, edge⟩
  exact List.count_eq_one_of_mem (distinct sourceId inStream) edge

/-- No source that is not decoded hits the bin twice. -/
def OpenOnce (decoder : MettleDecoder size) (binId : Nat) : Prop :=
  ∀ sourceId ∈ openTouchers decoder.touchers decoder.decodedSources binId,
    (decoder.edgeBinIds sourceId).count binId = 1

theorem Clean.open_once (clean : decoder.Clean binId) : decoder.OpenOnce binId :=
  fun sourceId member => clean sourceId (Peeling.mem_open_touchers.mp member).1

/-- A state whose stored bins count their open touchers. -/
def Counts (decoder : MettleDecoder size) : Prop :=
  ∀ binId bin, decoder.receivedBins[binId]? = some bin → decoder.OpenOnce binId ∧
    bin.remainingTouchers = (openTouchers decoder.touchers decoder.decodedSources binId).card

/-- Every delivered bin is stored or has all of its sources among the known ones. -/
def Covers (delivered : Nat → Prop) (known : Finset Nat) (decoder : MettleDecoder size) : Prop :=
  ∀ binId, delivered binId → binId ∈ decoder.receivedBins ∨ decoder.touchers binId ⊆ known

theorem touchers_congr {later : MettleDecoder size} (params : later.params = decoder.params)
    (seed : later.seed = decoder.seed)
    (terminal : later.terminalSourceCount = decoder.terminalSourceCount) :
    later.touchers = decoder.touchers := by
  funext binId
  rw [touchers, touchers, params, seed, terminal]

theorem edges_congr {later : MettleDecoder size} (params : later.params = decoder.params)
    (seed : later.seed = decoder.seed)
    (terminal : later.terminalSourceCount = decoder.terminalSourceCount) :
    later.edgeBinIds = decoder.edgeBinIds := by
  funext sourceId
  rw [edgeBinIds, edgeBinIds, params, seed, terminal]

theorem toucher_reaches (touches : sourceId ∈ decoder.touchers binId) :
    decoder.params.tleBinId sourceId ≤ binId := by
  rcases mem_touchers.mp touches with ⟨inStream, edge⟩
  exact (decoder.params.edge_in_window inStream edge).1

theorem touchers_before_frontier (before : binId < decoder.params.tleBinId sourceId) :
    decoder.touchers binId ⊆ Finset.range sourceId := by
  intro toucher touches
  have reached := toucher_reaches touches
  rw [Finset.mem_range]
  exact decoder.params.tle_strict_mono.lt_iff_lt.mp (lt_of_le_of_lt reached before)

theorem range_subset_decoded :
    Finset.range decoder.nextDecodedSourceId ⊆ decoder.decodedSources :=
  Finset.subset_union_left

theorem finished_touchers_subset (done : decoder.finished) (binId : Nat) :
    decoder.touchers binId ⊆ decoder.decodedSources := by
  intro toucher touches
  rcases done with ⟨count, terminated, reached⟩
  have below := (mem_touchers.mp touches).1 count terminated
  apply range_subset_decoded
  rw [Finset.mem_range]
  omega

/-! ## Releasing keeps what is known -/

theorem release_ahead_decoded
    (ahead : decoder.decodedFuturePayloads[decoder.nextDecodedSourceId]? = some payload) :
    (decoder.releaseAhead payload).1.decodedSources = decoder.decodedSources := by
  have member := (mem_iff_get _ _).mpr ⟨payload, ahead⟩
  ext other
  rw [mem_decoded_sources, mem_decoded_sources, sourceIsDecoded, sourceIsDecoded,
    release_ahead_next, release_ahead_futures, Std.ExtTreeMap.mem_erase]
  by_cases same : other = decoder.nextDecodedSourceId
  · subst same
    simp [member]
  · have apart : compare decoder.nextDecodedSourceId other ≠ .eq := by
      intro equal
      exact same (Std.LawfulEqCmp.compare_eq_iff_eq.mp equal).symm
    have shifted : other < decoder.nextDecodedSourceId + 1 ↔
        other < decoder.nextDecodedSourceId := by omega
    simp [shifted, apart]

theorem release_ahead_received {bin : BufferedBin size}
    (stored : (decoder.releaseAhead payload).1.receivedBins[binId]? = some bin) :
    decoder.receivedBins[binId]? = some bin := by
  rw [releaseAhead, release_received] at stored
  split_ifs at stored
  exact stored

theorem release_ahead_released :
    decoder.Released [(decoder.releaseAhead payload).2] (decoder.releaseAhead payload).1 where
  params := by simp [releaseAhead]
  seed := by simp [releaseAhead]
  terminal := by simp [releaseAhead]
  next := by simp [releaseAhead]
  ids := rfl

theorem release_ahead_counts (counts : decoder.Counts)
    (ahead : decoder.decodedFuturePayloads[decoder.nextDecodedSourceId]? = some payload) :
    (decoder.releaseAhead payload).1.Counts := by
  have setup := @release_ahead_released size decoder payload
  intro binId bin stored
  rw [OpenOnce, touchers_congr setup.params setup.seed setup.terminal,
    edges_congr setup.params setup.seed setup.terminal, release_ahead_decoded ahead]
  exact counts binId bin (release_ahead_received stored)

theorem release_ahead_covers {delivered : Nat → Prop}
    (ahead : decoder.decodedFuturePayloads[decoder.nextDecodedSourceId]? = some payload)
    (covers : decoder.Covers delivered decoder.decodedSources) :
    (decoder.releaseAhead payload).1.Covers delivered
      (decoder.releaseAhead payload).1.decodedSources := by
  have setup := @release_ahead_released size decoder payload
  have sameTouchers := touchers_congr setup.params setup.seed setup.terminal
  intro binId delivery
  rcases covers binId delivery with stored | decoded
  · rcases (mem_iff_get _ _).mp stored with ⟨bin, found⟩
    by_cases done : (decoder.releaseAhead payload).1.finished
    · exact .inr (finished_touchers_subset done binId)
    · by_cases behind : decoder.params.tleBinId (decoder.nextDecodedSourceId + 1) ≤ binId
      · apply Or.inl
        rw [mem_iff_get]
        refine ⟨bin, ?_⟩
        rw [releaseAhead] at done ⊢
        rw [release_received, if_neg done]
        exact (if_pos behind).trans found
      · apply Or.inr
        have before := touchers_before_frontier (not_le.mp behind)
        rw [sameTouchers]
        apply before.trans
        rw [← release_ahead_next]
        exact range_subset_decoded
  · apply Or.inr
    rw [sameTouchers, release_ahead_decoded ahead]
    exact decoded

/-! ## Decoding a source -/

theorem recorded_decoded : (decoder.recorded sourceId payload).decodedSources =
    insert sourceId decoder.decodedSources := by
  ext other
  rw [Finset.mem_insert, mem_decoded_sources, mem_decoded_sources, sourceIsDecoded, sourceIsDecoded]
  simp only [recorded, recordAhead, apply_edges_next, apply_edges_futures,
    Std.ExtTreeMap.mem_insert, Std.LawfulEqCmp.compare_eq_iff_eq]
  rw [eq_comm (a := sourceId)]
  tauto

theorem recorded_received (binId : Nat) :
    (decoder.recorded sourceId payload).receivedBins[binId]? =
      decoder.receivedBins[binId]?.map fun bin =>
        { payload := bin.payload + (decoder.edgeBinIds sourceId).count binId • payload
          remainingTouchers := bin.remainingTouchers - (decoder.edgeBinIds sourceId).count binId } := by
  have bins : (decoder.recorded sourceId payload).receivedBins =
      (decoder.applyDecodedSourceEdges sourceId payload).receivedBins := by
    rw [recorded, recordAhead]
  rw [bins, apply_edges_received]

theorem edge_count (once : decoder.OpenOnce binId)
    (inStream : InStream decoder.terminalSourceCount sourceId)
    (fresh : sourceId ∉ decoder.decodedSources) : (decoder.edgeBinIds sourceId).count binId =
      if sourceId ∈ decoder.touchers binId then 1 else 0 := by
  split_ifs with touches
  · exact once sourceId (Peeling.mem_open_touchers.mpr ⟨touches, fresh⟩)
  · apply List.count_eq_zero_of_not_mem
    intro edge
    exact touches (mem_touchers.mpr ⟨inStream, edge⟩)

theorem recorded_counts (counts : decoder.Counts)
    (inStream : InStream decoder.terminalSourceCount sourceId)
    (fresh : sourceId ∉ decoder.decodedSources) : (decoder.recorded sourceId payload).Counts := by
  have setup := @recorded_released size decoder sourceId payload
  intro binId bin stored
  rw [recorded_received, Option.map_eq_some_iff] at stored
  rcases stored with ⟨before, found, rfl⟩
  rcases counts binId before found with ⟨once, count⟩
  rw [OpenOnce, touchers_congr setup.params setup.seed setup.terminal,
    edges_congr setup.params setup.seed setup.terminal, recorded_decoded]
  constructor
  · intro other member
    rw [Peeling.open_touchers_learn] at member
    exact once other (Finset.mem_of_mem_erase member)
  · simp only
    rw [edge_count once inStream fresh, count]
    split_ifs with touches
    · exact (Peeling.card_open_touchers_learn touches fresh).symm
    · rw [Peeling.open_touchers_learn_apart touches, Nat.sub_zero]

theorem recorded_covers {delivered : Nat → Prop}
    (covers : decoder.Covers delivered (insert sourceId decoder.decodedSources)) :
    (decoder.recorded sourceId payload).Covers delivered
      (decoder.recorded sourceId payload).decodedSources := by
  have setup := @recorded_released size decoder sourceId payload
  intro binId delivery
  rw [touchers_congr setup.params setup.seed setup.terminal, recorded_decoded]
  rcases covers binId delivery with stored | decoded
  · rcases (mem_iff_get _ _).mp stored with ⟨bin, found⟩
    apply Or.inl
    rw [mem_iff_get]
    exact ⟨_, by rw [recorded_received, found, Option.map_some]⟩
  · exact .inr decoded

/-- Decoding an open source of the stream: it becomes known, the counts stay exact and no bin is
added. -/
theorem decode_counts {delivered : Nat → Prop} (ordered : decoder.Ordered) (counts : decoder.Counts)
    (covers : decoder.Covers delivered (insert sourceId decoder.decodedSources))
    (inStream : InStream decoder.terminalSourceCount sourceId)
    (fresh : sourceId ∉ decoder.decodedSources) :
    let later := (decoder.decodeSourceAndRelease sourceId payload).1
    later.Counts ∧ later.Covers delivered later.decodedSources ∧
      later.decodedSources = insert sourceId decoder.decodedSources ∧
        ∀ binId ∈ later.receivedBins, binId ∈ decoder.receivedBins := by
  rw [decode_eq_release ordered.ahead]
  apply release_futures_preserves (motive := fun later => later.Counts ∧
    later.Covers delivered later.decodedSources ∧
      later.decodedSources = insert sourceId decoder.decodedSources ∧
        ∀ binId ∈ later.receivedBins, binId ∈ decoder.receivedBins)
  · rintro later other ⟨counted, covered, known, received⟩ ahead
    refine ⟨release_ahead_counts counted ahead, release_ahead_covers ahead covered, ?_, ?_⟩
    · rw [release_ahead_decoded ahead, known]
    · intro binId stored
      rcases (mem_iff_get _ _).mp stored with ⟨bin, found⟩
      exact received binId ((mem_iff_get _ _).mpr ⟨bin, release_ahead_received found⟩)
  · refine ⟨recorded_counts counts inStream fresh, recorded_covers covers, recorded_decoded, ?_⟩
    intro binId stored
    rcases (mem_iff_get _ _).mp stored with ⟨bin, found⟩
    rw [recorded_received, Option.map_eq_some_iff] at found
    rcases found with ⟨before, found, _⟩
    exact (mem_iff_get _ _).mpr ⟨before, found⟩

/-! ## Whole operations -/

/-- The decoder after the delivered bins: it knows only what follows from them and from the given
sources. -/
structure Tracked (delivered : Nat → Prop) (given : Set Nat) (decoder : MettleDecoder size) :
    Prop where
  ordered : decoder.Ordered
  counts : decoder.Counts
  covers : decoder.Covers delivered decoder.decodedSources
  stored : ∀ binId ∈ decoder.receivedBins, delivered binId
  sound : ∀ sourceId ∈ decoder.decodedSources,
    Peeling.Peelable decoder.touchers delivered given sourceId

/-- No stored bin has a single open source. -/
def Quiet (decoder : MettleDecoder size) : Prop :=
  ∀ binId ∈ decoder.receivedBins,
    (openTouchers decoder.touchers decoder.decodedSources binId).card ≠ 1

variable {delivered : Nat → Prop} {given : Set Nat}

theorem not_decoded (notBefore : decoder.nextDecodedSourceId ≤ sourceId)
    (absent : sourceId ∉ decoder.decodedFuturePayloads) : sourceId ∉ decoder.decodedSources := by
  rw [mem_decoded_sources, sourceIsDecoded]
  rintro (before | future)
  · exact absurd before (not_lt.mpr notBefore)
  · exact absent future

theorem Ordered.next_open (ordered : decoder.Ordered) :
    decoder.nextDecodedSourceId ∉ decoder.decodedSources :=
  not_decoded le_rfl ordered.ahead

theorem decode_tracked {latest : MettleDecoder size}
    (sound : ∀ other ∈ decoder.decodedSources,
      Peeling.Peelable decoder.touchers delivered given other)
    (state : latest.Ordered) (sameTouchers : latest.touchers = decoder.touchers)
    (sameKnown : latest.decodedSources = decoder.decodedSources) (counts : latest.Counts)
    (received : ∀ other ∈ latest.receivedBins, delivered other)
    (covers : latest.Covers delivered (insert sourceId decoder.decodedSources))
    (notBefore : latest.nextDecodedSourceId ≤ sourceId) (decodes : latest.Decodes sourceId)
    (delivery : delivered binId) (touches : sourceId ∈ decoder.touchers binId)
    (fresh : sourceId ∉ decoder.decodedSources)
    (only : (openTouchers decoder.touchers decoder.decodedSources binId).card = 1) :
    (latest.decodeSourceAndRelease sourceId payload).1.Tracked delivered given ∧
      ∀ other ∈ (latest.decodeSourceAndRelease sourceId payload).1.receivedBins,
        other ∈ latest.receivedBins := by
  rw [← sameKnown] at covers fresh
  rcases decode_ordered state notBefore decodes with ⟨ordered, released⟩
  rcases @decode_counts size latest sourceId payload delivered state counts covers decodes.1 fresh with
    ⟨counted, covered, known, fewer⟩
  have touchersEq := touchers_congr released.params released.seed released.terminal
  refine ⟨?_, fewer⟩
  constructor
  · exact ordered
  · exact counted
  · exact covered
  · intro other stored
    exact received other (fewer other stored)
  · intro other member
    rw [known, sameKnown, Finset.mem_insert] at member
    rw [touchersEq, sameTouchers]
    rcases member with same | earlier
    · subst same
      rw [sameKnown] at fresh
      exact Peeling.peelable_of_only_open delivery only touches fresh sound
    · exact sound other earlier

theorem drain_once_tracked {later : MettleDecoder size} {decoded : List (DecodedSource size)}
    (tracked : decoder.Tracked delivered given) (step : decoder.drainOnce = some (later, decoded)) :
    later.Tracked delivered given := by
  rcases drain_once_step step with ⟨sourceId, binId, bin, decodable, decode⟩
  rcases decodable_decodes tracked.ordered decodable with ⟨notBefore, absent, edge, decodes⟩
  rcases tracked.counts binId bin decodable.stored with ⟨_, count⟩
  have only : (openTouchers decoder.touchers decoder.decodedSources binId).card = 1 :=
    count.symm.trans decodable.single
  have member := (mem_iff_get _ _).mpr ⟨bin, decodable.stored⟩
  have fresh := not_decoded notBefore absent
  have touches := mem_touchers.mpr ⟨decodes.1, edge⟩
  have kept := @decode_tracked size decoder sourceId binId bin.payload delivered given _
    tracked.sound
    (without_bin_ordered tracked.ordered binId) rfl rfl
    (by
      intro other stored found
      rw [withoutBin, get_erase] at found
      split_ifs at found
      exact tracked.counts other stored found)
    (fun other stored => tracked.stored other (Std.ExtTreeMap.mem_of_mem_erase stored))
    (by
      intro other delivery
      by_cases same : binId = other
      · subst same
        exact .inr (Peeling.all_known_of_only_open only touches fresh)
      · rcases tracked.covers other delivery with stored | known
        · apply Or.inl
          rw [withoutBin, Std.ExtTreeMap.mem_erase]
          exact ⟨by simpa using same, stored⟩
        · exact .inr (known.trans (Finset.subset_insert _ _)))
    notBefore decodes (tracked.stored binId member) touches fresh only
  rw [decode] at kept
  exact kept.1

theorem stopped_quiet (tracked : decoder.Tracked delivered given)
    (stopped : decoder.drainOnce = none) : decoder.Quiet := by
  intro binId member only
  rcases (mem_iff_get _ _).mp member with ⟨bin, stored⟩
  rcases tracked.counts binId bin stored with ⟨_, count⟩
  rcases tracked.ordered.known binId member with ⟨latest, known⟩
  have listed := count_remaining_eq known
  rw [only, countRemainingTouchers, List.length_eq_one_iff] at listed
  rcases listed with ⟨sourceId, single⟩
  have touches : sourceId ∈ decoder.undecodedTouchers binId := by
    rw [single]
    exact List.mem_singleton_self sourceId
  rcases mem_undecoded touches with ⟨notBefore, _, edge, _⟩
  apply drain_once_none stopped sourceId binId bin
  refine ⟨stored, count.trans only, ?_⟩
  rcases Nat.eq_or_lt_of_le notBefore with same | later
  · subst same
    exact .inl ⟨rfl, edge⟩
  · apply Or.inr
    refine ⟨later, ?_⟩
    rw [uniqueUndecodedToucherForBin, single]

theorem drain_tracked (tracked : decoder.Tracked delivered given) :
    decoder.drainDecodableSources.1.Tracked delivered given ∧
      decoder.drainDecodableSources.1.Quiet := by
  have run := drain_turns_preserves
    (motive := fun later _ => MettleDecoder.Tracked delivered given later)
    (fun middle before later decoded holds step => drain_once_tracked holds step)
    decoder.receivedBins.size [] tracked
  exact ⟨run, stopped_quiet run (drain_turns_stopped tracked.ordered.ahead le_rfl)⟩

theorem systematic_touchers (systematic : binId = decoder.params.tleBinId sourceId) :
    decoder.touchers binId ⊆ Finset.range (sourceId + 1) := by
  apply touchers_before_frontier
  rw [systematic]
  exact decoder.params.tle_strict_mono (Nat.lt_add_one sourceId)

theorem systematic_touches (inStream : InStream decoder.terminalSourceCount sourceId)
    (systematic : binId = decoder.params.tleBinId sourceId) : sourceId ∈ decoder.touchers binId := by
  rw [systematic]
  exact mem_touchers.mpr ⟨inStream, MettleParams.tle_mem_edges _ _ _ _⟩

theorem systematic_only_open (ordered : decoder.Ordered)
    (inStream : InStream decoder.terminalSourceCount decoder.nextDecodedSourceId)
    (systematic : binId = decoder.params.tleBinId decoder.nextDecodedSourceId) :
    (openTouchers decoder.touchers decoder.decodedSources binId).card = 1 := by
  rw [Finset.card_eq_one]
  refine ⟨decoder.nextDecodedSourceId, ?_⟩
  ext other
  rw [Peeling.mem_open_touchers, Finset.mem_singleton]
  constructor
  · rintro ⟨touches, fresh⟩
    have upTo := Finset.mem_range.mp (systematic_touchers systematic touches)
    by_contra apart
    apply fresh
    apply range_subset_decoded
    rw [Finset.mem_range]
    omega
  · rintro rfl
    exact ⟨systematic_touches inStream systematic, ordered.next_open⟩

theorem take_bin_tracked {latest : Nat} (tracked : decoder.Tracked delivered given)
    (quiet : decoder.Quiet) (running : ¬decoder.finished)
    (known : decoder.params.latestSourceIdForBin binId = some latest)
    (once : decoder.OpenOnce binId) :
    (decoder.takeBin binId payload).1.Tracked (fun other => other = binId ∨ delivered other) given ∧
      (decoder.takeBin binId payload).1.Quiet := by
  have inStream := in_stream_of_running running
  -- A bin all of whose sources are known is covered without being stored.
  have covered (complete : decoder.touchers binId ⊆ decoder.decodedSources) :
      decoder.Tracked (fun other => other = binId ∨ delivered other) given :=
    { ordered := tracked.ordered
      counts := tracked.counts
      covers := by
        rintro other (same | earlier)
        · rw [same]
          exact .inr complete
        · exact tracked.covers other earlier
      stored := fun other stored => .inr (tracked.stored other stored)
      sound := fun other decoded => (tracked.sound other decoded).mono fun _ => .inr }
  -- With its last open source about to be decoded, so is a bin that is not.
  have systematicCovers (systematic : binId = decoder.params.tleBinId decoder.nextDecodedSourceId) :
      decoder.Covers (fun other => other = binId ∨ delivered other)
        (insert decoder.nextDecodedSourceId decoder.decodedSources) := by
    rintro other (same | earlier)
    · apply Or.inr
      rw [same]
      intro toucher touches
      have upTo := Finset.mem_range.mp (systematic_touchers systematic touches)
      rw [Finset.mem_insert]
      rcases Nat.lt_succ_iff_lt_or_eq.mp upTo with before | here
      · exact .inr (range_subset_decoded (Finset.mem_range.mpr before))
      · exact .inl here
    · rcases tracked.covers other earlier with stored | complete
      · exact .inl stored
      · exact .inr (complete.trans (Finset.subset_insert _ _))
  have widened : ∀ other ∈ decoder.decodedSources, Peeling.Peelable decoder.touchers
      (fun other => other = binId ∨ delivered other) given other :=
    fun other decoded => (tracked.sound other decoded).mono fun _ => .inr
  generalize taken : decoder.takeBin binId payload = result
  have ways := take_bin_cases decoder binId payload
  rw [taken] at ways
  cases ways with
  | direct systematic empty =>
    have decodes := next_decodes running known systematic
    have ready := tracked.ordered.with_sums decoder.seenBinIds
      (decoder.decodedTlePrefixXors.erase decoder.nextDecodedSourceId)
    have kept := @decode_tracked size decoder decoder.nextDecodedSourceId binId
      (payload + decoder.decodedTlePrefixXors.getD decoder.nextDecodedSourceId 0)
      (fun other => other = binId ∨ delivered other) given _ widened ready rfl rfl tracked.counts
      (fun other stored => .inr (tracked.stored other stored)) (systematicCovers systematic) le_rfl
      decodes (.inl rfl) (systematic_touches inStream systematic) tracked.ordered.next_open
      (systematic_only_open tracked.ordered inStream systematic)
    refine ⟨kept.1, ?_⟩
    intro other stored
    have none := kept.2 other stored
    rw [show ({ decoder with
      decodedTlePrefixXors := decoder.decodedTlePrefixXors.erase decoder.nextDecodedSourceId } :
        MettleDecoder size).receivedBins = ∅ from empty] at none
    exact absurd none Std.ExtTreeMap.not_mem_empty
  | closed irregular behind =>
    refine ⟨covered ?_, quiet⟩
    rcases behind with done | before
    · exact finished_touchers_subset done binId
    · exact (touchers_before_frontier before).trans range_subset_decoded
  | inOrder systematic decode drain =>
    have decodes := next_decodes running known systematic
    have kept := @decode_tracked size decoder decoder.nextDecodedSourceId binId
      (decoder.peelKnownPrefixFromBin binId payload)
      (fun other => other = binId ∨ delivered other) given _ widened tracked.ordered rfl rfl
      tracked.counts (fun other stored => .inr (tracked.stored other stored)) (systematicCovers systematic) le_rfl
      decodes (.inl rfl) (systematic_touches inStream systematic) tracked.ordered.next_open
      (systematic_only_open tracked.ordered inStream systematic)
    rw [decode] at kept
    have drained := drain_tracked kept.1
    rw [drain] at drained
    exact drained
  | unneeded none =>
    refine ⟨covered ?_, quiet⟩
    rw [count_remaining_eq known, Finset.card_eq_zero] at none
    exact Finset.sdiff_eq_empty_iff_subset.mp none
  | stored apart open_ several drain =>
    have stored : Tracked (fun other => other = binId ∨ delivered other) given
        ({ decoder with
          receivedBins := decoder.receivedBins.insert binId
            ⟨decoder.peelKnownPrefixFromBin binId payload,
              decoder.countRemainingTouchers binId⟩ } : MettleDecoder size) :=
      { ordered := tracked.ordered.with_bin running known _
        counts := by
          intro other bin found
          rw [get_insert] at found
          split_ifs at found with same
          · subst same
            cases found
            exact ⟨once, count_remaining_eq known⟩
          · exact tracked.counts other bin found
        covers := by
          intro other delivery
          rw [Std.ExtTreeMap.mem_insert, Std.LawfulEqCmp.compare_eq_iff_eq]
          rcases delivery with same | earlier
          · exact .inl (.inl same.symm)
          · rcases tracked.covers other earlier with here | complete
            · exact .inl (.inr here)
            · exact .inr complete
        stored := by
          intro other member
          rw [Std.ExtTreeMap.mem_insert, Std.LawfulEqCmp.compare_eq_iff_eq] at member
          rcases member with same | earlier
          · exact .inl same.symm
          · exact .inr (tracked.stored other earlier)
        sound := widened }
    have drained := drain_tracked stored
    rw [drain] at drained
    exact drained

theorem Tracked.widen {wider : Nat → Prop} (tracked : decoder.Tracked delivered given)
    (more : ∀ other, delivered other → wider other)
    (covers : ∀ other, wider other → other ∈ decoder.receivedBins ∨
      decoder.touchers other ⊆ decoder.decodedSources) : decoder.Tracked wider given where
  ordered := tracked.ordered
  counts := tracked.counts
  covers := covers
  stored other stored := more other (tracked.stored other stored)
  sound other decoded := (tracked.sound other decoded).mono more

/-! ## Whole pushes -/

theorem release_futures_seen (fuel : Nat) :
    (releaseFutures fuel decoder).1.seenBinIds ⊆ decoder.seenBinIds :=
  release_futures_preserves (motive := fun later => later.seenBinIds ⊆ decoder.seenBinIds)
    (fun _ _ subset _ => (release_seen _ _ _).trans subset) fuel (Finset.Subset.refl _)

theorem decode_seen (ahead : decoder.nextDecodedSourceId ∉ decoder.decodedFuturePayloads) :
    (decoder.decodeSourceAndRelease sourceId payload).1.seenBinIds ⊆ decoder.seenBinIds := by
  have recordedSeen : (decoder.recorded sourceId payload).seenBinIds = decoder.seenBinIds := by
    simp [recorded, recordAhead]
  rw [decode_eq_release ahead, ← recordedSeen]
  exact release_futures_seen _

theorem drain_seen (ordered : decoder.Ordered) :
    decoder.drainDecodableSources.1.seenBinIds ⊆ decoder.seenBinIds := by
  have run := drain_turns_preserves
    (motive := fun later _ => later.Ordered ∧ later.seenBinIds ⊆ decoder.seenBinIds)
    (fun middle before later decoded holds step => by
      rcases drain_once_step step with ⟨sourceId, binId, bin, _, decode⟩
      have fewer := @decode_seen size (middle.withoutBin binId) sourceId bin.payload holds.1.ahead
      rw [decode] at fewer
      exact ⟨(drain_once_ordered holds.1 step).1, fewer.trans holds.2⟩)
    decoder.receivedBins.size [] ⟨ordered, Finset.Subset.refl _⟩
  exact run.2

theorem take_bin_seen (ordered : decoder.Ordered) (running : ¬decoder.finished) {latest : Nat}
    (known : decoder.params.latestSourceIdForBin binId = some latest) :
    (decoder.takeBin binId payload).1.seenBinIds ⊆ decoder.seenBinIds := by
  generalize taken : decoder.takeBin binId payload = result
  have ways := take_bin_cases decoder binId payload
  rw [taken] at ways
  cases ways with
  | direct _ _ =>
    have ready := ordered.with_sums decoder.seenBinIds
      (decoder.decodedTlePrefixXors.erase decoder.nextDecodedSourceId)
    exact decode_seen ready.ahead
  | closed _ _ => exact Finset.Subset.refl _
  | inOrder systematic decode drain =>
    have kept := (@decode_ordered size decoder decoder.nextDecodedSourceId
      (decoder.peelKnownPrefixFromBin binId payload) ordered le_rfl
      (next_decodes running known systematic)).1
    rw [decode] at kept
    have first := @decode_seen size decoder decoder.nextDecodedSourceId
      (decoder.peelKnownPrefixFromBin binId payload) ordered.ahead
    have rest := drain_seen kept
    rw [decode] at first
    rw [drain] at rest
    exact rest.trans first
  | unneeded _ => exact Finset.Subset.refl _
  | stored _ _ _ drain =>
    have rest := drain_seen (ordered.with_bin running known
      ⟨decoder.peelKnownPrefixFromBin binId payload, decoder.countRemainingTouchers binId⟩)
    rw [drain] at rest
    exact rest

/-- Bins of the right size that no source of the stream hits twice. -/
def Fair (decoder : MettleDecoder size) (bin : MettleBin) : Prop :=
  (∃ payload : Payload size, Payload.ofBytes bin.payload = some payload) ∧ decoder.Clean bin.binId

/-- The ids of some bins, as far as the decoder can take them. -/
def Delivered (params : MettleParams) (bins : List MettleBin) (binId : Nat) : Prop :=
  (∃ bin ∈ bins, bin.binId = binId) ∧ ∃ latest, params.latestSourceIdForBin binId = some latest

/-- The decoder between two pushes. -/
structure Settled (bins : List MettleBin) (given : Set Nat) (decoder : MettleDecoder size) : Prop
    extends Tracked (Delivered decoder.params bins) given decoder where
  seen : ∀ binId ∈ decoder.seenBinIds, Delivered decoder.params bins binId
  quiet : decoder.Quiet

theorem delivered_snoc {params : MettleParams} {bins : List MettleBin} {bin : MettleBin} :
    Delivered params (bins ++ [bin]) binId ↔ Delivered params bins binId ∨
      (bin.binId = binId ∧ ∃ latest, params.latestSourceIdForBin binId = some latest) := by
  simp only [Delivered, List.mem_append, List.mem_singleton, or_and_right, exists_or, exists_eq_left]

theorem push_bin_settled {bins : List MettleBin} {bin : MettleBin}
    (settled : decoder.Settled bins given) (fair : decoder.Fair bin) :
    (decoder.pushBin bin).1.Settled (bins ++ [bin]) given := by
  have sameParams := (push_bin_ordered settled.ordered bin).2.params
  rcases push_bin_cases decoder bin with ⟨ignored, reason⟩ |
    ⟨payload, latest, running, _, known, fresh, taken⟩
  · rw [ignored]
    have more : ∀ other, Delivered decoder.params bins other →
        Delivered decoder.params (bins ++ [bin]) other :=
      fun other earlier => delivered_snoc.mpr (.inl earlier)
    refine ⟨settled.toTracked.widen more ?_, ?_, settled.quiet⟩
    · intro other delivery
      rcases delivered_snoc.mp delivery with earlier | ⟨same, latest, known⟩
      · exact settled.covers other earlier
      · subst same
        rcases reason with done | short | unknown | seen
        · exact .inr (finished_touchers_subset done bin.binId)
        · rcases fair.1 with ⟨payload, parsed⟩
          rw [parsed] at short
          cases short
        · rw [known] at unknown
          cases unknown
        · exact settled.covers bin.binId (settled.seen bin.binId seen)
    · intro other seen
      exact more other (settled.seen other seen)
  · rw [taken] at sameParams ⊢
    have widerEq (other : Nat) : (other = bin.binId ∨ Delivered decoder.params bins other) ↔
        Delivered decoder.params (bins ++ [bin]) other := by
      rw [delivered_snoc]
      constructor
      · rintro (same | earlier)
        · exact .inr ⟨same.symm, latest, by rw [same]; exact known⟩
        · exact .inl earlier
      · rintro (earlier | ⟨same, _⟩)
        · exact .inr earlier
        · exact .inl same.symm
    have marked : Tracked (Delivered decoder.params bins) given
        ({ decoder with seenBinIds := insert bin.binId decoder.seenBinIds } :
          MettleDecoder size) :=
      { ordered := settled.ordered.with_sums _ _
        counts := settled.counts
        covers := settled.covers
        stored := settled.stored
        sound := settled.sound }
    rcases @take_bin_tracked size _ bin.binId payload _ given latest marked settled.quiet running
      known fair.2.open_once with ⟨tracked, quiet⟩
    rw [funext fun other => propext (widerEq other)] at tracked
    refine ⟨?_, ?_, quiet⟩
    · rw [sameParams]
      exact tracked
    · intro other seen
      rw [sameParams, ← widerEq]
      have marks := take_bin_seen marked.ordered running known seen
      rcases Finset.mem_insert.mp marks with same | earlier
      · exact .inl same
      · exact .inr (settled.seen other earlier)

theorem fair_congr {later : MettleDecoder size} {bin : MettleBin}
    (params : later.params = decoder.params) (seed : later.seed = decoder.seed)
    (terminal : later.terminalSourceCount = decoder.terminalSourceCount)
    (fair : decoder.Fair bin) : later.Fair bin := by
  refine ⟨fair.1, ?_⟩
  rw [Clean, touchers_congr params seed terminal, edges_congr params seed terminal]
  exact fair.2

theorem push_bins_settled {before bins : List MettleBin} (settled : decoder.Settled before given)
    (fair : ∀ bin ∈ bins, decoder.Fair bin) :
    (decoder.pushBins bins).1.Settled (before ++ bins) given := by
  induction bins generalizing decoder before with
  | nil =>
    rw [List.append_nil]
    exact settled
  | cons bin rest induction =>
    have released := (push_bin_ordered settled.ordered bin).2
    have step := push_bin_settled settled (fair bin List.mem_cons_self)
    have final := induction step fun other member => fair_congr released.params released.seed
      released.terminal (fair other (List.mem_cons_of_mem _ member))
    rw [List.append_assoc] at final
    exact final

end MettleDecoder

end Nextmini.Mettle
