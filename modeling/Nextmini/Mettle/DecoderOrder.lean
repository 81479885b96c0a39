import Nextmini.Mettle.DecoderSteps

/-!
# Release order

Whatever bins a decoder is given, it releases the sources in order without gaps or repetitions, none
behind the terminal count, and what it holds back lies behind the next source. Nothing here looks
at payloads.
-/

namespace Nextmini.Mettle

open Nextmini.Library

set_option autoImplicit false

variable {size : Nat}

namespace MettleDecoder

variable {decoder : MettleDecoder size} {sourceId binId : Nat} {payload : Payload size}

/-- Sources that may have been decoded: they are in the stream and have a 64-bit id. -/
def Decodes (decoder : MettleDecoder size) (sourceId : Nat) : Prop :=
  InStream decoder.terminalSourceCount sourceId ∧ sourceId < 2 ^ 64

theorem mem_undecoded (member : sourceId ∈ decoder.undecodedTouchers binId) :
    decoder.nextDecodedSourceId ≤ sourceId ∧ sourceId ∉ decoder.decodedFuturePayloads ∧
      binId ∈ decoder.edgeBinIds sourceId ∧ decoder.Decodes sourceId := by
  rw [undecodedTouchers] at member
  cases range : decoder.possibleSourceIdRangeForBin binId with
  | none => simp [range] at member
  | some bounds =>
    rcases bounds with ⟨earliest, last⟩
    rcases MettleParams.range_bounded range with ⟨inStream, latest, known, below⟩
    simp only [range, List.mem_filter, List.mem_range'_1, decide_eq_true_eq, sourceIsDecoded,
      not_or] at member
    have fits := decoder.params.latest_fits known
    exact ⟨by omega, member.2.1.2, member.2.2, inStream.of_le (by omega), by omega⟩

theorem unique_undecoded_spec (unique : decoder.uniqueUndecodedToucherForBin binId = some sourceId) :
    decoder.undecodedTouchers binId = [sourceId] := by
  rw [uniqueUndecodedToucherForBin] at unique
  split at unique
  · rename_i only listed
    cases unique
    exact listed
  · cases unique

/-- The invariant of the release order while sources are being released. -/
structure Releasing (decoder : MettleDecoder size) : Prop where
  notBehind : ∀ sourceId ∈ decoder.decodedFuturePayloads, decoder.nextDecodedSourceId ≤ sourceId
  futures : ∀ sourceId ∈ decoder.decodedFuturePayloads, decoder.Decodes sourceId
  bounded : ∀ count ∈ decoder.terminalSourceCount, decoder.nextDecodedSourceId ≤ count
  fits : decoder.nextDecodedSourceId ≤ 2 ^ 64
  closed : decoder.finished → decoder.receivedBins = ∅
  known : ∀ binId ∈ decoder.receivedBins, ∃ latest,
    decoder.params.latestSourceIdForBin binId = some latest

/-- The invariant between the operations: nothing is left to release. -/
structure Ordered (decoder : MettleDecoder size) : Prop extends Releasing decoder where
  ahead : decoder.nextDecodedSourceId ∉ decoder.decodedFuturePayloads

theorem Ordered.later (ordered : decoder.Ordered) (member : sourceId ∈ decoder.decodedFuturePayloads) :
    decoder.nextDecodedSourceId < sourceId := by
  apply Nat.lt_of_le_of_ne (ordered.notBehind sourceId member)
  rintro rfl
  exact ordered.ahead member

/-- What was released leads from one state to the other, in order. -/
structure Released (decoder : MettleDecoder size) (released : List (DecodedSource size))
    (later : MettleDecoder size) : Prop where
  params : later.params = decoder.params
  seed : later.seed = decoder.seed
  terminal : later.terminalSourceCount = decoder.terminalSourceCount
  next : later.nextDecodedSourceId = decoder.nextDecodedSourceId + released.length
  ids : released.map DecodedSource.sourceId =
    List.range' decoder.nextDecodedSourceId released.length

theorem Released.refl (decoder : MettleDecoder size) : decoder.Released [] decoder where
  params := rfl
  seed := rfl
  terminal := rfl
  next := rfl
  ids := rfl

theorem Released.trans {middle later : MettleDecoder size}
    {first second : List (DecodedSource size)} (front : decoder.Released first middle)
    (back : middle.Released second later) : decoder.Released (first ++ second) later where
  params := back.params.trans front.params
  seed := back.seed.trans front.seed
  terminal := back.terminal.trans front.terminal
  next := by
    rw [back.next, front.next, List.length_append]
    omega
  ids := by
    rw [List.map_append, front.ids, back.ids, front.next, List.range'_append_1, List.length_append]

/-- The sources released before are read off four fields of the state. -/
theorem Released.of_start {start later : MettleDecoder size}
    {released : List (DecodedSource size)} (run : start.Released released later)
    (params : start.params = decoder.params) (seed : start.seed = decoder.seed)
    (terminal : start.terminalSourceCount = decoder.terminalSourceCount)
    (next : start.nextDecodedSourceId = decoder.nextDecodedSourceId) :
    decoder.Released released later where
  params := run.params.trans params
  seed := run.seed.trans seed
  terminal := run.terminal.trans terminal
  next := by rw [run.next, next]
  ids := by rw [run.ids, next]

theorem release_ahead_releasing (releasing : decoder.Releasing)
    (ahead : decoder.decodedFuturePayloads[decoder.nextDecodedSourceId]? = some payload) :
    (decoder.releaseAhead payload).1.Releasing := by
  have member := (mem_iff_get _ _).mpr ⟨payload, ahead⟩
  have here := releasing.futures _ member
  have params : (decoder.releaseAhead payload).1.params = decoder.params := by simp [releaseAhead]
  have terminal : (decoder.releaseAhead payload).1.terminalSourceCount =
      decoder.terminalSourceCount := by simp [releaseAhead]
  have received (binId : Nat) (bin : BufferedBin size)
      (found : (decoder.releaseAhead payload).1.receivedBins[binId]? = some bin) :
      decoder.receivedBins[binId]? = some bin := by
    rw [releaseAhead, release_received] at found
    split_ifs at found
    exact found
  constructor
  · intro sourceId remaining
    rw [release_ahead_futures] at remaining
    rcases (mem_iff_get _ _).mp remaining with ⟨other, found⟩
    rw [get_erase] at found
    split_ifs at found with same
    have behind := releasing.notBehind sourceId ((mem_iff_get _ _).mpr ⟨other, found⟩)
    rw [release_ahead_next]
    omega
  · intro sourceId remaining
    rw [release_ahead_futures] at remaining
    rcases (mem_iff_get _ _).mp remaining with ⟨other, found⟩
    rw [get_erase] at found
    split_ifs at found with same
    rw [Decodes, terminal]
    exact releasing.futures sourceId ((mem_iff_get _ _).mpr ⟨other, found⟩)
  · intro count terminated
    rw [terminal] at terminated
    rw [release_ahead_next]
    exact here.1 count terminated
  · rw [release_ahead_next]
    exact here.2
  · intro done
    apply eq_empty_of_get
    intro binId
    rw [releaseAhead] at done
    rw [releaseAhead, release_received, if_pos done]
  · intro binId stored
    rcases (mem_iff_get _ _).mp stored with ⟨bin, found⟩
    rw [params]
    exact releasing.known binId ((mem_iff_get _ _).mpr ⟨bin, received binId bin found⟩)

theorem release_futures_released (fuel : Nat) :
    decoder.Released (releaseFutures fuel decoder).2 (releaseFutures fuel decoder).1 := by
  rcases @release_futures_outputs size decoder fuel with ⟨ids, next, _⟩
  constructor
  · exact release_futures_preserves (motive := fun later => later.params = decoder.params)
      (fun later payload same _ => by simpa [releaseAhead] using same) fuel rfl
  · exact release_futures_preserves (motive := fun later => later.seed = decoder.seed)
      (fun later payload same _ => by simpa [releaseAhead] using same) fuel rfl
  · exact release_futures_preserves
      (motive := fun later => later.terminalSourceCount = decoder.terminalSourceCount)
      (fun later payload same _ => by simpa [releaseAhead] using same) fuel rfl
  · exact next
  · exact ids

theorem not_finished_of_in_stream (inStream : InStream decoder.terminalSourceCount sourceId)
    (notBefore : decoder.nextDecodedSourceId ≤ sourceId) : ¬decoder.finished := by
  rintro ⟨count, terminated, done⟩
  have below := inStream count terminated
  omega

theorem in_stream_of_running (running : ¬decoder.finished) :
    InStream decoder.terminalSourceCount decoder.nextDecodedSourceId := by
  intro count terminated
  by_contra done
  exact running ⟨count, terminated, not_lt.mp done⟩

theorem recorded_releasing (ordered : decoder.Ordered)
    (notBefore : decoder.nextDecodedSourceId ≤ sourceId) (decodes : decoder.Decodes sourceId) :
    (decoder.recorded sourceId payload).Releasing := by
  have futures {other : Nat}
      (member : other ∈ (decoder.recorded sourceId payload).decodedFuturePayloads) :
      sourceId = other ∨ other ∈ decoder.decodedFuturePayloads := by
    simpa [recorded, recordAhead, Std.ExtTreeMap.mem_insert] using member
  have next : (decoder.recorded sourceId payload).nextDecodedSourceId =
      decoder.nextDecodedSourceId := by simp [recorded, recordAhead]
  have terminal : (decoder.recorded sourceId payload).terminalSourceCount =
      decoder.terminalSourceCount := by simp [recorded, recordAhead]
  constructor
  · intro other member
    rw [next]
    rcases futures member with same | earlier
    · rw [← same]
      exact notBefore
    · exact ordered.notBehind other earlier
  · intro other member
    rw [Decodes, terminal]
    rcases futures member with same | earlier
    · rw [← same]
      exact decodes
    · exact ordered.futures other earlier
  · intro count terminated
    rw [terminal] at terminated
    rw [next]
    exact ordered.bounded count terminated
  · rw [next]
    exact ordered.fits
  · intro done
    exact absurd ((finished_congr terminal next).mp done)
      (not_finished_of_in_stream decodes.1 notBefore)
  · intro binId stored
    have params : (decoder.recorded sourceId payload).params = decoder.params := by
      simp [recorded, recordAhead]
    rcases (mem_iff_get _ _).mp stored with ⟨bin, found⟩
    rw [recorded, recordAhead] at found
    simp only at found
    rw [apply_edges_received, Option.map_eq_some_iff] at found
    rcases found with ⟨before, found, _⟩
    rw [params]
    exact ordered.known binId ((mem_iff_get _ _).mpr ⟨before, found⟩)

theorem recorded_released : decoder.Released [] (decoder.recorded sourceId payload) where
  params := by simp [recorded, recordAhead]
  seed := by simp [recorded, recordAhead]
  terminal := by simp [recorded, recordAhead]
  next := by simp [recorded, recordAhead]
  ids := rfl

theorem decode_ordered (ordered : decoder.Ordered)
    (notBefore : decoder.nextDecodedSourceId ≤ sourceId) (decodes : decoder.Decodes sourceId) :
    (decoder.decodeSourceAndRelease sourceId payload).1.Ordered ∧
      decoder.Released (decoder.decodeSourceAndRelease sourceId payload).2
        (decoder.decodeSourceAndRelease sourceId payload).1 := by
  rw [decode_eq_release ordered.ahead]
  constructor
  · constructor
    · apply release_futures_preserves (motive := Releasing)
      · intro later other releasing ahead
        exact release_ahead_releasing releasing ahead
      · exact recorded_releasing ordered notBefore decodes
    · exact release_futures_done le_rfl
  · exact recorded_released.trans (release_futures_released _)

/-- A bin that a turn of the drain takes names an undecoded source of the stream. -/
theorem decodable_decodes {bin : BufferedBin size} (ordered : decoder.Ordered)
    (decodable : decoder.Decodable sourceId binId bin) :
    decoder.nextDecodedSourceId ≤ sourceId ∧ sourceId ∉ decoder.decodedFuturePayloads ∧
      binId ∈ decoder.edgeBinIds sourceId ∧ decoder.Decodes sourceId := by
  rcases decodable.chosen with ⟨rfl, edge⟩ | ⟨_, unique⟩
  · have member := (mem_iff_get _ _).mpr ⟨bin, decodable.stored⟩
    have running : ¬decoder.finished := by
      intro done
      rw [ordered.closed done] at member
      exact Std.ExtTreeMap.not_mem_empty member
    have inStream := in_stream_of_running running
    rcases ordered.known binId member with ⟨latest, known⟩
    have reached := (decoder.params.edge_in_window inStream edge).1
    have below := (decoder.params.latest_spec known _).mp reached
    have fits := decoder.params.latest_fits known
    exact ⟨le_rfl, ordered.ahead, edge, inStream, by omega⟩
  · apply mem_undecoded
    rw [unique_undecoded_spec unique]
    exact List.mem_singleton_self sourceId

theorem without_bin_ordered (ordered : decoder.Ordered) (binId : Nat) :
    (decoder.withoutBin binId).Ordered where
  notBehind := ordered.notBehind
  futures := ordered.futures
  bounded := ordered.bounded
  fits := ordered.fits
  closed done := by
    rw [withoutBin, ordered.closed done]
    apply eq_empty_of_get
    intro key
    simp
  known key member := by
    apply ordered.known key
    exact Std.ExtTreeMap.mem_of_mem_erase member
  ahead := ordered.ahead

theorem drain_once_ordered {later : MettleDecoder size} {decoded : List (DecodedSource size)}
    (ordered : decoder.Ordered) (step : decoder.drainOnce = some (later, decoded)) :
    later.Ordered ∧ decoder.Released decoded later := by
  rcases drain_once_step step with ⟨sourceId, binId, bin, decodable, decode⟩
  rcases decodable_decodes ordered decodable with ⟨notBefore, _, _, decodes⟩
  rcases decode_ordered (without_bin_ordered ordered binId) notBefore decodes with ⟨kept, released⟩
  rw [decode] at kept released
  exact ⟨kept, released.of_start rfl rfl rfl rfl⟩

theorem drain_ordered (ordered : decoder.Ordered) :
    decoder.drainDecodableSources.1.Ordered ∧
      decoder.Released decoder.drainDecodableSources.2 decoder.drainDecodableSources.1 := by
  have run := drain_turns_preserves
    (motive := fun later decoded => later.Ordered ∧ decoder.Released decoded later)
    (fun middle before later decoded holds step => by
      rcases drain_once_ordered holds.1 step with ⟨kept, released⟩
      exact ⟨kept, holds.2.trans released⟩)
    decoder.receivedBins.size [] ⟨ordered, Released.refl decoder⟩
  rw [List.nil_append] at run
  exact run

theorem Ordered.with_sums (ordered : decoder.Ordered) (seen : Finset Nat)
    (prefixXors : Std.ExtTreeMap Nat (Payload size)) :
    ({ decoder with seenBinIds := seen, decodedTlePrefixXors := prefixXors } :
      MettleDecoder size).Ordered where
  notBehind := ordered.notBehind
  futures := ordered.futures
  bounded := ordered.bounded
  fits := ordered.fits
  closed := ordered.closed
  known := ordered.known
  ahead := ordered.ahead

theorem Ordered.with_bin (ordered : decoder.Ordered) (running : ¬decoder.finished) {latest : Nat}
    (known : decoder.params.latestSourceIdForBin binId = some latest) (bin : BufferedBin size) :
    ({ decoder with receivedBins := decoder.receivedBins.insert binId bin } :
      MettleDecoder size).Ordered where
  notBehind := ordered.notBehind
  futures := ordered.futures
  bounded := ordered.bounded
  fits := ordered.fits
  closed done := absurd done running
  known other member := by
    rcases Std.ExtTreeMap.mem_insert.mp member with same | earlier
    · rw [Std.LawfulEqCmp.compare_eq_iff_eq] at same
      subst same
      exact ⟨latest, known⟩
    · exact ordered.known other earlier
  ahead := ordered.ahead

theorem next_decodes (running : ¬decoder.finished) {latest : Nat}
    (known : decoder.params.latestSourceIdForBin binId = some latest)
    (systematic : binId = decoder.params.tleBinId decoder.nextDecodedSourceId) :
    decoder.Decodes decoder.nextDecodedSourceId := by
  have reached := (decoder.params.latest_spec known decoder.nextDecodedSourceId).mp systematic.ge
  have fits := decoder.params.latest_fits known
  exact ⟨in_stream_of_running running, by omega⟩

theorem take_bin_ordered (ordered : decoder.Ordered) (running : ¬decoder.finished) {latest : Nat}
    (known : decoder.params.latestSourceIdForBin binId = some latest) :
    (decoder.takeBin binId payload).1.Ordered ∧
      decoder.Released (decoder.takeBin binId payload).2 (decoder.takeBin binId payload).1 := by
  generalize taken : decoder.takeBin binId payload = result
  have ways := take_bin_cases decoder binId payload
  rw [taken] at ways
  cases ways with
  | direct systematic empty =>
    have decodes := next_decodes running known systematic
    have ready := ordered.with_sums decoder.seenBinIds
      (decoder.decodedTlePrefixXors.erase decoder.nextDecodedSourceId)
    rcases decode_ordered ready le_rfl decodes with ⟨kept, released⟩
    exact ⟨kept, released.of_start rfl rfl rfl rfl⟩
  | closed _ _ => exact ⟨ordered, Released.refl decoder⟩
  | inOrder systematic decode drain =>
    have decodes := next_decodes running known systematic
    rcases decode_ordered ordered le_rfl decodes with ⟨kept, released⟩
    rw [decode] at kept released
    rcases drain_ordered kept with ⟨done, drained⟩
    rw [drain] at done drained
    exact ⟨done, released.trans drained⟩
  | unneeded _ => exact ⟨ordered, Released.refl decoder⟩
  | stored _ _ _ drain =>
    rcases drain_ordered (ordered.with_bin running known _) with ⟨done, drained⟩
    rw [drain] at done drained
    exact ⟨done, drained.of_start rfl rfl rfl rfl⟩

theorem push_bin_ordered (ordered : decoder.Ordered) (bin : MettleBin) :
    (decoder.pushBin bin).1.Ordered ∧
      decoder.Released (decoder.pushBin bin).2 (decoder.pushBin bin).1 := by
  rcases push_bin_cases decoder bin with ⟨ignored, _⟩ | ⟨payload, latest, running, _, known, _, taken⟩
  · rw [ignored]
    exact ⟨ordered, Released.refl decoder⟩
  · rw [taken]
    have marked := ordered.with_sums (insert bin.binId decoder.seenBinIds)
      decoder.decodedTlePrefixXors
    rcases take_bin_ordered marked running known with ⟨kept, released⟩
    exact ⟨kept, released.of_start rfl rfl rfl rfl⟩

theorem new_ordered (params : MettleParams) (seed : UInt64) (terminal : Option Nat) :
    (newWithTerminalSourceCount params seed terminal : MettleDecoder size).Ordered where
  notBehind _ member := absurd member Std.ExtTreeMap.not_mem_empty
  futures _ member := absurd member Std.ExtTreeMap.not_mem_empty
  bounded _ _ := Nat.zero_le _
  fits := Nat.zero_le _
  closed _ := rfl
  known _ member := absurd member Std.ExtTreeMap.not_mem_empty
  ahead := Std.ExtTreeMap.not_mem_empty

theorem push_bins_ordered (ordered : decoder.Ordered) (bins : List MettleBin) :
    (decoder.pushBins bins).1.Ordered ∧
      decoder.Released (decoder.pushBins bins).2 (decoder.pushBins bins).1 := by
  induction bins generalizing decoder with
  | nil => exact ⟨ordered, Released.refl decoder⟩
  | cons bin rest induction =>
    rcases push_bin_ordered ordered bin with ⟨kept, released⟩
    rcases induction kept with ⟨final, later⟩
    exact ⟨final, released.trans later⟩

/-- Over any bins, the released ids are the first numbers in order, below the terminal count, and
every source decoded ahead lies behind the next one. A released id fits its word. -/
theorem releases_in_order (params : MettleParams) (seed : UInt64) (terminal : Option Nat)
    (bins : List MettleBin) :
    let result := (newWithTerminalSourceCount params seed terminal : MettleDecoder size).pushBins bins
    result.2.map DecodedSource.sourceId = List.range result.1.nextDecodedSourceId ∧
      (∀ released ∈ result.2, released.sourceId < 2 ^ 64 ∧
        ∀ count ∈ terminal, released.sourceId < count) ∧
      ∀ sourceId ∈ result.1.decodedFuturePayloads, result.1.nextDecodedSourceId < sourceId := by
  have start : (newWithTerminalSourceCount params seed terminal : MettleDecoder size).Ordered :=
    new_ordered params seed terminal
  rcases push_bins_ordered start bins with ⟨ordered, released⟩
  generalize (newWithTerminalSourceCount params seed terminal : MettleDecoder size).pushBins bins =
    result at ordered released
  have next : result.1.nextDecodedSourceId = result.2.length :=
    released.next.trans (Nat.zero_add _)
  have ids : result.2.map DecodedSource.sourceId = List.range result.1.nextDecodedSourceId := by
    rw [next, List.range_eq_range']
    exact released.ids
  refine ⟨ids, ?_, ?_⟩
  · intro one member
    have listed := List.mem_map_of_mem (f := DecodedSource.sourceId) member
    rw [ids, List.mem_range] at listed
    have fits : result.1.nextDecodedSourceId ≤ 2 ^ 64 := ordered.fits
    refine ⟨by omega, ?_⟩
    intro count terminated
    have same : result.1.terminalSourceCount = terminal := released.terminal
    rw [← same] at terminated
    exact lt_of_lt_of_le listed (ordered.bounded count terminated)
  · intro sourceId member
    exact ordered.later member

end MettleDecoder

end Nextmini.Mettle
