import Nextmini.Mettle.Decoder

/-!
# Steps of the decoder

What each step of the decoder does to its state. Decoding a source is recording it ahead and then
releasing all that has become contiguous, so one lemma about a single release carries every
invariant over it; a bin is taken in one of five ways, and the drain is a run of single turns that
stops when no bin has a single open toucher.
-/

namespace Nextmini.Mettle

open Nextmini.Library

set_option autoImplicit false

variable {size : Nat}

section NatMaps

variable {Value : Type} (map : Std.ExtTreeMap Nat Value) (key other : Nat) (value : Value)

theorem get_insert : (map.insert key value)[other]? = if key = other then some value else map[other]? := by
  simp [Std.ExtTreeMap.getElem?_insert]

theorem get_erase : (map.erase key)[other]? = if key = other then none else map[other]? := by
  simp [Std.ExtTreeMap.getElem?_erase]

theorem get_modify (change : Value → Value) : (map.modify key change)[other]? =
    if key = other then map[other]?.map change else map[other]? := by
  by_cases same : key = other
  · subst same
    simp
  · simp [Std.ExtTreeMap.getElem?_modify, same]

theorem get_filter (kept : Nat → Bool) : (map.filter fun key _ => kept key)[other]? =
    if kept other then map[other]? else none := by
  rw [Std.ExtTreeMap.getElem?_filter']
  cases map[other]? with
  | none => simp
  | some present =>
    by_cases keep : kept other
    · simp [keep, Option.filter]
    · simp [keep, Option.filter]

theorem mem_iff_get : key ∈ map ↔ ∃ value, map[key]? = some value := by
  rw [Std.ExtTreeMap.mem_iff_isSome_getElem?, Option.isSome_iff_exists]

theorem eq_empty_of_get (absent : ∀ key : Nat, map[key]? = none) : map = ∅ := by
  apply Std.ExtTreeMap.ext_getElem?
  intro key
  rw [absent key]
  simp

end NatMaps

namespace MettleDecoder

variable (decoder : MettleDecoder size) (sourceId : Nat) (payload : Payload size)

/-! ## Applying the edges of a source -/

theorem apply_edges_keep {Field : Type} (field : MettleDecoder size → Field)
    (kept : ∀ (decoder : MettleDecoder size) received prefixXors,
      field { decoder with receivedBins := received, decodedTlePrefixXors := prefixXors } =
        field decoder) :
    field (decoder.applyDecodedSourceEdges sourceId payload) = field decoder := by
  rw [applyDecodedSourceEdges]
  generalize decoder.edgeBinIds sourceId = edges
  induction edges generalizing decoder with
  | nil => rfl
  | cons edge rest induction => exact (induction _).trans (kept _ _ _)

@[simp] theorem apply_edges_params :
    (decoder.applyDecodedSourceEdges sourceId payload).params = decoder.params :=
  apply_edges_keep _ _ _ (·.params) fun _ _ _ => rfl

@[simp] theorem apply_edges_seed :
    (decoder.applyDecodedSourceEdges sourceId payload).seed = decoder.seed :=
  apply_edges_keep _ _ _ (·.seed) fun _ _ _ => rfl

@[simp] theorem apply_edges_terminal :
    (decoder.applyDecodedSourceEdges sourceId payload).terminalSourceCount =
      decoder.terminalSourceCount :=
  apply_edges_keep _ _ _ (·.terminalSourceCount) fun _ _ _ => rfl

@[simp] theorem apply_edges_next :
    (decoder.applyDecodedSourceEdges sourceId payload).nextDecodedSourceId =
      decoder.nextDecodedSourceId :=
  apply_edges_keep _ _ _ (·.nextDecodedSourceId) fun _ _ _ => rfl

@[simp] theorem apply_edges_futures :
    (decoder.applyDecodedSourceEdges sourceId payload).decodedFuturePayloads =
      decoder.decodedFuturePayloads :=
  apply_edges_keep _ _ _ (·.decodedFuturePayloads) fun _ _ _ => rfl

@[simp] theorem apply_edges_seen :
    (decoder.applyDecodedSourceEdges sourceId payload).seenBinIds = decoder.seenBinIds :=
  apply_edges_keep _ _ _ (·.seenBinIds) fun _ _ _ => rfl

@[simp] theorem apply_edges_prefix_start :
    (decoder.applyDecodedSourceEdges sourceId payload).decodedPrefixStartSourceId =
      decoder.decodedPrefixStartSourceId :=
  apply_edges_keep _ _ _ (·.decodedPrefixStartSourceId) fun _ _ _ => rfl

@[simp] theorem apply_edges_prefix :
    (decoder.applyDecodedSourceEdges sourceId payload).decodedPrefixPayloads =
      decoder.decodedPrefixPayloads :=
  apply_edges_keep _ _ _ (·.decodedPrefixPayloads) fun _ _ _ => rfl

theorem apply_edges_received (binId : Nat) :
    (decoder.applyDecodedSourceEdges sourceId payload).receivedBins[binId]? =
      decoder.receivedBins[binId]?.map fun bin =>
        { payload := bin.payload + (decoder.edgeBinIds sourceId).count binId • payload
          remainingTouchers := bin.remainingTouchers - (decoder.edgeBinIds sourceId).count binId } := by
  rw [applyDecodedSourceEdges]
  generalize decoder.edgeBinIds sourceId = edges
  induction edges generalizing decoder with
  | nil => simp
  | cons edge rest induction =>
    rw [List.foldl_cons, induction]
    simp only [applyDecodedSourceEdge, get_modify, List.count_cons]
    cases decoder.receivedBins[binId]? with
    | none => simp
    | some bin =>
      by_cases same : edge = binId
      · simp only [same, if_true, Option.map_some, beq_self_eq_true, Payload.xor_eq_add,
          Nat.sub_sub, Nat.add_comm 1, succ_nsmul', add_assoc]
      · simp [same]

theorem apply_edges_received_size :
    (decoder.applyDecodedSourceEdges sourceId payload).receivedBins.size =
      decoder.receivedBins.size := by
  rw [applyDecodedSourceEdges]
  generalize decoder.edgeBinIds sourceId = edges
  induction edges generalizing decoder with
  | nil => rfl
  | cons edge rest induction =>
    rw [List.foldl_cons, induction, applyDecodedSourceEdge, Std.ExtTreeMap.size_modify]

theorem tle_source_spec {binId tleSourceId : Nat} :
    decoder.tleSourceIdForBin binId = some tleSourceId ↔
      decoder.params.latestSourceIdForBin binId = some tleSourceId ∧
        InStream decoder.terminalSourceCount tleSourceId ∧
          decoder.params.tleBinId tleSourceId = binId := by
  rw [tleSourceIdForBin, Option.filter_eq_some_iff, decide_eq_true_eq]

/-- A source enters the prefix sums of the later systematic bins it touches, once for each edge. -/
theorem apply_edges_prefix_xors (later : Nat) :
    (decoder.applyDecodedSourceEdges sourceId payload).decodedTlePrefixXors.getD later 0 =
      decoder.decodedTlePrefixXors.getD later 0 +
        if sourceId < later ∧
            decoder.tleSourceIdForBin (decoder.params.tleBinId later) = some later then
          (decoder.edgeBinIds sourceId).count (decoder.params.tleBinId later) • payload
        else 0 := by
  rw [applyDecodedSourceEdges]
  generalize decoder.edgeBinIds sourceId = edges
  induction edges generalizing decoder with
  | nil => simp
  | cons edge rest induction =>
    have one : (applyDecodedSourceEdge sourceId payload decoder edge).decodedTlePrefixXors.getD
        later 0 = decoder.decodedTlePrefixXors.getD later 0 +
          if sourceId < later ∧ decoder.tleSourceIdForBin edge = some later then payload else 0 := by
      rw [applyDecodedSourceEdge]
      cases systematic : decoder.tleSourceIdForBin edge with
      | none => simp
      | some tleSourceId =>
        simp only [Option.some.injEq]
        by_cases earlier : tleSourceId ≤ sourceId
        · have apart : ¬(sourceId < later ∧ tleSourceId = later) := by omega
          rw [if_pos earlier, if_neg apart, add_zero]
        · rw [if_neg earlier, Std.ExtTreeMap.getD_insert]
          by_cases same : tleSourceId = later
          · subst same
            simp [Payload.xor_eq_add, not_le.mp earlier]
          · simp [same]
    have kept : (applyDecodedSourceEdge sourceId payload decoder edge).tleSourceIdForBin
        (decoder.params.tleBinId later) =
          decoder.tleSourceIdForBin (decoder.params.tleBinId later) := rfl
    have keptParams : (applyDecodedSourceEdge sourceId payload decoder edge).params =
        decoder.params := rfl
    rw [List.foldl_cons, induction, one, keptParams, kept, List.count_cons, add_assoc]
    congr 1
    by_cases systematic : decoder.tleSourceIdForBin (decoder.params.tleBinId later) = some later
    · by_cases same : edge = decoder.params.tleBinId later
      · subst same
        by_cases before : sourceId < later
        · simp [systematic, before, succ_nsmul']
        · simp [before]
      · have apart : decoder.tleSourceIdForBin edge ≠ some later := by
          intro found
          exact same ((decoder.tle_source_spec.mp found).2.2).symm
        simp [same, apart]
    · have apart : decoder.tleSourceIdForBin edge ≠ some later := by
        intro found
        rw [(decoder.tle_source_spec.mp found).2.2] at systematic
        exact systematic found
      simp [systematic, apart]

/-! ## Releasing a source -/

theorem advance_keep {Field : Type} (field : MettleDecoder size → Field)
    (kept : ∀ (decoder : MettleDecoder size) next start payloads,
      field { decoder with
        nextDecodedSourceId := next, decodedPrefixStartSourceId := start,
        decodedPrefixPayloads := payloads } = field decoder) :
    field (decoder.advancePrefix payload) = field decoder := by
  simp only [advancePrefix, pushDecodedPrefixPayload]
  split_ifs
  · exact kept decoder _ _ _
  · exact kept decoder _ _ _

theorem drop_keep {Field : Type} (field : MettleDecoder size → Field)
    (kept : ∀ (decoder : MettleDecoder size) prefixXors seen received,
      field { decoder with
        decodedTlePrefixXors := prefixXors, seenBinIds := seen, receivedBins := received } =
          field decoder) :
    field decoder.dropBinsClosedByPrefix = field decoder := by
  rw [dropBinsClosedByPrefix]
  split_ifs
  · exact kept decoder _ _ _
  · exact kept decoder _ _ _

theorem release_keep {Field : Type} (field : MettleDecoder size → Field)
    (advanced : ∀ (decoder : MettleDecoder size) next start payloads,
      field { decoder with
        nextDecodedSourceId := next, decodedPrefixStartSourceId := start,
        decodedPrefixPayloads := payloads } = field decoder)
    (dropped : ∀ (decoder : MettleDecoder size) prefixXors seen received,
      field { decoder with
        decodedTlePrefixXors := prefixXors, seenBinIds := seen, receivedBins := received } =
          field decoder) :
    field (decoder.releasePrefixSource sourceId payload).1 = field decoder :=
  (drop_keep _ field dropped).trans (advance_keep _ _ field advanced)

@[simp] theorem release_params :
    (decoder.releasePrefixSource sourceId payload).1.params = decoder.params :=
  release_keep _ _ _ (·.params) (fun _ _ _ _ => rfl) fun _ _ _ _ => rfl

@[simp] theorem release_seed :
    (decoder.releasePrefixSource sourceId payload).1.seed = decoder.seed :=
  release_keep _ _ _ (·.seed) (fun _ _ _ _ => rfl) fun _ _ _ _ => rfl

@[simp] theorem release_terminal :
    (decoder.releasePrefixSource sourceId payload).1.terminalSourceCount =
      decoder.terminalSourceCount :=
  release_keep _ _ _ (·.terminalSourceCount) (fun _ _ _ _ => rfl) fun _ _ _ _ => rfl

@[simp] theorem release_futures :
    (decoder.releasePrefixSource sourceId payload).1.decodedFuturePayloads =
      decoder.decodedFuturePayloads :=
  release_keep _ _ _ (·.decodedFuturePayloads) (fun _ _ _ _ => rfl) fun _ _ _ _ => rfl

theorem advance_next :
    (decoder.advancePrefix payload).nextDecodedSourceId = decoder.nextDecodedSourceId + 1 := by
  simp only [advancePrefix, pushDecodedPrefixPayload]
  split_ifs
  · rfl
  · rfl

@[simp] theorem release_next :
    (decoder.releasePrefixSource sourceId payload).1.nextDecodedSourceId =
      decoder.nextDecodedSourceId + 1 :=
  (drop_keep _ (·.nextDecodedSourceId) fun _ _ _ _ => rfl).trans (advance_next _ _)

theorem finished_congr {first second : MettleDecoder size}
    (terminal : first.terminalSourceCount = second.terminalSourceCount)
    (next : first.nextDecodedSourceId = second.nextDecodedSourceId) :
    first.finished ↔ second.finished := by
  rw [finished, finished, terminal, next]

theorem drop_finished : decoder.dropBinsClosedByPrefix.finished ↔ decoder.finished :=
  finished_congr (drop_keep _ (·.terminalSourceCount) fun _ _ _ _ => rfl)
    (drop_keep _ (·.nextDecodedSourceId) fun _ _ _ _ => rfl)

theorem drop_received (binId : Nat) : decoder.dropBinsClosedByPrefix.receivedBins[binId]? =
    if decoder.finished then none
    else if decoder.params.tleBinId decoder.nextDecodedSourceId ≤ binId then
      decoder.receivedBins[binId]?
    else none := by
  rw [dropBinsClosedByPrefix]
  by_cases done : decoder.finished
  · rw [if_pos done, if_pos done]
    simp
  · rw [if_neg done, if_neg done]
    simp only [get_filter, decide_eq_true_eq]

theorem drop_prefix_xors (running : ¬decoder.finished) {later : Nat}
    (behind : decoder.nextDecodedSourceId ≤ later) :
    decoder.dropBinsClosedByPrefix.decodedTlePrefixXors.getD later 0 =
      decoder.decodedTlePrefixXors.getD later 0 := by
  rw [dropBinsClosedByPrefix, if_neg running]
  simp only [Std.ExtTreeMap.getD_eq_getD_getElem?, get_filter, decide_eq_true_eq, if_pos behind]

theorem drop_seen : decoder.dropBinsClosedByPrefix.seenBinIds ⊆ decoder.seenBinIds := by
  rw [dropBinsClosedByPrefix]
  split_ifs
  · exact Finset.empty_subset _
  · exact Finset.filter_subset _ _

theorem release_seen :
    (decoder.releasePrefixSource sourceId payload).1.seenBinIds ⊆ decoder.seenBinIds := by
  have kept : (decoder.advancePrefix payload).seenBinIds = decoder.seenBinIds :=
    advance_keep _ _ (·.seenBinIds) fun _ _ _ _ => rfl
  rw [← kept]
  exact drop_seen _

/-- After a release only the bins behind the new frontier are left, and none at the end. -/
theorem release_received (binId : Nat) :
    (decoder.releasePrefixSource sourceId payload).1.receivedBins[binId]? =
      if (decoder.releasePrefixSource sourceId payload).1.finished then none
      else if decoder.params.tleBinId (decoder.nextDecodedSourceId + 1) ≤ binId then
        decoder.receivedBins[binId]?
      else none := by
  have received : (decoder.advancePrefix payload).receivedBins = decoder.receivedBins :=
    advance_keep _ _ (·.receivedBins) fun _ _ _ _ => rfl
  have params : (decoder.advancePrefix payload).params = decoder.params :=
    advance_keep _ _ (·.params) fun _ _ _ _ => rfl
  simp only [releasePrefixSource, drop_finished, drop_received, received, params, advance_next]

theorem release_prefix_xors {later : Nat} (behind : decoder.nextDecodedSourceId < later)
    (running : ¬(decoder.releasePrefixSource sourceId payload).1.finished) :
    (decoder.releasePrefixSource sourceId payload).1.decodedTlePrefixXors.getD later 0 =
      decoder.decodedTlePrefixXors.getD later 0 := by
  have prefixXors : (decoder.advancePrefix payload).decodedTlePrefixXors =
      decoder.decodedTlePrefixXors := advance_keep _ _ (·.decodedTlePrefixXors) fun _ _ _ _ => rfl
  rw [releasePrefixSource, drop_finished] at running
  rw [← prefixXors, releasePrefixSource]
  apply drop_prefix_xors _ running
  rw [advance_next]
  exact behind

variable {decoder} {sourceId} {payload}

/-- What every single release preserves, the release of all contiguous sources preserves. -/
theorem release_futures_preserves {motive : MettleDecoder size → Prop}
    (preserved : ∀ (decoder : MettleDecoder size) payload, motive decoder →
      decoder.decodedFuturePayloads[decoder.nextDecodedSourceId]? = some payload →
        motive (decoder.releaseAhead payload).1)
    (fuel : Nat) (holds : motive decoder) : motive (releaseFutures fuel decoder).1 := by
  induction fuel generalizing decoder with
  | zero => exact holds
  | succ fuel induction =>
    rw [releaseFutures]
    cases ahead : decoder.decodedFuturePayloads[decoder.nextDecodedSourceId]? with
    | none => exact holds
    | some payload => exact induction (preserved decoder payload holds ahead)

theorem release_ahead_futures :
    (decoder.releaseAhead payload).1.decodedFuturePayloads =
      decoder.decodedFuturePayloads.erase decoder.nextDecodedSourceId := by
  rw [releaseAhead, release_futures]

theorem release_ahead_next : (decoder.releaseAhead payload).1.nextDecodedSourceId =
    decoder.nextDecodedSourceId + 1 := by
  rw [releaseAhead, release_next]

theorem release_futures_done {fuel : Nat} (enough : decoder.decodedFuturePayloads.size ≤ fuel) :
    (releaseFutures fuel decoder).1.nextDecodedSourceId ∉
      (releaseFutures fuel decoder).1.decodedFuturePayloads := by
  induction fuel generalizing decoder with
  | zero =>
    have empty := Std.ExtTreeMap.eq_empty_iff_size_eq_zero.mpr (Nat.le_zero.mp enough)
    rw [releaseFutures, empty]
    exact Std.ExtTreeMap.not_mem_empty
  | succ fuel induction =>
    rw [releaseFutures]
    cases ahead : decoder.decodedFuturePayloads[decoder.nextDecodedSourceId]? with
    | none =>
      intro member
      rcases (mem_iff_get _ _).mp member with ⟨payload, found⟩
      rw [ahead] at found
      cases found
    | some payload =>
      apply induction
      have member := (mem_iff_get _ _).mpr ⟨payload, ahead⟩
      rw [release_ahead_futures, Std.ExtTreeMap.size_erase,
        if_pos (Std.ExtTreeMap.mem_iff_contains.mp member)]
      omega

/-- The sources that are released are consecutive, and each comes with its recorded payload. -/
theorem release_futures_outputs (fuel : Nat) :
    (releaseFutures fuel decoder).2.map DecodedSource.sourceId =
        List.range' decoder.nextDecodedSourceId (releaseFutures fuel decoder).2.length ∧
      (releaseFutures fuel decoder).1.nextDecodedSourceId =
        decoder.nextDecodedSourceId + (releaseFutures fuel decoder).2.length ∧
      ∀ released ∈ (releaseFutures fuel decoder).2,
        decoder.decodedFuturePayloads[released.sourceId]? = some released.payload := by
  induction fuel generalizing decoder with
  | zero => simp [releaseFutures]
  | succ fuel induction =>
    rw [releaseFutures]
    cases ahead : decoder.decodedFuturePayloads[decoder.nextDecodedSourceId]? with
    | none => simp
    | some payload =>
      rcases @induction (decoder.releaseAhead payload).1 with ⟨ids, next, payloads⟩
      rw [release_ahead_next] at ids next
      rw [release_ahead_futures] at payloads
      refine ⟨?_, ?_, ?_⟩
      · rw [List.map_cons, ids, List.length_cons, List.range'_succ]
        rfl
      · rw [next, List.length_cons]
        omega
      · intro released member
        rcases List.mem_cons.mp member with same | later
        · rw [same]
          exact ahead
        · have found := payloads released later
          rw [get_erase] at found
          split_ifs at found
          exact found

def recordAhead (decoder : MettleDecoder size) (sourceId : Nat) (payload : Payload size) :
    MettleDecoder size :=
  { decoder with
    decodedFuturePayloads := decoder.decodedFuturePayloads.insert sourceId payload }

theorem release_recorded (fresh : decoder.nextDecodedSourceId ∉ decoder.decodedFuturePayloads) :
    (decoder.recordAhead decoder.nextDecodedSourceId payload).releaseAhead payload =
      decoder.releasePrefixSource decoder.nextDecodedSourceId payload := by
  have restored : (decoder.decodedFuturePayloads.insert decoder.nextDecodedSourceId payload).erase
      decoder.nextDecodedSourceId = decoder.decodedFuturePayloads := by
    apply Std.ExtTreeMap.ext_getElem?
    intro key
    rw [get_erase, get_insert]
    split_ifs with here
    · rw [← here]
      exact (Std.ExtTreeMap.getElem?_eq_none fresh).symm
    · rfl
  simp only [releaseAhead, recordAhead, restored]

theorem release_futures_recorded
    (fresh : decoder.nextDecodedSourceId ∉ decoder.decodedFuturePayloads) :
    releaseFutures
        (decoder.recordAhead decoder.nextDecodedSourceId payload).decodedFuturePayloads.size
        (decoder.recordAhead decoder.nextDecodedSourceId payload) =
      let (released, first) := decoder.releasePrefixSource decoder.nextDecodedSourceId payload
      let (later, rest) := releaseFutures released.decodedFuturePayloads.size released
      (later, first :: rest) := by
  have size : (decoder.recordAhead decoder.nextDecodedSourceId
      payload).decodedFuturePayloads.size = decoder.decodedFuturePayloads.size + 1 := by
    rw [recordAhead, Std.ExtTreeMap.size_insert, if_neg]
    rwa [← Std.ExtTreeMap.mem_iff_contains]
  have found : (decoder.recordAhead decoder.nextDecodedSourceId payload).decodedFuturePayloads[
      (decoder.recordAhead decoder.nextDecodedSourceId payload).nextDecodedSourceId]? =
        some payload := by
    simp [recordAhead]
  rw [size, releaseFutures, found]
  simp only []
  rw [release_recorded fresh, release_futures]

theorem release_futures_stuck
    (fresh : decoder.nextDecodedSourceId ∉ decoder.decodedFuturePayloads)
    (later : sourceId ≠ decoder.nextDecodedSourceId) (fuel : Nat) :
    releaseFutures fuel (decoder.recordAhead sourceId payload) =
      (decoder.recordAhead sourceId payload, []) := by
  cases fuel with
  | zero => rfl
  | succ fuel =>
    have blocked : (decoder.recordAhead sourceId payload).decodedFuturePayloads[
        (decoder.recordAhead sourceId payload).nextDecodedSourceId]? = none := by
      simp only [recordAhead, get_insert, if_neg later]
      exact Std.ExtTreeMap.getElem?_eq_none fresh
    rw [releaseFutures, blocked]

/-- The state with a source applied and recorded, before any release. -/
def recorded (decoder : MettleDecoder size) (sourceId : Nat) (payload : Payload size) :
    MettleDecoder size :=
  (decoder.applyDecodedSourceEdges sourceId payload).recordAhead sourceId payload

/-- Decoding a source is recording it and releasing what has become contiguous. -/
theorem decode_eq_release (fresh : decoder.nextDecodedSourceId ∉ decoder.decodedFuturePayloads) :
    decoder.decodeSourceAndRelease sourceId payload =
      releaseFutures (decoder.recorded sourceId payload).decodedFuturePayloads.size
        (decoder.recorded sourceId payload) := by
  have freshApplied : (decoder.applyDecodedSourceEdges sourceId payload).nextDecodedSourceId ∉
      (decoder.applyDecodedSourceEdges sourceId payload).decodedFuturePayloads := by
    rw [apply_edges_next, apply_edges_futures]
    exact fresh
  rw [decodeSourceAndRelease, recorded]
  generalize decoder.applyDecodedSourceEdges sourceId payload = applied at freshApplied
  by_cases same : sourceId = applied.nextDecodedSourceId
  · subst same
    rw [release_futures_recorded freshApplied]
    exact if_pos rfl
  · rw [release_futures_stuck freshApplied same]
    exact if_neg same

/-- The next source is released at once, and what was decoded ahead of it follows. -/
theorem decode_next_eq (decoder : MettleDecoder size) (payload : Payload size) :
    decoder.decodeSourceAndRelease decoder.nextDecodedSourceId payload =
      let released := (decoder.applyDecodedSourceEdges decoder.nextDecodedSourceId
        payload).releasePrefixSource decoder.nextDecodedSourceId payload
      let later := releaseFutures released.1.decodedFuturePayloads.size released.1
      (later.1, released.2 :: later.2) := by
  rw [decodeSourceAndRelease]
  exact if_pos (apply_edges_next decoder decoder.nextDecodedSourceId payload).symm

/-! ## Draining -/

/-- A stored bin with one open toucher, and the source that a turn of the drain takes it for. -/
structure Decodable (decoder : MettleDecoder size) (sourceId binId : Nat)
    (bin : BufferedBin size) : Prop where
  stored : decoder.receivedBins[binId]? = some bin
  single : bin.remainingTouchers = 1
  chosen : (sourceId = decoder.nextDecodedSourceId ∧
      binId ∈ decoder.edgeBinIds decoder.nextDecodedSourceId) ∨
    (decoder.nextDecodedSourceId < sourceId ∧
      decoder.uniqueUndecodedToucherForBin binId = some sourceId)

def withoutBin (decoder : MettleDecoder size) (binId : Nat) : MettleDecoder size :=
  { decoder with receivedBins := decoder.receivedBins.erase binId }

theorem find_next_spec {binId : Nat} (found : decoder.findUniqueBinForNextSource = some binId) :
    ∃ bin, decoder.Decodable decoder.nextDecodedSourceId binId bin := by
  have edge := List.mem_of_find?_eq_some found
  have single := List.find?_some found
  rw [Option.any_eq_true] at single
  rcases single with ⟨bin, stored, one⟩
  exact ⟨bin, stored, of_decide_eq_true one, .inl ⟨rfl, edge⟩⟩

theorem find_future_spec {sourceId binId : Nat}
    (found : decoder.findUniqueFutureBin = some (sourceId, binId)) :
    ∃ bin, decoder.Decodable sourceId binId bin := by
  rcases List.exists_of_findSome?_eq_some found with ⟨⟨listed, bin⟩, member, chosen⟩
  have stored := Std.ExtTreeMap.mem_toList_iff_getElem?_eq_some.mp member
  simp only at chosen
  split_ifs at chosen with several
  cases unique : decoder.uniqueUndecodedToucherForBin listed with
  | none => simp [unique] at chosen
  | some candidate =>
    simp only [unique] at chosen
    split_ifs at chosen with later
    cases chosen
    exact ⟨bin, stored, not_not.mp several, .inr ⟨later, unique⟩⟩

/-- The source that the next turn of the drain decodes, and the bin it is decoded from. -/
def drainChoice (decoder : MettleDecoder size) : Option (Nat × Nat) :=
  match decoder.findUniqueBinForNextSource with
  | some binId => some (decoder.nextDecodedSourceId, binId)
  | none => decoder.findUniqueFutureBin

theorem drain_once_choice {later : MettleDecoder size} {decoded : List (DecodedSource size)}
    (step : decoder.drainOnce = some (later, decoded)) :
    ∃ sourceId binId bin, decoder.drainChoice = some (sourceId, binId) ∧
      decoder.Decodable sourceId binId bin ∧
      (decoder.withoutBin binId).decodeSourceAndRelease sourceId bin.payload = (later, decoded) := by
  rw [drainOnce] at step
  cases next : decoder.findUniqueBinForNextSource with
  | some binId =>
    rcases find_next_spec next with ⟨bin, decodable⟩
    simp only [next, decodable.stored, Option.map_some, Option.some.injEq] at step
    exact ⟨_, binId, bin, by rw [drainChoice, next], decodable, step⟩
  | none =>
    cases future : decoder.findUniqueFutureBin with
    | none => simp [next, future] at step
    | some choice =>
      rcases choice with ⟨sourceId, binId⟩
      rcases find_future_spec future with ⟨bin, decodable⟩
      simp only [next, future, decodable.stored, Option.map_some, Option.some.injEq] at step
      exact ⟨sourceId, binId, bin, by rw [drainChoice, next, future], decodable, step⟩

theorem drain_once_step {later : MettleDecoder size} {decoded : List (DecodedSource size)}
    (step : decoder.drainOnce = some (later, decoded)) :
    ∃ sourceId binId bin, decoder.Decodable sourceId binId bin ∧
      (decoder.withoutBin binId).decodeSourceAndRelease sourceId bin.payload = (later, decoded) := by
  rcases drain_once_choice step with ⟨sourceId, binId, bin, _, decodable, decode⟩
  exact ⟨sourceId, binId, bin, decodable, decode⟩

/-- Where the drain stops, no bin with one open toucher is left that names a source. -/
theorem drain_once_none (stopped : decoder.drainOnce = none) (sourceId binId : Nat)
    (bin : BufferedBin size) : ¬decoder.Decodable sourceId binId bin := by
  intro decodable
  rw [drainOnce] at stopped
  cases next : decoder.findUniqueBinForNextSource with
  | some other =>
    rcases find_next_spec next with ⟨bin, found⟩
    simp [next, found.stored] at stopped
  | none =>
    cases future : decoder.findUniqueFutureBin with
    | some choice =>
      rcases choice with ⟨other, otherBin⟩
      rcases find_future_spec future with ⟨bin, found⟩
      simp [next, future, found.stored] at stopped
    | none =>
      rcases decodable.chosen with ⟨_, edge⟩ | ⟨later, unique⟩
      · rw [findUniqueBinForNextSource, List.find?_eq_none] at next
        apply next binId edge
        rw [decodable.stored, Option.any_some, decide_eq_true_eq]
        exact decodable.single
      · rw [findUniqueFutureBin, List.findSome?_eq_none_iff] at future
        have skipped := future (binId, bin)
          (Std.ExtTreeMap.mem_toList_iff_getElem?_eq_some.mpr decodable.stored)
        simp [decodable.single, unique, later] at skipped

/-- What every turn preserves of the state and of what was decoded so far, the drain preserves. -/
theorem drain_turns_preserves {motive : MettleDecoder size → List (DecodedSource size) → Prop}
    (preserved : ∀ decoder before later decoded, motive decoder before →
      decoder.drainOnce = some (later, decoded) → motive later (before ++ decoded))
    (fuel : Nat) (before : List (DecodedSource size)) (holds : motive decoder before) :
    motive (drainTurns fuel decoder).1 (before ++ (drainTurns fuel decoder).2) := by
  induction fuel generalizing decoder before with
  | zero =>
    rw [drainTurns, List.append_nil]
    exact holds
  | succ fuel induction =>
    rw [drainTurns]
    cases step : decoder.drainOnce with
    | none =>
      rw [List.append_nil]
      exact holds
    | some result =>
      rcases result with ⟨later, decoded⟩
      have rest := induction _ (preserved decoder before later decoded holds step)
      rw [List.append_assoc] at rest
      exact rest

theorem drop_received_size :
    decoder.dropBinsClosedByPrefix.receivedBins.size ≤ decoder.receivedBins.size := by
  rw [dropBinsClosedByPrefix]
  split_ifs
  · exact Nat.zero_le _
  · exact Std.ExtTreeMap.size_filter_le_size

theorem release_received_size :
    (decoder.releasePrefixSource sourceId payload).1.receivedBins.size ≤
      decoder.receivedBins.size := by
  have kept : (decoder.advancePrefix payload).receivedBins = decoder.receivedBins :=
    advance_keep _ _ (·.receivedBins) fun _ _ _ _ => rfl
  rw [← kept]
  exact drop_received_size

theorem release_futures_received_size (fuel : Nat) :
    (releaseFutures fuel decoder).1.receivedBins.size ≤ decoder.receivedBins.size := by
  apply release_futures_preserves (motive := fun later =>
    later.receivedBins.size ≤ decoder.receivedBins.size) _ fuel le_rfl
  intro later payload bounded _
  exact release_received_size.trans bounded

theorem drain_turns_stopped {fuel : Nat}
    (fresh : decoder.nextDecodedSourceId ∉ decoder.decodedFuturePayloads)
    (enough : decoder.receivedBins.size ≤ fuel) :
    (drainTurns fuel decoder).1.drainOnce = none := by
  induction fuel generalizing decoder with
  | zero =>
    have empty := Std.ExtTreeMap.eq_empty_iff_size_eq_zero.mpr (Nat.le_zero.mp enough)
    rw [drainTurns]
    cases step : decoder.drainOnce with
    | none => rfl
    | some result =>
      rcases drain_once_step step with ⟨_, binId, bin, decodable, _⟩
      have stored := decodable.stored
      rw [empty] at stored
      simp at stored
  | succ fuel induction =>
    rw [drainTurns]
    cases step : decoder.drainOnce with
    | none => exact step
    | some result =>
      rcases result with ⟨later, decoded⟩
      rcases drain_once_step step with ⟨sourceId, binId, bin, decodable, decode⟩
      have freshHere : (decoder.withoutBin binId).nextDecodedSourceId ∉
          (decoder.withoutBin binId).decodedFuturePayloads := fresh
      rw [decode_eq_release freshHere] at decode
      have laterEq := congrArg Prod.fst decode
      simp only at laterEq
      have fewer : later.receivedBins.size ≤ fuel := by
        have member := (mem_iff_get _ _).mpr ⟨bin, decodable.stored⟩
        rw [← laterEq]
        apply (release_futures_received_size _).trans
        rw [recorded, recordAhead]
        simp only
        rw [apply_edges_received_size, withoutBin, Std.ExtTreeMap.size_erase,
          if_pos (Std.ExtTreeMap.mem_iff_contains.mp member)]
        omega
      apply induction _ fewer
      rw [← laterEq]
      exact release_futures_done le_rfl

theorem drain_of_empty (empty : decoder.receivedBins = ∅) :
    decoder.drainDecodableSources = (decoder, []) := by
  have size : decoder.receivedBins.size = 0 := Std.ExtTreeMap.eq_empty_iff_size_eq_zero.mp empty
  rw [drainDecodableSources, size, drainTurns]

/-! ## Taking a bin -/

/-- The ways in which a new bin is taken. -/
inductive TakeBin (decoder : MettleDecoder size) (binId : Nat) (payload : Payload size) :
    MettleDecoder size × List (DecodedSource size) → Prop
  | direct : binId = decoder.params.tleBinId decoder.nextDecodedSourceId →
      decoder.receivedBins = ∅ → TakeBin decoder binId payload
        (decodeSourceAndRelease
          { decoder with
            decodedTlePrefixXors :=
              decoder.decodedTlePrefixXors.erase decoder.nextDecodedSourceId }
          decoder.nextDecodedSourceId
          (payload + decoder.decodedTlePrefixXors.getD decoder.nextDecodedSourceId 0))
  | closed : ¬decoder.isTleBinId binId → decoder.binHasNoUndecodedTouchers binId →
      TakeBin decoder binId payload (decoder, [])
  | inOrder {decoded drained : MettleDecoder size × List (DecodedSource size)} :
      binId = decoder.params.tleBinId decoder.nextDecodedSourceId →
        decoder.decodeSourceAndRelease decoder.nextDecodedSourceId
          (decoder.peelKnownPrefixFromBin binId payload) = decoded →
            decoded.1.drainDecodableSources = drained →
              TakeBin decoder binId payload (drained.1, decoded.2 ++ drained.2)
  | unneeded : decoder.countRemainingTouchers binId = 0 → TakeBin decoder binId payload (decoder, [])
  | stored {drained : MettleDecoder size × List (DecodedSource size)} :
      binId ≠ decoder.params.tleBinId decoder.nextDecodedSourceId →
        (decoder.isTleBinId binId ∨ ¬decoder.binHasNoUndecodedTouchers binId) →
          decoder.countRemainingTouchers binId ≠ 0 →
            drainDecodableSources
              { decoder with
                receivedBins := decoder.receivedBins.insert binId
                  ⟨decoder.peelKnownPrefixFromBin binId payload,
                    decoder.countRemainingTouchers binId⟩ } = drained →
              TakeBin decoder binId payload drained

theorem xor_peeled_prefix_eq (payload : Payload size) (prefixXors : Std.ExtTreeMap Nat (Payload size))
    (sourceId : Nat) : xorPeeledPrefix payload prefixXors[sourceId]? =
      payload + prefixXors.getD sourceId 0 := by
  rw [Std.ExtTreeMap.getD_eq_getD_getElem?]
  cases prefixXors[sourceId]? with
  | none => exact (add_zero payload).symm
  | some peeledPrefix => rfl

theorem take_bin_cases (decoder : MettleDecoder size) (binId : Nat) (payload : Payload size) :
    TakeBin decoder binId payload (decoder.takeBin binId payload) := by
  simp only [takeBin]
  split_ifs with direct closed inOrder unneeded
  · rcases direct with ⟨systematic, empty⟩
    rw [xor_peeled_prefix_eq]
    exact .direct systematic (Std.ExtTreeMap.isEmpty_iff.mp empty)
  · exact .closed closed.1 closed.2
  · exact .inOrder inOrder rfl rfl
  · exact .unneeded unneeded
  · apply TakeBin.stored inOrder _ unneeded rfl
    by_cases systematic : decoder.isTleBinId binId
    · exact .inl systematic
    · exact .inr fun none => closed ⟨systematic, none⟩

/-- A bin that is not ignored is new, of the right size and in front of the last source id. -/
theorem push_bin_cases (decoder : MettleDecoder size) (bin : MettleBin) :
    (decoder.pushBin bin = (decoder, []) ∧
        (decoder.finished ∨ (Payload.ofBytes bin.payload : Option (Payload size)) = none ∨
          decoder.params.latestSourceIdForBin bin.binId = none ∨
            bin.binId ∈ decoder.seenBinIds)) ∨
      ∃ payload latest, ¬decoder.finished ∧
        (Payload.ofBytes bin.payload : Option (Payload size)) = some payload ∧
          decoder.params.latestSourceIdForBin bin.binId = some latest ∧
            bin.binId ∉ decoder.seenBinIds ∧
              decoder.pushBin bin = takeBin
                { decoder with seenBinIds := insert bin.binId decoder.seenBinIds }
                bin.binId payload := by
  rw [pushBin]
  by_cases done : decoder.finished
  · rw [if_pos done]
    exact .inl ⟨rfl, .inl done⟩
  · rw [if_neg done]
    cases parsed : (Payload.ofBytes bin.payload : Option (Payload size)) with
    | none => exact .inl ⟨rfl, .inr (.inl rfl)⟩
    | some payload =>
      cases known : decoder.params.latestSourceIdForBin bin.binId with
      | none => exact .inl ⟨rfl, .inr (.inr (.inl rfl))⟩
      | some latest =>
        simp only
        split_ifs with seen
        · exact .inl ⟨rfl, .inr (.inr (.inr seen))⟩
        · exact .inr ⟨payload, latest, done, rfl, rfl, seen, rfl⟩

end MettleDecoder

end Nextmini.Mettle
