import Nextmini.Mettle.DecoderSteps

/-!
# The fast systematic path

A bin that is the next systematic one is decoded at once where no bin is stored. The path leaves out
the insertion and the drain, and it takes the prefix sum of the source out of its map. It computes
what the general path computes, down to the last field of the state.
-/

namespace Nextmini.Mettle

set_option autoImplicit false

variable {size : Nat}

namespace MettleDecoder

/-! ## The two paths -/

def takeSystematic (decoder : MettleDecoder size) (payload : Payload size) :
    MettleDecoder size × List (DecodedSource size) :=
  let next := decoder.nextDecodedSourceId
  let payload := xorPeeledPrefix payload decoder.decodedTlePrefixXors[next]?
  let removed := { decoder with
    decodedTlePrefixXors := decoder.decodedTlePrefixXors.erase next }
  removed.decodeSourceAndRelease next payload

/-- What a decoder without the fast path does with a new bin. -/
def insertAndPeel (decoder : MettleDecoder size) (binId : Nat) (payload : Payload size) :
    MettleDecoder size × List (DecodedSource size) :=
  let next := decoder.nextDecodedSourceId
  if ¬decoder.isTleBinId binId ∧ decoder.binHasNoUndecodedTouchers binId then (decoder, [])
  else
    let payload := decoder.peelKnownPrefixFromBin binId payload
    if binId = decoder.params.tleBinId next then
      let (decoder, decoded) := decoder.decodeSourceAndRelease next payload
      let (decoder, drained) := decoder.drainDecodableSources
      (decoder, decoded ++ drained)
    else
      let remainingTouchers := decoder.countRemainingTouchers binId
      if remainingTouchers = 0 then (decoder, [])
      else
        let stored := { decoder with
          receivedBins := decoder.receivedBins.insert binId ⟨payload, remainingTouchers⟩ }
        stored.drainDecodableSources

/-- The guard of the fast path. -/
def AtSystematic (decoder : MettleDecoder size) (binId : Nat) : Prop :=
  binId = decoder.params.tleBinId decoder.nextDecodedSourceId ∧ decoder.receivedBins.isEmpty

instance (decoder : MettleDecoder size) (binId : Nat) : Decidable (decoder.AtSystematic binId) :=
  inferInstanceAs (Decidable (_ ∧ _))

theorem take_bin_eq (decoder : MettleDecoder size) (binId : Nat) (payload : Payload size) :
    decoder.takeBin binId payload =
      if decoder.AtSystematic binId then decoder.takeSystematic payload
      else decoder.insertAndPeel binId payload :=
  rfl

def pushBinInGeneral (decoder : MettleDecoder size) (bin : MettleBin) :
    MettleDecoder size × List (DecodedSource size) :=
  if decoder.finished then (decoder, [])
  else
    match (Payload.ofBytes bin.payload : Option (Payload size)),
      decoder.params.latestSourceIdForBin bin.binId with
    | some payload, some _ =>
        if bin.binId ∈ decoder.seenBinIds then (decoder, [])
        else
          let marked := { decoder with seenBinIds := insert bin.binId decoder.seenBinIds }
          marked.insertAndPeel bin.binId payload
    | _, _ => (decoder, [])

def pushBinsInGeneral : MettleDecoder size → List MettleBin →
    MettleDecoder size × List (DecodedSource size)
  | decoder, [] => (decoder, [])
  | decoder, bin :: rest =>
      let (decoder, decoded) := decoder.pushBinInGeneral bin
      let (decoder, later) := decoder.pushBinsInGeneral rest
      (decoder, decoded ++ later)

/-! ## The prefix sum of the next source -/

variable {decoder : MettleDecoder size} {sourceId binId : Nat} {payload : Payload size}

def withoutPrefixXor (decoder : MettleDecoder size) (sourceId : Nat) : MettleDecoder size :=
  { decoder with decodedTlePrefixXors := decoder.decodedTlePrefixXors.erase sourceId }

theorem apply_edge_without_prefix (edge : Nat) :
    applyDecodedSourceEdge sourceId payload (decoder.withoutPrefixXor sourceId) edge =
      (applyDecodedSourceEdge sourceId payload decoder edge).withoutPrefixXor sourceId := by
  have kept : (decoder.withoutPrefixXor sourceId).tleSourceIdForBin edge =
      decoder.tleSourceIdForBin edge := rfl
  simp only [applyDecodedSourceEdge, withoutPrefixXor] at kept ⊢
  rw [kept]
  cases decoder.tleSourceIdForBin edge with
  | none => rfl
  | some tleSourceId =>
    simp only
    split_ifs with earlier
    · rfl
    · have sums : (decoder.decodedTlePrefixXors.erase sourceId).insert tleSourceId
          (xorPayload ((decoder.decodedTlePrefixXors.erase sourceId).getD tleSourceId 0) payload) =
            (decoder.decodedTlePrefixXors.insert tleSourceId
              (xorPayload (decoder.decodedTlePrefixXors.getD tleSourceId 0) payload)).erase
                sourceId := by
        have apart : sourceId ≠ tleSourceId := by omega
        apply Std.ExtTreeMap.ext_getElem?
        intro key
        simp only [get_insert, get_erase, Std.ExtTreeMap.getD_eq_getD_getElem?, if_neg apart]
        split_ifs with later here
        · omega
        · rfl
        · rfl
        · rfl
      rw [sums]

theorem apply_edges_without_prefix :
    (decoder.withoutPrefixXor sourceId).applyDecodedSourceEdges sourceId payload =
      (decoder.applyDecodedSourceEdges sourceId payload).withoutPrefixXor sourceId := by
  rw [applyDecodedSourceEdges, applyDecodedSourceEdges]
  have edges : (decoder.withoutPrefixXor sourceId).edgeBinIds sourceId =
      decoder.edgeBinIds sourceId := rfl
  rw [edges]
  generalize decoder.edgeBinIds sourceId = edges
  induction edges generalizing decoder with
  | nil => rfl
  | cons edge rest induction =>
    rw [List.foldl_cons, List.foldl_cons, apply_edge_without_prefix]
    exact induction rfl

theorem push_without_prefix :
    (decoder.withoutPrefixXor sourceId).pushDecodedPrefixPayload payload =
      (decoder.pushDecodedPrefixPayload payload).withoutPrefixXor sourceId := by
  rw [pushDecodedPrefixPayload, pushDecodedPrefixPayload,
    apply_ite (fun pushed : MettleDecoder size => pushed.withoutPrefixXor sourceId)]
  rfl

theorem drop_without_prefix (released : sourceId < decoder.nextDecodedSourceId) :
    (decoder.withoutPrefixXor sourceId).dropBinsClosedByPrefix =
      decoder.dropBinsClosedByPrefix := by
  have done : (decoder.withoutPrefixXor sourceId).finished ↔ decoder.finished :=
    finished_congr rfl rfl
  rw [dropBinsClosedByPrefix, dropBinsClosedByPrefix]
  by_cases finished : decoder.finished
  · rw [if_pos finished, if_pos (done.mpr finished)]
    rfl
  · rw [if_neg finished, if_neg fun ends => finished (done.mp ends)]
    simp only [withoutPrefixXor]
    congr 1
    apply Std.ExtTreeMap.ext_getElem?
    intro key
    rw [get_filter, get_filter, get_erase]
    by_cases behind : decoder.nextDecodedSourceId ≤ key
    · have apart : sourceId ≠ key := by omega
      simp only [behind, decide_true, if_true, if_neg apart]
    · simp only [behind, decide_false, Bool.false_eq_true, if_false]

theorem release_without_prefix (payload : Payload size)
    (next : decoder.nextDecodedSourceId = sourceId) :
    (decoder.withoutPrefixXor sourceId).releasePrefixSource sourceId payload =
      decoder.releasePrefixSource sourceId payload := by
  have advanced : (decoder.withoutPrefixXor sourceId).advancePrefix payload =
      (decoder.advancePrefix payload).withoutPrefixXor sourceId := by
    rw [advancePrefix, advancePrefix, push_without_prefix]
    rfl
  have behind : sourceId < (decoder.advancePrefix payload).nextDecodedSourceId := by
    rw [advance_next, next]
    exact Nat.lt_succ_self _
  rw [releasePrefixSource, releasePrefixSource, advanced, drop_without_prefix behind]

theorem decode_without_prefix (decoder : MettleDecoder size) (payload : Payload size) :
    (decoder.withoutPrefixXor decoder.nextDecodedSourceId).decodeSourceAndRelease
        decoder.nextDecodedSourceId payload =
      decoder.decodeSourceAndRelease decoder.nextDecodedSourceId payload := by
  have same := release_without_prefix payload
    (apply_edges_next decoder decoder.nextDecodedSourceId payload)
  have kept := decode_next_eq (decoder.withoutPrefixXor decoder.nextDecodedSourceId) payload
  have nextKept : (decoder.withoutPrefixXor decoder.nextDecodedSourceId).nextDecodedSourceId =
      decoder.nextDecodedSourceId := rfl
  rw [nextKept, apply_edges_without_prefix, same] at kept
  rw [kept, decode_next_eq]

/-! ## The drain after the next source -/

theorem decode_next_received_size (decoder : MettleDecoder size) (payload : Payload size) :
    (decoder.decodeSourceAndRelease decoder.nextDecodedSourceId payload).1.receivedBins.size ≤
      decoder.receivedBins.size := by
  rw [decode_next_eq]
  apply (release_futures_received_size _).trans
  apply release_received_size.trans
  rw [apply_edges_received_size]

theorem next_tle_source {latest : Nat} (running : ¬decoder.finished)
    (known : decoder.params.latestSourceIdForBin binId = some latest)
    (systematic : binId = decoder.params.tleBinId decoder.nextDecodedSourceId) :
    decoder.tleSourceIdForBin binId = some decoder.nextDecodedSourceId := by
  have reached := (decoder.params.latest_spec known decoder.nextDecodedSourceId).mp systematic.ge
  have here := (decoder.params.latest_spec known latest).mpr le_rfl
  rw [systematic, decoder.params.tle_strict_mono.le_iff_le] at here
  have same : latest = decoder.nextDecodedSourceId := by omega
  rw [same] at known
  refine (decoder.tle_source_spec).mpr ⟨known, ?_, systematic.symm⟩
  intro count terminated
  by_contra done
  exact running ⟨count, terminated, not_lt.mp done⟩

/-! ## The two paths agree -/

theorem take_systematic_eq {latest : Nat} (payload : Payload size) (running : ¬decoder.finished)
    (known : decoder.params.latestSourceIdForBin binId = some latest)
    (guard : decoder.AtSystematic binId) :
    decoder.takeSystematic payload = decoder.insertAndPeel binId payload := by
  rcases guard with ⟨systematic, empty⟩
  have source := next_tle_source running known systematic
  have isTle : decoder.isTleBinId binId = true := by rw [isTleBinId, source, Option.isSome_some]
  have peeled : decoder.peelKnownPrefixFromBin binId payload =
      xorPeeledPrefix payload decoder.decodedTlePrefixXors[decoder.nextDecodedSourceId]? := by
    simp only [peelKnownPrefixFromBin, source]
  have fast := decode_without_prefix decoder
    (xorPeeledPrefix payload decoder.decodedTlePrefixXors[decoder.nextDecodedSourceId]?)
  have drained := decode_next_received_size decoder
    (xorPeeledPrefix payload decoder.decodedTlePrefixXors[decoder.nextDecodedSourceId]?)
  rw [Std.ExtTreeMap.isEmpty_iff.mp empty, Std.ExtTreeMap.size_empty, Nat.le_zero,
    ← Std.ExtTreeMap.eq_empty_iff_size_eq_zero] at drained
  have taken : decoder.takeSystematic payload = decoder.decodeSourceAndRelease
      decoder.nextDecodedSourceId
      (xorPeeledPrefix payload decoder.decodedTlePrefixXors[decoder.nextDecodedSourceId]?) := fast
  simp only [insertAndPeel, isTle, not_true_eq_false, false_and, if_false, peeled,
    if_pos systematic]
  rw [drain_of_empty drained, List.append_nil, taken]

theorem take_bin_in_general {latest : Nat} (running : ¬decoder.finished)
    (known : decoder.params.latestSourceIdForBin binId = some latest) :
    decoder.takeBin binId payload = decoder.insertAndPeel binId payload := by
  rw [take_bin_eq]
  split_ifs with guard
  · exact take_systematic_eq payload running known guard
  · rfl

theorem push_bin_in_general (decoder : MettleDecoder size) (bin : MettleBin) :
    decoder.pushBin bin = decoder.pushBinInGeneral bin := by
  rw [pushBin, pushBinInGeneral]
  by_cases done : decoder.finished
  · rw [if_pos done, if_pos done]
  · rw [if_neg done, if_neg done]
    cases (Payload.ofBytes bin.payload : Option (Payload size)) with
    | none => rfl
    | some payload =>
      cases known : decoder.params.latestSourceIdForBin bin.binId with
      | none => rfl
      | some latest =>
        simp only
        split_ifs
        · rfl
        · exact take_bin_in_general done known

/-- A decoder without the fast path goes through the same states and releases the same sources. -/
theorem push_bins_in_general (decoder : MettleDecoder size) (bins : List MettleBin) :
    decoder.pushBins bins = decoder.pushBinsInGeneral bins := by
  induction bins generalizing decoder with
  | nil => rfl
  | cons bin rest induction =>
    simp only [pushBins, pushBinsInGeneral, push_bin_in_general, induction]

/-- At its guard the fast path releases what the general path releases, and no later bins, however
they are taken, tell the two states apart. -/
theorem fast_path_equivalent {decoder : MettleDecoder size} {bin : MettleBin}
    {payload : Payload size} {latest : Nat} (running : ¬decoder.finished)
    (parsed : Payload.ofBytes bin.payload = some payload)
    (known : decoder.params.latestSourceIdForBin bin.binId = some latest)
    (unseen : bin.binId ∉ decoder.seenBinIds) (guard : decoder.AtSystematic bin.binId) :
    let marked := { decoder with seenBinIds := insert bin.binId decoder.seenBinIds }
    let fast := marked.takeSystematic payload
    let general := marked.insertAndPeel bin.binId payload
    decoder.pushBin bin = fast ∧ fast.2 = general.2 ∧
      ∀ later, fast.1.pushBins later = general.1.pushBins later ∧
        fast.1.pushBins later = general.1.pushBinsInGeneral later := by
  have markedRunning : ¬({ decoder with
      seenBinIds := insert bin.binId decoder.seenBinIds } : MettleDecoder size).finished := running
  have markedGuard : ({ decoder with
      seenBinIds := insert bin.binId decoder.seenBinIds } : MettleDecoder size).AtSystematic
        bin.binId := guard
  have same := take_systematic_eq payload markedRunning known markedGuard
  refine ⟨?_, congrArg Prod.snd same, fun later => ?_⟩
  · simp only [pushBin, if_neg running, parsed, known, if_neg unseen]
    rw [take_bin_eq, if_pos markedGuard]
  · simp only [same]
    exact ⟨trivial, push_bins_in_general _ later⟩

/-- The decoder has released source zero and decoded source two ahead. Its next source releases
both. -/
theorem next_bin_equivalent :
    let decoder := ((newTerminated .perThousand 7 3 : MettleDecoder 1).pushBins
      [⟨0, [5]⟩, ⟨2, [9]⟩]).1
    let marked := { decoder with seenBinIds := insert 1 decoder.seenBinIds }
    let payload : Payload 1 := (Payload.ofBytes [7]).getD 0
    (marked.takeSystematic payload).2.map DecodedSource.sourceId = [1, 2] ∧
      (marked.takeSystematic payload).2 = (marked.insertAndPeel 1 payload).2 := by
  have evaluated : (fun decoder : MettleDecoder 1 => decide (¬decoder.finished ∧
      decoder.params.latestSourceIdForBin 1 = some 1 ∧ 1 ∉ decoder.seenBinIds ∧
      decoder.AtSystematic 1 ∧ (decoder.pushBin ⟨1, [7]⟩).2.map DecodedSource.sourceId = [1, 2]))
      ((newTerminated .perThousand 7 3 : MettleDecoder 1).pushBins [⟨0, [5]⟩, ⟨2, [9]⟩]).1 =
        true := by
    decide +kernel
  generalize ((newTerminated .perThousand 7 3 : MettleDecoder 1).pushBins
    [⟨0, [5]⟩, ⟨2, [9]⟩]).1 = decoder at evaluated
  rcases of_decide_eq_true evaluated with ⟨running, known, unseen, guard, released⟩
  have parsed : (Payload.ofBytes [7] : Option (Payload 1)) = some ((Payload.ofBytes [7]).getD 0) :=
    rfl
  have same := @fast_path_equivalent 1 decoder ⟨1, [7]⟩ _ _ running parsed known unseen guard
  refine ⟨?_, same.2.1⟩
  rw [← released, same.1]

end MettleDecoder

end Nextmini.Mettle
