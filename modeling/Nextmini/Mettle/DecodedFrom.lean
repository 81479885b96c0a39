import Nextmini.Mettle.DecoderContents

/-!
# Where sources are decoded from

The bins that the sources of a push are decoded from, in the order in which that happens: the systematic
bin of the next source, and the stored bins that the drain takes out. In a decoder that takes no bin
wrong a source hits the bin it is decoded from once.
-/

namespace Nextmini.Mettle

open Nextmini.Library
open Nextmini.Library.Peeling (openTouchers)

set_option autoImplicit false

variable {size : Nat}

namespace MettleDecoder

/-! ## The bins of a push -/

def drainedFrom : Nat → MettleDecoder size → List (Nat × Nat)
  | 0, _ => []
  | fuel + 1, decoder =>
      match decoder.drainOnce with
      | none => []
      | some (later, _) => decoder.drainChoice.toList ++ drainedFrom fuel later

/-- The sources decoded when a new bin is taken, each with its bin. -/
def takenFrom (decoder : MettleDecoder size) (binId : Nat) (payload : Payload size) :
    List (Nat × Nat) :=
  let next := decoder.nextDecodedSourceId
  if binId = decoder.params.tleBinId next ∧ decoder.receivedBins.isEmpty then [(next, binId)]
  else if ¬decoder.isTleBinId binId ∧ decoder.binHasNoUndecodedTouchers binId then []
  else
    let payload := decoder.peelKnownPrefixFromBin binId payload
    if binId = decoder.params.tleBinId next then
      let decoder := (decoder.decodeSourceAndRelease next payload).1
      (next, binId) :: drainedFrom decoder.receivedBins.size decoder
    else
      let remainingTouchers := decoder.countRemainingTouchers binId
      if remainingTouchers = 0 then []
      else
        let stored := { decoder with
          receivedBins := decoder.receivedBins.insert binId ⟨payload, remainingTouchers⟩ }
        drainedFrom stored.receivedBins.size stored

def decodedFrom (decoder : MettleDecoder size) (bin : MettleBin) : List (Nat × Nat) :=
  if decoder.finished then []
  else
    match (Payload.ofBytes bin.payload : Option (Payload size)),
      decoder.params.latestSourceIdForBin bin.binId with
    | some payload, some _ =>
        if bin.binId ∈ decoder.seenBinIds then []
        else
          let marked := { decoder with seenBinIds := insert bin.binId decoder.seenBinIds }
          marked.takenFrom bin.binId payload
    | _, _ => []

/-! ## One edge in the bin -/

/-- What was decoded between two states, and from where: each source hits its bin once, and every
source that is new in the later state is named. -/
structure DecodedBy (decoder later : MettleDecoder size) (decoded : List (Nat × Nat)) : Prop where
  params : later.params = decoder.params
  seed : later.seed = decoder.seed
  terminal : later.terminalSourceCount = decoder.terminalSourceCount
  once : ∀ pair ∈ decoded, (decoder.edgeBinIds pair.1).count pair.2 = 1
  named : ∀ sourceId, later.sourceIsDecoded sourceId →
    decoder.sourceIsDecoded sourceId ∨ ∃ binId, (sourceId, binId) ∈ decoded

variable {decoder : MettleDecoder size} {sourceId binId first : Nat} {payload : Payload size}
variable {source : Nat → Payload size}

theorem DecodedBy.refl (decoder : MettleDecoder size) : decoder.DecodedBy decoder [] where
  params := rfl
  seed := rfl
  terminal := rfl
  once _ member := absurd member List.not_mem_nil
  named _ decoded := .inl decoded

theorem DecodedBy.trans {middle later : MettleDecoder size} {front back : List (Nat × Nat)}
    (before : decoder.DecodedBy middle front) (after : middle.DecodedBy later back) :
    decoder.DecodedBy later (front ++ back) where
  params := after.params.trans before.params
  seed := after.seed.trans before.seed
  terminal := after.terminal.trans before.terminal
  once pair member := by
    rcases List.mem_append.mp member with earlier | further
    · exact before.once pair earlier
    · rw [← edges_congr before.params before.seed before.terminal]
      exact after.once pair further
  named sourceId decoded := by
    rcases after.named sourceId decoded with known | ⟨binId, member⟩
    · rcases before.named sourceId known with known | ⟨binId, member⟩
      · exact .inl known
      · exact .inr ⟨binId, List.mem_append_left _ member⟩
    · exact .inr ⟨binId, List.mem_append_right _ member⟩

theorem decode_decoded_by (ordered : decoder.Ordered) (counts : decoder.Counts)
    (notBefore : decoder.nextDecodedSourceId ≤ sourceId) (decodes : decoder.Decodes sourceId)
    (fresh : sourceId ∉ decoder.decodedSources)
    (once : (decoder.edgeBinIds sourceId).count binId = 1) :
    decoder.DecodedBy (decoder.decodeSourceAndRelease sourceId payload).1 [(sourceId, binId)] := by
  have released := (@decode_ordered size decoder sourceId payload ordered notBefore decodes).2
  have covers : decoder.Covers (fun _ => False) (insert sourceId decoder.decodedSources) :=
    fun _ none => none.elim
  have known := (@decode_counts size decoder sourceId payload _ ordered counts covers decodes.1
    fresh).2.2.1
  refine ⟨released.params, released.seed, released.terminal, ?_, ?_⟩
  · intro pair member
    rw [List.mem_singleton.mp member]
    exact once
  · intro other decoded
    rw [← mem_decoded_sources, known, Finset.mem_insert] at decoded
    rcases decoded with rfl | before
    · exact .inr ⟨binId, List.mem_singleton_self _⟩
    · exact .inl (mem_decoded_sources.mp before)

theorem drained_decoded_by (sound : decoder.Sound source first) (fuel : Nat) :
    decoder.DecodedBy (drainTurns fuel decoder).1 (drainedFrom fuel decoder) := by
  induction fuel generalizing decoder with
  | zero => exact .refl decoder
  | succ fuel induction =>
    rw [drainTurns, drainedFrom]
    cases step : decoder.drainOnce with
    | none => exact .refl decoder
    | some result =>
      rcases result with ⟨later, decoded⟩
      rcases drain_once_choice step with ⟨sourceId, binId, bin, choice, decodable, decode⟩
      rcases decodable_decodes sound.ordered decodable with ⟨notBefore, absent, _, decodes⟩
      have once := (decodable_genuine sound decodable).2
      have removed := without_bin_sound sound binId
      have turn := @decode_decoded_by size (decoder.withoutBin binId) sourceId binId bin.payload
        removed.ordered removed.counts notBefore decodes (not_decoded notBefore absent) once
      rw [decode] at turn
      have same : decoder.DecodedBy later [(sourceId, binId)] :=
        ⟨turn.params, turn.seed, turn.terminal, turn.once, turn.named⟩
      simp only [choice, Option.toList_some]
      exact same.trans (induction (drain_once_sound sound step).1)

theorem taken_decoded_by {latest : Nat} (sound : decoder.Sound source 0)
    (running : ¬decoder.finished)
    (known : decoder.params.latestSourceIdForBin binId = some latest)
    (reads : (openTouchers decoder.touchers decoder.decodedSources binId).Nonempty →
      ∀ sourceId ∈ decoder.touchers binId, decoder.Reads source binId sourceId) :
    decoder.DecodedBy (decoder.takeBin binId (decoder.valueOf source binId)).1
      (decoder.takenFrom binId (decoder.valueOf source binId)) := by
  have fresh := sound.ordered.next_open
  -- the next source is open in its systematic bin, and an open source is read once
  have once (systematic : binId = decoder.params.tleBinId decoder.nextDecodedSourceId) :
      (∀ sourceId ∈ decoder.touchers binId, decoder.Reads source binId sourceId) ∧
        (decoder.edgeBinIds decoder.nextDecodedSourceId).count binId = 1 := by
    have touches := systematic_touches (in_stream_of_running running) systematic
    have opened := reads ⟨_, Peeling.mem_open_touchers.mpr ⟨touches, fresh⟩⟩
    refine ⟨opened, ?_⟩
    have read := opened _ touches
    rwa [Reads, if_neg fun decoded => fresh (mem_decoded_sources.mpr decoded)] at read
  simp only [takeBin, takenFrom]
  split_ifs with direct closed inOrder unneeded
  · have decodes := next_decodes running known direct.1
    have erased := sound.ordered.with_sums decoder.seenBinIds
      (decoder.decodedTlePrefixXors.erase decoder.nextDecodedSourceId)
    have turn := @decode_decoded_by size _ decoder.nextDecodedSourceId binId
      (xorPeeledPrefix (decoder.valueOf source binId)
        decoder.decodedTlePrefixXors[decoder.nextDecodedSourceId]?)
      erased sound.counts le_rfl decodes fresh (once direct.1).2
    exact ⟨turn.params, turn.seed, turn.terminal, turn.once, turn.named⟩
  · exact .refl decoder
  · have decodes := next_decodes running known inOrder
    rcases once inOrder with ⟨opened, hits⟩
    have turn := @decode_decoded_by size decoder decoder.nextDecodedSourceId binId
      (decoder.peelKnownPrefixFromBin binId (decoder.valueOf source binId)) sound.ordered
      sound.counts le_rfl decodes fresh hits
    apply turn.trans
    apply @drained_decoded_by size _ 0 source
    rw [(next_residue sound running known inOrder opened).2]
    exact (decode_sound sound le_rfl decodes fresh).1
  · exact .refl decoder
  · have stored := stored_sound sound running known unneeded reads
    have drained := drained_decoded_by stored
      (decoder.receivedBins.insert binId
        ⟨decoder.peelKnownPrefixFromBin binId (decoder.valueOf source binId),
          decoder.countRemainingTouchers binId⟩).size
    exact ⟨drained.params, drained.seed, drained.terminal, drained.once, drained.named⟩

/-- A push of a bin with the value that the stream has for it, which is not misread. -/
theorem push_decoded_by (sound : decoder.Sound source 0) {bin : MettleBin}
    (parsed : Payload.ofBytes bin.payload = some (decoder.valueOf source bin.binId))
    (right : ¬decoder.Misread source bin.binId) :
    decoder.DecodedBy (decoder.pushBin bin).1 (decoder.decodedFrom bin) := by
  rw [pushBin, decodedFrom]
  by_cases done : decoder.finished
  · rw [if_pos done, if_pos done]
    exact .refl decoder
  · rw [if_neg done, if_neg done, parsed]
    cases known : decoder.params.latestSourceIdForBin bin.binId with
    | none => exact .refl decoder
    | some latest =>
      simp only
      split_ifs with seen
      · exact .refl decoder
      · have taken := taken_decoded_by
          (sound.with_seen (insert bin.binId decoder.seenBinIds)) done known ?_
        · exact ⟨taken.params, taken.seed, taken.terminal, taken.once, taken.named⟩
        · intro nonempty sourceId touches
          by_contra wrong
          exact right ⟨seen, by rw [known]; rfl, nonempty, sourceId, touches, wrong⟩

end MettleDecoder

end Nextmini.Mettle
