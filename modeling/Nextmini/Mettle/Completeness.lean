import Nextmini.Mettle.DecoderCounts
import Nextmini.Mettle.EncodedStream
import Nextmini.Mettle.PackedSampling

/-!
# Completeness

What follows from the delivered bins by peeling is decoded once the last of them is taken. The
systematic bins of a terminated stream are enough for all of its sources, whatever else was
delivered in between.
-/

namespace Nextmini.Mettle

open Nextmini.Library

set_option autoImplicit false

variable {size : Nat}

namespace MettleDecoder

variable {decoder : MettleDecoder size} {bins : List MettleBin} {given : Set Nat}

theorem new_settled (params : MettleParams) (seed : UInt64) (terminal : Option Nat)
    (given : Set Nat) :
    (newWithTerminalSourceCount params seed terminal : MettleDecoder size).Settled [] given where
  ordered := new_ordered params seed terminal
  counts binId bin stored := by simp [newWithTerminalSourceCount] at stored
  covers binId delivery := by
    rcases delivery with ⟨⟨bin, member, _⟩, _⟩
    exact absurd member List.not_mem_nil
  stored binId member := absurd member Std.ExtTreeMap.not_mem_empty
  sound sourceId decoded := by
    rw [mem_decoded_sources, sourceIsDecoded] at decoded
    rcases decoded with before | future
    · exact absurd before (Nat.not_lt_zero sourceId)
    · exact absurd future Std.ExtTreeMap.not_mem_empty
  seen binId member := absurd member (Finset.notMem_empty binId)
  quiet binId member := absurd member Std.ExtTreeMap.not_mem_empty

/-- Between two pushes everything that follows from the delivered bins is decoded. -/
theorem Settled.decoded (settled : decoder.Settled bins given)
    (start : ∀ sourceId ∈ given, sourceId ∈ decoder.decodedSources) {sourceId : Nat}
    (peelable : Peeling.Peelable decoder.touchers (Delivered decoder.params bins) given sourceId) :
    sourceId ∈ decoder.decodedSources := by
  apply Peeling.peelable_known _ start peelable
  intro binId delivery only
  rcases settled.covers binId delivery with stored | complete
  · exact settled.quiet binId stored only
  · rw [Peeling.openTouchers, Finset.sdiff_eq_empty_iff_subset.mpr complete] at only
    exact Nat.zero_ne_one only

/-- Systematic bins peel one after another: the earlier sources are all that is left in them. -/
theorem systematic_peelable {count : Nat}
    (inStream : ∀ sourceId < count, InStream decoder.terminalSourceCount sourceId)
    (systematic : ∀ sourceId < count, Delivered decoder.params bins (decoder.params.tleBinId sourceId))
    {sourceId : Nat} (below : sourceId < count) :
    Peeling.Peelable decoder.touchers (Delivered decoder.params bins) given sourceId := by
  induction sourceId using Nat.strong_induction_on with
  | _ sourceId induction =>
    have member : decoder.params.tleBinId sourceId ∈
      Set.ofPred (Delivered decoder.params bins) := systematic sourceId below
    apply Peeling.Peelable.last member (systematic_touches (inStream sourceId below) rfl)
    intro other touches apart
    have upTo := Finset.mem_range.mp (systematic_touchers rfl touches)
    have earlier : other < sourceId := by omega
    exact induction other earlier (earlier.trans below)

theorem Ordered.all_released {count : Nat} (ordered : decoder.Ordered)
    (decoded : ∀ sourceId < count, sourceId ∈ decoder.decodedSources) :
    count ≤ decoder.nextDecodedSourceId := by
  by_contra running
  exact ordered.next_open (decoded _ (not_le.mp running))

/-- Bins of a stream whose sources have distinct edges suit a decoder of the stream. -/
theorem encoded_fair (distinct : ∀ sourceId, InStream decoder.terminalSourceCount sourceId →
      (decoder.edgeBinIds sourceId).Nodup) (source : Nat → Payload size) (binId : Nat) :
    decoder.Fair (encodedBin decoder.params decoder.seed decoder.terminalSourceCount source binId) := by
  constructor
  · exact ⟨_, Payload.of_to_bytes _⟩
  · exact clean_of_distinct distinct binId

end MettleDecoder

open MettleDecoder

/-- A terminated stream whose sources have distinct edges is released in full once all of its
systematic bins are delivered, in any order and among any other bins of the stream. -/
theorem systematic_bins_release_all {params : MettleParams} {seed : UInt64}
    {payloads : List (List UInt8)} {encoded delivered : List MettleBin}
    (fits : payloads.length < 2 ^ 64)
    (distinct : ∀ sourceId < payloads.length,
      (params.edgeBinIdsWithTerminalSourceCount sourceId seed (some payloads.length)).Nodup)
    (produced : (MettleEncoder.newTerminated params seed payloads.length :
      MettleEncoder size).encode payloads = some encoded)
    (genuine : ∀ bin ∈ delivered, bin ∈ encoded)
    (systematic : ∀ sourceId < payloads.length,
      ∃ bin ∈ delivered, bin.binId = params.tleBinId sourceId) :
    ((MettleDecoder.newTerminated params seed payloads.length : MettleDecoder size).pushBins
      delivered).2.map DecodedSource.sourceId = List.range payloads.length := by
  have start := @new_settled size params seed (some payloads.length) ∅
  have fair : ∀ bin ∈ delivered, (newTerminated params seed payloads.length :
      MettleDecoder size).Fair bin := by
    intro bin member
    have listed := genuine bin member
    rw [encoded_bins produced] at listed
    rcases List.mem_map.mp listed with ⟨binId, _, rfl⟩
    exact @encoded_fair size (newTerminated params seed payloads.length)
      (fun sourceId inStream => distinct sourceId (in_stream_some.mp inStream)) _ binId
  have settled := push_bins_settled start fair
  have released := (push_bins_ordered start.ordered delivered).2
  rw [newTerminated]
  generalize (newWithTerminalSourceCount params seed (some payloads.length) :
    MettleDecoder size).pushBins delivered = result at settled released
  have sameParams : result.1.params = params := released.params
  have terminal : result.1.terminalSourceCount = some payloads.length := released.terminal
  have received : ∀ sourceId < payloads.length,
      Delivered result.1.params ([] ++ delivered) (result.1.params.tleBinId sourceId) := by
    intro sourceId below
    rw [sameParams, List.nil_append]
    exact ⟨systematic sourceId below, sourceId, params.latest_of_tle (below.trans fits)⟩
  have inStream : ∀ sourceId < payloads.length, InStream result.1.terminalSourceCount sourceId := by
    rw [terminal]
    exact fun sourceId => in_stream_some.mpr
  have reached := settled.ordered.all_released fun sourceId below =>
    settled.decoded (fun _ member => absurd member (Set.notMem_empty _))
      (systematic_peelable inStream received below)
  have bounded := settled.ordered.bounded _ terminal
  rw [released.ids, List.range_eq_range']
  have next := released.next
  have zero : (newWithTerminalSourceCount params seed (some payloads.length) :
    MettleDecoder size).nextDecodedSourceId = 0 := rfl
  rw [zero, Nat.zero_add] at next
  rw [zero, ← next, Nat.le_antisymm bounded reached]

def pairBin (binId : Nat) : MettleBin :=
  encodedBin .perThousand 7 (some 2) (sourcePayload [[5], [7]] : Nat → Payload 1) binId

/-- A bin of the first source comes between the two systematic ones, and one of these twice. -/
theorem two_sources_released : ((MettleDecoder.newTerminated .perThousand 7 2 :
      MettleDecoder 1).pushBins ([1, 317, 1, 0].map pairBin)).2.map DecodedSource.sourceId =
        [0, 1] := by
  have produced := @encode_terminated 1 .perThousand 7 [[5], [7]] (by decide)
  have packed : ∀ sourceId < 2, (MettleParams.perThousand.packedEdgeBinIds (lanesOf 600) sourceId 7
      (some 2)).Nodup := by decide +kernel
  have behind : 317 < MettleParams.perThousand.terminalDepartureEndExclusive 2 := by decide +kernel
  apply @systematic_bins_release_all 1 .perThousand 7 [[5], [7]] _ _ (by decide) _ produced
  · intro bin member
    rcases List.mem_map.mp member with ⟨binId, named, rfl⟩
    apply List.mem_map_of_mem
    rw [List.mem_range]
    have small : ∀ binId ∈ [1, 317, 1, 0], binId ≤ 317 := by decide
    exact lt_of_le_of_lt (small binId named) behind
  · intro sourceId below
    have listed : ∀ sourceId < 2, sourceId ∈ [1, 317, 1, 0] ∧
        MettleParams.perThousand.tleBinId sourceId = sourceId := by decide
    rcases listed sourceId below with ⟨named, own⟩
    exact ⟨_, List.mem_map_of_mem named, own.symm⟩
  · intro sourceId below
    rw [MettleParams.per_thousand_edges (in_stream_some.mpr below)]
    exact packed sourceId below

end Nextmini.Mettle
