import Mathlib.Algebra.Ring.Parity
import Nextmini.Mettle.DecodedFrom
import Nextmini.Mettle.PackedSampling

/-!
# Soundness

Runs of a decoder on bins of a terminated stream, in any order and with any losses and repetitions.
As long as no new bin is misread, what is released is what was pushed, and each stored bin is the
sum of its open sources and counts them. With distinct edges there is one way to misread a bin: it
is the systematic bin of a source that was decoded ahead, and another of its sources is open.
-/

namespace Nextmini.Mettle

open Nextmini.Library
open Nextmini.Library.Peeling (openTouchers)
open Nextmini.Library.TransitionSystem (history_of_run)

set_option autoImplicit false

variable {size : Nat}

/-- A decoder that is given bins one after another, with what each of them releases. -/
def decoding (params : MettleParams) (seed : UInt64) (terminal : Option Nat)
    (encoded : List MettleBin) :
    TransitionSystem (MettleDecoder size) (MettleBin × List (DecodedSource size)) where
  initial decoder := decoder = .newWithTerminalSourceCount params seed terminal
  step decoder label next := label.1 ∈ encoded ∧ decoder.pushBin label.1 = (next, label.2)

namespace MettleDecoder

variable {decoder : MettleDecoder size} {sourceId binId : Nat} {source : Nat → Payload size}

/-- A new bin with open sources whose own source was decoded ahead and is not zero. -/
def Overtaken (decoder : MettleDecoder size) (source : Nat → Payload size) (binId : Nat) : Prop :=
  binId ∉ decoder.seenBinIds ∧ (decoder.params.latestSourceIdForBin binId).isSome ∧
    (openTouchers decoder.touchers decoder.decodedSources binId).Nonempty ∧
      ∃ sourceId, decoder.tleSourceIdForBin binId = some sourceId ∧
        decoder.sourceIsDecoded sourceId ∧ source sourceId ≠ 0

/-- With distinct edges a misread bin is an overtaken one. -/
theorem Misread.overtaken (clean : decoder.Clean binId) (misread : decoder.Misread source binId) :
    decoder.Overtaken source binId := by
  rcases misread with ⟨fresh, known, nonempty, sourceId, touches, wrong⟩
  have once := clean sourceId touches
  have whole : decoder.share source binId sourceId = source sourceId := by
    rw [share, once, one_nsmul]
  refine ⟨fresh, known, nonempty, ?_⟩
  rw [Reads, whole, once] at wrong
  split_ifs at wrong with decoded
  · cases systematic : decoder.tleSourceIdForBin binId with
    | none =>
      rw [systematic] at wrong
      exact absurd rfl wrong
    | some tleSourceId =>
      rw [systematic] at wrong
      simp only [Classical.not_imp] at wrong
      rcases wrong with ⟨rfl, nonzero⟩
      exact ⟨sourceId, rfl, decoded, nonzero⟩
  · exact absurd rfl wrong

end MettleDecoder

open MettleDecoder

variable {params : MettleParams} {seed : UInt64} {payloads : List (List UInt8)}
variable {encoded : List MettleBin} {decoder : MettleDecoder size}
variable {labels : List (MettleBin × List (DecodedSource size))}

structure Following (params : MettleParams) (seed : UInt64) (terminal : Option Nat)
    (source : Nat → Payload size) (decoder : MettleDecoder size) : Prop
    extends Sound source 0 decoder where
  sameParams : decoder.params = params
  sameSeed : decoder.seed = seed
  sameTerminal : decoder.terminalSourceCount = terminal

theorem push_bin_following {terminal : Option Nat} {source : Nat → Payload size} {binId : Nat}
    (following : Following params seed terminal source decoder)
    (right : ¬decoder.Misread source binId) :
    let result := decoder.pushBin (encodedBin params seed terminal source binId)
    Following params seed terminal source result.1 ∧ GenuineOutputs source result.2 := by
  have released := (push_bin_ordered following.ordered
    (encodedBin params seed terminal source binId)).2
  have kept := push_bin_sound following.toSound right
  rw [following.sameParams, following.sameSeed, following.sameTerminal] at kept
  exact ⟨⟨kept.1, released.params.trans following.sameParams,
    released.seed.trans following.sameSeed, released.terminal.trans following.sameTerminal⟩, kept.2⟩

/-- The rule for runs: what a decoder releases stays genuine while no bin is misread. -/
theorem following_of_run {terminal : Option Nat} {source : Nat → Payload size}
    {guard : MettleDecoder size → MettleBin × List (DecodedSource size) → Prop}
    (listed : ∀ bin ∈ encoded, bin = encodedBin params seed terminal source bin.binId)
    (right : ∀ (decoder : MettleDecoder size) label,
      Following params seed terminal source decoder → guard decoder label →
        ¬decoder.Misread source label.1.binId)
    (run : ((decoding params seed terminal encoded).restrict guard).Run
      (.newWithTerminalSourceCount params seed terminal) labels decoder) :
    Following params seed terminal source decoder ∧
      ∀ label ∈ labels, GenuineOutputs source label.2 := by
  apply history_of_run (motive := fun labels decoder =>
    Following params seed terminal source decoder ∧
      ∀ label ∈ labels, GenuineOutputs source label.2) run
  · exact ⟨⟨new_sound params seed terminal source, rfl, rfl, rfl⟩, by simp⟩
  · rintro before state ⟨bin, released⟩ next _ ⟨following, earlier⟩ ⟨guarded, member, pushed⟩
    have kept := push_bin_following following (right state (bin, released) following guarded)
    rw [← listed bin member, pushed] at kept
    refine ⟨kept.1, ?_⟩
    intro label labelMember
    rcases List.mem_append.mp labelMember with old | new
    · exact earlier label old
    · rw [List.mem_singleton.mp new]
      exact kept.2

theorem encoded_listed
    (produced : (MettleEncoder.newTerminated params seed payloads.length :
      MettleEncoder size).encode payloads = some encoded) :
    ∀ bin ∈ encoded, bin = encodedBin params seed (some payloads.length)
      (sourcePayload payloads : Nat → Payload size) bin.binId := by
  intro bin member
  rw [encoded_bins produced] at member
  rcases List.mem_map.mp member with ⟨binId, _, rfl⟩
  rfl

/-- On a stream whose sources have distinct edges, a decoder that takes no overtaken bin releases
the payloads that were pushed. -/
theorem released_payloads_genuine
    (produced : (MettleEncoder.newTerminated params seed payloads.length :
      MettleEncoder size).encode payloads = some encoded)
    (distinct : ∀ sourceId < payloads.length,
      (params.edgeBinIdsWithTerminalSourceCount sourceId seed (some payloads.length)).Nodup)
    (run : ((decoding params seed (some payloads.length) encoded).restrict
      fun decoder label => ¬decoder.Overtaken (sourcePayload payloads) label.1.binId).Run
        (.newTerminated params seed payloads.length) labels decoder) :
    ∀ label ∈ labels, ∀ released ∈ label.2,
      released.payload = sourcePayload payloads released.sourceId := by
  apply (following_of_run (encoded_listed produced) _ run).2
  intro decoder label following guarded misread
  apply guarded
  apply misread.overtaken
  apply clean_of_distinct
  intro sourceId inStream
  rw [following.sameTerminal] at inStream
  rw [edgeBinIds, following.sameParams, following.sameSeed, following.sameTerminal]
  exact distinct sourceId (in_stream_some.mp inStream)

theorem push_step (params : MettleParams) (seed : UInt64) (terminal : Option Nat)
    (decoder : MettleDecoder size) {bin : MettleBin} (member : bin ∈ encoded) :
    (decoding params seed terminal encoded).step decoder (bin, (decoder.pushBin bin).2)
      (decoder.pushBin bin).1 :=
  ⟨member, (Prod.eta _).symm⟩

theorem new_undecoded (terminal : Option Nat) (sourceId : Nat) :
    ¬(newWithTerminalSourceCount params seed terminal : MettleDecoder size).sourceIsDecoded
      sourceId := by
  simp [sourceIsDecoded, newWithTerminalSourceCount]

/-! ## Two sources that share a bin -/

def sharedPayloads : List (List UInt8) := [[5], [7]]

def sharedBin (binId : Nat) : MettleBin :=
  encodedBin .perThousand 1242 (some 2) (sourcePayload sharedPayloads : Nat → Payload 1) binId

def sharedStream : List MettleBin :=
  (List.range (MettleParams.perThousand.terminalDepartureEndExclusive 2)).map sharedBin

/-- The decoder after bin 264, which has an edge of each of the two sources. -/
def sharing : MettleDecoder 1 := ((newTerminated .perThousand 1242 2).pushBin (sharedBin 264)).1

theorem shared_encoded :
    (MettleEncoder.newTerminated .perThousand 1242 2 : MettleEncoder 1).encode sharedPayloads =
      some sharedStream :=
  @encode_terminated 1 .perThousand 1242 sharedPayloads (by decide)

theorem shared_edges (sourceId : Nat) (below : sourceId < 2) :
    MettleParams.perThousand.edgeBinIdsWithTerminalSourceCount sourceId 1242 (some 2) =
      if sourceId = 0 then [0, 264, 450, 531] else [1, 140, 228, 264] := by
  have packed : ∀ sourceId < 2, MettleParams.perThousand.packedEdgeBinIds (lanesOf 600) sourceId
      1242 (some 2) = if sourceId = 0 then [0, 264, 450, 531] else [1, 140, 228, 264] := by
    decide +kernel
  rw [MettleParams.per_thousand_edges (in_stream_some.mpr below)]
  exact packed sourceId below

theorem shared_edges_distinct (sourceId : Nat) (below : sourceId < 2) :
    (MettleParams.perThousand.edgeBinIdsWithTerminalSourceCount sourceId 1242 (some 2)).Nodup := by
  rw [shared_edges sourceId below]
  split_ifs <;> decide

theorem shared_bin_listed {binId : Nat} (small : binId < 300) : sharedBin binId ∈ sharedStream := by
  have behind : 300 ≤ MettleParams.perThousand.terminalDepartureEndExclusive 2 := by decide +kernel
  exact List.mem_map_of_mem (List.mem_range.mpr (small.trans_le behind))

theorem sharing_setup : sharing.params = .perThousand ∧ sharing.seed = 1242 ∧
    sharing.terminalSourceCount = some 2 := by
  have kept := (push_bin_ordered (@new_ordered 1 .perThousand 1242 (some 2)) (sharedBin 264)).2
  rw [sharing, newTerminated]
  exact ⟨kept.params, kept.seed, kept.terminal⟩

/-- Neither of the two sources is decoded, and the bin is stored. The systematic bin of the first
source releases both, each from a bin of its own. -/
theorem sharing_state : sharing.nextDecodedSourceId = 0 ∧ sharing.decodedFuturePayloads.isEmpty ∧
    264 ∈ sharing.receivedBins ∧
    (sharing.pushBin (sharedBin 0)).2.map DecodedSource.sourceId = [0, 1] ∧
    sharing.decodedFrom (sharedBin 0) = [(0, 0), (1, 264)] := by
  decide +kernel

theorem sharing_undecoded (sourceId : Nat) : ¬sharing.sourceIsDecoded sourceId := by
  rw [sourceIsDecoded, sharing_state.1, Std.ExtTreeMap.isEmpty_iff.mp sharing_state.2.1]
  simp

theorem sharing_run {guard : MettleDecoder 1 → MettleBin × List (DecodedSource 1) → Prop}
    (guarded : ∀ released, guard (newTerminated .perThousand 1242 2) (sharedBin 264, released)) :
    ((decoding .perThousand 1242 (some 2) sharedStream).restrict guard).Run
      (newTerminated .perThousand 1242 2)
      [(sharedBin 264, ((newTerminated .perThousand 1242 2).pushBin (sharedBin 264)).2)] sharing :=
  .single ⟨guarded _, push_step _ _ _ _ (shared_bin_listed (by decide))⟩

/-- Behind bin 264 the systematic bin of the first source releases both as they were pushed. -/
theorem shared_payloads_genuine :
    (sharing.pushBin (sharedBin 0)).2.map DecodedSource.sourceId = [0, 1] ∧
      ∀ released ∈ (sharing.pushBin (sharedBin 0)).2,
        released.payload = sourcePayload sharedPayloads released.sourceId := by
  refine ⟨sharing_state.2.2.2.1, ?_⟩
  have undecoded {decoder : MettleDecoder 1} (none : ∀ sourceId, ¬decoder.sourceIsDecoded sourceId)
      (binId : Nat) : ¬decoder.Overtaken (sourcePayload sharedPayloads) binId := by
    rintro ⟨_, _, _, sourceId, _, decoded, _⟩
    exact none sourceId decoded
  have first : ((decoding .perThousand 1242 (some 2) sharedStream).restrict
      fun decoder label => ¬decoder.Overtaken (sourcePayload sharedPayloads) label.1.binId).step
        sharing (sharedBin 0, (sharing.pushBin (sharedBin 0)).2) (sharing.pushBin (sharedBin 0)).1 :=
    ⟨undecoded sharing_undecoded 0, push_step _ _ _ _ (shared_bin_listed (by decide))⟩
  have run := (@sharing_run (fun decoder label =>
    ¬decoder.Overtaken (sourcePayload sharedPayloads) label.1.binId) fun _ =>
      undecoded (new_undecoded (some 2)) 264).append (.single first)
  have genuine := @released_payloads_genuine 1 .perThousand 1242 sharedPayloads sharedStream _ _
    shared_encoded shared_edges_distinct run (sharedBin 0, (sharing.pushBin (sharedBin 0)).2)
    (List.mem_append_right _ (List.mem_singleton_self _))
  dsimp only at genuine
  exact genuine

/-- Whatever edges coincide, as long as no new bin is misread each stored bin holds its open
sources once for each of their edges and counts those that do not cancel, and what is decoded is
what was pushed. In a push that does not misread its bin no source is decoded from a bin in which its
edges cancel. -/
theorem stored_bins_exact
    (produced : (MettleEncoder.newTerminated params seed payloads.length :
      MettleEncoder size).encode payloads = some encoded)
    (run : ((decoding params seed (some payloads.length) encoded).restrict
      fun decoder label => ¬decoder.Misread (sourcePayload payloads) label.1.binId).Run
        (.newTerminated params seed payloads.length) labels decoder) :
    (∀ binId bin, decoder.receivedBins[binId]? = some bin →
      bin.payload = ∑ sourceId ∈ Finset.range payloads.length with
          ¬decoder.sourceIsDecoded sourceId,
        (params.edgeBinIdsWithTerminalSourceCount sourceId seed (some payloads.length)).count
          binId • (sourcePayload payloads sourceId : Payload size) ∧
      bin.remainingTouchers = (Finset.filter (fun sourceId => ¬decoder.sourceIsDecoded sourceId ∧
        Odd ((params.edgeBinIdsWithTerminalSourceCount sourceId seed
          (some payloads.length)).count binId)) (Finset.range payloads.length)).card) ∧
      (∀ sourceId payload, decoder.decodedFuturePayloads[sourceId]? = some payload →
        payload = sourcePayload payloads sourceId) ∧
      (∀ label ∈ labels, ∀ released ∈ label.2,
        released.payload = sourcePayload payloads released.sourceId) ∧
      ∀ bin ∈ encoded, ¬decoder.Misread (sourcePayload payloads) bin.binId →
        (∀ sourceId, (decoder.pushBin bin).1.sourceIsDecoded sourceId →
          decoder.sourceIsDecoded sourceId ∨
            ∃ binId, (sourceId, binId) ∈ decoder.decodedFrom bin) ∧
        ∀ sourceId binId, (sourceId, binId) ∈ decoder.decodedFrom bin →
          Odd ((params.edgeBinIdsWithTerminalSourceCount sourceId seed
            (some payloads.length)).count binId) := by
  have listed := @encoded_listed size params seed payloads encoded produced
  generalize (sourcePayload payloads : Nat → Payload size) = source at listed run
  rcases following_of_run listed (fun _ _ _ => id) run with ⟨following, outputs⟩
  have edges : decoder.edgeBinIds = fun sourceId => params.edgeBinIdsWithTerminalSourceCount
      sourceId seed (some payloads.length) := by
    funext sourceId
    rw [edgeBinIds, following.sameParams, following.sameSeed, following.sameTerminal]
  refine ⟨?_, following.genuine.futures, outputs, ?_⟩
  rotate_left
  · intro bin member right
    have parsed : Payload.ofBytes bin.payload = some (decoder.valueOf source bin.binId) := by
      rw [listed bin member, encodedBin, Payload.of_to_bytes, ← bin_value_eq, following.sameParams,
        following.sameSeed, following.sameTerminal]
    have decoded := push_decoded_by following.toSound parsed right
    refine ⟨decoded.named, ?_⟩
    intro sourceId binId named
    have once := decoded.once _ named
    rw [edges] at once
    rw [once]
    exact odd_one
  intro binId bin stored
  rcases following.counts binId bin stored with ⟨once, count⟩
  have openIff (sourceId : Nat) :
      sourceId ∈ openTouchers decoder.touchers decoder.decodedSources binId ↔
        (sourceId < payloads.length ∧ ¬decoder.sourceIsDecoded sourceId) ∧
          binId ∈ decoder.edgeBinIds sourceId := by
    rw [Peeling.mem_open_touchers, mem_touchers, mem_decoded_sources, following.sameTerminal,
      in_stream_some]
    tauto
  constructor
  · have openShares : ∑ sourceId ∈ openTouchers decoder.touchers decoder.decodedSources binId,
        source sourceId = ∑ sourceId ∈ openTouchers decoder.touchers decoder.decodedSources binId,
          (decoder.edgeBinIds sourceId).count binId • source sourceId := by
      apply Finset.sum_congr rfl
      intro sourceId member
      rw [once sourceId member, one_nsmul]
    rw [following.genuine.stored binId bin stored, Peeling.residue, openShares, edges]
    apply Finset.sum_subset
    · intro sourceId member
      rw [Finset.mem_filter, Finset.mem_range]
      exact ((openIff sourceId).mp member).1
    · intro sourceId member apart
      rw [Finset.mem_filter, Finset.mem_range] at member
      rw [List.count_eq_zero_of_not_mem, zero_nsmul]
      intro edge
      apply apart
      rw [openIff, edges]
      exact ⟨member, edge⟩
  · rw [count]
    congr 1
    ext sourceId
    rw [openIff, Finset.mem_filter, Finset.mem_range, and_assoc, edges]
    constructor
    · rintro ⟨below, fresh, edge⟩
      have single := once sourceId ((openIff sourceId).mpr ⟨⟨below, fresh⟩, by rwa [edges]⟩)
      rw [edges] at single
      refine ⟨below, fresh, ?_⟩
      rw [single]
      exact odd_one
    · rintro ⟨below, fresh, odd⟩
      exact ⟨below, fresh, List.count_pos_iff.mp odd.pos⟩

/-- Bin 264 is stored with both of its sources open. The systematic bin of the first one decodes them
from bins 0 and 264. -/
theorem shared_bin_exact :
    (∃ bin, sharing.receivedBins[264]? = some bin ∧ bin.remainingTouchers = 2 ∧
      bin.payload = sourcePayload sharedPayloads 0 + sourcePayload sharedPayloads 1) ∧
      sharing.decodedFrom (sharedBin 0) = [(0, 0), (1, 264)] ∧
        ∀ sourceId binId, (sourceId, binId) ∈ sharing.decodedFrom (sharedBin 0) →
          Odd ((MettleParams.perThousand.edgeBinIdsWithTerminalSourceCount sourceId 1242
            (some 2)).count binId) := by
  -- no source is decoded yet, and the edges of each are distinct
  have right {decoder : MettleDecoder 1} (setup : decoder.params = .perThousand ∧
      decoder.seed = 1242 ∧ decoder.terminalSourceCount = some 2)
      (undecoded : ∀ sourceId, ¬decoder.sourceIsDecoded sourceId) (binId : Nat) :
      ¬decoder.Misread (sourcePayload sharedPayloads) binId := by
    rcases setup with ⟨params, seed, terminal⟩
    rintro ⟨_, _, _, sourceId, touches, wrong⟩
    apply wrong
    rw [Reads, if_neg (undecoded sourceId)]
    rcases mem_touchers.mp touches with ⟨inStream, edge⟩
    rw [terminal] at inStream
    rw [edgeBinIds, params, seed, terminal] at edge ⊢
    exact List.count_eq_one_of_mem (shared_edges_distinct sourceId (in_stream_some.mp inStream)) edge
  have run := @sharing_run (fun decoder label =>
    ¬decoder.Misread (sourcePayload sharedPayloads) label.1.binId) fun _ =>
      right ⟨rfl, rfl, rfl⟩ (new_undecoded (some 2)) 264
  rcases @stored_bins_exact 1 .perThousand 1242 sharedPayloads sharedStream _ _ shared_encoded run
    with ⟨bins, _, _, decoded⟩
  refine ⟨?_, sharing_state.2.2.2.2, ?_⟩
  · rcases (mem_iff_get _ _).mp sharing_state.2.2.1 with ⟨bin, stored⟩
    rcases bins 264 bin stored with ⟨payload, touchers⟩
    have both : (Finset.range sharedPayloads.length).filter
        (fun sourceId => ¬sharing.sourceIsDecoded sourceId) = {0, 1} := by
      rw [Finset.filter_true_of_mem fun sourceId _ => sharing_undecoded sourceId]
      rfl
    have hits : ∀ sourceId ∈ ({0, 1} : Finset Nat),
        (MettleParams.perThousand.edgeBinIdsWithTerminalSourceCount sourceId 1242
          (some 2)).count 264 = 1 := by
      intro sourceId member
      have below : sourceId < 2 := by
        simp only [Finset.mem_insert, Finset.mem_singleton] at member
        omega
      rw [shared_edges sourceId below]
      split_ifs <;> decide
    refine ⟨bin, stored, ?_, ?_⟩
    · rw [touchers, ← Finset.filter_filter, both, Finset.filter_true_of_mem]
      · rfl
      · intro sourceId member
        rw [show (some sharedPayloads.length) = some 2 from rfl, hits sourceId member]
        exact odd_one
    · rw [payload, both, Finset.sum_pair Nat.zero_ne_one,
        show (some sharedPayloads.length) = some 2 from rfl, hits 0 (by decide),
        hits 1 (by decide), one_nsmul, one_nsmul]
  · exact (decoded _ (shared_bin_listed (by decide))
      (right sharing_setup sharing_undecoded 0)).2

/-- Two edges of the source fall on bin 259 and cancel there, and the source is decoded from it. -/
theorem cancelled_source_decoded :
    ∃ (encoded : List MettleBin) (decoder : MettleDecoder 1) (released : List (DecodedSource 1)),
      (MettleEncoder.newTerminated .perThousand 238001 1 : MettleEncoder 1).encode [[1]] =
          some encoded ∧
        (decoding .perThousand 238001 (some 1) encoded).Run
          (.newTerminated .perThousand 238001 1) [(⟨259, [0]⟩, released)] decoder ∧
        (MettleParams.perThousand.edgeBinIdsWithTerminalSourceCount 0 238001 (some 1)).count
          259 = 2 ∧
        ∃ one ∈ released, one.sourceId = 0 ∧ one.payload ≠ sourcePayload [[1]] 0 := by
  have produced := @encode_terminated 1 .perThousand 238001 [[1]] (by decide)
  have twice : (MettleParams.perThousand.edgeBinIdsWithTerminalSourceCount 0 238001
      (some 1)).count 259 = 2 := by decide +kernel
  have behind : (259 : Nat) ∈ List.range
      (MettleParams.perThousand.terminalDepartureEndExclusive 1) := by decide +kernel
  have cancelled : encodedBin .perThousand 238001 (some 1)
      (sourcePayload [[1]] : Nat → Payload 1) 259 = ⟨259, [0]⟩ := by decide +kernel
  have released : ((MettleDecoder.newTerminated .perThousand 238001 1 : MettleDecoder 1).pushBin
      ⟨259, [0]⟩).2.map (fun one => (one.sourceId, one.payload)) = [(0, 0)] := by decide +kernel
  have member := List.mem_map_of_mem (f := encodedBin .perThousand 238001 (some 1)
    (sourcePayload [[1]] : Nat → Payload 1)) behind
  rw [cancelled] at member
  have listed : ((0 : Nat), (0 : Payload 1)) ∈ ((MettleDecoder.newTerminated .perThousand 238001 1 :
      MettleDecoder 1).pushBin ⟨259, [0]⟩).2.map (fun one => (one.sourceId, one.payload)) := by
    rw [released]
    exact List.mem_singleton_self _
  rcases List.mem_map.mp listed with ⟨one, oneMember, same⟩
  have wrong : one.payload ≠ sourcePayload [[1]] 0 := by
    rw [show one.payload = 0 from congrArg Prod.snd same]
    decide
  have step := @push_step 1 _ .perThousand 238001 (some 1) (.newTerminated .perThousand 238001 1) _
    member
  exact ⟨_, _, _, produced, .single step, twice, one, oneMember, congrArg Prod.fst same, wrong⟩

end Nextmini.Mettle
