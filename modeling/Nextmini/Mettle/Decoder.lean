import Mathlib.Data.Finset.Insert
import Nextmini.Mettle.Encoder

/-!
# METTLE decoder

The peeling decoder. The tree maps of the code are tree maps, its hash map of prefix sums is only
ever read by key, and its set of seen bins is a finite set. Each of its two loops removes one entry
of a map at every turn, so the size of that map is fuel enough. The counter of the next source is a
natural number; it stays within its word up to the release of source `2 ^ 64 - 1`.
-/

namespace Nextmini.Mettle

set_option autoImplicit false

structure DecodedSource (size : Nat) where
  sourceId : Nat
  payload : Payload size

structure BufferedBin (size : Nat) where
  payload : Payload size
  remainingTouchers : Nat

structure MettleDecoder (size : Nat) where
  params : MettleParams
  nextDecodedSourceId : Nat
  seed : UInt64
  terminalSourceCount : Option Nat
  decodedPrefixStartSourceId : Nat
  decodedPrefixPayloads : List (Payload size)
  decodedFuturePayloads : Std.ExtTreeMap Nat (Payload size)
  decodedTlePrefixXors : Std.ExtTreeMap Nat (Payload size)
  seenBinIds : Finset Nat
  receivedBins : Std.ExtTreeMap Nat (BufferedBin size)

variable {size : Nat}

namespace MettleDecoder

def decodedPrefixWindow : Nat := MettleParams.couplingWindow + 1

def newWithTerminalSourceCount (params : MettleParams) (seed : UInt64)
    (terminalSourceCount : Option Nat) : MettleDecoder size where
  params := params
  nextDecodedSourceId := 0
  seed := seed
  terminalSourceCount := terminalSourceCount
  decodedPrefixStartSourceId := 0
  decodedPrefixPayloads := []
  decodedFuturePayloads := ∅
  decodedTlePrefixXors := ∅
  seenBinIds := ∅
  receivedBins := ∅

def new (params : MettleParams) (seed : UInt64) : MettleDecoder size :=
  newWithTerminalSourceCount params seed none

def newTerminated (params : MettleParams) (seed : UInt64) (terminalSourceCount : Nat) :
    MettleDecoder size :=
  newWithTerminalSourceCount params seed (some terminalSourceCount)

/-! ## Queries -/

def edgeBinIds (decoder : MettleDecoder size) (sourceId : Nat) : List Nat :=
  decoder.params.edgeBinIdsWithTerminalSourceCount sourceId decoder.seed
    decoder.terminalSourceCount

def finished (decoder : MettleDecoder size) : Prop :=
  ∃ terminalSourceCount ∈ decoder.terminalSourceCount,
    terminalSourceCount ≤ decoder.nextDecodedSourceId

instance (decoder : MettleDecoder size) : Decidable decoder.finished :=
  inferInstanceAs (Decidable (∃ terminalSourceCount ∈ decoder.terminalSourceCount,
    terminalSourceCount ≤ decoder.nextDecodedSourceId))

def possibleSourceIdRangeForBin (decoder : MettleDecoder size) (binId : Nat) : Option (Nat × Nat) :=
  decoder.params.possibleSourceIdRangeForBin binId decoder.terminalSourceCount

def tleSourceIdForBin (decoder : MettleDecoder size) (binId : Nat) : Option Nat :=
  (decoder.params.latestSourceIdForBin binId).filter fun sourceId =>
    InStream decoder.terminalSourceCount sourceId ∧ decoder.params.tleBinId sourceId = binId

def isTleBinId (decoder : MettleDecoder size) (binId : Nat) : Bool :=
  (decoder.tleSourceIdForBin binId).isSome

def sourceIsDecoded (decoder : MettleDecoder size) (sourceId : Nat) : Prop :=
  sourceId < decoder.nextDecodedSourceId ∨ sourceId ∈ decoder.decodedFuturePayloads

instance (decoder : MettleDecoder size) (sourceId : Nat) :
    Decidable (decoder.sourceIsDecoded sourceId) :=
  inferInstanceAs (Decidable (_ ∨ _))

def decodedPrefixPayload (decoder : MettleDecoder size) (sourceId : Nat) : Option (Payload size) :=
  if sourceId < decoder.decodedPrefixStartSourceId then none
  else decoder.decodedPrefixPayloads[sourceId - decoder.decodedPrefixStartSourceId]?

def decodedSourcePayload (decoder : MettleDecoder size) (sourceId : Nat) : Option (Payload size) :=
  (decoder.decodedPrefixPayload sourceId).or decoder.decodedFuturePayloads[sourceId]?

/-- The sources that the two scans over a bin's range stop at. -/
def undecodedTouchers (decoder : MettleDecoder size) (binId : Nat) : List Nat :=
  match decoder.possibleSourceIdRangeForBin binId with
  | none => []
  | some (earliestSourceId, latestSourceId) =>
      let first := max earliestSourceId decoder.nextDecodedSourceId
      (List.range' first (latestSourceId + 1 - first)).filter fun sourceId =>
        ¬decoder.sourceIsDecoded sourceId ∧ binId ∈ decoder.edgeBinIds sourceId

def uniqueUndecodedToucherForBin (decoder : MettleDecoder size) (binId : Nat) : Option Nat :=
  match decoder.undecodedTouchers binId with
  | [sourceId] => some sourceId
  | _ => none

def countRemainingTouchers (decoder : MettleDecoder size) (binId : Nat) : Nat :=
  (decoder.undecodedTouchers binId).length

def findUniqueBinForNextSource (decoder : MettleDecoder size) : Option Nat :=
  (decoder.edgeBinIds decoder.nextDecodedSourceId).find? fun binId =>
    decoder.receivedBins[binId]?.any fun bin => bin.remainingTouchers = 1

def findUniqueFutureBin (decoder : MettleDecoder size) : Option (Nat × Nat) :=
  decoder.receivedBins.toList.findSome? fun (binId, bin) =>
    if bin.remainingTouchers ≠ 1 then none
    else
      match decoder.uniqueUndecodedToucherForBin binId with
      | none => none
      | some sourceId =>
          if decoder.nextDecodedSourceId < sourceId then some (sourceId, binId) else none

def binHasNoUndecodedTouchers (decoder : MettleDecoder size) (binId : Nat) : Prop :=
  decoder.finished ∨ binId < decoder.params.tleBinId decoder.nextDecodedSourceId

instance (decoder : MettleDecoder size) (binId : Nat) :
    Decidable (decoder.binHasNoUndecodedTouchers binId) :=
  inferInstanceAs (Decidable (_ ∨ _))

def xorPeeledPrefix (payload : Payload size) : Option (Payload size) → Payload size
  | some peeledPrefix => xorPayload payload peeledPrefix
  | none => payload

def peelKnownPrefixFromBin (decoder : MettleDecoder size) (binId : Nat) (payload : Payload size) :
    Payload size :=
  match decoder.tleSourceIdForBin binId with
  | some tleSourceId => xorPeeledPrefix payload decoder.decodedTlePrefixXors[tleSourceId]?
  | none =>
      match decoder.possibleSourceIdRangeForBin binId with
      | none => payload
      | some (earliestSourceId, latestSourceId) =>
          (List.range' earliestSourceId (latestSourceId + 1 - earliestSourceId)).foldl
            (fun payload sourceId =>
              match decoder.decodedSourcePayload sourceId with
              | some decodedPayload =>
                  if binId ∈ decoder.edgeBinIds sourceId then xorPayload payload decodedPayload
                  else payload
              | none => payload)
            payload

/-! ## Decoding a source -/

def applyDecodedSourceEdge (sourceId : Nat) (payload : Payload size) (decoder : MettleDecoder size)
    (binId : Nat) : MettleDecoder size :=
  { decoder with
    receivedBins := decoder.receivedBins.modify binId fun bin =>
      { payload := xorPayload bin.payload payload
        remainingTouchers := bin.remainingTouchers - 1 }
    decodedTlePrefixXors :=
      match decoder.tleSourceIdForBin binId with
      | none => decoder.decodedTlePrefixXors
      | some tleSourceId =>
          if tleSourceId ≤ sourceId then decoder.decodedTlePrefixXors
          else decoder.decodedTlePrefixXors.insert tleSourceId
            (xorPayload (decoder.decodedTlePrefixXors.getD tleSourceId 0) payload) }

@[irreducible] def applyDecodedSourceEdges (decoder : MettleDecoder size) (sourceId : Nat)
    (payload : Payload size) : MettleDecoder size :=
  (decoder.edgeBinIds sourceId).foldl (applyDecodedSourceEdge sourceId payload) decoder

def pushDecodedPrefixPayload (decoder : MettleDecoder size) (payload : Payload size) :
    MettleDecoder size :=
  let payloads := decoder.decodedPrefixPayloads ++ [payload]
  if decodedPrefixWindow < payloads.length then
    { decoder with
      decodedPrefixPayloads := payloads.tail
      decodedPrefixStartSourceId := decoder.decodedPrefixStartSourceId + 1 }
  else { decoder with decodedPrefixPayloads := payloads }

def dropBinsClosedByPrefix (decoder : MettleDecoder size) : MettleDecoder size :=
  if decoder.finished then
    { decoder with receivedBins := ∅, decodedTlePrefixXors := ∅, seenBinIds := ∅ }
  else
    let frontier := decoder.params.tleBinId decoder.nextDecodedSourceId
    { decoder with
      receivedBins := decoder.receivedBins.filter fun binId _ => frontier ≤ binId
      seenBinIds := decoder.seenBinIds.filter (frontier ≤ ·)
      decodedTlePrefixXors := decoder.decodedTlePrefixXors.filter fun sourceId _ =>
        decoder.nextDecodedSourceId ≤ sourceId }

def advancePrefix (decoder : MettleDecoder size) (payload : Payload size) : MettleDecoder size :=
  let pushed := decoder.pushDecodedPrefixPayload payload
  { pushed with nextDecodedSourceId := pushed.nextDecodedSourceId + 1 }

def releasePrefixSource (decoder : MettleDecoder size) (sourceId : Nat) (payload : Payload size) :
    MettleDecoder size × DecodedSource size :=
  ((decoder.advancePrefix payload).dropBinsClosedByPrefix, ⟨sourceId, payload⟩)

/-- One turn of the loop that releases what was decoded ahead. -/
def releaseAhead (decoder : MettleDecoder size) (payload : Payload size) :
    MettleDecoder size × DecodedSource size :=
  let next := decoder.nextDecodedSourceId
  let removed := { decoder with
    decodedFuturePayloads := decoder.decodedFuturePayloads.erase next }
  removed.releasePrefixSource next payload

def releaseFutures : Nat → MettleDecoder size → MettleDecoder size × List (DecodedSource size)
  | 0, decoder => (decoder, [])
  | fuel + 1, decoder =>
      match decoder.decodedFuturePayloads[decoder.nextDecodedSourceId]? with
      | none => (decoder, [])
      | some payload =>
          let (decoder, released) := decoder.releaseAhead payload
          let (decoder, later) := releaseFutures fuel decoder
          (decoder, released :: later)

def decodeSourceAndRelease (decoder : MettleDecoder size) (sourceId : Nat)
    (payload : Payload size) : MettleDecoder size × List (DecodedSource size) :=
  let decoder := decoder.applyDecodedSourceEdges sourceId payload
  if sourceId = decoder.nextDecodedSourceId then
    let (decoder, released) := decoder.releasePrefixSource sourceId payload
    let (decoder, later) := releaseFutures decoder.decodedFuturePayloads.size decoder
    (decoder, released :: later)
  else
    ({ decoder with
      decodedFuturePayloads := decoder.decodedFuturePayloads.insert sourceId payload }, [])

/-- One turn of the draining loop: a source is decoded from a bin that is taken out. -/
def drainOnce (decoder : MettleDecoder size) :
    Option (MettleDecoder size × List (DecodedSource size)) :=
  let decodeFrom (sourceId binId : Nat) :=
    decoder.receivedBins[binId]?.map fun bin =>
      let removed := { decoder with receivedBins := decoder.receivedBins.erase binId }
      removed.decodeSourceAndRelease sourceId bin.payload
  match decoder.findUniqueBinForNextSource with
  | some binId => decodeFrom decoder.nextDecodedSourceId binId
  | none =>
      match decoder.findUniqueFutureBin with
      | none => none
      | some (sourceId, binId) => decodeFrom sourceId binId

def drainTurns : Nat → MettleDecoder size → MettleDecoder size × List (DecodedSource size)
  | 0, decoder => (decoder, [])
  | fuel + 1, decoder =>
      match decoder.drainOnce with
      | none => (decoder, [])
      | some (decoder, decoded) =>
          let (decoder, later) := drainTurns fuel decoder
          (decoder, decoded ++ later)

def drainDecodableSources (decoder : MettleDecoder size) :
    MettleDecoder size × List (DecodedSource size) :=
  drainTurns decoder.receivedBins.size decoder

/-! ## Taking a bin -/

/-- What happens to a new bin once it is marked as seen. -/
def takeBin (decoder : MettleDecoder size) (binId : Nat) (payload : Payload size) :
    MettleDecoder size × List (DecodedSource size) :=
  let next := decoder.nextDecodedSourceId
  if binId = decoder.params.tleBinId next ∧ decoder.receivedBins.isEmpty then
    let payload := xorPeeledPrefix payload decoder.decodedTlePrefixXors[next]?
    let removed := { decoder with
      decodedTlePrefixXors := decoder.decodedTlePrefixXors.erase next }
    removed.decodeSourceAndRelease next payload
  else if ¬decoder.isTleBinId binId ∧ decoder.binHasNoUndecodedTouchers binId then (decoder, [])
  else
    let payload := decoder.peelKnownPrefixFromBin binId payload
    if binId = decoder.params.tleBinId next then
      let (decoder, decoded) := decoder.decodeSourceAndRelease next payload
      let (decoder, drained) := decoder.drainDecodableSources
      (decoder, decoded ++ drained)
    else
      let remainingTouchers := decoder.countRemainingTouchers binId
      if remainingTouchers = 0 then (decoder, [])
      else
        let stored := { decoder with
          receivedBins := decoder.receivedBins.insert binId ⟨payload, remainingTouchers⟩ }
        stored.drainDecodableSources

def pushBin (decoder : MettleDecoder size) (bin : MettleBin) :
    MettleDecoder size × List (DecodedSource size) :=
  if decoder.finished then (decoder, [])
  else
    match (Payload.ofBytes bin.payload : Option (Payload size)),
      decoder.params.latestSourceIdForBin bin.binId with
    | some payload, some _ =>
        if bin.binId ∈ decoder.seenBinIds then (decoder, [])
        else
          let marked := { decoder with seenBinIds := insert bin.binId decoder.seenBinIds }
          marked.takeBin bin.binId payload
    | _, _ => (decoder, [])

def pushBins : MettleDecoder size → List MettleBin →
    MettleDecoder size × List (DecodedSource size)
  | decoder, [] => (decoder, [])
  | decoder, bin :: rest =>
      let (decoder, decoded) := decoder.pushBin bin
      let (decoder, later) := decoder.pushBins rest
      (decoder, decoded ++ later)

/-- The next source is given up: zeros are released in its place. -/
def skipNextSourceWithoutEdges (decoder : MettleDecoder size) :
    MettleDecoder size × List (DecodedSource size) :=
  let (decoder, skipped) := decoder.releasePrefixSource decoder.nextDecodedSourceId 0
  let (decoder, drained) := decoder.drainDecodableSources
  (decoder, skipped :: drained)

end MettleDecoder

end Nextmini.Mettle
