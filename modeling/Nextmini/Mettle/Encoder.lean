import Std.Data.ExtTreeMap
import Mathlib.Algebra.BigOperators.Group.Finset.Basic
import Nextmini.Library.TransitionSystem
import Nextmini.Mettle.Payload
import Nextmini.Mettle.Windows

/-!
# METTLE encoder

The encoder, whose open bins are a tree map as in the code, and what it emits. The size of a symbol
is a parameter of the types. A failed assertion of `push_source` is `none`.
-/

namespace Nextmini.Mettle

open Nextmini.Library.TransitionSystem (execute)

set_option autoImplicit false

structure MettleBin where
  binId : Nat
  payload : List UInt8
  deriving DecidableEq, Repr

abbrev OpenBins (size : Nat) := Std.ExtTreeMap Nat (Payload size)

structure MettleEncoder (size : Nat) where
  params : MettleParams
  nextSourceId : Nat
  nextDepartureBinId : Nat
  seed : UInt64
  terminalSourceCount : Option Nat
  openBins : OpenBins size

variable {size : Nat}

/-- The emission loop: the bins of a range, with the next finalized payload where its id is
reached and zeros elsewhere. -/
def emitBins : List Nat → List (Nat × Payload size) → List MettleBin
  | [], _ => []
  | binId :: rest, [] => ⟨binId, (0 : Payload size).toBytes⟩ :: emitBins rest []
  | binId :: rest, (finalizedBinId, payload) :: finalized =>
      if finalizedBinId = binId then ⟨binId, payload.toBytes⟩ :: emitBins rest finalized
      else ⟨binId, (0 : Payload size).toBytes⟩ :: emitBins rest ((finalizedBinId, payload) :: finalized)

def addEdge (payload : Payload size) (openBins : OpenBins size) (binId : Nat) : OpenBins size :=
  openBins.insert binId (xorPayload (openBins.getD binId 0) payload)

namespace MettleEncoder

def newWithTerminalSourceCount (params : MettleParams) (seed : UInt64)
    (terminalSourceCount : Option Nat) : MettleEncoder size where
  params := params
  nextSourceId := 0
  nextDepartureBinId := 0
  seed := seed
  terminalSourceCount := terminalSourceCount
  openBins := ∅

def new (params : MettleParams) (seed : UInt64) : MettleEncoder size :=
  newWithTerminalSourceCount params seed none

def newTerminated (params : MettleParams) (seed : UInt64) (terminalSourceCount : Nat) :
    MettleEncoder size :=
  newWithTerminalSourceCount params seed (some terminalSourceCount)

def edgeBinIds (encoder : MettleEncoder size) (sourceId : Nat) : List Nat :=
  encoder.params.edgeBinIdsWithTerminalSourceCount sourceId encoder.seed
    encoder.terminalSourceCount

def takeFinalizedBinsUntil (encoder : MettleEncoder size) (endExclusive : Nat) :
    MettleEncoder size × List MettleBin :=
  let futureBins := encoder.openBins.filter fun binId _ => endExclusive ≤ binId
  let finalizedBins := encoder.openBins.filter fun binId _ => binId < endExclusive
  let departing := List.range' encoder.nextDepartureBinId
    (endExclusive - encoder.nextDepartureBinId)
  ({ encoder with openBins := futureBins, nextDepartureBinId := endExclusive },
    emitBins departing finalizedBins.toList)

def pushSource (encoder : MettleEncoder size) (payload : List UInt8) :
    Option (MettleEncoder size × List MettleBin) :=
  if payload.length ≤ size ∧ InStream encoder.terminalSourceCount encoder.nextSourceId then
    let openBins := (encoder.edgeBinIds encoder.nextSourceId).foldl
      (addEdge (Payload.padded payload)) encoder.openBins
    let nextSourceId := encoder.nextSourceId + 1
    let pushed := { encoder with openBins := openBins, nextSourceId := nextSourceId }
    some (pushed.takeFinalizedBinsUntil
      (encoder.params.departureFrontierAfterSourceCount nextSourceId))
  else none

def flushOpenBins (encoder : MettleEncoder size) : List MettleBin :=
  encoder.openBins.toList.map fun (binId, payload) => ⟨binId, payload.toBytes⟩

def finish (encoder : MettleEncoder size) : List MettleBin :=
  match encoder.terminalSourceCount with
  | some terminalSourceCount =>
      (encoder.takeFinalizedBinsUntil
        (encoder.params.terminalDepartureEndExclusive terminalSourceCount)).2
  | none => encoder.flushOpenBins

def encode (encoder : MettleEncoder size) (payloads : List (List UInt8)) :
    Option (List MettleBin) :=
  (execute pushSource encoder payloads).map fun (finished, outputs) =>
    (outputs.map Prod.snd).flatten ++ finished.finish

end MettleEncoder

/-! ## Open bins -/

theorem getD_add_edge (payload : Payload size) (openBins : OpenBins size) (added binId : Nat) :
    (addEdge payload openBins added).getD binId 0 =
      openBins.getD binId 0 + if added = binId then payload else 0 := by
  rw [addEdge, Std.ExtTreeMap.getD_insert, Payload.xor_eq_add]
  by_cases same : added = binId
  · subst same
    simp
  · simp [same]

theorem getD_add_edges (payload : Payload size) (edges : List Nat) (openBins : OpenBins size)
    (binId : Nat) : (edges.foldl (addEdge payload) openBins).getD binId 0 =
      openBins.getD binId 0 + edges.count binId • payload := by
  induction edges generalizing openBins with
  | nil => simp
  | cons edge rest induction =>
    rw [List.foldl_cons, induction, getD_add_edge, List.count_cons, add_nsmul, add_assoc,
      add_comm (rest.count binId • payload)]
    by_cases same : edge = binId
    · simp only [same, beq_self_eq_true, if_true, one_nsmul]
    · simp [same]

theorem mem_add_edges (payload : Payload size) (edges : List Nat) (openBins : OpenBins size)
    (binId : Nat) : binId ∈ edges.foldl (addEdge payload) openBins ↔
      binId ∈ openBins ∨ binId ∈ edges := by
  induction edges generalizing openBins with
  | nil => simp
  | cons edge rest induction =>
    rw [List.foldl_cons, induction, addEdge, Std.ExtTreeMap.mem_insert, List.mem_cons,
      Std.LawfulEqCmp.compare_eq_iff_eq, eq_comm (a := edge)]
    tauto

theorem getD_filter_keys (kept : Nat → Bool) (openBins : OpenBins size) (binId : Nat) :
    (openBins.filter fun binId _ => kept binId).getD binId 0 =
      if kept binId then openBins.getD binId 0 else 0 := by
  rw [Std.ExtTreeMap.getD_filter', Std.ExtTreeMap.getD_eq_getD_getElem?]
  cases openBins[binId]? with
  | none => simp
  | some payload =>
    by_cases keep : kept binId
    · simp [keep, Option.filter]
    · simp [keep, Option.filter]

theorem mem_filter_keys (kept : Nat → Bool) (openBins : OpenBins size) (binId : Nat) :
    binId ∈ (openBins.filter fun binId _ => kept binId) ↔ binId ∈ openBins ∧ kept binId := by
  rw [Std.ExtTreeMap.mem_filter]
  simp

theorem emit_bins_eq (value : Nat → Payload size) (start count : Nat)
    (finalized : List (Nat × Payload size))
    (ordered : finalized.Pairwise fun left right => left.1 < right.1)
    (notBefore : ∀ entry ∈ finalized, start ≤ entry.1)
    (agree : ∀ entry ∈ finalized, value entry.1 = entry.2)
    (absent : ∀ binId, start ≤ binId → (∀ entry ∈ finalized, entry.1 ≠ binId) → value binId = 0) :
    emitBins (List.range' start count) finalized =
      (List.range' start count).map fun binId => ⟨binId, (value binId).toBytes⟩ := by
  induction count generalizing start finalized with
  | zero => rfl
  | succ count induction =>
    rw [List.range'_succ, List.map_cons]
    cases finalized with
    | nil =>
      rw [emitBins, absent start le_rfl (fun _ member => absurd member List.not_mem_nil)]
      congr 1
      apply induction (start + 1) [] .nil
      · intro entry member
        cases member
      · intro entry member
        cases member
      · intro binId later
        exact absent binId (by omega)
    | cons entry rest =>
      rcases entry with ⟨finalizedBinId, payload⟩
      rcases List.pairwise_cons.mp ordered with ⟨behind, restOrdered⟩
      rw [emitBins]
      split_ifs with reached
      · subst reached
        have here := agree _ List.mem_cons_self
        simp only at here behind
        rw [here]
        congr 1
        apply induction (finalizedBinId + 1) rest restOrdered
        · intro entry member
          exact behind entry member
        · intro entry member
          exact agree entry (List.mem_cons_of_mem _ member)
        · intro binId later other
          apply absent binId (by omega)
          intro entry member
          rcases List.mem_cons.mp member with same | restMember
          · rw [same]
            simp only
            omega
          · exact other entry restMember
      · have strictly : ∀ entry ∈ (finalizedBinId, payload) :: rest, start + 1 ≤ entry.1 := by
          intro entry member
          have first := notBefore _ List.mem_cons_self
          simp only at first behind
          rcases List.mem_cons.mp member with same | restMember
          · rw [same]
            simp only
            omega
          · have later := behind entry restMember
            omega
        rw [absent start le_rfl (fun entry member => by have := strictly entry member; omega)]
        congr 1
        apply induction (start + 1) _ ordered strictly agree
        intro binId later
        exact absent binId (by omega)

end Nextmini.Mettle
