import Mathlib.Data.Nat.GCD.Basic
import Mathlib.Data.UInt

/-!
# METTLE parameters

Overhead ratio, coupling windows and the four edge bins of a source. Source and bin ids are natural
numbers: the products of the source stay far below 128 bits for 64-bit source ids, and the one place
that meets arbitrary bin ids, the latest source of a bin, checks its words as the code does. The
entropy words are 64-bit words.
-/

namespace Nextmini.Mettle

set_option autoImplicit false

inductive ParamsError where
  | zeroDenominator
  | zeroOverhead
  deriving DecidableEq, Repr

def gcd (lhs rhs : Nat) : Nat :=
  if rhs = 0 then lhs else gcd rhs (lhs % rhs)
termination_by rhs
decreasing_by exact Nat.mod_lt _ (Nat.pos_of_ne_zero ‹_›)

theorem gcd_eq_nat_gcd (lhs rhs : Nat) : gcd lhs rhs = Nat.gcd lhs rhs := by
  induction lhs, rhs using gcd.induct with
  | case1 lhs => simp [gcd]
  | case2 lhs rhs nonzero induction =>
    rw [gcd, if_neg nonzero, induction, Nat.gcd_comm rhs, ← Nat.gcd_rec, Nat.gcd_comm]

/-- A positive ratio of 32-bit words in lowest terms. -/
structure OverheadRatio where
  numerator : Nat
  denominator : Nat
  numerator_pos : 0 < numerator
  denominator_pos : 0 < denominator
  numerator_fits : numerator < 2 ^ 32
  denominator_fits : denominator < 2 ^ 32
  coprime : Nat.Coprime numerator denominator

namespace OverheadRatio

theorem word_pos {word : UInt32} (nonzero : word ≠ 0) : 0 < word.toNat :=
  Nat.pos_of_ne_zero fun zero => nonzero (UInt32.toNat_inj.mp zero)

def new (numerator denominator : UInt32) : Except ParamsError OverheadRatio :=
  if zeroDenominator : denominator = 0 then .error .zeroDenominator
  else if zeroOverhead : numerator = 0 then .error .zeroOverhead
  else
    let divisor := gcd numerator.toNat denominator.toNat
    .ok
      { numerator := numerator.toNat / divisor
        denominator := denominator.toNat / divisor
        numerator_pos := by
          simpa only [divisor, gcd_eq_nat_gcd] using
            Nat.div_gcd_pos_of_pos_left denominator.toNat (word_pos zeroOverhead)
        denominator_pos := by
          simpa only [divisor, gcd_eq_nat_gcd] using
            Nat.div_gcd_pos_of_pos_right numerator.toNat (word_pos zeroDenominator)
        numerator_fits := (Nat.div_le_self _ _).trans_lt numerator.toNat_lt
        denominator_fits := (Nat.div_le_self _ _).trans_lt denominator.toNat_lt
        coprime := by
          simpa only [divisor, gcd_eq_nat_gcd] using Nat.coprime_div_gcd_div_gcd
            (Nat.gcd_pos_of_pos_left denominator.toNat (word_pos zeroOverhead)) }

end OverheadRatio

/-! ## Entropy -/

def rotateLeft (word count : UInt64) : UInt64 := word <<< count ||| word >>> (64 - count)

def mixEntropy (seed : UInt64) (sourceId edgeIndex : Nat) : UInt64 :=
  seed ^^^ rotateLeft (UInt64.ofNat sourceId) 21 ^^^ rotateLeft (UInt64.ofNat edgeIndex) 42

def nextEntropy (state : UInt64) : UInt64 × UInt64 :=
  let state := state + 0x9E3779B97F4A7C15
  let value := (state ^^^ state >>> 30) * 0xBF58476D1CE4E5B9
  let value := (value ^^^ value >>> 27) * 0x94D049BB133111EB
  (state, value ^^^ value >>> 31)

def countSuccesses (mask : UInt64) : Nat → UInt64 → Nat → Nat
  | 0, _, successes => successes
  | remaining + 1, state, successes =>
      let drawn := nextEntropy state
      countSuccesses mask remaining drawn.1
        (if drawn.2 &&& mask = 0 then successes + 1 else successes)

theorem count_successes_succ (mask : UInt64) (remaining : Nat) (state : UInt64) (successes : Nat) :
    countSuccesses mask (remaining + 1) state successes =
      countSuccesses mask remaining (nextEntropy state).1
        (if (nextEntropy state).2 &&& mask = 0 then successes + 1 else successes) := by
  conv_lhs => unfold countSuccesses

def samplePowerOfTwoBinomial (trials denominator : Nat) (state : UInt64) : Nat :=
  countSuccesses (UInt64.ofNat (denominator - 1)) trials state 0

def divCeil (lhs rhs : Nat) : Nat :=
  if lhs % rhs = 0 then lhs / rhs else lhs / rhs + 1

/-- A word of so many bits, or nothing where a checked operation overflows. -/
def word (bits value : Nat) : Option Nat := if value < 2 ^ bits then some value else none

/-! ## Parameters -/

structure MettleParams where
  overhead : OverheadRatio

namespace MettleParams

def couplingWindow : Nat := 600
def nonTleProfile : List (Nat × Nat) := [(1, 2), (1, 4), (1, 8)]

def expansionNumerator (params : MettleParams) : Nat :=
  params.overhead.numerator + params.overhead.denominator

def tleBinId (params : MettleParams) (sourceId : Nat) : Nat :=
  sourceId * params.expansionNumerator / params.overhead.denominator

def departureFrontierAfterSourceCount (params : MettleParams) (sourceCount : Nat) : Nat :=
  params.tleBinId sourceCount

def latestSourceIdForBin (params : MettleParams) (binId : Nat) : Option Nat := do
  let next ← word 128 (binId + 1)
  let scaled ← word 128 (next * params.overhead.denominator)
  if scaled < 1 then none
  else word 64 ((scaled - 1) / params.expansionNumerator)

def windowEndExclusive (params : MettleParams) (sourceId : Nat) : Nat :=
  let scaled := (sourceId + couplingWindow) * params.expansionNumerator
  let denominator := params.overhead.denominator
  scaled / denominator + (if scaled % denominator = 0 then 0 else 1)

/-- The factor by which the windows of the last sources shrink, as numerator and denominator. -/
def tailCompressionFactor (sourceId : Nat) (terminalSourceCount : Option Nat) :
    Option (Nat × Nat) := do
  let terminalSourceCount ← terminalSourceCount
  let tailSourceCount := min terminalSourceCount couplingWindow
  let tailStart := terminalSourceCount - tailSourceCount
  if sourceId < tailStart then none
  else if tailSourceCount = 1 then some (2, 1)
  else
    let factorDenominator := tailSourceCount - 1
    some (factorDenominator + (sourceId - tailStart), factorDenominator)

def windowWidthWithTerminalSourceCount (params : MettleParams) (sourceId : Nat)
    (terminalSourceCount : Option Nat) : Nat :=
  let uncompressedWidth := params.windowEndExclusive sourceId - params.tleBinId sourceId
  match tailCompressionFactor sourceId terminalSourceCount with
  | none => uncompressedWidth
  | some (factorNumerator, factorDenominator) =>
      divCeil (uncompressedWidth * factorDenominator) factorNumerator

def windowEndExclusiveWithTerminalSourceCount (params : MettleParams) (sourceId : Nat)
    (terminalSourceCount : Option Nat) : Nat :=
  params.tleBinId sourceId + params.windowWidthWithTerminalSourceCount sourceId terminalSourceCount

def terminalDepartureEndExclusive (params : MettleParams) (terminalSourceCount : Nat) : Nat :=
  if terminalSourceCount = 0 then 0
  else
    let tailSourceCount := min terminalSourceCount couplingWindow
    let tailStart := terminalSourceCount - tailSourceCount
    let start := if tailStart = 0 then 0 else params.windowEndExclusive (tailStart - 1)
    (List.range' tailStart (terminalSourceCount - tailStart)).foldl
      (fun maxEndExclusive sourceId => max maxEndExclusive
        (params.windowEndExclusiveWithTerminalSourceCount sourceId (some terminalSourceCount)))
      start

def sourceWindowContainsBin (params : MettleParams) (sourceId binId : Nat)
    (terminalSourceCount : Option Nat) : Bool :=
  params.tleBinId sourceId ≤ binId ∧
    binId < params.windowEndExclusiveWithTerminalSourceCount sourceId terminalSourceCount

/-- The sources up to `latestSourceId`, over one window, whose own window has the bin. -/
def sourcesAround (params : MettleParams) (binId : Nat) (terminalSourceCount : Option Nat)
    (latestSourceId : Nat) : List Nat :=
  let earliestCandidate := latestSourceId - couplingWindow
  (List.range' earliestCandidate (latestSourceId + 1 - earliestCandidate)).filter fun sourceId =>
    params.sourceWindowContainsBin sourceId binId terminalSourceCount

/-- The first and the last of these sources, up to the last source of the stream. -/
def possibleSourceIdRangeForBin (params : MettleParams) (binId : Nat)
    (terminalSourceCount : Option Nat) : Option (Nat × Nat) := do
  let latestSourceId ← params.latestSourceIdForBin binId
  if terminalSourceCount = some 0 then none
  else
    let latestSourceId := terminalSourceCount.elim latestSourceId (min latestSourceId <| · - 1)
    let inside := params.sourcesAround binId terminalSourceCount latestSourceId
    let earliestSourceId ← inside.head?
    let latestValidSourceId ← inside.getLast?
    some (earliestSourceId, latestValidSourceId)

def nominalNonTleTrials (params : MettleParams) : Nat :=
  couplingWindow * params.expansionNumerator / params.overhead.denominator

def nonTleTrialsWithTerminalSourceCount (params : MettleParams) (sourceId : Nat)
    (terminalSourceCount : Option Nat) : Nat :=
  match tailCompressionFactor sourceId terminalSourceCount with
  | none => params.nominalNonTleTrials
  | some (factorNumerator, factorDenominator) =>
      divCeil (params.nominalNonTleTrials * factorDenominator) factorNumerator

def nonTleEdgeBinIdForEta (params : MettleParams) (sourceId eta : Nat)
    (terminalSourceCount : Option Nat) : Nat :=
  let rightmostBin :=
    params.windowEndExclusiveWithTerminalSourceCount sourceId terminalSourceCount - 1
  let nominalRightmostBin := params.tleBinId sourceId +
    params.nonTleTrialsWithTerminalSourceCount sourceId terminalSourceCount
  min (nominalRightmostBin - eta) rightmostBin

def nonTleEdgeBinId (params : MettleParams) (sourceId : Nat) (seed : UInt64)
    (edgeIndex denominator : Nat) (terminalSourceCount : Option Nat) : Nat :=
  let eta := samplePowerOfTwoBinomial
    (params.nonTleTrialsWithTerminalSourceCount sourceId terminalSourceCount) denominator
    (mixEntropy seed sourceId edgeIndex)
  params.nonTleEdgeBinIdForEta sourceId eta terminalSourceCount

/-- The TLE bin and an edge for each profile; the first profile has edge index two. -/
def edgeBinIdsWithTerminalSourceCount (params : MettleParams) (sourceId : Nat) (seed : UInt64)
    (terminalSourceCount : Option Nat) : List Nat :=
  params.tleBinId sourceId :: nonTleProfile.zipIdx.map fun (profile, profileIndex) =>
    params.nonTleEdgeBinId sourceId seed (profileIndex + 2) profile.2 terminalSourceCount

/-- One bin more for every thousand sources. -/
def perThousand : MettleParams where
  overhead :=
    { numerator := 1
      denominator := 1000
      numerator_pos := Nat.one_pos
      denominator_pos := Nat.succ_pos _
      numerator_fits := by decide
      denominator_fits := by decide
      coprime := by decide }

end MettleParams

end Nextmini.Mettle
