import Mathlib.Data.Finset.Basic
import Mathlib.Order.WellFounded
import Mathlib.Tactic.NormNum
import Mathlib.Tactic.Ring
import Nextmini.Mettle.Params

/-!
# Windows of sources and bins

The TLE bins are strictly increasing, the edges of a source lie in its window, and a window spans
six hundred sources. So the sources that touch a bin are among those the bin's range lists, and
the last bin of a terminated stream lies behind every edge.
-/

namespace Nextmini.Mettle

set_option autoImplicit false

theorem div_ceil_le_iff {lhs rhs bound : Nat} (positive : 0 < rhs) :
    divCeil lhs rhs ≤ bound ↔ lhs ≤ bound * rhs := by
  have division := Nat.div_add_mod lhs rhs
  have remainder := Nat.mod_lt lhs positive
  rw [Nat.mul_comm] at division
  rw [divCeil]
  split_ifs with exact
  · rw [Nat.div_le_iff_le_mul_add_pred positive]
    constructor
    · intro le
      rw [exact] at division
      by_contra above
      have quotient : bound < lhs / rhs := by
        rw [Nat.lt_div_iff_mul_lt' (Nat.dvd_of_mod_eq_zero exact)]
        rw [Nat.mul_comm]
        omega
      have product := Nat.mul_le_mul_right rhs quotient
      rw [Nat.succ_mul] at product
      rw [Nat.mul_comm rhs] at le
      omega
    · intro le
      rw [Nat.mul_comm rhs]
      omega
  · constructor
    · intro le
      have product := Nat.mul_le_mul_right rhs le
      rw [Nat.succ_mul] at product
      omega
    · intro le
      rw [Nat.succ_le_iff, Nat.div_lt_iff_lt_mul positive]
      apply Nat.lt_of_le_of_ne le
      intro same
      apply exact
      rw [same]
      exact Nat.mul_mod_left bound rhs

theorem word_eq_some {bits value result : Nat} :
    word bits value = some result ↔ value < 2 ^ bits ∧ value = result := by
  rw [word]
  split_ifs with fits
  · simp [fits]
  · simp [fits]

theorem count_successes_le (mask : UInt64) (remaining : Nat) (state : UInt64) (successes : Nat) :
    countSuccesses mask remaining state successes ≤ remaining + successes := by
  induction remaining generalizing state successes with
  | zero => exact Nat.le_add_left successes 0
  | succ remaining induction =>
    rw [count_successes_succ]
    generalize nextEntropy state = drawn
    apply (induction drawn.1 _).trans
    split_ifs
    · omega
    · omega

def InStream (terminalSourceCount : Option Nat) (sourceId : Nat) : Prop :=
  ∀ count ∈ terminalSourceCount, sourceId < count

instance (terminalSourceCount : Option Nat) (sourceId : Nat) :
    Decidable (InStream terminalSourceCount sourceId) :=
  inferInstanceAs (Decidable (∀ count ∈ terminalSourceCount, sourceId < count))

theorem in_stream_some {count sourceId : Nat} : InStream (some count) sourceId ↔ sourceId < count := by
  simp [InStream]

theorem in_stream_none (sourceId : Nat) : InStream none sourceId := by
  simp [InStream]

theorem InStream.of_le {terminal : Option Nat} {earlier later : Nat} (inStream : InStream terminal later)
    (le : earlier ≤ later) : InStream terminal earlier :=
  fun count member => lt_of_le_of_lt le (inStream count member)

theorem InStream.count_pos {terminal : Option Nat} {sourceId : Nat}
    (inStream : InStream terminal sourceId) : terminal ≠ some 0 := by
  rintro rfl
  exact Nat.not_lt_zero _ (in_stream_some.mp inStream)

namespace MettleParams

variable (params : MettleParams)

theorem denominator_lt_expansion : params.overhead.denominator < params.expansionNumerator :=
  Nat.lt_add_of_pos_left params.overhead.numerator_pos

theorem expansion_pos : 0 < params.expansionNumerator :=
  lt_trans params.overhead.denominator_pos params.denominator_lt_expansion

theorem expansion_fits : params.expansionNumerator < 2 ^ 33 := by
  have numerator := params.overhead.numerator_fits
  have denominator := params.overhead.denominator_fits
  rw [expansionNumerator]
  omega

/-! ## Systematic bins -/

theorem tle_le_iff (sourceId binId : Nat) : params.tleBinId sourceId ≤ binId ↔
    sourceId * params.expansionNumerator < (binId + 1) * params.overhead.denominator := by
  rw [tleBinId, ← Nat.lt_succ_iff, Nat.div_lt_iff_lt_mul params.overhead.denominator_pos]

theorem tle_strict_mono : StrictMono params.tleBinId := by
  apply strictMono_nat_of_lt_succ
  intro sourceId
  have expansion := params.denominator_lt_expansion
  have here := (params.tle_le_iff sourceId (params.tleBinId sourceId)).mp le_rfl
  rw [tleBinId, tleBinId, ← Nat.succ_le_iff, Nat.le_div_iff_mul_le params.overhead.denominator_pos,
    Nat.succ_mul, Nat.succ_mul]
  have quotient := Nat.div_mul_le_self (sourceId * params.expansionNumerator)
    params.overhead.denominator
  omega

theorem source_le_tle (sourceId : Nat) : sourceId ≤ params.tleBinId sourceId :=
  params.tle_strict_mono.le_apply

/-- The latest source of a bin is the last one whose TLE bin is not behind it. -/
theorem latest_spec {binId latest : Nat}
    (known : params.latestSourceIdForBin binId = some latest) (sourceId : Nat) :
    params.tleBinId sourceId ≤ binId ↔ sourceId ≤ latest := by
  simp only [latestSourceIdForBin, Option.bind_eq_bind, Option.bind_eq_some_iff, word_eq_some] at known
  rcases known with ⟨_, ⟨_, rfl⟩, _, ⟨_, rfl⟩, known⟩
  split_ifs at known with zero
  rcases word_eq_some.mp known with ⟨_, rfl⟩
  rw [tle_le_iff, Nat.le_div_iff_mul_le params.expansion_pos]
  omega

theorem latest_fits {binId latest : Nat} (known : params.latestSourceIdForBin binId = some latest) :
    latest < 2 ^ 64 := by
  simp only [latestSourceIdForBin, Option.bind_eq_bind, Option.bind_eq_some_iff, word_eq_some] at known
  rcases known with ⟨_, ⟨_, rfl⟩, _, ⟨_, rfl⟩, known⟩
  split_ifs at known with zero
  rcases word_eq_some.mp known with ⟨fits, rfl⟩
  exact fits

/-- No word overflows at a bin in front of the departure frontier of a 64-bit source count. -/
theorem latest_of_lt_frontier {count binId : Nat} (fits : count ≤ 2 ^ 64)
    (before : binId < params.tleBinId count) :
    ∃ latest, params.latestSourceIdForBin binId = some latest ∧ latest < count := by
  have denominatorPos := params.overhead.denominator_pos
  have scaledLe : (binId + 1) * params.overhead.denominator ≤ count * params.expansionNumerator :=
    (Nat.mul_le_mul_right _ before).trans (Nat.div_mul_le_self _ _)
  have scaledFits : count * params.expansionNumerator < 2 ^ 128 :=
    lt_of_le_of_lt (Nat.mul_le_mul fits params.expansion_fits.le) (by norm_num)
  have nextLe : binId + 1 ≤ (binId + 1) * params.overhead.denominator :=
    Nat.le_mul_of_pos_right _ denominatorPos
  have latestLt : ((binId + 1) * params.overhead.denominator - 1) / params.expansionNumerator <
      count := by
    rw [Nat.div_lt_iff_lt_mul params.expansion_pos]
    omega
  refine ⟨_, ?_, latestLt⟩
  rw [latestSourceIdForBin, word, if_pos (by omega), Option.bind_eq_bind, Option.bind_some, word,
    if_pos (by omega), Option.bind_some, if_neg (by omega), word, if_pos (by omega)]

theorem latest_of_tle {sourceId : Nat} (fits : sourceId < 2 ^ 64) :
    params.latestSourceIdForBin (params.tleBinId sourceId) = some sourceId := by
  have before := params.tle_strict_mono (Nat.lt_add_one sourceId)
  rcases params.latest_of_lt_frontier fits before with ⟨latest, known, below⟩
  have reached := (params.latest_spec known sourceId).mp le_rfl
  have same : latest = sourceId := by omega
  rw [known, same]

/-! ## Windows -/

theorem window_end_le_iff (sourceId bound : Nat) : params.windowEndExclusive sourceId ≤ bound ↔
    (sourceId + couplingWindow) * params.expansionNumerator ≤
      bound * params.overhead.denominator := by
  rw [← div_ceil_le_iff params.overhead.denominator_pos, windowEndExclusive, divCeil]
  split_ifs
  · rfl
  · rfl

theorem window_end_mono : Monotone params.windowEndExclusive := by
  intro earlier later le
  rw [window_end_le_iff]
  have behind := (params.window_end_le_iff later _).mp le_rfl
  have product := Nat.mul_le_mul_right params.expansionNumerator
    (Nat.add_le_add_right le couplingWindow)
  omega

theorem window_width_ge (sourceId : Nat) :
    couplingWindow * (params.expansionNumerator / params.overhead.denominator) +
      params.tleBinId sourceId ≤ params.windowEndExclusive sourceId := by
  have behind := (params.window_end_le_iff sourceId _).mp le_rfl
  rw [Nat.add_comm]
  have sum : params.tleBinId sourceId +
      couplingWindow * (params.expansionNumerator / params.overhead.denominator) ≤
        (sourceId + couplingWindow) * params.expansionNumerator / params.overhead.denominator := by
    rw [Nat.add_mul]
    apply le_trans _ Nat.div_add_div_le_add_div
    exact Nat.add_le_add_left (Nat.mul_div_le_mul_div_assoc _ _ _) _
  apply sum.trans
  exact Nat.div_le_of_le_mul (behind.trans_eq (Nat.mul_comm _ _))

theorem tail_factor_bounds {count sourceId numerator denominator : Nat} (below : sourceId < count)
    (factor : tailCompressionFactor sourceId (some count) = some (numerator, denominator)) :
    0 < denominator ∧ denominator ≤ numerator ∧ numerator ≤ 2 * denominator := by
  have window : couplingWindow = 600 := rfl
  simp only [tailCompressionFactor, Option.bind_eq_bind, Option.bind_some] at factor
  split_ifs at factor with outside single
  · cases factor
    exact ⟨Nat.one_pos, one_le_two, le_rfl⟩
  · cases factor
    omega

theorem width_bounds {terminal : Option Nat} {sourceId : Nat} (inStream : InStream terminal sourceId) :
    params.windowWidthWithTerminalSourceCount sourceId terminal ≤
        params.windowEndExclusive sourceId - params.tleBinId sourceId ∧
      params.windowEndExclusive sourceId - params.tleBinId sourceId ≤
        2 * params.windowWidthWithTerminalSourceCount sourceId terminal := by
  rw [windowWidthWithTerminalSourceCount]
  generalize params.windowEndExclusive sourceId - params.tleBinId sourceId = width
  cases factor : tailCompressionFactor sourceId terminal with
  | none => exact ⟨le_rfl, by simp only; omega⟩
  | some ratio =>
    rcases ratio with ⟨numerator, denominator⟩
    cases terminal with
    | none => simp [tailCompressionFactor] at factor
    | some count =>
      rcases tail_factor_bounds (in_stream_some.mp inStream) factor with ⟨positive, above, twice⟩
      have numeratorPos : 0 < numerator := lt_of_lt_of_le positive above
      constructor
      · rw [div_ceil_le_iff numeratorPos]
        exact Nat.mul_le_mul_left width above
      · have enough : width * denominator ≤ divCeil (width * denominator) numerator * numerator :=
          (div_ceil_le_iff numeratorPos).mp le_rfl
        have doubled := Nat.mul_le_mul_left (divCeil (width * denominator) numerator) twice
        apply Nat.le_of_mul_le_mul_right _ positive
        calc width * denominator ≤ divCeil (width * denominator) numerator * numerator := enough
          _ ≤ divCeil (width * denominator) numerator * (2 * denominator) := doubled
          _ = 2 * divCeil (width * denominator) numerator * denominator := by ring

theorem trials_le_nominal {terminal : Option Nat} {sourceId : Nat}
    (inStream : InStream terminal sourceId) :
    params.nonTleTrialsWithTerminalSourceCount sourceId terminal ≤ params.nominalNonTleTrials := by
  rw [nonTleTrialsWithTerminalSourceCount]
  cases factor : tailCompressionFactor sourceId terminal with
  | none => exact le_rfl
  | some ratio =>
    rcases ratio with ⟨numerator, denominator⟩
    cases terminal with
    | none => simp [tailCompressionFactor] at factor
    | some count =>
      rcases tail_factor_bounds (in_stream_some.mp inStream) factor with ⟨positive, above, _⟩
      simp only
      rw [div_ceil_le_iff (lt_of_lt_of_le positive above)]
      exact Nat.mul_le_mul_left _ above

theorem expansion_quotient_pos : 0 < params.expansionNumerator / params.overhead.denominator :=
  Nat.div_pos params.denominator_lt_expansion.le params.overhead.denominator_pos

theorem width_pos {terminal : Option Nat} {sourceId : Nat} (inStream : InStream terminal sourceId) :
    300 * (params.expansionNumerator / params.overhead.denominator) ≤
      params.windowWidthWithTerminalSourceCount sourceId terminal := by
  have half := (params.width_bounds inStream).2
  have wide := params.window_width_ge sourceId
  simp only [couplingWindow] at wide
  omega

/-! ## Edges -/

theorem edge_in_window {terminal : Option Nat} {sourceId binId : Nat} {seed : UInt64}
    (inStream : InStream terminal sourceId)
    (edge : binId ∈ params.edgeBinIdsWithTerminalSourceCount sourceId seed terminal) :
    params.tleBinId sourceId ≤ binId ∧
      binId < params.windowEndExclusiveWithTerminalSourceCount sourceId terminal := by
  have quotient := params.expansion_quotient_pos
  have width := params.width_pos inStream
  rcases List.mem_cons.mp edge with systematic | other
  · subst systematic
    rw [windowEndExclusiveWithTerminalSourceCount]
    omega
  · rcases List.mem_map.mp other with ⟨⟨profile, profileIndex⟩, _, rfl⟩
    have eta := count_successes_le (UInt64.ofNat (profile.2 - 1))
      (params.nonTleTrialsWithTerminalSourceCount sourceId terminal)
      (mixEntropy seed sourceId (profileIndex + 2)) 0
    simp only [nonTleEdgeBinId, nonTleEdgeBinIdForEta, samplePowerOfTwoBinomial,
      windowEndExclusiveWithTerminalSourceCount]
    omega

theorem window_end_terminal_le {terminal : Option Nat} {sourceId : Nat}
    (inStream : InStream terminal sourceId) :
    params.windowEndExclusiveWithTerminalSourceCount sourceId terminal ≤
      params.windowEndExclusive sourceId := by
  have narrower := (params.width_bounds inStream).1
  have wide := params.window_width_ge sourceId
  rw [windowEndExclusiveWithTerminalSourceCount]
  omega

/-- A source whose systematic bin is not behind a bin in a source's window is at most six hundred
sources later. -/
theorem reached_in_window {binId later sourceId : Nat} (reached : params.tleBinId later ≤ binId)
    (inside : binId < params.windowEndExclusive sourceId) : later ≤ sourceId + couplingWindow := by
  by_contra beyond
  have following := (params.tle_strict_mono.monotone
    (show sourceId + couplingWindow + 1 ≤ later by omega)).trans reached
  rw [tle_le_iff] at following
  have expansion := params.denominator_lt_expansion
  rw [← not_le, window_end_le_iff, not_le] at inside
  rw [Nat.succ_mul, Nat.succ_mul] at following
  omega

theorem latest_in_window {binId latest sourceId : Nat}
    (known : params.latestSourceIdForBin binId = some latest)
    (inside : binId < params.windowEndExclusive sourceId) : latest ≤ sourceId + couplingWindow :=
  params.reached_in_window ((params.latest_spec known latest).mpr le_rfl) inside

def touchers (seed : UInt64) (terminal : Option Nat) (binId : Nat) : Finset Nat :=
  (Finset.range (binId + 1)).filter fun sourceId =>
    InStream terminal sourceId ∧
      binId ∈ params.edgeBinIdsWithTerminalSourceCount sourceId seed terminal

variable {params}

theorem mem_touchers {seed : UInt64} {terminal : Option Nat} {binId sourceId : Nat} :
    sourceId ∈ params.touchers seed terminal binId ↔ InStream terminal sourceId ∧
      binId ∈ params.edgeBinIdsWithTerminalSourceCount sourceId seed terminal := by
  rw [touchers, Finset.mem_filter, Finset.mem_range]
  apply and_iff_right_of_imp
  rintro ⟨inStream, edge⟩
  have reached := (params.edge_in_window inStream edge).1
  have below := params.source_le_tle sourceId
  omega

theorem tle_mem_edges (params : MettleParams) (seed : UInt64) (terminal : Option Nat)
    (sourceId : Nat) : params.tleBinId sourceId ∈
      params.edgeBinIdsWithTerminalSourceCount sourceId seed terminal :=
  List.mem_cons_self

/-! ## Ranges of a bin -/

theorem bounds_of_mem_sorted {sources : List Nat} {sourceId : Nat}
    (sorted : sources.Pairwise (· < ·)) (member : sourceId ∈ sources) :
    ∃ first last, sources.head? = some first ∧ sources.getLast? = some last ∧
      first ≤ sourceId ∧ sourceId ≤ last ∧ last ∈ sources := by
  have nonempty : sources ≠ [] := List.ne_nil_of_mem member
  refine ⟨sources.head nonempty, sources.getLast nonempty, List.head?_eq_some_head nonempty,
    List.getLast?_eq_some_getLast nonempty, ?_, ?_, List.getLast_mem nonempty⟩
  · rw [← List.cons_head_tail nonempty] at sorted member
    rcases List.mem_cons.mp member with same | later
    · exact same.ge
    · exact ((List.pairwise_cons.mp sorted).1 _ later).le
  · rw [← List.dropLast_append_getLast nonempty] at sorted member
    rcases List.mem_append.mp member with earlier | last
    · exact ((List.pairwise_append.mp sorted).2.2 _ earlier _ (List.mem_singleton_self _)).le
    · exact (List.mem_singleton.mp last).le

theorem sources_around_sorted (binId : Nat) (terminal : Option Nat) (latest : Nat) :
    (params.sourcesAround binId terminal latest).Pairwise (· < ·) :=
  List.Pairwise.filter _ List.pairwise_lt_range'

def sourcesWithBin (params : MettleParams) (terminal : Option Nat) (binId : Nat) : Set Nat :=
  {sourceId | InStream terminal sourceId ∧ params.tleBinId sourceId ≤ binId ∧
    binId < params.windowEndExclusiveWithTerminalSourceCount sourceId terminal}

theorem mem_sources_with_bin {terminal : Option Nat} {binId sourceId : Nat} :
    sourceId ∈ params.sourcesWithBin terminal binId ↔ InStream terminal sourceId ∧
      params.tleBinId sourceId ≤ binId ∧
        binId < params.windowEndExclusiveWithTerminalSourceCount sourceId terminal :=
  Iff.rfl

/-- A source whose window has the bin is at most one window before the bin's latest source. -/
theorem mem_sources_around {terminal : Option Nat} {binId latest sourceId : Nat}
    (known : params.latestSourceIdForBin binId = some latest) (stream : terminal ≠ some 0) :
    sourceId ∈ params.sourcesAround binId terminal (terminal.elim latest (min latest <| · - 1)) ↔
      sourceId ∈ params.sourcesWithBin terminal binId := by
  have notLater := params.latest_spec known sourceId
  rw [sourcesAround, List.mem_filter, List.mem_range'_1, sourceWindowContainsBin,
    decide_eq_true_eq, mem_sources_with_bin]
  constructor
  · rintro ⟨listed, reached, inside⟩
    refine ⟨?_, reached, inside⟩
    cases terminal with
    | none => exact in_stream_none sourceId
    | some count =>
      have positive : count ≠ 0 := fun zero => stream (congrArg some zero)
      simp only [Option.elim_some] at listed
      exact in_stream_some.mpr (by omega)
  · rintro ⟨inStream, reached, inside⟩
    have window := params.latest_in_window known
      (lt_of_lt_of_le inside (params.window_end_terminal_le inStream))
    refine ⟨?_, reached, inside⟩
    cases terminal with
    | none =>
      simp only [Option.elim_none]
      omega
    | some count =>
      have below := in_stream_some.mp inStream
      simp only [Option.elim_some]
      omega

theorem least_of_head {sources : List Nat} {first : Nat} (sorted : sources.Pairwise (· < ·))
    (head : sources.head? = some first) : IsLeast {sourceId | sourceId ∈ sources} first := by
  refine ⟨List.mem_of_head? head, fun sourceId member => ?_⟩
  rcases bounds_of_mem_sorted sorted member with ⟨least, _, found, _, below, _, _⟩
  rw [head, Option.some.injEq] at found
  exact found.le.trans below

theorem greatest_of_last {sources : List Nat} {last : Nat} (sorted : sources.Pairwise (· < ·))
    (tail : sources.getLast? = some last) : IsGreatest {sourceId | sourceId ∈ sources} last := by
  refine ⟨List.mem_of_getLast? tail, fun sourceId member => ?_⟩
  rcases bounds_of_mem_sorted sorted member with ⟨_, greatest, _, found, _, above, _⟩
  rw [tail, Option.some.injEq] at found
  exact above.trans found.ge

theorem possible_range_sources {terminal : Option Nat} {binId latest : Nat}
    (known : params.latestSourceIdForBin binId = some latest) (stream : terminal ≠ some 0) :
    ∃ sources : List Nat, sources.Pairwise (· < ·) ∧
      (∀ sourceId, sourceId ∈ sources ↔ sourceId ∈ params.sourcesWithBin terminal binId) ∧
      params.possibleSourceIdRangeForBin binId terminal = sources.head?.bind fun earliest =>
        sources.getLast?.bind fun last => some (earliest, last) := by
  refine ⟨_, sources_around_sorted binId terminal (terminal.elim latest (min latest <| · - 1)),
    fun sourceId => mem_sources_around known stream, ?_⟩
  simp only [possibleSourceIdRangeForBin, known, Option.bind_eq_bind, Option.bind_some,
    if_neg stream]

theorem range_bounds {terminal : Option Nat} {binId latest earliest last : Nat}
    (known : params.latestSourceIdForBin binId = some latest)
    (range : params.possibleSourceIdRangeForBin binId terminal = some (earliest, last)) :
    IsLeast (params.sourcesWithBin terminal binId) earliest ∧
      IsGreatest (params.sourcesWithBin terminal binId) last := by
  have stream : terminal ≠ some 0 := by
    rintro rfl
    simp [possibleSourceIdRangeForBin, known] at range
  rcases possible_range_sources known stream with ⟨sources, sorted, listed, same⟩
  have members : {sourceId | sourceId ∈ sources} = params.sourcesWithBin terminal binId :=
    Set.ext listed
  simp only [same, Option.bind_eq_some_iff, Option.some.injEq, Prod.mk.injEq] at range
  rcases range with ⟨first, head, final, tail, rfl, rfl⟩
  rw [← members]
  exact ⟨least_of_head sorted head, greatest_of_last sorted tail⟩

theorem range_eq_none_iff {terminal : Option Nat} {binId latest : Nat}
    (known : params.latestSourceIdForBin binId = some latest) :
    params.possibleSourceIdRangeForBin binId terminal = none ↔
      params.sourcesWithBin terminal binId = ∅ := by
  by_cases stream : terminal = some 0
  · subst stream
    have noSource : params.sourcesWithBin (some 0) binId = ∅ :=
      Set.eq_empty_of_forall_notMem fun _ member => member.1.count_pos rfl
    simp [possibleSourceIdRangeForBin, known, noSource]
  · rcases possible_range_sources known stream with ⟨sources, _, listed, same⟩
    rw [same, Set.eq_empty_iff_forall_notMem]
    cases sources with
    | nil => simpa using listed
    | cons first rest =>
      simp only [List.head?_cons, Option.bind_some, List.getLast?_cons, reduceCtorEq, false_iff,
        not_forall, not_not]
      exact ⟨first, (listed first).mp List.mem_cons_self⟩

theorem range_of_source {terminal : Option Nat} {binId latest sourceId : Nat}
    (known : params.latestSourceIdForBin binId = some latest)
    (member : sourceId ∈ params.sourcesWithBin terminal binId) :
    ∃ earliest last, params.possibleSourceIdRangeForBin binId terminal = some (earliest, last) ∧
      earliest ≤ sourceId ∧ sourceId ≤ last := by
  cases range : params.possibleSourceIdRangeForBin binId terminal with
  | none =>
    rw [range_eq_none_iff known] at range
    rw [range] at member
    exact absurd member (Set.notMem_empty sourceId)
  | some bounds =>
    rcases bounds with ⟨earliest, last⟩
    rcases range_bounds known range with ⟨least, greatest⟩
    exact ⟨earliest, last, rfl, least.2 member, greatest.2 member⟩

theorem mem_sources_of_edge {seed : UInt64} {terminal : Option Nat} {binId sourceId : Nat}
    (inStream : InStream terminal sourceId)
    (edge : binId ∈ params.edgeBinIdsWithTerminalSourceCount sourceId seed terminal) :
    sourceId ∈ params.sourcesWithBin terminal binId :=
  ⟨inStream, params.edge_in_window inStream edge⟩

theorem range_of_toucher {seed : UInt64} {terminal : Option Nat} {binId latest sourceId : Nat}
    (known : params.latestSourceIdForBin binId = some latest)
    (member : sourceId ∈ params.touchers seed terminal binId) :
    ∃ earliest last, params.possibleSourceIdRangeForBin binId terminal = some (earliest, last) ∧
      earliest ≤ sourceId ∧ sourceId ≤ last := by
  rcases mem_touchers.mp member with ⟨inStream, edge⟩
  exact range_of_source known (mem_sources_of_edge inStream edge)

theorem range_bounded {terminal : Option Nat} {binId earliest last : Nat}
    (range : params.possibleSourceIdRangeForBin binId terminal = some (earliest, last)) :
    InStream terminal last ∧
      ∃ latest, params.latestSourceIdForBin binId = some latest ∧ last ≤ latest := by
  cases known : params.latestSourceIdForBin binId with
  | none => simp [possibleSourceIdRangeForBin, known] at range
  | some latest =>
    rcases (range_bounds known range).2.1 with ⟨inStream, reached, _⟩
    exact ⟨inStream, latest, rfl, (params.latest_spec known last).mp reached⟩

/-- The latest source is known where it is a 64-bit word: no checked word overflows there. -/
theorem latest_known {binId latest : Nat} (fits : latest < 2 ^ 64)
    (greatest : IsGreatest {sourceId | params.tleBinId sourceId ≤ binId} latest) :
    params.latestSourceIdForBin binId = some latest := by
  have before : binId < params.tleBinId (latest + 1) := by
    by_contra reached
    exact Nat.not_succ_le_self latest (greatest.2 (not_lt.mp reached))
  rcases params.latest_of_lt_frontier fits before with ⟨found, known, below⟩
  have reached := (params.latest_spec known latest).mp greatest.1
  have same : found = latest := by omega
  rw [known, same]

/-- The range of a bin runs from the first to the last source whose window has the bin, and every
source with an edge at the bin lies in it. -/
theorem possible_source_range_exact (params : MettleParams) (terminal : Option Nat)
    {binId latest : Nat}
    (greatest : IsGreatest {sourceId | params.tleBinId sourceId ≤ binId} latest)
    (fits : latest < 2 ^ 64) :
    (∀ earliest last, params.possibleSourceIdRangeForBin binId terminal = some (earliest, last) ↔
        IsLeast (params.sourcesWithBin terminal binId) earliest ∧
          IsGreatest (params.sourcesWithBin terminal binId) last) ∧
      (params.possibleSourceIdRangeForBin binId terminal = none ↔
        ¬ ∃ sourceId, sourceId ∈ params.sourcesWithBin terminal binId) ∧
      ∀ seed sourceId, InStream terminal sourceId →
        binId ∈ params.edgeBinIdsWithTerminalSourceCount sourceId seed terminal →
          ∃ earliest last,
            params.possibleSourceIdRangeForBin binId terminal = some (earliest, last) ∧
              earliest ≤ sourceId ∧ sourceId ≤ last := by
  have known := latest_known fits greatest
  refine ⟨fun earliest last => ⟨range_bounds known, ?_⟩, ?_, fun seed sourceId inStream edge =>
    range_of_source known (mem_sources_of_edge inStream edge)⟩
  · rintro ⟨least, largest⟩
    rcases range_of_source known least.1 with ⟨first, final, range, _, _⟩
    rcases range_bounds known range with ⟨leastFound, largestFound⟩
    rw [range, leastFound.unique least, largestFound.unique largest]
  · rw [range_eq_none_iff known, Set.eq_empty_iff_forall_notMem, not_exists]

/-- Both sources of a stream of two reach bin two, one bin more for every thousand sources. -/
theorem possible_source_range_two :
    perThousand.possibleSourceIdRangeForBin 2 (some 2) = some (0, 1) ∧
      IsLeast (perThousand.sourcesWithBin (some 2) 2) 0 ∧
        IsGreatest (perThousand.sourcesWithBin (some 2) 2) 1 := by
  have greatest : IsGreatest {sourceId | perThousand.tleBinId sourceId ≤ 2} 2 := by
    refine ⟨by decide, fun sourceId reached => ?_⟩
    exact (perThousand.source_le_tle sourceId).trans reached
  have range : perThousand.possibleSourceIdRangeForBin 2 (some 2) = some (0, 1) := by decide
  exact ⟨range,
    ((possible_source_range_exact perThousand (some 2) greatest (by decide)).1 0 1).mp range⟩

/-! ## The end of a terminated stream -/

theorem le_foldl_max (value : Nat → Nat) (items : List Nat) (start : Nat) :
    start ≤ items.foldl (fun largest item => max largest (value item)) start ∧
      ∀ item ∈ items, value item ≤
        items.foldl (fun largest item => max largest (value item)) start := by
  induction items generalizing start with
  | nil => simp
  | cons item rest induction =>
    rcases induction (max start (value item)) with ⟨above, each⟩
    rw [List.foldl_cons, List.forall_mem_cons]
    exact ⟨(le_max_left _ _).trans above, (le_max_right _ _).trans above, each⟩

theorem edge_lt_terminal_end {seed : UInt64} {count sourceId binId : Nat} (below : sourceId < count)
    (edge : binId ∈ params.edgeBinIdsWithTerminalSourceCount sourceId seed (some count)) :
    binId < params.terminalDepartureEndExclusive count := by
  have inStream := in_stream_some.mpr below
  have inside := (params.edge_in_window inStream edge).2
  simp only [terminalDepartureEndExclusive, if_neg (Nat.ne_zero_of_lt below)]
  by_cases early : sourceId < count - min count couplingWindow
  · have largest := (le_foldl_max (fun sourceId =>
      params.windowEndExclusiveWithTerminalSourceCount sourceId (some count))
      (List.range' (count - min count couplingWindow) (count - (count - min count couplingWindow)))
      (params.windowEndExclusive (count - min count couplingWindow - 1))).1
    have ordered : params.windowEndExclusive sourceId ≤
        params.windowEndExclusive (count - min count couplingWindow - 1) :=
      params.window_end_mono (by omega)
    have narrower := params.window_end_terminal_le inStream
    rw [if_neg (by omega)]
    omega
  · apply lt_of_lt_of_le inside
    apply (le_foldl_max (fun sourceId =>
      params.windowEndExclusiveWithTerminalSourceCount sourceId (some count)) _ _).2
    rw [List.mem_range'_1]
    omega

theorem frontier_le_terminal_end (params : MettleParams) (count : Nat) :
    params.tleBinId count ≤ params.terminalDepartureEndExclusive count := by
  cases count with
  | zero => simp [tleBinId]
  | succ last =>
    have inStream : InStream (some (last + 1)) last := in_stream_some.mpr (Nat.lt_succ_self last)
    have width := params.width_pos inStream
    have quotient := params.expansion_quotient_pos
    have step : params.tleBinId (last + 1) ≤ params.tleBinId last +
        params.expansionNumerator / params.overhead.denominator + 1 := by
      rw [tleBinId, Nat.succ_mul, Nat.add_div params.overhead.denominator_pos]
      apply Nat.add_le_add_left
      split_ifs
      · exact le_rfl
      · exact Nat.zero_le 1
    apply le_trans (b := params.windowEndExclusiveWithTerminalSourceCount last (some (last + 1)))
    · rw [windowEndExclusiveWithTerminalSourceCount]
      omega
    · simp only [terminalDepartureEndExclusive, if_neg (Nat.succ_ne_zero last)]
      apply (le_foldl_max (fun sourceId =>
        params.windowEndExclusiveWithTerminalSourceCount sourceId (some (last + 1))) _ _).2
      have window : couplingWindow = 600 := rfl
      rw [List.mem_range'_1]
      omega

end MettleParams

end Nextmini.Mettle
