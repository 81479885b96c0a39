import Mathlib.Algebra.Order.Ring.Nat
import Mathlib.Data.List.Flatten
import Mathlib.Tactic.IntervalCases
import Mathlib.Tactic.Ring
import Nextmini.Controller.PresetTopologies
import Nextmini.Library.BlockNumbering

/-!
# Tori

The loops of the torus add one edge along each axis from every node. A node is known by its
coordinates, the digits of its index; an edge raises one of them by one, back to zero at the end. The
normalisation of a configuration's edges turns these directed pairs into the unordered ones.
-/

namespace Nextmini.Controller

open Nextmini.Library.BlockNumbering

set_option autoImplicit false

namespace TorusConfig

/-! ## The graph -/

section Graphs

variable {Graph : Type} {library : GraphLibrary Graph}

theorem add_nodes_some (documented : library.Documented) {graph : Graph} {count : Nat}
    (fits : library.nodeCount graph + count < 2 ^ 32) : ∃ later,
      addNodes library count graph = some later ∧
        library.nodeCount later = library.nodeCount graph + count ∧
        library.endpoints later = library.endpoints graph := by
  induction count generalizing graph with
  | zero => exact ⟨graph, rfl, rfl, rfl⟩
  | succ count induction =>
    rcases documented.add_node graph (by omega) with ⟨middle, added, nodes, same⟩
    rcases @induction middle (by omega) with ⟨later, rest, all, kept⟩
    refine ⟨later, ?_, ?_, kept.trans same⟩
    · rw [addNodes, added, Option.bind_some, rest]
    · omega

/-- The pairs can be added: their nodes exist and the edges fit the index. -/
structure Addable (library : GraphLibrary Graph) (graph : Graph) (pairs : List (UInt32 × UInt32)) :
    Prop where
  nodes : ∀ pair ∈ pairs, pair.1.toNat < library.nodeCount graph ∧
    pair.2.toNat < library.nodeCount graph
  edges : (library.endpoints graph).length + pairs.length < 2 ^ 32

theorem add_edges_some (documented : library.Documented) {graph : Graph}
    {pairs : List (UInt32 × UInt32)} (addable : Addable library graph pairs) : ∃ later,
      addEdges library pairs graph = some later ∧ library.endpoints later =
        library.endpoints graph ++ pairs.map fun pair => (pair.1.toNat, pair.2.toNat) := by
  induction pairs generalizing graph with
  | nil => exact ⟨graph, rfl, (List.append_nil _).symm⟩
  | cons pair rest induction =>
    have room := addable.edges
    rw [List.length_cons] at room
    rcases addable.nodes pair List.mem_cons_self with ⟨first, second⟩
    rcases documented.add_edge graph _ _ first second (by omega) with ⟨middle, added, nodes, edges⟩
    have later : Addable library middle rest := by
      refine ⟨fun other member => ?_, ?_⟩
      · rw [nodes]
        exact addable.nodes other (List.mem_cons_of_mem _ member)
      · rw [edges, List.length_append, List.length_singleton]
        omega
    rcases induction later with ⟨final, all, endpoints⟩
    refine ⟨final, ?_, ?_⟩
    · rw [addEdges, added, Option.bind_some, all]
    · rw [endpoints, edges, List.map_cons, List.append_assoc, List.singleton_append]

theorem add_edges_none (documented : library.Documented) {graph : Graph}
    {pairs : List (UInt32 × UInt32)} (word : (library.endpoints graph).length < 2 ^ 32)
    (fails : ¬Addable library graph pairs) : addEdges library pairs graph = none := by
  induction pairs generalizing graph with
  | nil => exact absurd ⟨nofun, word⟩ fails
  | cons pair rest induction =>
    rw [addEdges]
    by_cases able : pair.1.toNat < library.nodeCount graph ∧
        pair.2.toNat < library.nodeCount graph ∧ (library.endpoints graph).length < 2 ^ 32 - 1
    · rcases documented.add_edge graph _ _ able.1 able.2.1 able.2.2 with
        ⟨middle, added, nodes, edges⟩
      have grown : (library.endpoints middle).length = (library.endpoints graph).length + 1 := by
        rw [edges, List.length_append, List.length_singleton]
      rw [added, Option.bind_some]
      apply induction
      · omega
      · intro addable
        apply fails
        refine ⟨fun other member => ?_, ?_⟩
        · rcases List.mem_cons.mp member with same | later
          · rw [same]
            exact ⟨able.1, able.2.1⟩
          · rw [← nodes]
            exact addable.nodes other later
        · have room := addable.edges
          rw [List.length_cons]
          omega
    · rw [documented.no_edge graph _ _ able, Option.bind_none]

end Graphs

/-! ## Steps along an axis -/

/-- One step along an axis, from a node index to the next. -/
structure StepAlong (base dim axis first second : Nat) : Prop where
  firstBelow : first < base ^ dim
  secondBelow : second < base ^ dim
  next : digit base axis second = (digit base axis first + 1) % base
  others : ∀ other < dim, other ≠ axis → digit base other first = digit base other second

def Steps (base dim first second : Nat) : Prop := ∃ axis < dim, StepAlong base dim axis first second

section Digits

variable {base dim axis place otherPlace first second : Nat}

theorem below_pow (placed : place < base) (rest : Nat) :
    place + base * rest < base ^ (dim + 1) ↔ rest < base ^ dim := by
  have positive : 0 < base := by omega
  rw [Nat.pow_succ, Nat.mul_comm (base ^ dim)]
  constructor
  · intro below
    exact Nat.lt_of_mul_lt_mul_left (Nat.lt_of_le_of_lt (Nat.le_add_left _ _) below)
  · intro inside
    have block := Nat.mul_le_mul_left base (Nat.succ_le_of_lt inside)
    rw [Nat.mul_succ] at block
    omega

theorem step_along_zero (placed : place < base) (otherPlaced : otherPlace < base) :
    StepAlong base (dim + 1) 0 (place + base * first) (otherPlace + base * second) ↔
      otherPlace = (place + 1) % base ∧ first = second ∧ first < base ^ dim := by
  constructor
  · intro step
    have firstInside := (below_pow placed first).mp step.firstBelow
    have secondInside := (below_pow otherPlaced second).mp step.secondBelow
    have next := step.next
    rw [digit_zero placed, digit_zero otherPlaced] at next
    refine ⟨next, digits_ext firstInside secondInside ?_, firstInside⟩
    intro axis inside
    have same := step.others (axis + 1) (Nat.succ_lt_succ inside) (Nat.succ_ne_zero axis)
    rwa [digit_succ placed, digit_succ otherPlaced] at same
  · rintro ⟨next, rfl, inside⟩
    refine ⟨(below_pow placed first).mpr inside, (below_pow otherPlaced first).mpr inside, ?_, ?_⟩
    · rw [digit_zero placed, digit_zero otherPlaced, next]
    · intro other _ apart
      cases other with
      | zero => exact absurd rfl apart
      | succ other => rw [digit_succ placed, digit_succ otherPlaced]

theorem step_along_succ (placed : place < base) (otherPlaced : otherPlace < base) :
    StepAlong base (dim + 1) (axis + 1) (place + base * first) (otherPlace + base * second) ↔
      otherPlace = place ∧ StepAlong base dim axis first second := by
  constructor
  · intro step
    have low := step.others 0 (Nat.succ_pos dim) (Nat.succ_ne_zero axis).symm
    have next := step.next
    rw [digit_zero placed, digit_zero otherPlaced] at low
    rw [digit_succ placed, digit_succ otherPlaced] at next
    refine ⟨low.symm, (below_pow placed first).mp step.firstBelow,
      (below_pow otherPlaced second).mp step.secondBelow, next, ?_⟩
    intro other inside apart
    have same := step.others (other + 1) (Nat.succ_lt_succ inside) (by omega)
    rwa [digit_succ placed, digit_succ otherPlaced] at same
  · rintro ⟨rfl, step⟩
    refine ⟨(below_pow placed first).mpr step.firstBelow,
      (below_pow placed second).mpr step.secondBelow, ?_, ?_⟩
    · rw [digit_succ placed, digit_succ placed, step.next]
    · intro other inside apart
      cases other with
      | zero => rw [digit_zero placed, digit_zero placed]
      | succ other =>
        rw [digit_succ placed, digit_succ placed]
        exact step.others other (by omega) (by omega)

theorem no_steps : ¬Steps base 0 first second := by
  rintro ⟨axis, inside, _⟩
  exact Nat.not_lt_zero _ inside

/-- A step changes the lowest digit, or it is a step of the numbers above it. -/
theorem steps_succ : Steps base (dim + 1) first second ↔ ∃ place < base, ∃ rest,
    first = place + base * rest ∧
      ((rest < base ^ dim ∧ second = (place + 1) % base + base * rest) ∨
        ∃ otherRest, Steps base dim rest otherRest ∧ second = place + base * otherRest) := by
  constructor
  · rintro ⟨axis, inside, step⟩
    have positive : 0 < base := by
      by_contra none
      have below := step.firstBelow
      rw [Nat.eq_zero_of_not_pos none, Nat.zero_pow (Nat.succ_pos dim)] at below
      exact Nat.not_lt_zero _ below
    have placed := Nat.mod_lt first positive
    have otherPlaced := Nat.mod_lt second positive
    refine ⟨first % base, placed, first / base, (Nat.mod_add_div first base).symm, ?_⟩
    rw [← Nat.mod_add_div first base, ← Nat.mod_add_div second base] at step
    cases axis with
    | zero =>
      rcases (step_along_zero placed otherPlaced).mp step with ⟨next, same, below⟩
      refine .inl ⟨below, ?_⟩
      rw [← next, same, Nat.mod_add_div]
    | succ axis =>
      rcases (step_along_succ placed otherPlaced).mp step with ⟨same, upper⟩
      refine .inr ⟨second / base, ⟨axis, by omega, upper⟩, ?_⟩
      rw [← same, Nat.mod_add_div]
  · rintro ⟨place, placed, rest, rfl, ⟨below, rfl⟩ | ⟨otherRest, ⟨axis, inside, step⟩, rfl⟩⟩
    · have nextPlaced := Nat.mod_lt (place + 1) (Nat.zero_lt_of_lt placed)
      exact ⟨0, Nat.succ_pos dim, (step_along_zero placed nextPlaced).mpr ⟨rfl, rfl, below⟩⟩
    · exact ⟨axis + 1, Nat.succ_lt_succ inside, (step_along_succ placed placed).mpr ⟨rfl, step⟩⟩

theorem steps_one :
    Steps base 1 first second ↔ ∃ i < base, first = i ∧ second = (i + 1) % base := by
  rw [steps_succ]
  constructor
  · rintro ⟨i, inside, rest, start, ⟨below, next⟩ | ⟨_, steps, _⟩⟩
    · rw [Nat.pow_zero, Nat.lt_one_iff] at below
      rw [below, Nat.mul_zero] at start next
      exact ⟨i, inside, start, next⟩
    · exact absurd steps no_steps
  · rintro ⟨i, inside, rfl, rfl⟩
    exact ⟨first, inside, 0, rfl, .inl ⟨Nat.one_pos, rfl⟩⟩

theorem steps_two : Steps base 2 first second ↔ ∃ i < base, ∃ j < base, first = i + base * j ∧
    (second = (i + 1) % base + base * j ∨ second = i + base * ((j + 1) % base)) := by
  rw [steps_succ]
  constructor
  · rintro ⟨i, inside, j, start, ⟨below, next⟩ | ⟨_, steps, next⟩⟩
    · rw [Nat.pow_one] at below
      exact ⟨i, inside, j, below, start, .inl next⟩
    · rcases steps_one.mp steps with ⟨_, below, rfl, rfl⟩
      exact ⟨i, inside, j, below, start, .inr next⟩
  · rintro ⟨i, inside, j, below, start, next | next⟩
    · exact ⟨i, inside, j, start, .inl ⟨by rwa [Nat.pow_one], next⟩⟩
    · exact ⟨i, inside, j, start, .inr ⟨_, steps_one.mpr ⟨j, below, rfl, rfl⟩, next⟩⟩

theorem steps_three : Steps base 3 first second ↔
    ∃ i < base, ∃ j < base, ∃ k < base, first = i + base * (j + base * k) ∧
      (second = (i + 1) % base + base * (j + base * k) ∨
        second = i + base * ((j + 1) % base + base * k) ∨
        second = i + base * (j + base * ((k + 1) % base))) := by
  rw [steps_succ]
  constructor
  · rintro ⟨i, inside, rest, start, ⟨below, next⟩ | ⟨_, steps, next⟩⟩
    · rw [Nat.pow_two] at below
      rcases exists_number below with ⟨k, kInside, j, jInside, number⟩
      rw [number, Nat.add_comm (k * base), Nat.mul_comm k] at start next
      exact ⟨i, inside, j, jInside, k, kInside, start, .inl next⟩
    · rcases steps_two.mp steps with ⟨j, jInside, k, kInside, rfl, rfl | rfl⟩
      · exact ⟨i, inside, j, jInside, k, kInside, start, .inr (.inl next)⟩
      · exact ⟨i, inside, j, jInside, k, kInside, start, .inr (.inr next)⟩
  · rintro ⟨i, inside, j, jInside, k, kInside, start, next | next | next⟩
    · refine ⟨i, inside, _, start, .inl ⟨?_, next⟩⟩
      rw [below_pow jInside, Nat.pow_one]
      exact kInside
    · exact ⟨i, inside, _, start,
        .inr ⟨_, steps_two.mpr ⟨j, jInside, k, kInside, rfl, .inl rfl⟩, next⟩⟩
    · exact ⟨i, inside, _, start,
        .inr ⟨_, steps_two.mpr ⟨j, jInside, k, kInside, rfl, .inr rfl⟩, next⟩⟩

end Digits

/-! ## The loops of each dimension -/

section Loops

variable {nodesPerDim i j k : UInt32} {pair : UInt32 × UInt32}

theorem exists_in_range {holds : Nat → Prop} :
    (∃ word ∈ rangeU32 0 nodesPerDim, holds word.toNat) ↔
      ∃ number < nodesPerDim.toNat, holds number := by
  constructor
  · rintro ⟨word, listed, holding⟩
    exact ⟨word.toNat, UInt32.lt_iff_toNat_lt.mp (mem_range_u32.mp listed).2, holding⟩
  · rintro ⟨number, inside, holding⟩
    have same := to_nat_of_word (Nat.lt_trans inside nodesPerDim.toNat_lt)
    refine ⟨UInt32.ofNat number, ?_, by rwa [same]⟩
    rw [mem_range_u32, UInt32.le_iff_toNat_le, UInt32.lt_iff_toNat_lt, same]
    exact ⟨Nat.zero_le _, inside⟩

theorem below_of_listed (listed : i ∈ rangeU32 0 nodesPerDim) : i.toNat < nodesPerDim.toNat :=
  UInt32.lt_iff_toNat_lt.mp (mem_range_u32.mp listed).2

theorem pair_eq {first second : UInt32} :
    pair = (first, second) ↔ pair.1.toNat = first.toNat ∧ pair.2.toNat = second.toNat := by
  rw [UInt32.toNat_inj, UInt32.toNat_inj, Prod.ext_iff]

theorem next_place (inside : i.toNat < nodesPerDim.toNat) :
    ((i + 1) % nodesPerDim).toNat = (i.toNat + 1) % nodesPerDim.toNat := by
  have word := nodesPerDim.toNat_lt
  rw [UInt32.toNat_mod, to_nat_succ (by omega)]

theorem two_digits (iInside : i.toNat < nodesPerDim.toNat) (jInside : j.toNat < nodesPerDim.toNat)
    (fits : nodesPerDim.toNat ^ 2 < 2 ^ 32) :
    (i + j * nodesPerDim).toNat = i.toNat + nodesPerDim.toNat * j.toNat := by
  have below : i.toNat + nodesPerDim.toNat * j.toNat < nodesPerDim.toNat ^ 2 := by
    rw [below_pow iInside, Nat.pow_one]
    exact jInside
  rw [UInt32.toNat_add, UInt32.toNat_mul, Nat.mul_comm j.toNat, Nat.add_mod_mod,
    Nat.mod_eq_of_lt (by omega)]

theorem three_digits (iInside : i.toNat < nodesPerDim.toNat) (jInside : j.toNat < nodesPerDim.toNat)
    (kInside : k.toNat < nodesPerDim.toNat) (fits : nodesPerDim.toNat ^ 3 < 2 ^ 32) :
    (i + j * nodesPerDim + k * nodesPerDim ^ 2).toNat =
      i.toNat + nodesPerDim.toNat * (j.toNat + nodesPerDim.toNat * k.toNat) := by
  have below : i.toNat + nodesPerDim.toNat * (j.toNat + nodesPerDim.toNat * k.toNat) <
      nodesPerDim.toNat ^ 3 := by
    rw [below_pow iInside, below_pow jInside, Nat.pow_one]
    exact kInside
  have sum : i.toNat + j.toNat * nodesPerDim.toNat + k.toNat * nodesPerDim.toNat ^ 2 =
      i.toNat + nodesPerDim.toNat * (j.toNat + nodesPerDim.toNat * k.toNat) := by ring
  rw [UInt32.toNat_add, UInt32.toNat_add, UInt32.toNat_mul, UInt32.toNat_mul, to_nat_pow_u32,
    Nat.mul_mod_mod, Nat.add_mod_mod, Nat.add_mod_mod, Nat.mod_add_mod, sum,
    Nat.mod_eq_of_lt (by omega)]

theorem mem_build_1d : pair ∈ build1dTorusEdges nodesPerDim ↔
    Steps nodesPerDim.toNat 1 pair.1.toNat pair.2.toNat := by
  rw [steps_one, ← exists_in_range, build1dTorusEdges, List.mem_map]
  apply exists_congr
  intro i
  apply and_congr_right
  intro listed
  rw [eq_comm, pair_eq, next_place (below_of_listed listed)]

theorem mem_build_2d (fits : nodesPerDim.toNat ^ 2 < 2 ^ 32) :
    pair ∈ build2dTorusEdges nodesPerDim ↔
      Steps nodesPerDim.toNat 2 pair.1.toNat pair.2.toNat := by
  rw [steps_two, ← exists_in_range, build2dTorusEdges, List.mem_flatMap]
  apply exists_congr
  intro i
  apply and_congr_right
  intro iListed
  rw [← exists_in_range, List.mem_flatMap]
  apply exists_congr
  intro j
  apply and_congr_right
  intro jListed
  have iInside := below_of_listed iListed
  have jInside := below_of_listed jListed
  have positive := Nat.zero_lt_of_lt iInside
  have iNext := next_place iInside
  have jNext := next_place jInside
  rw [List.mem_pair, pair_eq, pair_eq, two_digits iInside jInside fits,
    two_digits (by rw [iNext]; exact Nat.mod_lt _ positive) jInside fits,
    two_digits iInside (by rw [jNext]; exact Nat.mod_lt _ positive) fits, iNext, jNext, and_or_left]

theorem mem_build_3d (fits : nodesPerDim.toNat ^ 3 < 2 ^ 32) :
    pair ∈ build3dTorusEdges nodesPerDim ↔
      Steps nodesPerDim.toNat 3 pair.1.toNat pair.2.toNat := by
  rw [steps_three, ← exists_in_range, build3dTorusEdges, List.mem_flatMap]
  apply exists_congr
  intro i
  apply and_congr_right
  intro iListed
  rw [← exists_in_range, List.mem_flatMap]
  apply exists_congr
  intro j
  apply and_congr_right
  intro jListed
  rw [← exists_in_range, List.mem_flatMap]
  apply exists_congr
  intro k
  apply and_congr_right
  intro kListed
  have iInside := below_of_listed iListed
  have jInside := below_of_listed jListed
  have kInside := below_of_listed kListed
  have positive := Nat.zero_lt_of_lt iInside
  have iNext := next_place iInside
  have jNext := next_place jInside
  have kNext := next_place kInside
  rw [List.mem_cons, List.mem_pair, pair_eq, pair_eq, pair_eq,
    three_digits iInside jInside kInside fits,
    three_digits (by rw [iNext]; exact Nat.mod_lt _ positive) jInside kInside fits,
    three_digits iInside (by rw [jNext]; exact Nat.mod_lt _ positive) kInside fits,
    three_digits iInside jInside (by rw [kNext]; exact Nat.mod_lt _ positive) fits,
    iNext, jNext, kNext, and_or_left, and_or_left]

theorem length_flat_map_range {Item : Type} {body : UInt32 → List Item} {size : Nat}
    (each : ∀ word, (body word).length = size) :
    ((rangeU32 0 nodesPerDim).flatMap body).length = nodesPerDim.toNat * size := by
  have sizes : (rangeU32 0 nodesPerDim).map (fun word => (body word).length) =
      List.replicate nodesPerDim.toNat size := by
    rw [List.eq_replicate_iff, List.length_map, rangeU32, List.length_map, List.length_range']
    refine ⟨rfl, ?_⟩
    simp only [List.mem_map, forall_exists_index, and_imp, forall_apply_eq_imp_iff₂, each,
      implies_true]
  rw [List.length_flatMap, sizes, List.sum_replicate_nat]

theorem length_build_1d : (build1dTorusEdges nodesPerDim).length = 1 * nodesPerDim.toNat ^ 1 := by
  rw [build1dTorusEdges, List.length_map, rangeU32, List.length_map, List.length_range',
    Nat.one_mul, Nat.pow_one, UInt32.toNat_zero, Nat.sub_zero]

theorem length_build_2d : (build2dTorusEdges nodesPerDim).length = 2 * nodesPerDim.toNat ^ 2 := by
  have counted : (build2dTorusEdges nodesPerDim).length =
      nodesPerDim.toNat * (nodesPerDim.toNat * 2) := by
    apply length_flat_map_range
    intro i
    apply length_flat_map_range
    intro j
    rfl
  rw [counted]
  ring

theorem length_build_3d : (build3dTorusEdges nodesPerDim).length = 3 * nodesPerDim.toNat ^ 3 := by
  have counted : (build3dTorusEdges nodesPerDim).length =
      nodesPerDim.toNat * (nodesPerDim.toNat * (nodesPerDim.toNat * 3)) := by
    apply length_flat_map_range
    intro i
    apply length_flat_map_range
    intro j
    apply length_flat_map_range
    intro k
    rfl
  rw [counted]
  ring

theorem listed_word {number : Nat} (inside : number < nodesPerDim.toNat) :
    ∃ word ∈ rangeU32 0 nodesPerDim, word.toNat = number :=
  (@exists_in_range nodesPerDim (· = number)).mpr ⟨number, inside, rfl⟩

/-- The index before the wrap of the words, of a node of the plane. -/
theorem last_index_2d (wraps : 2 ^ 32 ≤ nodesPerDim.toNat ^ 2) :
    ∃ pair ∈ build2dTorusEdges nodesPerDim, pair.1.toNat = 2 ^ 32 - 1 := by
  have last : 2 ^ 32 - 1 < nodesPerDim.toNat * nodesPerDim.toNat := by
    rw [← Nat.pow_two]
    omega
  rcases exists_number last with ⟨block, blockInside, place, placed, number⟩
  rcases listed_word placed with ⟨i, iListed, rfl⟩
  rcases listed_word blockInside with ⟨j, jListed, rfl⟩
  refine ⟨(i + j * nodesPerDim, (i + 1) % nodesPerDim + j * nodesPerDim), ?_, ?_⟩
  · rw [build2dTorusEdges, List.mem_flatMap]
    refine ⟨i, iListed, List.mem_flatMap.mpr ⟨j, jListed, List.mem_cons_self⟩⟩
  · rw [UInt32.toNat_add, UInt32.toNat_mul, Nat.add_mod_mod, Nat.add_comm, ← number]
    rfl

theorem last_index_3d (wraps : 2 ^ 32 ≤ nodesPerDim.toNat ^ 3) :
    ∃ pair ∈ build3dTorusEdges nodesPerDim, pair.1.toNat = 2 ^ 32 - 1 := by
  have last : 2 ^ 32 - 1 < nodesPerDim.toNat * nodesPerDim.toNat * nodesPerDim.toNat := by
    have cube : nodesPerDim.toNat * nodesPerDim.toNat * nodesPerDim.toNat =
        nodesPerDim.toNat ^ 3 := by ring
    omega
  rcases exists_number last with ⟨plane, planeInside, place, placed, number⟩
  rcases exists_number planeInside with ⟨block, blockInside, row, rowInside, planeNumber⟩
  rcases listed_word placed with ⟨i, iListed, rfl⟩
  rcases listed_word rowInside with ⟨j, jListed, rfl⟩
  rcases listed_word blockInside with ⟨k, kListed, rfl⟩
  refine ⟨(i + j * nodesPerDim + k * nodesPerDim ^ 2,
    (i + 1) % nodesPerDim + j * nodesPerDim + k * nodesPerDim ^ 2), ?_, ?_⟩
  · rw [build3dTorusEdges, List.mem_flatMap]
    refine ⟨i, iListed, List.mem_flatMap.mpr ⟨j, jListed, List.mem_flatMap.mpr ⟨k, kListed, ?_⟩⟩⟩
    exact List.mem_cons_self
  · have sum : i.toNat + j.toNat * nodesPerDim.toNat + k.toNat * nodesPerDim.toNat ^ 2 =
        2 ^ 32 - 1 := by
      rw [number, planeNumber]
      ring
    rw [UInt32.toNat_add, UInt32.toNat_add, UInt32.toNat_mul, UInt32.toNat_mul, to_nat_pow_u32,
      Nat.mul_mod_mod, Nat.add_mod_mod, Nat.add_mod_mod, Nat.mod_add_mod, sum]
    rfl

/-- What the loops of a dimension add, and what they add where its indices wrap. -/
structure Loops (dim base : Nat) (pairs : List (UInt32 × UInt32)) : Prop where
  length : pairs.length = dim * base ^ dim
  steps : base ^ dim < 2 ^ 32 → ∀ pair, pair ∈ pairs ↔ Steps base dim pair.1.toNat pair.2.toNat
  wraps : 2 ^ 32 ≤ base ^ dim → ∃ pair ∈ pairs, pair.1.toNat = 2 ^ 32 - 1

theorem index_pairs {dimension : UInt32} (atLeast : 1 ≤ dimension.toNat)
    (atMost : dimension.toNat ≤ 3) : ∃ pairs, indexPairs dimension nodesPerDim = .ok pairs ∧
      Loops dimension.toNat nodesPerDim.toNat pairs := by
  rw [indexPairs]
  generalize dimension.toNat = dim at *
  have word := nodesPerDim.toNat_lt
  interval_cases dim
  · refine ⟨_, rfl, length_build_1d, fun _ _ => mem_build_1d, ?_⟩
    intro wraps
    rw [Nat.pow_one] at wraps
    omega
  · exact ⟨_, rfl, length_build_2d, fun fits _ => mem_build_2d fits, last_index_2d⟩
  · exact ⟨_, rfl, length_build_3d, fun fits _ => mem_build_3d fits, last_index_3d⟩

end Loops

/-! ## The edges of a torus -/

section Building

variable {Graph : Type} {library : GraphLibrary Graph} {dimension nodesPerDim : UInt32}

def shifted (pair : UInt32 × UInt32) : Edge := (pair.1 + 1, pair.2 + 1)

theorem build_edges_some (documented : library.Documented) (atLeast : 1 ≤ dimension.toNat)
    (atMost : dimension.toNat ≤ 3)
    (fits : dimension.toNat * nodesPerDim.toNat ^ dimension.toNat < 2 ^ 32) :
    ∃ pairs : List (UInt32 × UInt32),
      buildEdges library dimension nodesPerDim = some (.ok (pairs.map shifted)) ∧
        ∀ pair, pair ∈ pairs ↔
          Steps nodesPerDim.toNat dimension.toNat pair.1.toNat pair.2.toNat := by
  have nodesFit : nodesPerDim.toNat ^ dimension.toNat < 2 ^ 32 :=
    Nat.lt_of_le_of_lt (Nat.le_mul_of_pos_left _ atLeast) fits
  have total : (nodesPerDim ^ dimension.toNat).toNat = nodesPerDim.toNat ^ dimension.toNat := by
    rw [to_nat_pow_u32, Nat.mod_eq_of_lt nodesFit]
  rcases @index_pairs nodesPerDim dimension atLeast atMost with ⟨pairs, listed, loops⟩
  rcases @add_nodes_some Graph library documented library.empty (nodesPerDim ^ dimension.toNat).toNat
    (by rw [documented.empty_nodes, total]; omega) with ⟨graph, nodesAdded, nodes, noEdges⟩
  rw [documented.empty_nodes, Nat.zero_add, total] at nodes
  rw [documented.empty_edges] at noEdges
  have steps := loops.steps nodesFit
  have addable : Addable library graph pairs := by
    constructor
    · intro pair member
      rcases (steps pair).mp member with ⟨axis, _, step⟩
      rw [nodes]
      exact ⟨step.firstBelow, step.secondBelow⟩
    · rw [noEdges, loops.length, List.length_nil]
      omega
  rcases add_edges_some documented addable with ⟨later, edgesAdded, endpoints⟩
  refine ⟨pairs, ?_, steps⟩
  rw [noEdges, List.nil_append] at endpoints
  rw [buildEdges, nodesAdded, Option.bind_some, listed]
  simp only [edgesAdded, Option.map_some, endpoints, List.map_map]
  congr 3
  funext pair
  simp only [Function.comp, shifted, UInt32.ofNat_toNat]

theorem build_edges_none (documented : library.Documented) (atLeast : 1 ≤ dimension.toNat)
    (atMost : dimension.toNat ≤ 3)
    (exceeds : 2 ^ 32 ≤ dimension.toNat * nodesPerDim.toNat ^ dimension.toNat) :
    buildEdges library dimension nodesPerDim = none := by
  have word := (nodesPerDim ^ dimension.toNat).toNat_lt
  rcases @index_pairs nodesPerDim dimension atLeast atMost with ⟨pairs, listed, loops⟩
  rcases @add_nodes_some Graph library documented library.empty (nodesPerDim ^ dimension.toNat).toNat
    (by rw [documented.empty_nodes]; omega) with ⟨graph, nodesAdded, nodes, noEdges⟩
  rw [documented.empty_nodes, Nat.zero_add] at nodes
  rw [documented.empty_edges] at noEdges
  have fails : ¬Addable library graph pairs := by
    intro addable
    by_cases nodesFit : nodesPerDim.toNat ^ dimension.toNat < 2 ^ 32
    · have room := addable.edges
      rw [noEdges, loops.length, List.length_nil] at room
      omega
    · rcases loops.wraps (Nat.le_of_not_lt nodesFit) with ⟨pair, member, last⟩
      have inside := (addable.nodes pair member).1
      rw [last, nodes] at inside
      omega
  have noRoom := add_edges_none documented (by rw [noEdges]; decide) fails
  rw [buildEdges, nodesAdded, Option.bind_some, listed]
  simp only [noRoom, Option.map_none]

theorem build_eq {dim n : Nat} (atLeast : 1 ≤ (UInt32.ofNat dim).toNat)
    (atMost : (UInt32.ofNat dim).toNat ≤ 3) (positive : 0 < (UInt32.ofNat n).toNat) :
    build library dim n = buildEdges library (UInt32.ofNat dim) (UInt32.ofNat n) := by
  have one : (1 : UInt32).toNat = 1 := rfl
  have three : (3 : UInt32).toNat = 3 := rfl
  have supported : 1 ≤ UInt32.ofNat dim ∧ UInt32.ofNat dim ≤ 3 := by
    rw [UInt32.le_iff_toNat_le, UInt32.le_iff_toNat_le, one, three]
    exact ⟨atLeast, atMost⟩
  have nonzero : UInt32.ofNat n ≠ 0 := by
    intro zero
    rw [zero] at positive
    exact Nat.lt_irrefl _ positive
  rw [build, validateParams, if_neg (not_not_intro supported), if_neg nonzero]

theorem build_refused {dim n : Nat} (invalid : ¬(1 ≤ (UInt32.ofNat dim).toNat ∧
    (UInt32.ofNat dim).toNat ≤ 3 ∧ 0 < (UInt32.ofNat n).toNat)) :
    ∃ error, build library dim n = some (.error error) := by
  have one : (1 : UInt32).toNat = 1 := rfl
  have three : (3 : UInt32).toNat = 3 := rfl
  rw [build, validateParams]
  by_cases supported : 1 ≤ UInt32.ofNat dim ∧ UInt32.ofNat dim ≤ 3
  · have zero : UInt32.ofNat n = 0 := by
      rw [UInt32.le_iff_toNat_le, UInt32.le_iff_toNat_le, one, three] at supported
      rw [← UInt32.toNat_inj, UInt32.toNat_zero]
      omega
    rw [if_neg (not_not_intro supported), if_pos zero]
    exact ⟨_, rfl⟩
  · rw [if_pos supported]
    exact ⟨_, rfl⟩

end Building

/-! ## Coordinates -/

/-- A coordinate of a node id: the ids start at one, the lowest digit is the first coordinate. -/
def coordinate (n axis : Nat) (id : UInt32) : Nat := digit n axis (id.toNat - 1)

def IsNode (dim n : Nat) (id : UInt32) : Prop := 1 ≤ id.toNat ∧ id.toNat ≤ n ^ dim

/-- One coordinate differs by one modulo the side, up or down, and the others are the same. -/
def Neighbours (dim n : Nat) (first second : UInt32) : Prop :=
  ∃ axis < dim, (coordinate n axis second = (coordinate n axis first + 1) % n ∨
      coordinate n axis first = (coordinate n axis second + 1) % n) ∧
    ∀ other < dim, other ≠ axis → coordinate n other first = coordinate n other second

/-- The edges of a torus, of which each pair is there in one order. -/
structure Shape (dim n : Nat) (edges : Finset Edge) : Prop where
  pairs : ∀ first second, (first, second) ∈ edges ↔
    first < second ∧ IsNode dim n first ∧ IsNode dim n second ∧ Neighbours dim n first second
  once : ∀ first second, IsNode dim n first → IsNode dim n second →
    Neighbours dim n first second → Xor ((first, second) ∈ edges) ((second, first) ∈ edges)
  ids : ∀ id, (∃ edge ∈ edges, edge.1 = id ∨ edge.2 = id) ↔ IsNode dim n id

section Coordinates

variable {dim n : Nat} {first second id : UInt32} {pairs : List (UInt32 × UInt32)}

theorem neighbours_symm (neighbours : Neighbours dim n first second) :
    Neighbours dim n second first := by
  rcases neighbours with ⟨axis, inside, next, others⟩
  exact ⟨axis, inside, next.symm, fun other below apart => (others other below apart).symm⟩

theorem neighbours_iff (node : IsNode dim n first) (otherNode : IsNode dim n second) :
    Neighbours dim n first second ↔
      Steps n dim (first.toNat - 1) (second.toNat - 1) ∨
        Steps n dim (second.toNat - 1) (first.toNat - 1) := by
  have below : first.toNat - 1 < n ^ dim := by
    have bounds := node
    rw [IsNode] at bounds
    omega
  have otherBelow : second.toNat - 1 < n ^ dim := by
    have bounds := otherNode
    rw [IsNode] at bounds
    omega
  constructor
  · rintro ⟨axis, inside, next | next, others⟩
    · exact .inl ⟨axis, inside, below, otherBelow, next, others⟩
    · exact .inr ⟨axis, inside, otherBelow, below, next,
        fun other within apart => (others other within apart).symm⟩
  · rintro (⟨axis, inside, step⟩ | ⟨axis, inside, step⟩)
    · exact ⟨axis, inside, .inl step.next, step.others⟩
    · exact ⟨axis, inside, .inr step.next,
        fun other within apart => (step.others other within apart).symm⟩

theorem steps_ne {start next : Nat} (sides : 2 ≤ n) (steps : Steps n dim start next) :
    start ≠ next := by
  rintro rfl
  rcases steps with ⟨axis, _, step⟩
  have place := digit_lt (show 0 < n by omega) axis start
  have same := step.next
  rcases Nat.lt_or_ge (digit n axis start + 1) n with inside | last
  · rw [Nat.mod_eq_of_lt inside] at same
    omega
  · have full : digit n axis start + 1 = n := by omega
    rw [full, Nat.mod_self] at same
    omega

theorem steps_bounds {start next : Nat} (steps : Steps n dim start next) :
    start < n ^ dim ∧ next < n ^ dim := by
  rcases steps with ⟨axis, _, step⟩
  exact ⟨step.firstBelow, step.secondBelow⟩

theorem exists_step {start : Nat} (axes : 1 ≤ dim) (below : start < n ^ dim) :
    ∃ next, Steps n dim start next := by
  obtain ⟨lower, rfl⟩ : ∃ lower, dim = lower + 1 := ⟨dim - 1, by omega⟩
  have positive : 0 < n := by
    by_contra none
    rw [Nat.eq_zero_of_not_pos none, Nat.zero_pow (Nat.succ_pos lower)] at below
    exact Nat.not_lt_zero _ below
  have placed := Nat.mod_lt start positive
  rw [← Nat.mod_add_div start n, below_pow placed] at below
  exact ⟨_, steps_succ.mpr ⟨start % n, placed, start / n, (Nat.mod_add_div start n).symm,
    .inl ⟨below, rfl⟩⟩⟩

theorem shifted_to_nat {pair : UInt32 × UInt32} (fits : n ^ dim < 2 ^ 32)
    (steps : Steps n dim pair.1.toNat pair.2.toNat) :
    (shifted pair).1.toNat = pair.1.toNat + 1 ∧ (shifted pair).2.toNat = pair.2.toNat + 1 := by
  have bounds := steps_bounds steps
  exact ⟨to_nat_succ (by omega), to_nat_succ (by omega)⟩

theorem exists_pair (listed : ∀ pair, pair ∈ pairs ↔ Steps n dim pair.1.toNat pair.2.toNat)
    (fits : n ^ dim < 2 ^ 32) (node : IsNode dim n first) (otherNode : IsNode dim n second)
    (steps : Steps n dim (first.toNat - 1) (second.toNat - 1)) :
    ∃ pair ∈ pairs, shifted pair = (first, second) := by
  have bounds := node
  have otherBounds := otherNode
  rw [IsNode] at bounds otherBounds
  have word := to_nat_of_word (show first.toNat - 1 < 2 ^ 32 by omega)
  have otherWord := to_nat_of_word (show second.toNat - 1 < 2 ^ 32 by omega)
  let pair := (UInt32.ofNat (first.toNat - 1), UInt32.ofNat (second.toNat - 1))
  have stepped : Steps n dim pair.1.toNat pair.2.toNat := by rwa [word, otherWord]
  refine ⟨pair, (listed pair).mpr stepped, ?_⟩
  have values := shifted_to_nat fits stepped
  rw [pair_eq, values.1, values.2, word, otherWord]
  omega

theorem mem_torus_edges (listed : ∀ pair, pair ∈ pairs ↔ Steps n dim pair.1.toNat pair.2.toNat)
    (sides : 2 ≤ n) (fits : n ^ dim < 2 ^ 32) :
    (first, second) ∈ Topology.insertEdges ∅ (pairs.map shifted) ↔
      first < second ∧ IsNode dim n first ∧ IsNode dim n second ∧
        Neighbours dim n first second := by
  simp only [Topology.mem_insert_edges, Finset.notMem_empty, false_or, List.mem_map,
    exists_exists_and_eq_and]
  constructor
  · rintro ⟨pair, member, same⟩
    have steps := (listed pair).mp member
    have bounds := steps_bounds steps
    have values := shifted_to_nat fits steps
    have node : IsNode dim n (shifted pair).1 := by
      rw [IsNode, values.1]
      omega
    have otherNode : IsNode dim n (shifted pair).2 := by
      rw [IsNode, values.2]
      omega
    have apart := steps_ne sides steps
    have neighbours : Neighbours dim n (shifted pair).1 (shifted pair).2 := by
      rw [neighbours_iff node otherNode, values.1, values.2]
      exact .inl steps
    generalize shifted pair = edge at same values node otherNode neighbours
    rcases edge with ⟨start, next⟩
    rw [Topology.normalized] at same
    dsimp only at same values
    split at same
    · next ordered =>
        rw [UInt32.le_iff_toNat_le] at ordered
        cases same
        exact ⟨UInt32.lt_iff_toNat_lt.mpr (by omega), node, otherNode, neighbours⟩
    · next reversed =>
        rw [UInt32.le_iff_toNat_le] at reversed
        cases same
        refine ⟨UInt32.lt_iff_toNat_lt.mpr (by omega), otherNode, node, neighbours_symm neighbours⟩
  · rintro ⟨ordered, node, otherNode, neighbours⟩
    rcases (neighbours_iff node otherNode).mp neighbours with steps | steps
    · rcases exists_pair listed fits node otherNode steps with ⟨pair, member, same⟩
      refine ⟨pair, member, ?_⟩
      rw [same, Topology.normalized, if_pos (UInt32.le_of_lt ordered)]
    · rcases exists_pair listed fits otherNode node steps with ⟨pair, member, same⟩
      refine ⟨pair, member, ?_⟩
      rw [same, Topology.normalized, if_neg (UInt32.not_le.mpr ordered)]

theorem torus_ids (listed : ∀ pair, pair ∈ pairs ↔ Steps n dim pair.1.toNat pair.2.toNat)
    (axes : 1 ≤ dim) (fits : n ^ dim < 2 ^ 32) :
    id ∈ Topology.nodeIds (Topology.insertEdges ∅ (pairs.map shifted)) ↔ IsNode dim n id := by
  rw [Topology.mem_built_ids]
  simp only [List.mem_map, exists_exists_and_eq_and]
  constructor
  · rintro ⟨pair, member, names⟩
    have steps := (listed pair).mp member
    have bounds := steps_bounds steps
    have values := shifted_to_nat fits steps
    rcases names with rfl | rfl
    · rw [IsNode, values.1]
      omega
    · rw [IsNode, values.2]
      omega
  · intro node
    have bounds := node
    rw [IsNode] at bounds
    rcases exists_step axes (show id.toNat - 1 < n ^ dim by omega) with ⟨next, steps⟩
    have below := (steps_bounds steps).2
    have word := to_nat_of_word (show next + 1 < 2 ^ 32 by omega)
    have otherNode : IsNode dim n (UInt32.ofNat (next + 1)) := by
      rw [IsNode, word]
      omega
    rw [← Nat.add_sub_cancel next 1, ← word] at steps
    rcases exists_pair listed fits node otherNode steps with ⟨pair, member, same⟩
    exact ⟨pair, member, .inl (by rw [same])⟩

theorem torus_edges_shape (listed : ∀ pair, pair ∈ pairs ↔ Steps n dim pair.1.toNat pair.2.toNat)
    (axes : 1 ≤ dim) (sides : 2 ≤ n) (fits : n ^ dim < 2 ^ 32) :
    Shape dim n (Topology.insertEdges ∅ (pairs.map shifted)) := by
  have pairsIff (first second : UInt32) := @mem_torus_edges dim n first second pairs listed sides fits
  refine ⟨pairsIff, ?_, ?_⟩
  · intro first second node otherNode neighbours
    have apart : first.toNat ≠ second.toNat := by
      rcases (neighbours_iff node otherNode).mp neighbours with steps | steps
      · have different := steps_ne sides steps
        omega
      · have different := steps_ne sides steps
        omega
    rw [pairsIff, pairsIff, UInt32.lt_iff_toNat_lt, UInt32.lt_iff_toNat_lt]
    rcases Nat.lt_or_gt_of_ne apart with ordered | reversed
    · exact .inl ⟨⟨ordered, node, otherNode, neighbours⟩, fun other => by omega⟩
    · exact .inr ⟨⟨reversed, otherNode, node, neighbours_symm neighbours⟩, fun other => by omega⟩
  · intro id
    rw [← torus_ids listed axes fits, Topology.mem_node_ids]

end Coordinates

/-- With edges that fit their index, the torus and the custom edges are the edges of the
configuration. -/
theorem torus_shape {Graph : Type} (library : GraphLibrary Graph) (documented : library.Documented)
    (topology : Topology) (dim n : Nat) (preset : topology.topologyType = some .torus)
    (configured : topology.torusConfig = some (dim, n)) (atLeast : 1 ≤ dim) (atMost : dim ≤ 3)
    (sides : 2 ≤ n) (fits : dim * n ^ dim < 2 ^ 32) : ∃ edges, Shape dim n edges ∧
      topology.buildTopology library =
        some (some (Topology.insertEdges edges (topology.edges.getD []))) := by
  have nodesFit : n ^ dim < 2 ^ 32 :=
    Nat.lt_of_le_of_lt (Nat.le_mul_of_pos_left _ atLeast) fits
  have sideFits : n < 2 ^ 32 :=
    Nat.lt_of_le_of_lt (Nat.le_self_pow (Nat.ne_of_gt atLeast) n) nodesFit
  have dimWord : (UInt32.ofNat dim).toNat = dim := to_nat_of_word (by omega)
  have sideWord : (UInt32.ofNat n).toNat = n := to_nat_of_word sideFits
  rcases @build_edges_some Graph library (UInt32.ofNat dim) (UInt32.ofNat n) documented
    (by rwa [dimWord]) (by rwa [dimWord]) (by rwa [dimWord, sideWord]) with ⟨pairs, built, listed⟩
  rw [dimWord, sideWord] at listed
  have shape := torus_edges_shape listed atLeast sides nodesFit
  have start : IsNode dim n 1 := ⟨Nat.le_refl 1, Nat.one_le_pow _ _ (by omega)⟩
  rcases (shape.ids 1).mpr start with ⟨edge, member, _⟩
  have all := @build_eq Graph library dim n (by rwa [dimWord]) (by rwa [dimWord])
    (by rw [sideWord]; omega)
  refine ⟨_, shape, Topology.build_topology_built library preset ?_ (Finset.ne_empty_of_mem member)⟩
  simp only [Topology.presetEdges, configured, all, built, Option.map_some, Except.toOption]

end TorusConfig

/-! ## A graph in a list -/

def listGraph : GraphLibrary (Nat × List (Nat × Nat)) where
  empty := (0, [])
  addNode graph := if graph.1 < 2 ^ 32 - 1 then some (graph.1 + 1, graph.2) else none
  addEdge graph first second :=
    if first < graph.1 ∧ second < graph.1 ∧ graph.2.length < 2 ^ 32 - 1 then
      some (graph.1, graph.2 ++ [(first, second)])
    else none
  nodeCount graph := graph.1
  endpoints graph := graph.2

theorem list_graph_documented : listGraph.Documented where
  empty_nodes := rfl
  empty_edges := rfl
  add_node graph room := ⟨(graph.1 + 1, graph.2), if_pos room, rfl, rfl⟩
  no_node _ full := if_neg (Nat.not_lt.mpr full)
  add_edge graph first second start finish room :=
    ⟨(graph.1, graph.2 ++ [(first, second)]), if_pos ⟨start, finish, room⟩, rfl, rfl⟩
  no_edge _ _ _ fails := if_neg fails

namespace TorusConfig

def torusOf (dim n : Nat) : Topology where
  topologyType := some .torus
  nNodes := none
  fullMeshConfig := none
  fatTreeConfig := none
  torusConfig := some (dim, n)
  ringConfig := none
  edges := none

/-- The torus of three by three nodes. -/
theorem torus_of_three_by_three : ∃ edges, Shape 2 3 edges ∧
    (torusOf 2 3).buildTopology listGraph = some (some (Topology.insertEdges edges [])) :=
  torus_shape listGraph list_graph_documented (torusOf 2 3) 2 3 rfl rfl (by decide) (by decide)
    (by decide) (by decide)

/-- A plane whose nodes fit their word, and whose edges do not. -/
theorem too_many_edges_panic : 46341 ^ 2 < 2 ^ 32 ∧
    ¬∃ edges, (torusOf 2 46341).buildTopology listGraph = some (some edges) ∧
      Shape 2 46341 edges := by
  refine ⟨by decide, ?_⟩
  rintro ⟨edges, built, _⟩
  have words : (UInt32.ofNat 2).toNat = 2 ∧ (UInt32.ofNat 46341).toNat = 46341 := ⟨rfl, rfl⟩
  have none := @build_edges_none _ listGraph (UInt32.ofNat 2) (UInt32.ofNat 46341)
    list_graph_documented (by decide) (by decide) (by rw [words.1, words.2]; decide)
  have all := @build_eq _ listGraph 2 46341 (by decide) (by decide) (by decide)
  rw [none] at all
  have panics : (torusOf 2 46341).buildTopology listGraph = .none := by
    apply Topology.build_topology_panics listGraph (show (torusOf 2 46341).topologyType = _ from rfl)
    simp only [Topology.presetEdges, torusOf, all, Option.map_none]
  rw [panics] at built
  exact nomatch built

end TorusConfig

end Nextmini.Controller
