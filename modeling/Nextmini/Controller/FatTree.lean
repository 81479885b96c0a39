import Mathlib.Data.List.Nodup
import Mathlib.Logic.Relation
import Mathlib.Order.Interval.Finset.Nat
import Mathlib.Tactic.Ring
import Nextmini.Controller.PresetTopologies
import Nextmini.Library.BlockNumbering

/-!
# Fat trees

The layers of the fat tree and the links between them. With `half` ports down and as many up, a switch
of the edge or the aggregation layer is known by its pod and its place there, a core switch by its
group and its place there; the group is the place of the aggregation switches it is linked to. The
capacity that the edges are given in advance is left out: its product wraps in a release build, and has
no effect on them.
-/

namespace Nextmini.Controller

open Nextmini.Library.BlockNumbering

set_option autoImplicit false

/-- An edge between two ids, in the order in which it was built. -/
def HasEdge (edges : List Edge) (first second : Nat) : Prop :=
  ∃ edge ∈ edges, edge.1.toNat = first ∧ edge.2.toNat = second

instance (edges : List Edge) (first second : Nat) : Decidable (HasEdge edges first second) :=
  inferInstanceAs (Decidable (∃ edge ∈ edges, edge.1.toNat = first ∧ edge.2.toNat = second))

/-- Two linked ids, in either order. -/
def LinkedIds (edges : List Edge) (first second : Nat) : Prop :=
  HasEdge edges first second ∨ HasEdge edges second first

instance (edges : List Edge) (first second : Nat) : Decidable (LinkedIds edges first second) :=
  inferInstanceAs (Decidable (_ ∨ _))

namespace FatTreeConfig

/-! ## Node ids -/

def edgeSwitch (half pod place : Nat) : Nat := pod * half + place + 1

def aggSwitch (half pod place : Nat) : Nat := 2 * half * half + (pod * half + place) + 1

def coreSwitch (half group place : Nat) : Nat := 4 * half * half + (group * half + place) + 1

structure Params (half : Nat) (numLayerSwitches layerSwitchesPerPod coreSwitchesPerAgg : UInt32) :
    Prop where
  positive : 0 < half
  fits : 5 * half * half < 2 ^ 32
  layer : numLayerSwitches.toNat = 2 * half * half
  pod : layerSwitchesPerPod.toNat = half
  core : coreSwitchesPerAgg.toNat = half

theorem calculate_params {k half : Nat} (even : k = 2 * half) (positive : 0 < half)
    (fits : 5 * half * half < 2 ^ 32) :
    let params := calculateParams (UInt32.ofNat k)
    Params half params.1 params.2.1 params.2.2 := by
  have square : half ≤ half * half := Nat.le_mul_self half
  have word : (UInt32.ofNat k).toNat = 2 * half := by
    rw [even]
    apply to_nat_of_word
    rw [Nat.mul_assoc] at fits
    omega
  have power : ((UInt32.ofNat k) ^ 2).toNat = 4 * (half * half) := by
    have product : (2 * half) ^ 2 = 4 * (half * half) := by ring
    rw [to_nat_pow_u32, word, product]
    apply Nat.mod_eq_of_lt
    rw [Nat.mul_assoc] at fits
    omega
  have two : (2 : UInt32).toNat = 2 := rfl
  have four : (4 : UInt32).toNat = 4 := rfl
  have layer : ((UInt32.ofNat k) ^ 2 / 2).toNat = 2 * half * half := by
    rw [UInt32.toNat_div, power, two, Nat.mul_assoc]
    omega
  have pod : (UInt32.ofNat k / 2).toNat = half := by
    rw [UInt32.toNat_div, word, two]
    omega
  refine ⟨positive, fits, layer, pod, ?_⟩
  simp only [calculateParams]
  rw [UInt32.toNat_div, UInt32.toNat_div, power, pod, four, Nat.mul_div_cancel_left _ (by decide),
    Nat.mul_div_cancel _ positive]

variable {half : Nat} {numLayerSwitches layerSwitchesPerPod coreSwitchesPerAgg : UInt32}

theorem has_edge_to_aggregation
    (params : Params half numLayerSwitches layerSwitchesPerPod coreSwitchesPerAgg)
    (first second : Nat) :
    HasEdge (buildEdgeToAggregationConnections numLayerSwitches layerSwitchesPerPod) first second ↔
      ∃ pod < 2 * half, ∃ place < half, ∃ other < half,
        first = edgeSwitch half pod place ∧ second = aggSwitch half pod other := by
  have fits := params.fits
  have room : 5 * half * half = 5 * (half * half) := Nat.mul_assoc 5 half half
  have layer : 2 * half * half = 2 * (half * half) := Nat.mul_assoc 2 half half
  -- the aggregation switches that the loop of one edge switch goes through
  have inPod (edgeId : UInt32) (pod place : Nat) (inside : pod < 2 * half) (placed : place < half)
      (number : edgeId.toNat = pod * half + place) (aggId : UInt32) :
      (aggId ∈ rangeU32 (numLayerSwitches + edgeId / layerSwitchesPerPod * layerSwitchesPerPod)
        (numLayerSwitches + edgeId / layerSwitchesPerPod * layerSwitchesPerPod +
          layerSwitchesPerPod)) ↔
        ∃ other < half, aggId.toNat = 2 * half * half + (pod * half + other) := by
    have block := Nat.mul_le_mul_right half (Nat.succ_le_of_lt inside)
    rw [Nat.succ_mul] at block
    have start : (numLayerSwitches + edgeId / layerSwitchesPerPod * layerSwitchesPerPod).toNat =
        2 * half * half + pod * half := by
      rw [UInt32.toNat_add, UInt32.toNat_mul, UInt32.toNat_div, params.layer, params.pod, number,
        number_div placed, Nat.mod_eq_of_lt (show pod * half < 2 ^ 32 by omega),
        Nat.mod_eq_of_lt (by omega)]
    rw [mem_range_u32_add (by rw [start, params.pod]; omega), start, params.pod]
    simp only [Nat.add_assoc]
  constructor
  · rintro ⟨edge, member, rfl, rfl⟩
    simp only [buildEdgeToAggregationConnections, List.mem_flatMap, List.mem_map] at member
    rcases member with ⟨edgeId, listed, aggId, aggListed, rfl⟩
    have inside := (mem_range_u32.mp listed).2
    rw [UInt32.lt_iff_toNat_lt, params.layer] at inside
    rcases exists_number inside with ⟨pod, podInside, place, placed, number⟩
    rcases (inPod edgeId pod place podInside placed number aggId).mp aggListed with
      ⟨other, otherPlaced, aggNumber⟩
    have below := number_lt podInside otherPlaced
    refine ⟨pod, podInside, place, placed, other, otherPlaced, ?_, ?_⟩
    · rw [to_nat_succ (by omega), number, edgeSwitch]
    · rw [to_nat_succ (by omega), aggNumber, aggSwitch]
  · rintro ⟨pod, podInside, place, placed, other, otherPlaced, rfl, rfl⟩
    have below := number_lt podInside placed
    have otherBelow := number_lt podInside otherPlaced
    have number : (UInt32.ofNat (pod * half + place)).toNat = pod * half + place :=
      to_nat_of_word (by omega)
    have aggNumber : (UInt32.ofNat (2 * half * half + (pod * half + other))).toNat =
        2 * half * half + (pod * half + other) := to_nat_of_word (by omega)
    refine ⟨(UInt32.ofNat (pod * half + place) + 1,
      UInt32.ofNat (2 * half * half + (pod * half + other)) + 1), ?_, ?_, ?_⟩
    · simp only [buildEdgeToAggregationConnections, List.mem_flatMap, List.mem_map]
      refine ⟨_, mem_range_u32.mpr ⟨UInt32.zero_le, ?_⟩, _, ?_, rfl⟩
      · rw [UInt32.lt_iff_toNat_lt, params.layer, number]
        exact below
      · exact (inPod _ pod place podInside placed number _).mpr ⟨other, otherPlaced, aggNumber⟩
    · rw [to_nat_succ (by omega), number, edgeSwitch]
    · rw [to_nat_succ (by omega), aggNumber, aggSwitch]

theorem has_edge_to_core
    (params : Params half numLayerSwitches layerSwitchesPerPod coreSwitchesPerAgg)
    (first second : Nat) :
    HasEdge (buildAggregationToCoreConnections numLayerSwitches layerSwitchesPerPod
        coreSwitchesPerAgg) first second ↔
      ∃ pod < 2 * half, ∃ group < half, ∃ place < half,
        first = aggSwitch half pod group ∧ second = coreSwitch half group place := by
  have fits := params.fits
  have room : 5 * half * half = 5 * (half * half) := Nat.mul_assoc 5 half half
  have layer : 2 * half * half = 2 * (half * half) := Nat.mul_assoc 2 half half
  have layers : 4 * half * half = 4 * (half * half) := Nat.mul_assoc 4 half half
  have two : (2 : UInt32).toNat = 2 := rfl
  have coreBase : (2 * numLayerSwitches).toNat = 4 * half * half := by
    rw [UInt32.toNat_mul, params.layer, two, Nat.mod_eq_of_lt (by omega)]
    omega
  -- the core switches that the loop of one aggregation switch goes through
  have inGroup (aggId : UInt32) (pod group : Nat) (placed : group < half)
      (number : aggId.toNat = 2 * half * half + (pod * half + group)) (coreId : UInt32) :
      (coreId ∈ rangeU32 (2 * numLayerSwitches + aggId % layerSwitchesPerPod * coreSwitchesPerAgg)
        (2 * numLayerSwitches + aggId % layerSwitchesPerPod * coreSwitchesPerAgg +
          coreSwitchesPerAgg)) ↔
        ∃ place < half, coreId.toNat = 4 * half * half + (group * half + place) := by
    have block := Nat.mul_le_mul_right half (Nat.succ_le_of_lt placed)
    rw [Nat.succ_mul] at block
    have position : 2 * half * half + (pod * half + group) = (2 * half + pod) * half + group := by
      ring
    have start : (2 * numLayerSwitches +
        aggId % layerSwitchesPerPod * coreSwitchesPerAgg).toNat = 4 * half * half + group * half := by
      rw [UInt32.toNat_add, coreBase, UInt32.toNat_mul, UInt32.toNat_mod, params.core, params.pod,
        number, position, number_mod placed,
        Nat.mod_eq_of_lt (show group * half < 2 ^ 32 by omega), Nat.mod_eq_of_lt (by omega)]
    rw [mem_range_u32_add (by rw [start, params.core]; omega), start, params.core]
    simp only [Nat.add_assoc]
  constructor
  · rintro ⟨edge, member, rfl, rfl⟩
    simp only [buildAggregationToCoreConnections, List.mem_flatMap, List.mem_map] at member
    rcases member with ⟨aggId, listed, coreId, coreListed, rfl⟩
    rcases mem_range_u32.mp listed with ⟨reached, inside⟩
    rw [UInt32.le_iff_toNat_le, params.layer] at reached
    rw [UInt32.lt_iff_toNat_lt, coreBase] at inside
    have offset : aggId.toNat - 2 * half * half < 2 * half * half := by omega
    rcases exists_number offset with ⟨pod, podInside, group, placed, number⟩
    have aggNumber : aggId.toNat = 2 * half * half + (pod * half + group) := by omega
    rcases (inGroup aggId pod group placed aggNumber coreId).mp coreListed with
      ⟨place, corePlaced, coreNumber⟩
    have below := number_lt placed corePlaced
    refine ⟨pod, podInside, group, placed, place, corePlaced, ?_, ?_⟩
    · rw [to_nat_succ (by omega), aggNumber, aggSwitch]
    · rw [to_nat_succ (by omega), coreNumber, coreSwitch]
  · rintro ⟨pod, podInside, group, placed, place, corePlaced, rfl, rfl⟩
    have below := number_lt podInside placed
    have coreBelow := number_lt placed corePlaced
    have aggNumber : (UInt32.ofNat (2 * half * half + (pod * half + group))).toNat =
        2 * half * half + (pod * half + group) := to_nat_of_word (by omega)
    have coreNumber : (UInt32.ofNat (4 * half * half + (group * half + place))).toNat =
        4 * half * half + (group * half + place) := to_nat_of_word (by omega)
    refine ⟨(UInt32.ofNat (2 * half * half + (pod * half + group)) + 1,
      UInt32.ofNat (4 * half * half + (group * half + place)) + 1), ?_, ?_, ?_⟩
    · simp only [buildAggregationToCoreConnections, List.mem_flatMap, List.mem_map]
      refine ⟨_, mem_range_u32.mpr ⟨?_, ?_⟩, _, ?_, rfl⟩
      · rw [UInt32.le_iff_toNat_le, params.layer, aggNumber]
        omega
      · rw [UInt32.lt_iff_toNat_lt, coreBase, aggNumber]
        omega
      · exact (inGroup _ pod group placed aggNumber _).mpr ⟨place, corePlaced, coreNumber⟩
    · rw [to_nat_succ (by omega), aggNumber, aggSwitch]
    · rw [to_nat_succ (by omega), coreNumber, coreSwitch]

/-! ## Duplicates -/

/-- Nested loops whose inner ranges are shifted by one list no pair twice where the shift does not
wrap. -/
theorem loops_nodup {starts : List UInt32} {inner : UInt32 → List UInt32} (outer : starts.Nodup)
    (each : ∀ start, (inner start).Nodup) :
    (starts.flatMap fun first => (inner first).map fun second => (first + 1, second + 1)).Nodup := by
  rw [List.nodup_flatMap]
  constructor
  · intro first _
    apply (each first).map
    intro second other same
    exact (UInt32.add_left_inj 1).mp (congrArg Prod.snd same)
  · apply outer.imp
    intro first other apart edge member otherMember
    rcases List.mem_map.mp member with ⟨_, _, rfl⟩
    rcases List.mem_map.mp otherMember with ⟨_, _, same⟩
    exact apart ((UInt32.add_left_inj 1).mp (congrArg Prod.fst same)).symm

theorem build_edges_nodup
    (params : Params half numLayerSwitches layerSwitchesPerPod coreSwitchesPerAgg) :
    (buildEdges numLayerSwitches layerSwitchesPerPod coreSwitchesPerAgg).Nodup := by
  rw [buildEdges, List.nodup_append']
  refine ⟨loops_nodup (range_u32_nodup _ _) fun _ => range_u32_nodup _ _,
    loops_nodup (range_u32_nodup _ _) fun _ => range_u32_nodup _ _, ?_⟩
  intro edge member otherMember
  rcases (has_edge_to_aggregation params _ _).mp ⟨edge, member, rfl, rfl⟩ with
    ⟨pod, podInside, place, placed, _, _, first, _⟩
  rcases (has_edge_to_core params _ _).mp ⟨edge, otherMember, rfl, rfl⟩ with
    ⟨otherPod, _, group, _, _, _, second, _⟩
  have below := number_lt podInside placed
  rw [first, edgeSwitch, aggSwitch] at second
  omega

/-! ## Links -/

/-- A link, from the lower layer to the upper one. -/
inductive Link (half : Nat) : Nat → Nat → Prop
  | up {pod place other : Nat} : pod < 2 * half → place < half → other < half →
      Link half (edgeSwitch half pod place) (aggSwitch half pod other)
  | core {pod group place : Nat} : pod < 2 * half → group < half → place < half →
      Link half (aggSwitch half pod group) (coreSwitch half group place)

theorem has_edge_iff
    (params : Params half numLayerSwitches layerSwitchesPerPod coreSwitchesPerAgg)
    (first second : Nat) :
    HasEdge (buildEdges numLayerSwitches layerSwitchesPerPod coreSwitchesPerAgg) first second ↔
      Link half first second := by
  have split : HasEdge (buildEdges numLayerSwitches layerSwitchesPerPod coreSwitchesPerAgg)
      first second ↔
        HasEdge (buildEdgeToAggregationConnections numLayerSwitches layerSwitchesPerPod)
          first second ∨
        HasEdge (buildAggregationToCoreConnections numLayerSwitches layerSwitchesPerPod
          coreSwitchesPerAgg) first second := by
    simp only [HasEdge, buildEdges, List.mem_append, or_and_right, exists_or]
  rw [split, has_edge_to_aggregation params, has_edge_to_core params]
  constructor
  · rintro (⟨pod, podInside, place, placed, other, otherPlaced, rfl, rfl⟩ |
      ⟨pod, podInside, group, placed, place, corePlaced, rfl, rfl⟩)
    · exact .up podInside placed otherPlaced
    · exact .core podInside placed corePlaced
  · rintro (⟨podInside, placed, otherPlaced⟩ | ⟨podInside, placed, corePlaced⟩)
    · exact .inl ⟨_, podInside, _, placed, _, otherPlaced, rfl, rfl⟩
    · exact .inr ⟨_, podInside, _, placed, _, corePlaced, rfl, rfl⟩

variable {pod place other group : Nat}

theorem edge_switch_bounds (podInside : pod < 2 * half) (placed : place < half) :
    1 ≤ edgeSwitch half pod place ∧ edgeSwitch half pod place ≤ 2 * (half * half) := by
  have below := number_lt podInside placed
  have layer : 2 * half * half = 2 * (half * half) := Nat.mul_assoc 2 half half
  rw [edgeSwitch]
  omega

theorem agg_switch_bounds (podInside : pod < 2 * half) (placed : place < half) :
    2 * (half * half) < aggSwitch half pod place ∧
      aggSwitch half pod place ≤ 4 * (half * half) := by
  have below := number_lt podInside placed
  have layer : 2 * half * half = 2 * (half * half) := Nat.mul_assoc 2 half half
  rw [aggSwitch]
  omega

theorem core_switch_bounds (grouped : group < half) (placed : place < half) :
    4 * (half * half) < coreSwitch half group place ∧
      coreSwitch half group place ≤ 5 * (half * half) := by
  have below := number_lt grouped placed
  have layers : 4 * half * half = 4 * (half * half) := Nat.mul_assoc 4 half half
  rw [coreSwitch]
  omega

theorem edge_switch_inj {otherPod : Nat} (placed : place < half) (otherPlaced : other < half)
    (same : edgeSwitch half pod place = edgeSwitch half otherPod other) :
    pod = otherPod ∧ place = other := by
  rw [edgeSwitch, edgeSwitch] at same
  exact number_unique placed otherPlaced (by omega)

theorem agg_switch_inj {otherPod : Nat} (placed : place < half) (otherPlaced : other < half)
    (same : aggSwitch half pod place = aggSwitch half otherPod other) :
    pod = otherPod ∧ place = other := by
  rw [aggSwitch, aggSwitch] at same
  exact number_unique placed otherPlaced (by omega)

theorem core_switch_inj {otherGroup : Nat} (placed : place < half) (otherPlaced : other < half)
    (same : coreSwitch half group place = coreSwitch half otherGroup other) :
    group = otherGroup ∧ place = other := by
  rw [coreSwitch, coreSwitch] at same
  exact number_unique placed otherPlaced (by omega)

theorem id_cases {id : Nat} (positive : 1 ≤ id) (inside : id ≤ 5 * (half * half)) :
    (∃ pod < 2 * half, ∃ place < half, id = edgeSwitch half pod place) ∨
      (∃ pod < 2 * half, ∃ place < half, id = aggSwitch half pod place) ∨
        ∃ group < half, ∃ place < half, id = coreSwitch half group place := by
  have layer : 2 * half * half = 2 * (half * half) := Nat.mul_assoc 2 half half
  have layers : 4 * half * half = 4 * (half * half) := Nat.mul_assoc 4 half half
  by_cases low : id ≤ 2 * half * half
  · have below : id - 1 < 2 * half * half := by omega
    rcases exists_number below with ⟨pod, podInside, place, placed, number⟩
    exact .inl ⟨pod, podInside, place, placed, by rw [edgeSwitch]; omega⟩
  · by_cases middle : id ≤ 4 * half * half
    · have below : id - 1 - 2 * half * half < 2 * half * half := by omega
      rcases exists_number below with ⟨pod, podInside, place, placed, number⟩
      exact .inr (.inl ⟨pod, podInside, place, placed, by rw [aggSwitch]; omega⟩)
    · have below : id - 1 - 4 * half * half < half * half := by omega
      rcases exists_number below with ⟨group, grouped, place, placed, number⟩
      exact .inr (.inr ⟨group, grouped, place, placed, by rw [coreSwitch]; omega⟩)

theorem Link.bounds {first second : Nat} (link : Link half first second) :
    1 ≤ first ∧ first < second ∧ second ≤ 5 * (half * half) := by
  cases link with
  | up podInside placed otherPlaced =>
    have lower := edge_switch_bounds podInside placed
    have upper := agg_switch_bounds podInside otherPlaced
    omega
  | core podInside grouped corePlaced =>
    have lower := agg_switch_bounds podInside grouped
    have upper := core_switch_bounds grouped corePlaced
    omega

/-! ## Neighbours -/

def Linked (half first second : Nat) : Prop := Link half first second ∨ Link half second first

instance : Std.Symm (Linked half) where
  symm _ _ := Or.symm

variable {id : Nat}

theorem linked_edge_switch (podInside : pod < 2 * half) (placed : place < half) :
    Linked half (edgeSwitch half pod place) id ↔ ∃ other < half, id = aggSwitch half pod other := by
  have bounds := edge_switch_bounds podInside placed
  constructor
  · rintro (link | link)
    · generalize source : edgeSwitch half pod place = first at link
      cases link with
      | up _ found otherPlaced =>
        rcases edge_switch_inj placed found source with ⟨rfl, _⟩
        exact ⟨_, otherPlaced, rfl⟩
      | core found grouped _ =>
        have above := agg_switch_bounds found grouped
        omega
    · generalize target : edgeSwitch half pod place = second at link
      cases link with
      | up found _ otherPlaced =>
        have above := agg_switch_bounds found otherPlaced
        omega
      | core _ grouped corePlaced =>
        have above := core_switch_bounds grouped corePlaced
        omega
  · rintro ⟨other, otherPlaced, rfl⟩
    exact .inl (.up podInside placed otherPlaced)

theorem linked_agg_switch (podInside : pod < 2 * half) (placed : place < half) :
    Linked half (aggSwitch half pod place) id ↔
      (∃ other < half, id = edgeSwitch half pod other) ∨
        ∃ other < half, id = coreSwitch half place other := by
  have bounds := agg_switch_bounds podInside placed
  constructor
  · rintro (link | link)
    · generalize source : aggSwitch half pod place = first at link
      cases link with
      | up found foundPlaced _ =>
        have below := edge_switch_bounds found foundPlaced
        omega
      | core _ grouped corePlaced =>
        rcases agg_switch_inj placed grouped source with ⟨_, rfl⟩
        exact .inr ⟨_, corePlaced, rfl⟩
    · generalize target : aggSwitch half pod place = second at link
      cases link with
      | up _ foundPlaced otherPlaced =>
        rcases agg_switch_inj placed otherPlaced target with ⟨rfl, _⟩
        exact .inl ⟨_, foundPlaced, rfl⟩
      | core _ grouped corePlaced =>
        have above := core_switch_bounds grouped corePlaced
        omega
  · rintro (⟨other, otherPlaced, rfl⟩ | ⟨other, otherPlaced, rfl⟩)
    · exact .inr (.up podInside otherPlaced placed)
    · exact .inl (.core podInside placed otherPlaced)

theorem linked_core_switch (grouped : group < half) (placed : place < half) :
    Linked half (coreSwitch half group place) id ↔
      ∃ pod < 2 * half, id = aggSwitch half pod group := by
  have bounds := core_switch_bounds grouped placed
  constructor
  · rintro (link | link)
    · generalize source : coreSwitch half group place = first at link
      cases link with
      | up found foundPlaced _ =>
        have below := edge_switch_bounds found foundPlaced
        omega
      | core found foundGrouped _ =>
        have below := agg_switch_bounds found foundGrouped
        omega
    · generalize target : coreSwitch half group place = second at link
      cases link with
      | up found _ otherPlaced =>
        have below := agg_switch_bounds found otherPlaced
        omega
      | core found foundGrouped corePlaced =>
        rcases core_switch_inj placed corePlaced target with ⟨rfl, _⟩
        exact ⟨_, found, rfl⟩
  · rintro ⟨pod, podInside, rfl⟩
    exact .inr (.core podInside grouped placed)

theorem linked_core_group (podInside : pod < 2 * half) (placed : place < half) :
    (group < half ∧ other < half) ∧
        Linked half (aggSwitch half pod place) (coreSwitch half group other) ↔
      group = place ∧ other < half := by
  rw [linked_agg_switch podInside placed]
  constructor
  · rintro ⟨⟨grouped, otherPlaced⟩, ⟨edgePlace, edgePlaced, same⟩ | ⟨found, foundPlaced, same⟩⟩
    · have below := edge_switch_bounds podInside edgePlaced
      have above := core_switch_bounds grouped otherPlaced
      omega
    · exact ⟨(core_switch_inj otherPlaced foundPlaced same).1, otherPlaced⟩
  · rintro ⟨rfl, otherPlaced⟩
    exact ⟨⟨placed, otherPlaced⟩, .inr ⟨other, otherPlaced, rfl⟩⟩

theorem linked_ids (positive : 0 < half) :
    (∃ other, Linked half id other) ↔ 1 ≤ id ∧ id ≤ 5 * (half * half) := by
  constructor
  · rintro ⟨other, link | link⟩
    · have bounds := link.bounds
      omega
    · have bounds := link.bounds
      omega
  · rintro ⟨atLeast, inside⟩
    rcases id_cases atLeast inside with ⟨pod, podInside, place, placed, rfl⟩ |
      ⟨pod, podInside, place, placed, rfl⟩ | ⟨group, grouped, place, placed, rfl⟩
    · exact ⟨_, .inl (.up podInside placed positive)⟩
    · exact ⟨_, .inl (.core podInside placed positive)⟩
    · have pods : 0 < 2 * half := by omega
      exact ⟨_, .inr (.core pods grouped placed)⟩

/-! ## Connection -/

theorem reaches_first_core (positive : 0 < half) (atLeast : 1 ≤ id) (inside : id ≤ 5 * (half * half)) :
    Relation.ReflTransGen (Linked half) id (coreSwitch half 0 0) := by
  have fromFirst (pod : Nat) (podInside : pod < 2 * half) :
      Relation.ReflTransGen (Linked half) (aggSwitch half pod 0) (coreSwitch half 0 0) :=
    .single (.inl (.core podInside positive positive))
  have fromEdge (pod place : Nat) (podInside : pod < 2 * half) (placed : place < half) :
      Relation.ReflTransGen (Linked half) (edgeSwitch half pod place) (coreSwitch half 0 0) :=
    (fromFirst pod podInside).head (.inl (.up podInside placed positive))
  have fromAgg (pod place : Nat) (podInside : pod < 2 * half) (placed : place < half) :
      Relation.ReflTransGen (Linked half) (aggSwitch half pod place) (coreSwitch half 0 0) :=
    (fromEdge pod 0 podInside positive).head (.inr (.up podInside positive placed))
  rcases id_cases atLeast inside with ⟨pod, podInside, place, placed, rfl⟩ |
    ⟨pod, podInside, place, placed, rfl⟩ | ⟨group, grouped, place, placed, rfl⟩
  · exact fromEdge pod place podInside placed
  · exact fromAgg pod place podInside placed
  · have pods : 0 < 2 * half := by omega
    exact (fromAgg 0 group pods grouped).head (.inr (.core pods grouped placed))

/-- The fat tree of `k` ports: its ids are those of its switches, each of which is linked as its layer
asks, and it is connected. -/
structure Shape (k : Nat) (edges : List Edge) : Prop where
  nodup : edges.Nodup
  loopless : ∀ edge ∈ edges, edge.1 ≠ edge.2
  ids : ∀ id, (∃ other, LinkedIds edges id other) ↔ 1 ≤ id ∧ id ≤ 5 * k * k / 4
  edgeLinks : ∀ pod < k, ∀ place < k / 2, ∀ id,
    LinkedIds edges (edgeSwitch (k / 2) pod place) id ↔
      ∃ other < k / 2, id = aggSwitch (k / 2) pod other
  aggLinks : ∀ pod < k, ∀ place < k / 2,
    (∀ id, LinkedIds edges (aggSwitch (k / 2) pod place) id →
      (∃ other < k / 2, id = edgeSwitch (k / 2) pod other) ∨
        ∃ group < k / 2, ∃ other < k / 2, id = coreSwitch (k / 2) group other) ∧
    ({core ∈ Finset.range (k / 2) ×ˢ Finset.range (k / 2) |
      LinkedIds edges (aggSwitch (k / 2) pod place)
        (coreSwitch (k / 2) core.1 core.2)} : Finset (Nat × Nat)).card = k / 2
  coreLinks : ∀ group < k / 2, ∀ place < k / 2,
    (∀ id, LinkedIds edges (coreSwitch (k / 2) group place) id →
      ∃ pod < k, ∃ other < k / 2, id = aggSwitch (k / 2) pod other) ∧
    ∀ pod < k, ∃! other, other < k / 2 ∧
      LinkedIds edges (coreSwitch (k / 2) group place) (aggSwitch (k / 2) pod other)
  connected : ∀ first second, 1 ≤ first → first ≤ 5 * k * k / 4 → 1 ≤ second →
    second ≤ 5 * k * k / 4 → Relation.ReflTransGen (LinkedIds edges) first second

theorem build_even {k half : Nat} (even : k = 2 * half) (positive : 0 < half)
    (fits : 5 * half * half < 2 ^ 32) :
    ∃ numLayerSwitches layerSwitchesPerPod coreSwitchesPerAgg,
      Params half numLayerSwitches layerSwitchesPerPod coreSwitchesPerAgg ∧
        build k = .ok (buildEdges numLayerSwitches layerSwitchesPerPod coreSwitchesPerAgg) := by
  have square : half ≤ half * half := Nat.le_mul_self half
  have small : k < 2 ^ 32 := by
    rw [Nat.mul_assoc] at fits
    omega
  refine ⟨_, _, _, calculate_params even positive fits, ?_⟩
  have word := to_nat_of_word small
  have two : (2 : UInt32).toNat = 2 := rfl
  have divided : UInt32.ofNat k % 2 = 0 := by
    rw [← UInt32.toNat_inj, UInt32.toNat_mod, word, two, UInt32.toNat_zero]
    omega
  have nonzero : UInt32.ofNat k ≠ 0 := by
    intro zero
    rw [← UInt32.toNat_inj, word, UInt32.toNat_zero] at zero
    omega
  simp only [build, if_neg (Nat.not_le_of_lt small), validateParams, divided, nonzero, ne_eq,
    not_true_eq_false, if_false]
  rfl

theorem fat_tree_shape (k : Nat) (even : k % 2 = 0) (atLeast : 2 ≤ k)
    (fits : 5 * k * k / 4 < 2 ^ 32) : ∃ edges, build k = .ok edges ∧ Shape k edges := by
  obtain ⟨half, rfl⟩ : ∃ half, k = 2 * half := ⟨k / 2, by omega⟩
  have total : 5 * (2 * half) * (2 * half) / 4 = 5 * (half * half) := by
    have product : 5 * (2 * half) * (2 * half) = 4 * (5 * (half * half)) := by ring
    rw [product, Nat.mul_div_cancel_left _ (by decide)]
  have halved : 2 * half / 2 = half := Nat.mul_div_cancel_left half (by decide)
  rw [total] at fits
  have positive : 0 < half := by omega
  have room : 5 * half * half = 5 * (half * half) := Nat.mul_assoc 5 half half
  rcases build_even rfl positive (room ▸ fits) with ⟨layer, inPod, inGroup, params, built⟩
  have linked (first second : Nat) :
      LinkedIds (buildEdges layer inPod inGroup) first second ↔ Linked half first second := by
    rw [LinkedIds, has_edge_iff params, has_edge_iff params, Linked]
  refine ⟨_, built, ?_⟩
  constructor
  · exact build_edges_nodup params
  · intro edge member same
    have link := (has_edge_iff params _ _).mp ⟨edge, member, rfl, rfl⟩
    rw [same] at link
    exact absurd link.bounds.2.1 (Nat.lt_irrefl _)
  · intro id
    rw [total]
    simp only [linked]
    exact linked_ids positive
  · intro pod podInside place placed id
    rw [halved] at placed ⊢
    rw [linked]
    exact linked_edge_switch podInside placed
  · intro pod podInside place placed
    rw [halved] at placed ⊢
    constructor
    · intro id link
      rw [linked, linked_agg_switch podInside placed] at link
      rcases link with below | ⟨other, otherPlaced, same⟩
      · exact .inl below
      · exact .inr ⟨place, placed, other, otherPlaced, same⟩
    · have cores : ({core ∈ Finset.range half ×ˢ Finset.range half |
          LinkedIds (buildEdges layer inPod inGroup) (aggSwitch half pod place)
            (coreSwitch half core.1 core.2)} : Finset (Nat × Nat)) =
          {place} ×ˢ Finset.range half := by
        ext ⟨group, other⟩
        simp only [Finset.mem_filter, Finset.mem_product, Finset.mem_range, Finset.mem_singleton,
          linked]
        exact linked_core_group podInside placed
      rw [cores, Finset.card_product, Finset.card_singleton, Finset.card_range, Nat.one_mul]
  · intro group grouped place placed
    rw [halved] at grouped placed ⊢
    simp only [linked, linked_core_switch grouped placed]
    constructor
    · rintro id ⟨pod, podInside, same⟩
      exact ⟨pod, podInside, group, grouped, same⟩
    · intro pod podInside
      refine ⟨group, ⟨grouped, pod, podInside, rfl⟩, ?_⟩
      rintro other ⟨otherPlaced, otherPod, _, same⟩
      exact (agg_switch_inj otherPlaced grouped same).2
  · intro first second atLeast inside otherAtLeast otherInside
    rw [total] at inside otherInside
    have same : LinkedIds (buildEdges layer inPod inGroup) = Linked half := by
      funext first second
      exact propext (linked first second)
    rw [same]
    apply (reaches_first_core positive atLeast inside).trans
    exact Std.Symm.symm _ _ (reaches_first_core positive otherAtLeast otherInside)

/-- The tree of four ports, with twenty switches. -/
theorem fat_tree_of_four : ∃ edges, build 4 = .ok edges ∧ Shape 4 edges :=
  fat_tree_shape 4 (by decide) (by decide) (by decide)

end FatTreeConfig

end Nextmini.Controller
