import Mathlib.Data.Finset.Card
import Mathlib.Order.Interval.Finset.Nat
import Nextmini.Controller.FatTree
import Nextmini.Controller.TopologyReady
import Nextmini.Controller.Torus

/-!
# Node counts

The number of nodes that the controller waits for is a formula of the parameters, the edges come out of
the loops of the presets. Whether the ids that occur in the edges are as many as the formula says is
worked out per preset, together with the ids of the custom edges, which the formula leaves out.
-/

namespace Nextmini.Controller

set_option autoImplicit false

/-! ## Ids -/

/-- The ids from one on, so many, cut to their words. -/
def upTo (count : Nat) : Finset UInt32 := (Finset.Icc 1 count).image UInt32.ofNat

theorem mem_up_to {count : Nat} {id : UInt32} (fits : count < 2 ^ 32) :
    id ∈ upTo count ↔ 1 ≤ id.toNat ∧ id.toNat ≤ count := by
  rw [upTo, Finset.mem_image]
  constructor
  · rintro ⟨number, inside, rfl⟩
    rw [Finset.mem_Icc] at inside
    rw [to_nat_of_word (by omega)]
    exact inside
  · intro inside
    exact ⟨id.toNat, Finset.mem_Icc.mpr inside, UInt32.ofNat_toNat⟩

theorem card_up_to {count : Nat} (fits : count ≤ 2 ^ 32) : (upTo count).card = count := by
  have injective : Set.InjOn UInt32.ofNat (Finset.Icc 1 count : Finset Nat) := by
    intro first firstInside second secondInside same
    rw [Finset.coe_Icc, Set.mem_Icc] at firstInside secondInside
    rw [← UInt32.toNat_inj, UInt32.toNat_ofNat', UInt32.toNat_ofNat'] at same
    omega
  rw [upTo, Finset.card_image_of_injOn injective, Nat.card_Icc, Nat.add_sub_cancel]

theorem card_le_words (ids : Finset UInt32) : ids.card ≤ 2 ^ 32 := by
  have inside : ∀ id ∈ ids, id.toNat ∈ Finset.range (2 ^ 32) :=
    fun id _ => Finset.mem_range.mpr id.toNat_lt
  have injective : Set.InjOn UInt32.toNat ids := fun _ _ _ _ same => UInt32.toNat_inj.mp same
  have bounded := Finset.card_le_card_of_injOn _ inside injective
  rwa [Finset.card_range] at bounded

theorem card_union_iff {ids others : Finset UInt32} {count : Nat} (counted : ids.card = count) :
    (ids ∪ others).card = count ↔ others ⊆ ids := by
  constructor
  · intro same
    have whole : ids = ids ∪ others :=
      Finset.eq_of_subset_of_card_le Finset.subset_union_left (by omega)
    rw [whole]
    exact Finset.subset_union_right
  · intro inside
    rw [Finset.union_eq_left.mpr inside, counted]

namespace Topology

variable {Graph : Type} (library : GraphLibrary Graph)

def customIds (topology : Topology) : Finset UInt32 :=
  nodeIds (insertEdges ∅ (topology.edges.getD []))

/-- The configuration has its preset's parameters, and the constructor does not refuse them. -/
def Accepted (topology : Topology) (preset : PresetTopology) : Prop :=
  ∀ configured, topology.presetEdges library preset = some configured →
    ∃ built, configured = some (some built)

/-- The edges come out, and as many ids occur in them as the controller waits for. -/
def CountAgrees (topology : Topology) : Prop :=
  ∃ edges count, topology.buildTopology library = some edges ∧
    topology.computeNodeCount = some count ∧ (nodeIds (edges.getD ∅)).card = count

section Agreement

variable {library} {topology : Topology} {preset : PresetTopology} {built : List Edge} {count : Nat}

theorem build_topology_ids (isPreset : topology.topologyType = some preset)
    (builds : topology.presetEdges library preset = some (some (some built))) :
    ∃ edges, topology.buildTopology library = some edges ∧
      nodeIds (edges.getD ∅) = nodeIds (insertEdges ∅ built) ∪ topology.customIds := by
  have ids : nodeIds (insertEdges (insertEdges ∅ built) (topology.edges.getD [])) =
      nodeIds (insertEdges ∅ built) ∪ topology.customIds := by
    ext id
    rw [mem_node_ids_insert, Finset.mem_union, customIds, mem_built_ids, mem_built_ids]
  rw [buildTopology, isPreset]
  simp only [builds, Option.map_some, Option.getD_some, Option.bind_eq_bind, Option.bind_some]
  split
  · next empty =>
      refine ⟨_, rfl, ?_⟩
      rw [← ids, empty, Option.getD_none]
  · exact ⟨_, rfl, ids⟩

theorem count_agrees_of_built {edges : Option (Finset Edge)}
    (produced : topology.buildTopology library = some edges)
    (counted : topology.computeNodeCount = some count) :
    topology.CountAgrees library ↔ (nodeIds (edges.getD ∅)).card = count := by
  constructor
  · rintro ⟨otherEdges, otherCount, otherProduced, otherCounted, agree⟩
    rw [produced] at otherProduced
    rw [counted] at otherCounted
    cases otherProduced
    cases otherCounted
    exact agree
  · intro agree
    exact ⟨edges, count, produced, counted, agree⟩

theorem count_agrees_iff_card (isPreset : topology.topologyType = some preset)
    (builds : topology.presetEdges library preset = some (some (some built)))
    (counted : topology.computeNodeCount = some count) : topology.CountAgrees library ↔
      (nodeIds (insertEdges ∅ built) ∪ topology.customIds).card = count := by
  rcases build_topology_ids isPreset builds with ⟨edges, produced, ids⟩
  rw [count_agrees_of_built produced counted, ids]

end Agreement

end Topology

/-! ## Ring and full mesh -/

section Rings

variable {n : Nat} {custom : Finset UInt32}

theorem ring_ids (n : Nat) : Topology.nodeIds (Topology.insertEdges ∅ (ringBuild n)) = upTo n := by
  ext id
  rw [Topology.mem_built_ids, ringBuild, upTo, Finset.mem_image]
  simp only [List.mem_map, List.mem_range'_1, exists_exists_and_eq_and, Finset.mem_Icc]
  constructor
  · rintro ⟨i, inside, rfl | rfl⟩
    · exact ⟨i, by omega, rfl⟩
    · split
      · next last => exact ⟨1, by omega, rfl⟩
      · next further => exact ⟨i + 1, by omega, rfl⟩
  · rintro ⟨i, inside, rfl⟩
    exact ⟨i, by omega, .inl rfl⟩

theorem ring_count_iff : (upTo n ∪ custom).card = n ↔ n ≤ 2 ^ 32 ∧ custom ⊆ upTo n := by
  constructor
  · intro agree
    have bounded := card_le_words (upTo n ∪ custom)
    rw [agree] at bounded
    exact ⟨bounded, (card_union_iff (card_up_to bounded)).mp agree⟩
  · rintro ⟨fits, inside⟩
    exact (card_union_iff (card_up_to fits)).mpr inside

theorem mem_full_mesh {n : Nat} {edge : Edge} : edge ∈ fullMeshBuild n ↔
    1 ≤ edge.1 ∧ edge.1 ≤ UInt32.ofNat n ∧ edge.1 + 1 ≤ edge.2 ∧ edge.2 ≤ UInt32.ofNat n := by
  simp only [fullMeshBuild, List.mem_flatMap, List.mem_map, mem_range_inclusive_u32]
  constructor
  · rintro ⟨src, srcInside, dst, dstInside, rfl⟩
    exact ⟨srcInside.1, srcInside.2, dstInside⟩
  · rintro ⟨one, srcInside, dstInside⟩
    exact ⟨edge.1, ⟨one, srcInside⟩, edge.2, dstInside, rfl⟩

theorem full_mesh_ids_none (few : (UInt32.ofNat n).toNat ≤ 1) :
    Topology.nodeIds (Topology.insertEdges ∅ (fullMeshBuild n)) = ∅ := by
  apply Finset.eq_empty_of_forall_notMem
  intro id member
  rcases Topology.mem_built_ids.mp member with ⟨edge, built, _⟩
  have one : (1 : UInt32).toNat = 1 := rfl
  have bounds := mem_full_mesh.mp built
  simp only [UInt32.le_iff_toNat_le, one] at bounds
  rw [to_nat_succ (by omega)] at bounds
  omega

theorem full_mesh_ids (several : 2 ≤ (UInt32.ofNat n).toNat)
    (below : (UInt32.ofNat n).toNat < 2 ^ 32 - 1) :
    Topology.nodeIds (Topology.insertEdges ∅ (fullMeshBuild n)) = upTo (UInt32.ofNat n).toNat := by
  have one : (1 : UInt32).toNat = 1 := rfl
  have two : (2 : UInt32).toNat = 2 := rfl
  ext id
  rw [Topology.mem_built_ids, mem_up_to (by omega)]
  simp only [mem_full_mesh, UInt32.le_iff_toNat_le, one]
  constructor
  · rintro ⟨edge, bounds, names⟩
    rw [to_nat_succ (by omega)] at bounds
    rcases names with rfl | rfl
    · omega
    · omega
  · intro inside
    rcases Nat.lt_or_ge 1 id.toNat with further | first
    · have second : (1 + 1 : UInt32).toNat = 2 := rfl
      refine ⟨(1, id), ⟨Nat.le_refl 1, ?_, ?_, inside.2⟩, .inr rfl⟩
      · change 1 ≤ _
        omega
      · change (1 + 1 : UInt32).toNat ≤ id.toNat
        rw [second]
        omega
    · refine ⟨(id, 2), ⟨inside.1, inside.2, ?_, by rw [two]; omega⟩, .inl rfl⟩
      change (id + 1).toNat ≤ (2 : UInt32).toNat
      rw [to_nat_succ (by omega), two]
      omega

/-- At the largest word, the inner loop of the last source starts over at zero. -/
theorem full_mesh_ids_last (last : (UInt32.ofNat n).toNat = 2 ^ 32 - 1) :
    upTo (2 ^ 32) ⊆ Topology.nodeIds (Topology.insertEdges ∅ (fullMeshBuild n)) := by
  have wraps : (UInt32.ofNat n + 1).toNat = 0 := by
    rw [UInt32.toNat_add, last]
    rfl
  have one : (1 : UInt32).toNat = 1 := rfl
  intro id _
  have word := id.toNat_lt
  rw [Topology.mem_built_ids]
  refine ⟨(UInt32.ofNat n, id), mem_full_mesh.mpr ?_, .inr rfl⟩
  simp only [UInt32.le_iff_toNat_le, one, wraps, last]
  omega

theorem full_mesh_count_iff :
    (Topology.nodeIds (Topology.insertEdges ∅ (fullMeshBuild n)) ∪ custom).card = n ↔
      (n ≤ 1 ∨ n = 2 ^ 32) ∧ custom.card = n ∨
        (2 ≤ n ∧ n < 2 ^ 32 - 1) ∧ custom ⊆ upTo n := by
  have remainder : (UInt32.ofNat n).toNat = n % 2 ^ 32 := UInt32.toNat_ofNat'
  have bounded := card_le_words
    (Topology.nodeIds (Topology.insertEdges ∅ (fullMeshBuild n)) ∪ custom)
  rcases Nat.lt_or_ge (2 ^ 32) n with exceeds | fits
  · constructor
    · intro agree
      omega
    · rintro (⟨few, _⟩ | ⟨several, _⟩)
      · omega
      · omega
  rcases Nat.lt_or_ge 1 (n % 2 ^ 32) with several | few
  · rcases Nat.lt_or_ge (n % 2 ^ 32) (2 ^ 32 - 1) with below | last
    · have word : n % 2 ^ 32 = n := by omega
      rw [full_mesh_ids (by omega) (by omega), remainder, word, card_union_iff (card_up_to fits)]
      constructor
      · exact fun inside => .inr ⟨by omega, inside⟩
      · rintro (⟨few, _⟩ | ⟨_, inside⟩)
        · omega
        · exact inside
    · have all := Finset.card_le_card (full_mesh_ids_last (n := n) (by omega))
      have more := Finset.card_le_card (@Finset.subset_union_left _ _
        (Topology.nodeIds (Topology.insertEdges ∅ (fullMeshBuild n))) custom)
      rw [card_up_to (Nat.le_refl _)] at all
      constructor
      · intro agree
        omega
      · rintro (⟨few, _⟩ | ⟨several, _⟩)
        · omega
        · omega
  · rw [full_mesh_ids_none (by omega), Finset.empty_union]
    constructor
    · exact fun agree => .inl ⟨by omega, agree⟩
    · rintro (⟨_, agree⟩ | ⟨several, _⟩)
      · exact agree
      · omega

end Rings

/-! ## Fat tree -/

section FatTrees

open FatTreeConfig

variable {k half : Nat} {edges : List Edge}

theorem fat_tree_ids (positive : 0 < half) (fits : 5 * half * half < 2 ^ 32) :
    ∃ edges, FatTreeConfig.build (2 * half) = .ok edges ∧
      Topology.nodeIds (Topology.insertEdges ∅ edges) = upTo (5 * (half * half)) := by
  have room : 5 * half * half = 5 * (half * half) := Nat.mul_assoc 5 half half
  rcases build_even rfl positive fits with ⟨layer, inPod, inGroup, params, built⟩
  refine ⟨_, built, ?_⟩
  ext id
  rw [Topology.mem_built_ids, mem_up_to (by omega), ← linked_ids positive]
  simp only [FatTreeConfig.Linked, ← has_edge_iff params]
  constructor
  · rintro ⟨edge, member, rfl | rfl⟩
    · exact ⟨edge.2.toNat, .inl ⟨edge, member, rfl, rfl⟩⟩
    · exact ⟨edge.1.toNat, .inr ⟨edge, member, rfl, rfl⟩⟩
  · rintro ⟨other, ⟨edge, member, same, _⟩ | ⟨edge, member, _, same⟩⟩
    · exact ⟨edge, member, .inl (UInt32.toNat_inj.mp same)⟩
    · exact ⟨edge, member, .inr (UInt32.toNat_inj.mp same)⟩

theorem accepted_ports (built : FatTreeConfig.build k = .ok edges) :
    ∃ half, k = 2 * half ∧ 0 < half ∧ half < 2 ^ 31 := by
  rw [FatTreeConfig.build] at built
  split at built
  · cases built
  · next word =>
      have value : (UInt32.ofNat k).toNat = k := to_nat_of_word (by omega)
      have two : (2 : UInt32).toNat = 2 := rfl
      rcases valid : FatTreeConfig.validateParams (UInt32.ofNat k) with error | _
      · simp only [valid] at built
        cases built
      · rw [FatTreeConfig.validateParams] at valid
        split at valid
        · cases valid
        · next even =>
            split at valid
            · cases valid
            · next nonzero =>
                rw [not_ne_iff, ← UInt32.toNat_inj, UInt32.toNat_mod, value, two,
                  UInt32.toNat_zero] at even
                rw [← UInt32.toNat_inj, value, UInt32.toNat_zero] at nonzero
                exact ⟨k / 2, by omega, by omega, by omega⟩

theorem fat_tree_count (half : Nat) :
    (UInt64.ofNat (2 * half) * UInt64.ofNat (2 * half) * UInt64.ofNat (2 * half) / 4 +
      5 * UInt64.ofNat (2 * half) * UInt64.ofNat (2 * half) / 4).toNat =
        2 * (half * half * half) % 2 ^ 62 + 5 * (half * half) % 2 ^ 62 := by
  have four : (4 : UInt64).toNat = 4 := rfl
  have five : (5 : UInt64).toNat = 5 := rfl
  have cube : 2 * half * (2 * half) * (2 * half) = 8 * (half * half * half) := by ring
  have square : 5 * (2 * half) * (2 * half) = 20 * (half * half) := by ring
  rw [UInt64.toNat_add, UInt64.toNat_div, UInt64.toNat_div, UInt64.toNat_mul, UInt64.toNat_mul,
    UInt64.toNat_mul, UInt64.toNat_mul, UInt64.toNat_ofNat', four, five]
  have servers (value : Nat) : 8 * value % 2 ^ 64 / 4 = 2 * value % 2 ^ 62 := by omega
  have switches (value : Nat) : 20 * value % 2 ^ 64 / 4 = 5 * value % 2 ^ 62 := by omega
  simp only [Nat.mul_mod_mod, Nat.mod_mul_mod, cube, square, servers, switches]
  have serverBound := Nat.mod_lt (2 * (half * half * half)) (show 0 < 2 ^ 62 by decide)
  have switchBound := Nat.mod_lt (5 * (half * half)) (show 0 < 2 ^ 62 by decide)
  exact Nat.mod_eq_of_lt (by omega)

/-- Past the words of the ids, the count is past the number of ids, though it wraps too. -/
theorem fat_tree_count_over (inside : half < 2 ^ 31) (exceeds : 2 ^ 32 ≤ 5 * (half * half)) :
    2 ^ 32 < 2 * (half * half * half) % 2 ^ 62 + 5 * (half * half) % 2 ^ 62 := by
  have above (root : Nat) (below : root * root < half * half) : root < half :=
    Nat.mul_self_lt_mul_self_iff.mp below
  have under (root : Nat) (below : half * half < root * root) : half < root :=
    Nat.mul_self_lt_mul_self_iff.mp below
  have largest : half * half < 2 ^ 31 * 2 ^ 31 := Nat.mul_self_lt_mul_self inside
  by_contra few
  have wraps : 5 * (half * half) / 2 ^ 62 < 5 := by omega
  -- each wrap leaves room for one more square, if for any
  interval_cases turns : 5 * (half * half) / 2 ^ 62
  · omega
  · have low := above 960383883 (by omega)
    have high := under 960383884 (by omega)
    omega
  · have low := above 1358187913 (by omega)
    have high := under 1358187914 (by omega)
    omega
  · have low := above 1663433680 (by omega)
    have high := under 1663433682 (by omega)
    obtain rfl : half = 1663433681 := by omega
    exact few (by decide)
  · have low := above 1920767766 (by omega)
    have high := under 1920767768 (by omega)
    obtain rfl : half = 1920767767 := by omega
    exact few (by decide)

end FatTrees

/-! ## Torus -/

section Tori

variable {n dim : Nat} {custom : Finset UInt32}

theorem to_nat_pow_u64 (base : UInt64) (exponent : Nat) :
    (base ^ exponent).toNat = base.toNat ^ exponent % 2 ^ 64 := by
  induction exponent with
  | zero => rfl
  | succ exponent induction =>
    rw [UInt64.pow_succ, UInt64.toNat_mul, induction, Nat.mod_mul_mod,
      @Nat.pow_succ base.toNat exponent]

/-- The power of a side that was cut to its word, and what the cut part adds. -/
theorem side_power (low high : Nat) (atLeast : 1 ≤ dim) (atMost : dim ≤ 3) :
    ∃ rest, (low + 2 ^ 32 * high) ^ dim =
      low ^ dim + 2 ^ 32 * (dim * low ^ (dim - 1) * high) + 2 ^ 64 * rest := by
  interval_cases dim
  · exact ⟨0, by ring⟩
  · exact ⟨high ^ 2, by ring⟩
  · exact ⟨3 * low * high ^ 2 + 2 ^ 32 * high ^ 3, by ring⟩

theorem torus_count_iff (atLeast : 1 ≤ dim) (atMost : dim ≤ 3) (positive : 0 < n % 2 ^ 32)
    (fits : (n % 2 ^ 32) ^ dim < 2 ^ 32) :
    (upTo ((n % 2 ^ 32) ^ dim) ∪ custom).card = n ^ dim % 2 ^ 64 ↔
      2 ^ 32 ∣ dim * (n % 2 ^ 32) ^ (dim - 1) * (n / 2 ^ 32) ∧
        custom ⊆ upTo ((n % 2 ^ 32) ^ dim) := by
  have power := Nat.pow_pos (n := dim) positive
  rcases side_power (n % 2 ^ 32) (n / 2 ^ 32) atLeast atMost with ⟨rest, split⟩
  rw [Nat.mod_add_div] at split
  have bounded := card_le_words (upTo ((n % 2 ^ 32) ^ dim) ∪ custom)
  rw [split, Nat.dvd_iff_mod_eq_zero]
  generalize dim * (n % 2 ^ 32) ^ (dim - 1) * (n / 2 ^ 32) = carried
  generalize (n % 2 ^ 32) ^ dim = total at power fits bounded
  constructor
  · intro agree
    have whole : carried % 2 ^ 32 = 0 := by omega
    refine ⟨whole, (card_union_iff (card_up_to (Nat.le_of_lt fits))).mp ?_⟩
    omega
  · rintro ⟨whole, inside⟩
    rw [(card_union_iff (card_up_to (Nat.le_of_lt fits))).mpr inside]
    omega

end Tori

/-! ## Agreement -/

namespace Topology

/-- The parameters and custom edges with which the ids of the edges are as many as the count. A mesh of
one node, or of as many as there are words, has no edges of its own; a fat tree only those of its
switches, and its servers are left to the custom edges. The parameters of a torus are cut to their
words, which the count does to the dimension alone. -/
def NamesItsNodes (topology : Topology) (preset : PresetTopology) : Prop :=
  match preset with
  | .fullMesh => ∃ n, topology.fullMeshConfig = some n ∧
      ((n ≤ 1 ∨ n = 2 ^ 32) ∧ topology.customIds.card = n ∨
        (2 ≤ n ∧ n < 2 ^ 32 - 1) ∧ topology.customIds ⊆ upTo n)
  | .fatTree => ∃ k, topology.fatTreeConfig = some k ∧ 5 * k * k / 4 < 2 ^ 32 ∧
      (topology.customIds \ upTo (5 * k * k / 4)).card = k * k * k / 4
  | .torus => ∃ dim n, topology.torusConfig = some (dim, n) ∧
      let dimension := dim % 2 ^ 32
      let nodesPerDim := n % 2 ^ 32
      dimension * nodesPerDim ^ dimension < 2 ^ 32 ∧
        2 ^ 32 ∣ dimension * nodesPerDim ^ (dimension - 1) * (n / 2 ^ 32) ∧
        topology.customIds ⊆ upTo (nodesPerDim ^ dimension)
  | .ring => ∃ n, topology.ringConfig = some n ∧ n ≤ 2 ^ 32 ∧ topology.customIds ⊆ upTo n

section Presets

variable {Graph : Type} {library : GraphLibrary Graph} {topology : Topology}

theorem ring_agrees (isPreset : topology.topologyType = some .ring)
    (accepted : topology.Accepted library .ring) :
    topology.CountAgrees library ↔ topology.NamesItsNodes .ring := by
  rcases accepted _ rfl with ⟨built, configured⟩
  rcases config : topology.ringConfig with _ | n
  · rw [config] at configured
    exact nomatch configured
  have builds : topology.presetEdges library .ring = some (some (some (ringBuild n))) := by
    rw [presetEdges, config, Option.map_some]
  have counted : topology.computeNodeCount = some n := by
    simp only [computeNodeCount, isPreset, config]
  rw [count_agrees_iff_card isPreset builds counted, ring_ids, ring_count_iff]
  simp only [NamesItsNodes, config, Option.some.injEq, exists_eq_left']

theorem full_mesh_agrees (isPreset : topology.topologyType = some .fullMesh)
    (accepted : topology.Accepted library .fullMesh) :
    topology.CountAgrees library ↔ topology.NamesItsNodes .fullMesh := by
  rcases accepted _ rfl with ⟨built, configured⟩
  rcases config : topology.fullMeshConfig with _ | n
  · rw [config] at configured
    exact nomatch configured
  have builds : topology.presetEdges library .fullMesh = some (some (some (fullMeshBuild n))) := by
    rw [presetEdges, config, Option.map_some]
  have counted : topology.computeNodeCount = some n := by
    simp only [computeNodeCount, isPreset, config]
  rw [count_agrees_iff_card isPreset builds counted, full_mesh_count_iff]
  simp only [NamesItsNodes, config, Option.some.injEq, exists_eq_left']

theorem fat_tree_agrees (isPreset : topology.topologyType = some .fatTree)
    (accepted : topology.Accepted library .fatTree) :
    topology.CountAgrees library ↔ topology.NamesItsNodes .fatTree := by
  rcases accepted _ rfl with ⟨built, configured⟩
  rcases config : topology.fatTreeConfig with _ | k
  · rw [config] at configured
    exact nomatch configured
  rcases result : FatTreeConfig.build k with error | edges
  · rw [config, Option.map_some, result] at configured
    exact nomatch configured
  rcases accepted_ports result with ⟨half, rfl, positive, inside⟩
  have builds : topology.presetEdges library .fatTree = some (some (some edges)) := by
    rw [presetEdges, config, Option.map_some, result]
    rfl
  have counted : topology.computeNodeCount =
      some (2 * (half * half * half) % 2 ^ 62 + 5 * (half * half) % 2 ^ 62) := by
    simp only [computeNodeCount, isPreset, config, Option.map_some, fat_tree_count]
  have servers : 2 * half * (2 * half) * (2 * half) / 4 = 2 * (half * half * half) := by
    have cube : 2 * half * (2 * half) * (2 * half) = 4 * (2 * (half * half * half)) := by ring
    rw [cube, Nat.mul_div_cancel_left _ (by decide)]
  have switches : 5 * (2 * half) * (2 * half) / 4 = 5 * (half * half) := by
    have square : 5 * (2 * half) * (2 * half) = 4 * (5 * (half * half)) := by ring
    rw [square, Nat.mul_div_cancel_left _ (by decide)]
  rw [count_agrees_iff_card isPreset builds counted]
  simp only [NamesItsNodes, config, Option.some.injEq, exists_eq_left', servers, switches]
  rcases Nat.lt_or_ge (5 * (half * half)) (2 ^ 32) with fits | exceeds
  · rcases fat_tree_ids positive (by rwa [Nat.mul_assoc]) with ⟨_, same, ids⟩
    rw [result] at same
    cases same
    have side : half < 2 ^ 16 := Nat.mul_self_lt_mul_self_iff.mp (by omega)
    have cube : half * half * half < 2 ^ 32 * 2 ^ 16 := by
      apply Nat.mul_lt_mul''
      · omega
      · exact side
    have parted := Finset.card_sdiff_add_card topology.customIds (upTo (5 * (half * half)))
    rw [card_up_to (Nat.le_of_lt fits), Finset.union_comm] at parted
    rw [ids, ← parted]
    omega
  · have bounded := card_le_words (nodeIds (insertEdges ∅ edges) ∪ topology.customIds)
    have many := fat_tree_count_over inside exceeds
    constructor
    · intro agree
      omega
    · rintro ⟨fits, _⟩
      omega

theorem torus_agrees (documented : library.Documented)
    (isPreset : topology.topologyType = some .torus)
    (accepted : topology.Accepted library .torus) :
    topology.CountAgrees library ↔ topology.NamesItsNodes .torus := by
  rcases config : topology.torusConfig with _ | ⟨dim, n⟩
  · rcases accepted none (by rw [presetEdges, config]) with ⟨built, configured⟩
    cases configured
  have dimension : (UInt32.ofNat dim).toNat = dim % 2 ^ 32 := UInt32.toNat_ofNat'
  have side : (UInt32.ofNat n).toNat = n % 2 ^ 32 := UInt32.toNat_ofNat'
  have valid : 1 ≤ (UInt32.ofNat dim).toNat ∧ (UInt32.ofNat dim).toNat ≤ 3 ∧
      0 < (UInt32.ofNat n).toNat := by
    by_contra invalid
    rcases @TorusConfig.build_refused Graph library dim n invalid with ⟨error, refused⟩
    rcases accepted (some none) (by simp only [presetEdges, config, refused]; rfl) with ⟨_, same⟩
    cases same
  rcases valid with ⟨atLeast, atMost, positive⟩
  have all := @TorusConfig.build_eq Graph library dim n atLeast atMost positive
  have counted : topology.computeNodeCount = some (n ^ (dim % 2 ^ 32) % 2 ^ 64) := by
    simp only [computeNodeCount, isPreset, config, Option.map_some, to_nat_pow_u64, dimension,
      UInt64.toNat_ofNat', ← Nat.pow_mod]
  have condition : topology.NamesItsNodes .torus ↔
      (dim % 2 ^ 32) * (n % 2 ^ 32) ^ (dim % 2 ^ 32) < 2 ^ 32 ∧
        2 ^ 32 ∣ (dim % 2 ^ 32) * (n % 2 ^ 32) ^ (dim % 2 ^ 32 - 1) * (n / 2 ^ 32) ∧
        topology.customIds ⊆ upTo ((n % 2 ^ 32) ^ (dim % 2 ^ 32)) := by
    constructor
    · rintro ⟨_, _, same, holds⟩
      rw [config] at same
      cases same
      exact holds
    · exact fun holds => ⟨dim, n, config, holds⟩
  rw [condition]
  rcases Nat.lt_or_ge ((dim % 2 ^ 32) * (n % 2 ^ 32) ^ (dim % 2 ^ 32)) (2 ^ 32) with fits | exceeds
  · rcases @TorusConfig.build_edges_some Graph library _ (UInt32.ofNat n) documented atLeast atMost
      (by rwa [dimension, side]) with ⟨pairs, built, listed⟩
    have builds : topology.presetEdges library .torus =
        some (some (some (pairs.map TorusConfig.shifted))) := by
      simp only [presetEdges, config, all, built, Option.map_some, Except.toOption]
    rw [dimension] at atLeast atMost
    rw [side] at positive
    rw [dimension, side] at listed
    have nodesFit : (n % 2 ^ 32) ^ (dim % 2 ^ 32) < 2 ^ 32 :=
      Nat.lt_of_le_of_lt (Nat.le_mul_of_pos_left _ atLeast) fits
    have ids : nodeIds (insertEdges ∅ (pairs.map TorusConfig.shifted)) =
        upTo ((n % 2 ^ 32) ^ (dim % 2 ^ 32)) := by
      ext id
      rw [TorusConfig.torus_ids listed atLeast nodesFit, TorusConfig.IsNode, mem_up_to nodesFit]
    rw [count_agrees_iff_card isPreset builds counted, ids,
      torus_count_iff atLeast atMost positive nodesFit, and_iff_right fits]
  · have panics := @TorusConfig.build_edges_none Graph library _ (UInt32.ofNat n) documented atLeast
      atMost (by rwa [dimension, side])
    have stops : topology.buildTopology library = none := by
      apply build_topology_panics library isPreset
      simp only [presetEdges, config, all, panics, Option.map_none]
    constructor
    · rintro ⟨_, _, produced, _⟩
      rw [stops] at produced
      cases produced
    · rintro ⟨fits, _⟩
      exact absurd fits (Nat.not_lt.mpr exceeds)

/-- The barrier opens for the nodes of the topology, connected and ready, exactly if they agree. -/
theorem barrier_opens_iff {edges : Option (Finset Edge)} {coordinator : Coordinator}
    (produced : topology.buildTopology library = some edges)
    (connected : coordinator.connectedNodes = (nodeIds (edges.getD ∅)).image UInt32.toNat)
    (ready : coordinator.locallyReadyNodes = (nodeIds (edges.getD ∅)).image UInt32.toNat)
    (waiting : coordinator.topologyReadySent = false) :
    (coordinator.maybeBroadcastTopologyReady topology.computeNodeCount).topologyReadySent = true ↔
      topology.CountAgrees library := by
  have same : ((nodeIds (edges.getD ∅)).image UInt32.toNat).card = (nodeIds (edges.getD ∅)).card :=
    Finset.card_image_of_injective _ fun _ _ => UInt32.toNat_inj.mp
  rcases counted : topology.computeNodeCount with _ | expected
  · constructor
    · intro sent
      rw [Coordinator.maybeBroadcastTopologyReady, waiting] at sent
      exact absurd sent Bool.false_ne_true
    · rintro ⟨_, _, _, someCount, _⟩
      rw [counted] at someCount
      cases someCount
  · rw [count_agrees_of_built produced counted]
    simp only [Coordinator.maybeBroadcastTopologyReady, waiting, connected, ready, same, and_self,
      Bool.false_eq_true, if_false]
    split
    · next agree => exact ⟨fun _ => agree, fun _ => rfl⟩
    · next differs =>
        rw [waiting]
        exact ⟨fun sent => absurd sent Bool.false_ne_true, fun agree => absurd agree differs⟩

theorem count_agrees_iff (documented : library.Documented) (preset : PresetTopology)
    (isPreset : topology.topologyType = some preset) (accepted : topology.Accepted library preset) :
    topology.CountAgrees library ↔ topology.NamesItsNodes preset := by
  cases preset with
  | fullMesh => exact full_mesh_agrees isPreset accepted
  | fatTree => exact fat_tree_agrees isPreset accepted
  | torus => exact torus_agrees documented isPreset accepted
  | ring => exact ring_agrees isPreset accepted

end Presets

def ringOf (n : Nat) : Topology where
  topologyType := some .ring
  nNodes := none
  fullMeshConfig := none
  fatTreeConfig := none
  torusConfig := none
  ringConfig := some n
  edges := none

theorem ring_of_three_agrees : (ringOf 3).CountAgrees listGraph :=
  (@count_agrees_iff _ listGraph (ringOf 3) list_graph_documented .ring rfl
    fun _ configured => ⟨ringBuild 3, (Option.some.inj configured).symm⟩).mpr
      ⟨3, rfl, by decide, Finset.empty_subset _⟩

def fatTreeOf (k : Nat) : Topology where
  topologyType := some .fatTree
  nNodes := none
  fullMeshConfig := none
  fatTreeConfig := some k
  torusConfig := none
  ringConfig := none
  edges := none

/-- The smallest fat tree counts two servers that none of its edges names. -/
theorem servers_are_counted_only : (fatTreeOf 2).computeNodeCount = some 7 ∧
    (∃ edges, (fatTreeOf 2).buildTopology listGraph = some (some edges) ∧
      (nodeIds edges).card = 5) ∧ ¬(fatTreeOf 2).CountAgrees listGraph := by
  have produced : (fatTreeOf 2).buildTopology listGraph =
      some (some {(1, 3), (2, 4), (3, 5), (4, 5)}) := by decide
  have counted : (fatTreeOf 2).computeNodeCount = some 7 := by decide
  refine ⟨counted, ⟨_, produced, by decide⟩, ?_⟩
  rintro ⟨edges, count, otherProduced, otherCounted, agree⟩
  rw [produced] at otherProduced
  rw [counted] at otherCounted
  cases otherProduced
  cases otherCounted
  exact absurd agree (by decide)

end Topology

end Nextmini.Controller
