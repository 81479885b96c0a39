import Mathlib.Data.Finset.Image
import Mathlib.Data.List.Range
import Mathlib.Data.UInt
import Nextmini.Controller.GroupTrees

/-!
# Preset topologies

The four preset topologies of the controller, the edges that it builds for a configuration, and the
number of nodes that it expects. Sums, products and powers of 32 bit words wrap, and so do those of
the 64 bit words of the count. The torus is built in a graph of a library that numbers nodes and edges
by 32 bit words: that library is a parameter, and nothing is a panic. Words wrap as they do in a release
build, and the capacities that vectors are given in advance are left out: they have no effect on the
edges. The edges of a configuration come out of a hash set in no particular order.
-/

namespace Nextmini.Controller

set_option autoImplicit false

inductive TopologyError where
  | invalidConfig (message : String)
  | unsupportedDimension (dimension : UInt32)
  | numericOverflow (message : String)
  deriving DecidableEq, Repr

def rangeU32 (start finish : UInt32) : List UInt32 :=
  (List.range' start.toNat (finish.toNat - start.toNat)).map UInt32.ofNat

def rangeInclusiveU32 (start finish : UInt32) : List UInt32 :=
  (List.range' start.toNat (finish.toNat + 1 - start.toNat)).map UInt32.ofNat

theorem to_nat_of_word {value : Nat} (word : value < 2 ^ 32) : (UInt32.ofNat value).toNat = value :=
  UInt32.toNat_ofNat_of_lt' word

theorem to_nat_pow_u32 (base : UInt32) (exponent : Nat) :
    (base ^ exponent).toNat = base.toNat ^ exponent % 2 ^ 32 := by
  induction exponent with
  | zero => rfl
  | succ exponent induction =>
    rw [UInt32.pow_succ, UInt32.toNat_mul, induction, Nat.mod_mul_mod,
      @Nat.pow_succ base.toNat exponent]

theorem mem_words {first length : Nat} {value : UInt32} (fits : first + length ≤ 2 ^ 32) :
    value ∈ (List.range' first length).map UInt32.ofNat ↔
      first ≤ value.toNat ∧ value.toNat < first + length := by
  rw [List.mem_map]
  constructor
  · intro listed
    rcases listed with ⟨number, inside, rfl⟩
    rw [List.mem_range'_1] at inside
    rwa [to_nat_of_word (by omega)]
  · intro inside
    exact ⟨value.toNat, List.mem_range'_1.mpr inside, UInt32.ofNat_toNat⟩

theorem mem_range_u32 {start finish value : UInt32} :
    value ∈ rangeU32 start finish ↔ start ≤ value ∧ value < finish := by
  have first := start.toNat_lt
  have last := finish.toNat_lt
  rw [UInt32.le_iff_toNat_le, UInt32.lt_iff_toNat_lt, rangeU32, mem_words (by omega)]
  omega

theorem mem_range_u32_add {start length value : UInt32}
    (fits : start.toNat + length.toNat < 2 ^ 32) : value ∈ rangeU32 start (start + length) ↔
      ∃ offset < length.toNat, value.toNat = start.toNat + offset := by
  rw [mem_range_u32, UInt32.le_iff_toNat_le, UInt32.lt_iff_toNat_lt, UInt32.toNat_add,
    Nat.mod_eq_of_lt fits]
  constructor
  · rintro ⟨reached, before⟩
    exact ⟨value.toNat - start.toNat, by omega, by omega⟩
  · rintro ⟨offset, inside, place⟩
    omega

theorem to_nat_succ {value : UInt32} (fits : value.toNat + 1 < 2 ^ 32) :
    (value + 1).toNat = value.toNat + 1 := by
  rw [UInt32.toNat_add]
  exact Nat.mod_eq_of_lt fits

theorem mem_range_inclusive_u32 {start finish value : UInt32} :
    value ∈ rangeInclusiveU32 start finish ↔ start ≤ value ∧ value ≤ finish := by
  have first := start.toNat_lt
  have last := finish.toNat_lt
  rw [UInt32.le_iff_toNat_le, UInt32.le_iff_toNat_le, rangeInclusiveU32, mem_words (by omega)]
  omega

theorem range_u32_nodup (start finish : UInt32) : (rangeU32 start finish).Nodup := by
  have word := finish.toNat_lt
  apply List.Nodup.map_on _ List.nodup_range'
  intro first listed second otherListed same
  rw [List.mem_range'_1] at listed otherListed
  have small : first < 2 ^ 32 := by omega
  rw [← to_nat_of_word small, same, to_nat_of_word (by omega)]

/-! ## Full mesh and ring -/

def fullMeshBuild (nNodes : Nat) : List Edge :=
  let nNodes := UInt32.ofNat nNodes
  (rangeInclusiveU32 1 nNodes).flatMap fun src =>
    (rangeInclusiveU32 (src + 1) nNodes).map fun dst => (src, dst)

def ringBuild (nNodes : Nat) : List Edge :=
  (List.range' 1 nNodes).map fun i =>
    let next := if i = nNodes then 1 else UInt32.ofNat (i + 1)
    (UInt32.ofNat i, next)

/-! ## Fat tree -/

namespace FatTreeConfig

def validateParams (k : UInt32) : Except TopologyError Unit :=
  if k % 2 ≠ 0 then .error (.invalidConfig "k must be even")
  else if k = 0 then .error (.invalidConfig "k must be positive")
  else .ok ()

/-- The switches of a layer, those of a layer in one pod, and the core switches of an aggregation
switch. -/
def calculateParams (k : UInt32) : UInt32 × UInt32 × UInt32 :=
  let numLayerSwitches := k ^ 2 / 2
  let layerSwitchesPerPod := k / 2
  let numCoreSwitches := k ^ 2 / 4
  let coreSwitchesPerAgg := numCoreSwitches / layerSwitchesPerPod
  (numLayerSwitches, layerSwitchesPerPod, coreSwitchesPerAgg)

def buildEdgeToAggregationConnections (numLayerSwitches layerSwitchesPerPod : UInt32) : List Edge :=
  (rangeU32 0 numLayerSwitches).flatMap fun edgeId =>
    let podId := edgeId / layerSwitchesPerPod
    let aggStart := numLayerSwitches + podId * layerSwitchesPerPod
    (rangeU32 aggStart (aggStart + layerSwitchesPerPod)).map fun aggId => (edgeId + 1, aggId + 1)

def buildAggregationToCoreConnections (numLayerSwitches layerSwitchesPerPod coreSwitchesPerAgg : UInt32) :
    List Edge :=
  (rangeU32 numLayerSwitches (2 * numLayerSwitches)).flatMap fun aggId =>
    let coreGroup := aggId % layerSwitchesPerPod
    let coreStart := 2 * numLayerSwitches + coreGroup * coreSwitchesPerAgg
    (rangeU32 coreStart (coreStart + coreSwitchesPerAgg)).map fun coreId => (aggId + 1, coreId + 1)

def buildEdges (numLayerSwitches layerSwitchesPerPod coreSwitchesPerAgg : UInt32) : List Edge :=
  buildEdgeToAggregationConnections numLayerSwitches layerSwitchesPerPod ++
    buildAggregationToCoreConnections numLayerSwitches layerSwitchesPerPod coreSwitchesPerAgg

/-- The edges for so many ports of a switch. -/
def build (k : Nat) : Except TopologyError (List Edge) :=
  if 2 ^ 32 ≤ k then .error (.numericOverflow "FatTree k parameter overflow")
  else do
    let k := UInt32.ofNat k
    validateParams k
    let (numLayerSwitches, layerSwitchesPerPod, coreSwitchesPerAgg) := calculateParams k
    .ok (buildEdges numLayerSwitches layerSwitchesPerPod coreSwitchesPerAgg)

end FatTreeConfig

/-! ## Torus -/

/-- An undirected graph of the library, with its nodes counted and its edges by index. -/
structure GraphLibrary (Graph : Type) where
  empty : Graph
  addNode : Graph → Option Graph
  addEdge : Graph → Nat → Nat → Option Graph
  nodeCount : Graph → Nat
  endpoints : Graph → List (Nat × Nat)

/-- Adding a node or an edge panics at the largest index, and an edge needs its two nodes. -/
structure GraphLibrary.Documented {Graph : Type} (library : GraphLibrary Graph) : Prop where
  empty_nodes : library.nodeCount library.empty = 0
  empty_edges : library.endpoints library.empty = []
  add_node : ∀ graph, library.nodeCount graph < 2 ^ 32 - 1 → ∃ later,
    library.addNode graph = some later ∧ library.nodeCount later = library.nodeCount graph + 1 ∧
      library.endpoints later = library.endpoints graph
  no_node : ∀ graph, 2 ^ 32 - 1 ≤ library.nodeCount graph → library.addNode graph = none
  add_edge : ∀ graph first second, first < library.nodeCount graph →
    second < library.nodeCount graph → (library.endpoints graph).length < 2 ^ 32 - 1 →
      ∃ later, library.addEdge graph first second = some later ∧
        library.nodeCount later = library.nodeCount graph ∧
        library.endpoints later = library.endpoints graph ++ [(first, second)]
  no_edge : ∀ graph first second, ¬(first < library.nodeCount graph ∧
    second < library.nodeCount graph ∧ (library.endpoints graph).length < 2 ^ 32 - 1) →
      library.addEdge graph first second = none

namespace TorusConfig

variable {Graph : Type} (library : GraphLibrary Graph)

def validateParams (dimension nodesPerDim : UInt32) : Except TopologyError Unit :=
  if ¬(1 ≤ dimension ∧ dimension ≤ 3) then .error (.unsupportedDimension dimension)
  else if nodesPerDim = 0 then .error (.invalidConfig "nodes_per_dim must be positive")
  else .ok ()

def build1dTorusEdges (nodesPerDim : UInt32) : List (UInt32 × UInt32) :=
  (rangeU32 0 nodesPerDim).map fun i =>
    let next := (i + 1) % nodesPerDim
    (i, next)

def build2dTorusEdges (nodesPerDim : UInt32) : List (UInt32 × UInt32) :=
  (rangeU32 0 nodesPerDim).flatMap fun i =>
    (rangeU32 0 nodesPerDim).flatMap fun j =>
      let current := i + j * nodesPerDim
      let nextI := (i + 1) % nodesPerDim + j * nodesPerDim
      let nextJ := i + (j + 1) % nodesPerDim * nodesPerDim
      [(current, nextI), (current, nextJ)]

def build3dTorusEdges (nodesPerDim : UInt32) : List (UInt32 × UInt32) :=
  (rangeU32 0 nodesPerDim).flatMap fun i =>
    (rangeU32 0 nodesPerDim).flatMap fun j =>
      (rangeU32 0 nodesPerDim).flatMap fun k =>
        let current := i + j * nodesPerDim + k * nodesPerDim ^ 2
        let nextI := (i + 1) % nodesPerDim + j * nodesPerDim + k * nodesPerDim ^ 2
        let nextJ := i + (j + 1) % nodesPerDim * nodesPerDim + k * nodesPerDim ^ 2
        let nextK := i + j * nodesPerDim + (k + 1) % nodesPerDim * nodesPerDim ^ 2
        [(current, nextI), (current, nextJ), (current, nextK)]

def addNodes : Nat → Graph → Option Graph
  | 0, graph => some graph
  | count + 1, graph => (library.addNode graph).bind (addNodes count)

def addEdges : List (UInt32 × UInt32) → Graph → Option Graph
  | [], graph => some graph
  | (first, second) :: rest, graph =>
      (library.addEdge graph first.toNat second.toNat).bind (addEdges rest)

/-- The pairs of indices that the loops of a dimension add as edges. -/
def indexPairs (dimension nodesPerDim : UInt32) : Except TopologyError (List (UInt32 × UInt32)) :=
  match dimension.toNat with
  | 1 => .ok (build1dTorusEdges nodesPerDim)
  | 2 => .ok (build2dTorusEdges nodesPerDim)
  | 3 => .ok (build3dTorusEdges nodesPerDim)
  | _ => .error (.unsupportedDimension dimension)

def buildEdges (dimension nodesPerDim : UInt32) : Option (Except TopologyError (List Edge)) :=
  let totalNodes := nodesPerDim ^ dimension.toNat
  (addNodes library totalNodes.toNat library.empty).bind fun graph =>
    match indexPairs dimension nodesPerDim with
    | .error error => some (.error error)
    | .ok pairs => (addEdges library pairs graph).map fun graph =>
        .ok ((library.endpoints graph).map fun (a, b) => (UInt32.ofNat a + 1, UInt32.ofNat b + 1))

/-- The edges for so many dimensions and nodes in each, both cut to their words. -/
def build (dim n : Nat) : Option (Except TopologyError (List Edge)) :=
  let dimension := UInt32.ofNat dim
  let nodesPerDim := UInt32.ofNat n
  match validateParams dimension nodesPerDim with
  | .error error => some (.error error)
  | .ok () => buildEdges library dimension nodesPerDim

end TorusConfig

/-! ## Configurations -/

inductive PresetTopology where
  | fullMesh
  | fatTree
  | torus
  | ring
  deriving DecidableEq, Repr

/-- The topology of a configuration, with the parameters of each preset. -/
structure Topology where
  topologyType : Option PresetTopology
  nNodes : Option Nat
  fullMeshConfig : Option Nat
  fatTreeConfig : Option Nat
  torusConfig : Option (Nat × Nat)
  ringConfig : Option Nat
  edges : Option (List Edge)
  deriving DecidableEq

namespace Topology

variable {Graph : Type} (library : GraphLibrary Graph)

/-- The edges of the preset. The outer option is a panic, the middle one a missing configuration and
the inner one a failed build. -/
def presetEdges (topology : Topology) (preset : PresetTopology) :
    Option (Option (Option (List Edge))) :=
  match preset with
  | .fullMesh => some (topology.fullMeshConfig.map fun nNodes => some (fullMeshBuild nNodes))
  | .fatTree => some (topology.fatTreeConfig.map fun k => (FatTreeConfig.build k).toOption)
  | .torus =>
      match topology.torusConfig with
      | none => some none
      | some (dim, n) => (TorusConfig.build library dim n).map fun built => some built.toOption
  | .ring => some (topology.ringConfig.map fun nNodes => some (ringBuild nNodes))

/-- An edge with its smaller end first. -/
def normalized (edge : Edge) : Edge := if edge.1 ≤ edge.2 then edge else (edge.2, edge.1)

def insertEdges (edgeSet : Finset Edge) (edges : List Edge) : Finset Edge :=
  edges.foldl (fun edgeSet edge => insert (normalized edge) edgeSet) edgeSet

theorem mem_insert_edges {edgeSet : Finset Edge} {edges : List Edge} {edge : Edge} :
    edge ∈ insertEdges edgeSet edges ↔ edge ∈ edgeSet ∨ ∃ built ∈ edges, normalized built = edge := by
  induction edges generalizing edgeSet with
  | nil =>
    simp only [insertEdges, List.foldl_nil, List.not_mem_nil, false_and, exists_false, or_false]
  | cons first rest induction =>
    have step : insertEdges edgeSet (first :: rest) =
      insertEdges (insert (normalized first) edgeSet) rest := rfl
    rw [step, induction, Finset.mem_insert, or_comm (a := edge = normalized first), or_assoc,
      eq_comm (a := edge)]
    simp only [List.mem_cons, exists_eq_or_imp]

def nodeIds (edges : Finset Edge) : Finset UInt32 := edges.image Prod.fst ∪ edges.image Prod.snd

theorem mem_node_ids {edges : Finset Edge} {id : UInt32} :
    id ∈ nodeIds edges ↔ ∃ edge ∈ edges, edge.1 = id ∨ edge.2 = id := by
  rw [nodeIds, Finset.mem_union, Finset.mem_image, Finset.mem_image, ← exists_or]
  simp only [and_or_left]

theorem normalized_ids {edge : Edge} {id : UInt32} :
    ((normalized edge).1 = id ∨ (normalized edge).2 = id) ↔ edge.1 = id ∨ edge.2 = id := by
  rw [normalized]
  split
  · rfl
  · exact or_comm

theorem mem_node_ids_insert {edgeSet : Finset Edge} {edges : List Edge} {id : UInt32} :
    id ∈ nodeIds (insertEdges edgeSet edges) ↔
      id ∈ nodeIds edgeSet ∨ ∃ edge ∈ edges, edge.1 = id ∨ edge.2 = id := by
  rw [mem_node_ids, mem_node_ids]
  constructor
  · rintro ⟨edge, member, names⟩
    rcases mem_insert_edges.mp member with before | ⟨built, listed, rfl⟩
    · exact .inl ⟨edge, before, names⟩
    · exact .inr ⟨built, listed, normalized_ids.mp names⟩
  · rintro (⟨edge, before, names⟩ | ⟨built, listed, names⟩)
    · exact ⟨edge, mem_insert_edges.mpr (.inl before), names⟩
    · exact ⟨_, mem_insert_edges.mpr (.inr ⟨built, listed, rfl⟩), normalized_ids.mpr names⟩

theorem mem_built_ids {edges : List Edge} {id : UInt32} :
    id ∈ nodeIds (insertEdges ∅ edges) ↔ ∃ edge ∈ edges, edge.1 = id ∨ edge.2 = id := by
  rw [mem_node_ids_insert, or_iff_right]
  exact Finset.notMem_empty id

theorem insert_edges_ne_empty {edgeSet : Finset Edge} (nonempty : edgeSet ≠ ∅) (edges : List Edge) :
    insertEdges edgeSet edges ≠ ∅ := by
  rcases Finset.nonempty_iff_ne_empty.mpr nonempty with ⟨edge, member⟩
  exact Finset.ne_empty_of_mem (mem_insert_edges.mpr (.inl member))

/-- The edges of a configuration, if it has any; the outer option is a panic. -/
def buildTopology (topology : Topology) : Option (Option (Finset Edge)) := do
  let presetSet ← match topology.topologyType with
    | none => some (some ∅)
    | some preset => (topology.presetEdges library preset).map fun configured =>
        configured.map fun built => insertEdges ∅ (built.getD [])
  match presetSet with
  | none => some none
  | some edgeSet =>
      let edgeSet := insertEdges edgeSet (topology.edges.getD [])
      if edgeSet = ∅ then some none else some (some edgeSet)

theorem build_topology_panics {topology : Topology} {preset : PresetTopology}
    (isPreset : topology.topologyType = some preset)
    (panics : topology.presetEdges library preset = none) : topology.buildTopology library = none := by
  rw [buildTopology, isPreset]
  simp only [panics, Option.map_none, Option.bind_eq_bind, Option.bind_none]

theorem build_topology_built {topology : Topology} {preset : PresetTopology} {built : List Edge}
    (isPreset : topology.topologyType = some preset)
    (builds : topology.presetEdges library preset = some (some (some built)))
    (nonempty : insertEdges ∅ built ≠ ∅) : topology.buildTopology library =
      some (some (insertEdges (insertEdges ∅ built) (topology.edges.getD []))) := by
  have all := insert_edges_ne_empty nonempty (topology.edges.getD [])
  rw [buildTopology, isPreset]
  simp only [builds, Option.map_some, Option.getD_some, Option.bind_eq_bind, Option.bind_some,
    if_neg all]

/-- The number of nodes that the controller waits for, in 64 bit words. -/
def computeNodeCount (topology : Topology) : Option Nat :=
  match topology.topologyType with
  | some .fullMesh => topology.fullMeshConfig
  | some .fatTree => topology.fatTreeConfig.map fun k =>
      let k := UInt64.ofNat k
      (k * k * k / 4 + 5 * k * k / 4).toNat
  | some .torus => topology.torusConfig.map fun (dim, n) =>
      let n := UInt64.ofNat n
      let dim := UInt32.ofNat dim
      (n ^ dim.toNat).toNat
  | some .ring => topology.ringConfig
  | none => topology.nNodes

end Topology

end Nextmini.Controller
