import Mathlib.Algebra.BigOperators.Group.Finset.Basic
import Mathlib.Algebra.Order.BigOperators.Group.Finset
import Mathlib.Data.Fintype.Card
import Mathlib.Data.Multiset.Bind
import Mathlib.Logic.Hydra
import Mathlib.Order.WellFounded
import Nextmini.Library.TransitionSystem

/-!
# Flooding a graph

Copies of a message move through a directed graph with repeated edges. A node that takes a copy
keeps some deliveries of it and sends one copy along each of its edges; the copies in flight are
taken in any order. The copies taken in a complete run are the same in every order: one for the
source, and one for each edge from a copy taken. From this the shape of the graphs that deliver
exactly once is read off.
-/

namespace Nextmini.Library

set_option autoImplicit false

/-- Where a copy taken by a node goes, and how often the node delivers it. -/
structure Flooding (Node : Type*) where
  forward : Node → List Node
  deliver : Node → Nat

namespace Flooding

variable {Node : Type*}

/-- The copies in flight, by the node they are on their way to, and those taken so far. -/
structure State (Node : Type*) where
  inFlight : Multiset Node
  taken : Multiset Node

variable (graph : Flooding Node)

def start (source : Node) : State Node where
  inFlight := {source}
  taken := 0

def Edge (first second : Node) : Prop := second ∈ graph.forward first

def Reaches : Node → Node → Prop := Relation.ReflTransGen graph.Edge

variable [DecidableEq Node]

def take (state : State Node) (node : Node) : State Node where
  inFlight := state.inFlight.erase node + (graph.forward node : Multiset Node)
  taken := node ::ₘ state.taken

/-- Any copy in flight may be taken next. -/
def flood (source : Node) : TransitionSystem (State Node) Node where
  initial state := state = start source
  step state node next := node ∈ state.inFlight ∧ next = graph.take state node

def delivered (state : State Node) (node : Node) : Nat :=
  state.taken.count node * graph.deliver node

variable {graph} {source : Node}

/-! ## Termination -/

section Ends

omit [DecidableEq Node]

/-- The successors of a node from which no path is infinite, as the order its copies decrease in. -/
def Below (graph : Flooding Node) (next node : Node) : Prop :=
  Acc (fun next node => graph.Edge node next) node ∧ graph.Edge node next

theorem acc_not_self {Carrier : Type*} {related : Carrier → Carrier → Prop} {element : Carrier}
    (accessible : Acc related element) : ¬related element element := by
  induction accessible with
  | intro element _ induction =>
    intro self
    exact induction element self self

instance : Std.Irrefl (Below graph) where
  irrefl _ below := acc_not_self below.1 below.2

theorem acc_below {node : Node} (finite : Acc (fun next node => graph.Edge node next) node) :
    Acc (Below graph) node := by
  induction finite with
  | intro node _ induction =>
    constructor
    intro next below
    exact induction next below.2

/-- A path from the source is finite once there is no cycle on the finitely many nodes reached. -/
theorem accessible_of_no_cycle (finite : {node | graph.Reaches source node}.Finite)
    (noCycle : ∀ node, graph.Reaches source node → ¬Relation.TransGen graph.Edge node node) :
    Acc (fun next node => graph.Edge node next) source := by
  let Reached := {node // graph.Reaches source node}
  let Later : Reached → Reached → Prop := fun next node => Relation.TransGen graph.Edge node next
  have : Finite Reached := finite
  have : IsTrans Reached Later := ⟨fun _ _ _ second first => first.trans second⟩
  have : Std.Irrefl Later := ⟨fun node => noCycle node node.property⟩
  have wellFounded : WellFounded Later := Finite.wellFounded_of_trans_of_irrefl Later
  have every : ∀ node : Reached, Acc (fun next node => graph.Edge node next) node.val := by
    intro node
    induction node using wellFounded.induction with
    | _ node induction =>
      constructor
      intro next edge
      exact induction ⟨next, node.property.tail edge⟩ (.single edge)
  exact every ⟨source, .refl⟩

theorem no_cycle_of_accessible (accessible : Acc (fun next node => graph.Edge node next) source)
    (node : Node) (path : graph.Reaches source node) :
    ¬Relation.TransGen graph.Edge node node := by
  have reached : Acc (fun next node => graph.Edge node next) node := by
    induction path with
    | refl => exact accessible
    | tail _ edge induction => exact induction.inv edge
  intro cycle
  exact acc_not_self reached.transGen (Relation.transGen_swap.mpr cycle)

end Ends

theorem accessible_copies_terminate {state : State Node}
    (finite : ∀ node ∈ state.inFlight, Acc (fun next node => graph.Edge node next) node) :
    (graph.flood source).Terminates state := by
  have accessible : Acc (Relation.CutExpand (Below graph)) state.inFlight := by
    apply Relation.acc_of_singleton
    intro node member
    exact (acc_below (finite node member)).cutExpand
  generalize copies : state.inFlight = inFlight at accessible
  induction accessible generalizing state with
  | intro inFlight _ induction =>
    subst copies
    constructor
    rintro next ⟨node, member, rfl⟩
    have nodeFinite := finite node member
    apply induction (graph.take state node).inFlight
    · refine ⟨(graph.forward node : Multiset Node), node, ?_, ?_⟩
      · intro successor edge
        exact ⟨nodeFinite, edge⟩
      · have restored : state.inFlight.erase node + {node} = state.inFlight := by
          rw [add_comm, Multiset.singleton_add, Multiset.cons_erase member]
        simp only [take]
        rw [add_right_comm, restored]
    · intro successor present
      rcases Multiset.mem_add.mp present with kept | sent
      · exact finite successor (Multiset.mem_of_mem_erase kept)
      · exact nodeFinite.inv sent
    · rfl

theorem terminating_copies_accessible {state : State Node}
    (terminates : (graph.flood source).Terminates state) :
    ∀ node ∈ state.inFlight, Acc (fun next node => graph.Edge node next) node := by
  induction terminates with
  | intro state _ induction =>
    intro node member
    constructor
    intro successor edge
    apply induction (graph.take state node) ⟨node, member, rfl⟩ successor
    exact Multiset.mem_add.mpr (.inr edge)

/-- A flood ends exactly when no path from its source is infinite. -/
theorem terminates_iff_accessible :
    (graph.flood source).Terminates (start source) ↔
      Acc (fun next node => graph.Edge node next) source := by
  constructor
  · intro terminates
    exact terminating_copies_accessible terminates source (Multiset.mem_singleton_self source)
  · intro finite
    apply accessible_copies_terminate
    intro node member
    rw [Multiset.mem_singleton.mp member]
    exact finite

/-! ## Copies taken -/

/-- What has been taken and what is in flight came from the source, one copy along each edge from
a copy taken. -/
structure Flooded (graph : Flooding Node) (source : Node) (state : State Node) : Prop where
  copies : state.taken + state.inFlight =
    {source} + state.taken.bind fun node => (graph.forward node : Multiset Node)
  reached : ∀ node ∈ state.taken + state.inFlight, graph.Reaches source node

theorem flooded_of_run {state : State Node} {nodes : List Node}
    (run : (graph.flood source).Run (start source) nodes state) : Flooded graph source state := by
  apply TransitionSystem.run_preserves _ run
  · constructor
    · simp [start]
    · intro node member
      have same : node = source := by simpa [start] using member
      rw [same]
      exact .refl
  · rintro state node next flooded ⟨member, rfl⟩
    have restored : state.inFlight.erase node + {node} = state.inFlight := by
      rw [add_comm, Multiset.singleton_add, Multiset.cons_erase member]
    constructor
    · simp only [take, Multiset.cons_bind]
      calc node ::ₘ state.taken + (state.inFlight.erase node + (graph.forward node : Multiset Node))
          = state.taken + (state.inFlight.erase node + {node}) + graph.forward node := by
            rw [← Multiset.singleton_add]
            ac_rfl
        _ = {source} + (state.taken.bind fun node => (graph.forward node : Multiset Node)) +
              graph.forward node := by
            rw [restored, flooded.copies]
        _ = _ := by ac_rfl
    · intro other present
      have nodeReached := flooded.reached node (Multiset.mem_add.mpr (.inr member))
      rcases Multiset.mem_add.mp present with taken | travelling
      · rcases Multiset.mem_cons.mp taken with rfl | earlier
        · exact nodeReached
        · exact flooded.reached other (Multiset.mem_add.mpr (.inl earlier))
      · rcases Multiset.mem_add.mp travelling with kept | sent
        · exact flooded.reached other
            (Multiset.mem_add.mpr (.inr (Multiset.mem_of_mem_erase kept)))
        · exact nodeReached.tail sent

/-- The copies taken once none is in flight. -/
structure Complete (graph : Flooding Node) (source : Node) (state : State Node) : Prop
    extends Flooded graph source state where
  nothingLeft : state.inFlight = 0

theorem complete_of_stuck {state : State Node} {nodes : List Node}
    (run : (graph.flood source).Run (start source) nodes state)
    (stuck : ∀ node next, ¬(graph.flood source).step state node next) :
    Complete graph source state := by
  refine ⟨flooded_of_run run, ?_⟩
  apply Multiset.eq_zero_of_forall_notMem
  intro node member
  exact stuck node _ ⟨member, rfl⟩

namespace Complete

variable {state : State Node} (complete : Complete graph source state)
include complete

/-- A node takes the copies its predecessors sent it, and the source one more. -/
theorem count_eq (node : Node) :
    state.taken.count node = (if node = source then 1 else 0) +
      ∑ first ∈ state.taken.toFinset,
        state.taken.count first * (graph.forward first).count node := by
  have copies := congrArg (Multiset.count node) complete.copies
  rw [complete.nothingLeft, add_zero, Multiset.count_add, Multiset.count_singleton,
    Multiset.count_bind, Finset.sum_multiset_map_count] at copies
  simpa using copies

theorem source_taken : source ∈ state.taken := by
  rw [← Multiset.count_pos, complete.count_eq source, if_pos rfl]
  exact Nat.lt_of_lt_of_le Nat.zero_lt_one (Nat.le_add_right 1 _)

theorem copies_along_edge (first node : Node) :
    state.taken.count first * (graph.forward first).count node ≤ state.taken.count node := by
  by_cases taken : first ∈ state.taken
  · rw [complete.count_eq node]
    apply Nat.le_add_left_of_le
    exact Finset.single_le_sum
      (f := fun first => state.taken.count first * (graph.forward first).count node)
      (fun _ _ => Nat.zero_le _) (Multiset.mem_toFinset.mpr taken)
  · rw [Multiset.count_eq_zero_of_notMem taken, Nat.zero_mul]
    exact Nat.zero_le _

theorem count_le_of_edge {first node : Node} (edge : graph.Edge first node) :
    state.taken.count first ≤ state.taken.count node := by
  have some : 0 < (graph.forward first).count node := List.count_pos_iff.mpr edge
  exact Nat.le_trans (Nat.le_mul_of_pos_right _ some) (complete.copies_along_edge first node)

theorem count_le_of_reaches {first node : Node} (path : graph.Reaches first node) :
    state.taken.count first ≤ state.taken.count node := by
  induction path with
  | refl => exact Nat.le_refl _
  | tail _ edge induction => exact Nat.le_trans induction (complete.count_le_of_edge edge)

theorem taken_iff (node : Node) : node ∈ state.taken ↔ graph.Reaches source node := by
  constructor
  · intro taken
    exact complete.reached node (Multiset.mem_add.mpr (.inl taken))
  · intro path
    have sourceTaken := Multiset.count_pos.mpr complete.source_taken
    exact Multiset.count_pos.mp (Nat.lt_of_lt_of_le sourceTaken (complete.count_le_of_reaches path))

theorem delivered_pos_iff (node : Node) :
    0 < graph.delivered state node ↔ graph.Reaches source node ∧ 0 < graph.deliver node := by
  rw [← complete.taken_iff, ← Multiset.count_pos, delivered, Nat.pos_iff_ne_zero, Nat.mul_ne_zero_iff,
    Nat.pos_iff_ne_zero, Nat.pos_iff_ne_zero]

theorem copies_from_two {first second node : Node} (different : first ≠ second)
    (firstTaken : first ∈ state.taken) (secondTaken : second ∈ state.taken)
    (firstEdge : graph.Edge first node) (secondEdge : graph.Edge second node) :
    2 ≤ state.taken.count node := by
  rw [complete.count_eq node]
  apply Nat.le_add_left_of_le
  have sent : ∀ other, other ∈ state.taken → graph.Edge other node →
      1 ≤ state.taken.count other * (graph.forward other).count node := by
    intro other taken edge
    exact Nat.mul_pos (Multiset.count_pos.mpr taken) (List.count_pos_iff.mpr edge)
  calc 2 ≤ state.taken.count first * (graph.forward first).count node +
            state.taken.count second * (graph.forward second).count node :=
          Nat.add_le_add (sent first firstTaken firstEdge) (sent second secondTaken secondEdge)
    _ = ∑ other ∈ {first, second}, state.taken.count other * (graph.forward other).count node :=
          by rw [Finset.sum_pair different]
    _ ≤ _ := by
          apply Finset.sum_le_sum_of_subset
          intro other member
          rcases Finset.mem_insert.mp member with rfl | member
          · exact Multiset.mem_toFinset.mpr firstTaken
          · rw [Finset.mem_singleton.mp member]
            exact Multiset.mem_toFinset.mpr secondTaken

end Complete

/-! ## Exactly one delivery -/

/-- The flood ends, and no node has delivered twice. -/
def DeliversOnce (graph : Flooding Node) (source : Node) : Prop :=
  (graph.flood source).Terminates (start source) ∧
    ∀ nodes finish, (graph.flood source).Run (start source) nodes finish →
      finish.inFlight = 0 → ∀ node, graph.delivered finish node ≤ 1

/-- The shape of a graph that delivers once: no cycle, no node that delivers a copy twice, and one
edge into each node on the way to a delivery. -/
structure SinglePath (graph : Flooding Node) (source : Node) : Prop where
  noCycle : ∀ node, graph.Reaches source node → ¬Relation.TransGen graph.Edge node node
  oneDelivery : ∀ node, graph.Reaches source node → graph.deliver node ≤ 1
  oneWayIn : ∀ node member, graph.Reaches source node → graph.Reaches node member →
    0 < graph.deliver member → ∀ first, graph.Reaches source first → graph.Edge first node →
      (graph.forward first).count node = 1 ∧
        ∀ second, graph.Reaches source second → graph.Edge second node → second = first

theorem terminates_iff_no_cycle (finite : {node | graph.Reaches source node}.Finite) :
    (graph.flood source).Terminates (start source) ↔
      ∀ node, graph.Reaches source node → ¬Relation.TransGen graph.Edge node node := by
  rw [terminates_iff_accessible]
  exact ⟨no_cycle_of_accessible, accessible_of_no_cycle finite⟩

theorem Complete.taken_once {state : State Node} (complete : Complete graph source state)
    (single : SinglePath graph source) {node member : Node} (path : graph.Reaches source node)
    (onward : graph.Reaches node member) (delivers : 0 < graph.deliver member) :
    state.taken.count node = 1 := by
  induction path with
  | refl =>
    have none : ∀ other ∈ state.taken.toFinset,
        state.taken.count other * (graph.forward other).count source = 0 := by
      intro other taken
      have reached := (complete.taken_iff other).mp (Multiset.mem_toFinset.mp taken)
      have away : source ∉ graph.forward other := by
        intro edge
        exact single.noCycle source .refl (.tail' reached edge)
      rw [List.count_eq_zero_of_not_mem away, Nat.mul_zero]
    rw [complete.count_eq source, if_pos rfl, Finset.sum_eq_zero none, add_zero]
  | @tail first node before edge induction =>
    have once := induction (.head edge onward)
    have path := before.tail edge
    have apart : node ≠ source := by
      rintro rfl
      exact single.noCycle node .refl (.tail' before edge)
    obtain ⟨sent, alone⟩ := single.oneWayIn node member path onward delivers first before edge
    have others : ∀ other ∈ state.taken.toFinset, other ≠ first →
        state.taken.count other * (graph.forward other).count node = 0 := by
      intro other taken different
      have reached := (complete.taken_iff other).mp (Multiset.mem_toFinset.mp taken)
      have none : node ∉ graph.forward other := fun edge => different (alone other reached edge)
      rw [List.count_eq_zero_of_not_mem none, Nat.mul_zero]
    have firstTaken := (complete.taken_iff first).mpr before
    rw [complete.count_eq node, if_neg apart,
      Finset.sum_eq_single_of_mem first (Multiset.mem_toFinset.mpr firstTaken) others, once, sent]

theorem delivers_once_of_single_path (finite : {node | graph.Reaches source node}.Finite)
    (single : SinglePath graph source) : DeliversOnce graph source := by
  refine ⟨(terminates_iff_no_cycle finite).mpr single.noCycle, ?_⟩
  intro nodes finish run nothingLeft node
  have complete : Complete graph source finish := ⟨flooded_of_run run, nothingLeft⟩
  by_cases positive : 0 < graph.delivered finish node
  · obtain ⟨path, delivers⟩ := (complete.delivered_pos_iff node).mp positive
    rw [delivered, complete.taken_once single path .refl delivers, Nat.one_mul]
    exact single.oneDelivery node path
  · exact Nat.le_of_lt (Nat.lt_one_iff.mpr (Nat.eq_zero_of_not_pos positive))

theorem single_path_of_delivers_once (finite : {node | graph.Reaches source node}.Finite)
    (once : DeliversOnce graph source) : SinglePath graph source := by
  obtain ⟨terminates, atEnd⟩ := once
  obtain ⟨nodes, finish, run, stuck⟩ := terminates.run_to_end
  have complete := complete_of_stuck run stuck
  have atMostOnce := atEnd nodes finish run complete.nothingLeft
  have takenPositive : ∀ node, graph.Reaches source node → 0 < finish.taken.count node := by
    intro node path
    exact Multiset.count_pos.mpr ((complete.taken_iff node).mpr path)
  refine ⟨(terminates_iff_no_cycle finite).mp terminates, ?_, ?_⟩
  · intro node path
    exact Nat.le_trans (Nat.le_mul_of_pos_left _ (takenPositive node path)) (atMostOnce node)
  · intro node member path onward delivers first before edge
    have memberOnce : finish.taken.count member ≤ 1 :=
      Nat.le_trans (Nat.le_mul_of_pos_right _ delivers) (atMostOnce member)
    have nodeOnce : finish.taken.count node ≤ 1 :=
      Nat.le_trans (complete.count_le_of_reaches onward) memberOnce
    constructor
    · apply Nat.le_antisymm
      · exact Nat.le_trans (Nat.le_mul_of_pos_left _ (takenPositive first before))
          (Nat.le_trans (complete.copies_along_edge first node) nodeOnce)
      · exact List.count_pos_iff.mpr edge
    · intro second other secondEdge
      by_contra different
      have two := complete.copies_from_two different ((complete.taken_iff second).mpr other)
        ((complete.taken_iff first).mpr before) secondEdge edge
      exact absurd (Nat.le_trans two nodeOnce) (by decide)

/-- The smallest such graph: one edge. -/
theorem single_path_of_edge {target : Node} (different : source ≠ target)
    (edge : ∀ first second, graph.Edge first second ↔ first = source ∧ second = target)
    (sent : (graph.forward source).count target = 1)
    (oneDelivery : ∀ node, graph.deliver node ≤ 1) : SinglePath graph source where
  noCycle node _ cycle := by
    rcases Relation.TransGen.head'_iff.mp cycle with ⟨_, out, _⟩
    rcases Relation.TransGen.tail'_iff.mp cycle with ⟨_, _, back⟩
    exact different (((edge _ _).mp out).1.symm.trans ((edge _ _).mp back).2)
  oneDelivery node _ := oneDelivery node
  oneWayIn node _ _ _ _ first _ into := by
    rcases (edge first node).mp into with ⟨rfl, rfl⟩
    exact ⟨sent, fun second _ also => ((edge second node).mp also).1⟩

theorem delivers_once_iff (finite : {node | graph.Reaches source node}.Finite) :
    DeliversOnce graph source ↔ SinglePath graph source :=
  ⟨single_path_of_delivers_once finite, delivers_once_of_single_path finite⟩

end Flooding

end Nextmini.Library
