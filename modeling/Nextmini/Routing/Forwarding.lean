import Nextmini.Library.Flooding
import Nextmini.Routing.CacheTransparency

/-!
# Forwarding a packet

One packet on its way through the nodes of a network. A node that processes a copy looks up the next
hops in its own table and, for each, delivers the copy here, hands it to the scheduler of a
neighbour, or drops it where there is none. Schedulers and links lose nothing, and no copy carries a
hop limit. A node's answers are those of its reference table, so the copies flood the graph of the
next hops.
-/

namespace Nextmini.Routing

open Nextmini.Library

set_option autoImplicit false

/-! ## Processing a packet -/

inductive Dispatch where
  | local
  | sent (neighbor : UInt32)
  | dropped
  deriving DecidableEq

/-- Schedulers are kept under the ids of the neighbours they lead to. -/
def sendPacket (localId : UInt32) (schedulers : Finset UInt32) (nextHopId : NodeId) : Dispatch :=
  if nextHopId = localId.toNat then .local
  else if nextHopId < 2 ^ 32 ∧ UInt32.ofNat nextHopId ∈ schedulers then
    .sent (UInt32.ofNat nextHopId)
  else .dropped

/-- A packet whose route does not resolve is dropped. -/
def resolvedHops : Except String (List NodeId) → List NodeId
  | .ok nextHops => nextHops
  | .error _ => []

def processPacket (slot : JumpSlot) (localId : UInt32) (schedulers : Finset UInt32)
    (table : RoutingTable) (flowId : FlowId) (treeId : Option UInt16) :
    Option (RoutingTable × List Dispatch) :=
  (table.getNextHopsByFlowAndTree slot flowId treeId).map fun (table, answer) =>
    (table, (resolvedHops answer).map (sendPacket localId schedulers))

def Dispatch.neighbor : Dispatch → Option UInt32
  | .sent neighbor => some neighbor
  | _ => none

theorem send_to_node (localId neighbor : UInt32) (schedulers : Finset UInt32) :
    sendPacket localId schedulers neighbor.toNat =
      if neighbor = localId then .local
      else if neighbor ∈ schedulers then .sent neighbor else .dropped := by
  have small : neighbor.toNat < 2 ^ 32 := neighbor.toNat_lt
  simp only [sendPacket, UInt32.toNat_inj, UInt32.ofNat_toNat, small, true_and]

theorem sent_neighbors (localId : UInt32) (schedulers : Finset UInt32) (neighbors : List UInt32) :
    (neighbors.map (sendPacket localId schedulers ∘ UInt32.toNat)).filterMap Dispatch.neighbor =
      neighbors.filter fun neighbor => neighbor ≠ localId ∧ neighbor ∈ schedulers := by
  induction neighbors with
  | nil => rfl
  | cons neighbor rest induction =>
    rw [List.map_cons, List.filterMap_cons, List.filter_cons, induction, Function.comp_apply,
      send_to_node]
    by_cases self : neighbor = localId
    · simp [self, Dispatch.neighbor]
    · by_cases linked : neighbor ∈ schedulers
      · simp [self, linked, Dispatch.neighbor]
      · simp [self, linked, Dispatch.neighbor]

theorem kept_copies (localId : UInt32) (schedulers : Finset UInt32) (neighbors : List UInt32) :
    (neighbors.map (sendPacket localId schedulers ∘ UInt32.toNat)).count .local =
      neighbors.count localId := by
  induction neighbors with
  | nil => rfl
  | cons neighbor rest induction =>
    rw [List.map_cons, List.count_cons, List.count_cons, induction, Function.comp_apply,
      send_to_node]
    by_cases self : neighbor = localId
    · simp [self]
    · by_cases linked : neighbor ∈ schedulers
      · simp [self, linked]
      · simp [self, linked]

/-! ## The network -/

/-- The tables of the nodes, the copies on their way to a node, and the local deliveries made. -/
structure PacketState where
  tables : UInt32 → RoutingTable
  inFlight : Multiset UInt32
  delivered : Multiset UInt32

def PacketState.start (tables : UInt32 → RoutingTable) (source : UInt32) : PacketState where
  tables := tables
  inFlight := {source}
  delivered := 0

def PacketState.processed (state : PacketState) (node : UInt32) (table : RoutingTable)
    (dispatches : List Dispatch) : PacketState where
  tables := Function.update state.tables node table
  inFlight := state.inFlight.erase node + (dispatches.filterMap Dispatch.neighbor : Multiset UInt32)
  delivered := state.delivered + Multiset.replicate (dispatches.count .local) node

instance finiteUInt32 : Finite UInt32 :=
  Finite.of_injective UInt32.toFin fun _ _ same => UInt32.toFin_inj.mp same

section Forwarding

variable (slot : JumpSlot) (schedulers : UInt32 → Finset UInt32) (flowId : FlowId)
  (treeId : Option UInt16)

/-- Copies in flight are processed in any order. -/
def forwarding (tables : UInt32 → RoutingTable) (source : UInt32) :
    TransitionSystem PacketState UInt32 where
  initial state := state = .start tables source
  step state node next := node ∈ state.inFlight ∧ ∃ table dispatches,
    processPacket slot node (schedulers node) (state.tables node) flowId treeId =
      some (table, dispatches) ∧
    next = state.processed node table dispatches

/-- Forwarding from the source ends, and leaves deliveries whose numbers are as wanted. -/
def Delivers (tables : UInt32 → RoutingTable) (source : UInt32) (wanted : (UInt32 → Nat) → Prop) :
    Prop :=
  (forwarding slot schedulers flowId treeId tables source).Terminates (.start tables source) ∧
    ∀ nodes finish, (forwarding slot schedulers flowId treeId tables source).Run
      (.start tables source) nodes finish → finish.inFlight = 0 →
        wanted fun node => finish.delivered.count node

/-- The graph of the next hops: a hop that is the node itself delivers, the others lead to the
neighbours with a scheduler. -/
def hopGraph (hops : UInt32 → List NodeId) : Flooding UInt32 where
  forward node := ((hops node).map (sendPacket node (schedulers node))).filterMap Dispatch.neighbor
  deliver node := ((hops node).map (sendPacket node (schedulers node))).count .local

/-- The hops that the nodes' tables give the packet. -/
structure Answering (tables : UInt32 → RoutingTable) (references : UInt32 → ReferenceTable)
    (hops : UInt32 → List NodeId) : Prop where
  caches : ∀ node, CachesAgree slot (tables node) (references node)
  answers : ∀ node, ∃ answer, (references node).nextHops slot flowId treeId = some answer ∧
    resolvedHops answer = hops node

/-- The network beside the flood of the graph of its next hops. -/
structure Floods (references : UInt32 → ReferenceTable) (hops : UInt32 → List NodeId)
    (state : PacketState) (flooding : Flooding.State UInt32) : Prop where
  answering : Answering slot flowId treeId state.tables references hops
  inFlight : state.inFlight = flooding.inFlight
  delivered : ∀ node, state.delivered.count node =
    (hopGraph schedulers hops).delivered flooding node

variable {slot schedulers flowId treeId} {tables : UInt32 → RoutingTable} {source : UInt32}
  {references : UInt32 → ReferenceTable} {hops : UInt32 → List NodeId}

theorem process_packet_answers (answering : Answering slot flowId treeId tables references hops)
    (node : UInt32) :
    ∃ table, CachesAgree slot table (references node) ∧
      processPacket slot node (schedulers node) (tables node) flowId treeId =
        some (table, (hops node).map (sendPacket node (schedulers node))) := by
  have alike := next_hops_alike (answering.caches node) flowId treeId
  rcases answering.answers node with ⟨answer, expected, resolved⟩
  rw [expected] at alike
  rw [processPacket]
  generalize (tables node).getNextHopsByFlowAndTree slot flowId treeId = answered at alike
  cases alike with
  | some both =>
    rename_i looked
    rcases looked with ⟨table, found⟩
    rcases both with ⟨agree, rfl⟩
    refine ⟨table, agree, ?_⟩
    exact congrArg (fun hops => some (table, hops.map (sendPacket node (schedulers node)))) resolved

/-- Processing a copy and taking it in the flood go together. -/
theorem floods_processed {state : PacketState} {flooding : Flooding.State UInt32}
    (floods : Floods slot schedulers flowId treeId references hops state flooding) (node : UInt32)
    {table : RoutingTable} (agree : CachesAgree slot table (references node)) :
    Floods slot schedulers flowId treeId references hops
      (state.processed node table ((hops node).map (sendPacket node (schedulers node))))
      ((hopGraph schedulers hops).take flooding node) where
  answering :=
    { floods.answering with
      caches := by
        intro other
        by_cases same : other = node
        · subst same
          simp only [PacketState.processed, Function.update_self]
          exact agree
        · simp only [PacketState.processed, ne_eq, same, not_false_eq_true, Function.update_of_ne]
          exact floods.answering.caches other }
  inFlight := by
    simp only [PacketState.processed, Flooding.take, floods.inFlight]
    rfl
  delivered other := by
    simp only [PacketState.processed, Multiset.count_add, Multiset.count_replicate,
      floods.delivered, Flooding.delivered, Flooding.take, Multiset.count_cons, Nat.add_mul]
    by_cases same : other = node
    · subst same
      simp [hopGraph]
    · simp [same, Ne.symm same]

theorem forwarding_step_floods {state next : PacketState} {node : UInt32}
    {flooding : Flooding.State UInt32}
    (floods : Floods slot schedulers flowId treeId references hops state flooding)
    (step : (forwarding slot schedulers flowId treeId tables source).step state node next) :
    ∃ later, ((hopGraph schedulers hops).flood source).step flooding node later ∧
      Floods slot schedulers flowId treeId references hops next later := by
  rcases step with ⟨member, table, dispatches, processed, rfl⟩
  rcases process_packet_answers floods.answering node with ⟨answeredTable, agree, answered⟩
  rw [processed] at answered
  cases answered
  refine ⟨_, ⟨?_, rfl⟩, floods_processed floods node agree⟩
  rw [← floods.inFlight]
  exact member

theorem flood_step_forwards {state : PacketState} {node : UInt32}
    {flooding later : Flooding.State UInt32}
    (floods : Floods slot schedulers flowId treeId references hops state flooding)
    (step : ((hopGraph schedulers hops).flood source).step flooding node later) :
    ∃ next, (forwarding slot schedulers flowId treeId tables source).step state node next ∧
      Floods slot schedulers flowId treeId references hops next later := by
  rcases step with ⟨member, rfl⟩
  rcases process_packet_answers floods.answering node with ⟨table, agree, answered⟩
  refine ⟨_, ⟨?_, table, _, answered, rfl⟩, floods_processed floods node agree⟩
  rw [floods.inFlight]
  exact member

variable (schedulers) in
theorem floods_start (answering : Answering slot flowId treeId tables references hops)
    (source : UInt32) :
    Floods slot schedulers flowId treeId references hops (.start tables source)
      (Flooding.start source) where
  answering := answering
  inFlight := rfl
  delivered node := by simp [PacketState.start, Flooding.start, Flooding.delivered]

/-- Forwarding in the network is the flood of the graph of the next hops. -/
theorem delivers_iff_flood (answering : Answering slot flowId treeId tables references hops)
    (source : UInt32) (wanted : (UInt32 → Nat) → Prop) :
    Delivers slot schedulers flowId treeId tables source wanted ↔
      ((hopGraph schedulers hops).flood source).Terminates (Flooding.start source) ∧
        ∀ nodes finish, ((hopGraph schedulers hops).flood source).Run (Flooding.start source)
          nodes finish → finish.inFlight = 0 →
            wanted fun node => (hopGraph schedulers hops).delivered finish node := by
  have started := floods_start schedulers answering source
  constructor
  · rintro ⟨terminates, right⟩
    refine ⟨?_, ?_⟩
    · apply TransitionSystem.Terminates.of_simulation
        (fun flooding state => Floods slot schedulers flowId treeId references hops state flooding)
        _ started terminates
      intro flooding node later state floods step
      rcases flood_step_forwards floods step with ⟨next, forwarded, kept⟩
      exact ⟨node, next, forwarded, kept⟩
    · intro nodes finish run nothingLeft
      rcases run.followed
        (fun flooding state => Floods slot schedulers flowId treeId references hops state flooding)
        (fun flooding node later state floods step => flood_step_forwards floods step) started with
        ⟨state, forwarded, floods⟩
      have arrived := right nodes state forwarded (floods.inFlight.trans nothingLeft)
      simpa only [floods.delivered] using arrived
  · rintro ⟨terminates, right⟩
    refine ⟨?_, ?_⟩
    · apply TransitionSystem.Terminates.of_simulation
        (Floods slot schedulers flowId treeId references hops) _ started terminates
      intro state node next flooding floods step
      rcases forwarding_step_floods floods step with ⟨later, flooded, kept⟩
      exact ⟨node, later, flooded, kept⟩
    · intro nodes finish run nothingLeft
      rcases run.followed (Floods slot schedulers flowId treeId references hops)
        (fun state node next flooding floods step => forwarding_step_floods floods step) started with
        ⟨flooding, flooded, floods⟩
      have arrived := right nodes flooding flooded (floods.inFlight.symm.trans nothingLeft)
      simpa only [floods.delivered] using arrived

/-- At most one delivery everywhere, and one at each node of a set: the hops from the source form no
cycle and no second way to a delivery, and each node of the set is reached and delivers. -/
theorem delivers_once_iff_single_path
    (answering : Answering slot flowId treeId tables references hops) (source : UInt32)
    (members : Set UInt32) :
    Delivers slot schedulers flowId treeId tables source
        (fun count => (∀ node, count node ≤ 1) ∧ ∀ node ∈ members, count node = 1) ↔
      (hopGraph schedulers hops).SinglePath source ∧
        ∀ node ∈ members, (hopGraph schedulers hops).Reaches source node ∧
          0 < (hopGraph schedulers hops).deliver node := by
  have finite := Set.toFinite {node | (hopGraph schedulers hops).Reaches source node}
  rw [delivers_iff_flood answering, ← Flooding.delivers_once_iff finite]
  constructor
  · rintro ⟨terminates, right⟩
    have once : (hopGraph schedulers hops).DeliversOnce source :=
      ⟨terminates, fun nodes finish run nothingLeft => (right nodes finish run nothingLeft).1⟩
    refine ⟨once, ?_⟩
    intro node member
    rcases terminates.run_to_end with ⟨nodes, finish, run, stuck⟩
    have complete := Flooding.complete_of_stuck run stuck
    have one := (right nodes finish run complete.nothingLeft).2 node member
    exact (complete.delivered_pos_iff node).mp (Nat.lt_of_lt_of_eq Nat.zero_lt_one one.symm)
  · rintro ⟨⟨terminates, atMostOnce⟩, reached⟩
    refine ⟨terminates, ?_⟩
    intro nodes finish run nothingLeft
    have bounded := atMostOnce nodes finish run nothingLeft
    refine ⟨bounded, ?_⟩
    intro node member
    have complete : Flooding.Complete (hopGraph schedulers hops) source finish :=
      ⟨Flooding.flooded_of_run run, nothingLeft⟩
    exact Nat.le_antisymm (bounded node) ((complete.delivered_pos_iff node).mpr (reached node member))

/-- One delivery, at one node. -/
theorem delivers_at_iff_single_path
    (answering : Answering slot flowId treeId tables references hops) (source destination : UInt32) :
    Delivers slot schedulers flowId treeId tables source
        (fun count => ∀ node, count node = if node = destination then 1 else 0) ↔
      (hopGraph schedulers hops).SinglePath source ∧
        ∀ node, (hopGraph schedulers hops).Reaches source node ∧
          0 < (hopGraph schedulers hops).deliver node ↔ node = destination := by
  have finite := Set.toFinite {node | (hopGraph schedulers hops).Reaches source node}
  rw [delivers_iff_flood answering, ← Flooding.delivers_once_iff finite]
  constructor
  · rintro ⟨terminates, right⟩
    refine ⟨⟨terminates, ?_⟩, ?_⟩
    · intro nodes finish run nothingLeft node
      have count := right nodes finish run nothingLeft node
      split_ifs at count
      · exact Nat.le_of_eq count
      · exact Nat.le_of_lt (Nat.lt_of_le_of_lt (Nat.le_of_eq count) Nat.zero_lt_one)
    · intro node
      rcases terminates.run_to_end with ⟨nodes, finish, run, stuck⟩
      have complete := Flooding.complete_of_stuck run stuck
      have count : (hopGraph schedulers hops).delivered finish node =
          if node = destination then 1 else 0 := right nodes finish run complete.nothingLeft node
      rw [← complete.delivered_pos_iff, count]
      split_ifs with same <;> simp [same]
  · rintro ⟨⟨terminates, atMostOnce⟩, only⟩
    refine ⟨terminates, ?_⟩
    intro nodes finish run nothingLeft node
    have complete : Flooding.Complete (hopGraph schedulers hops) source finish :=
      ⟨Flooding.flooded_of_run run, nothingLeft⟩
    have positive := (complete.delivered_pos_iff node).trans (only node)
    split_ifs with same
    · exact Nat.le_antisymm (atMostOnce nodes finish run nothingLeft node) (positive.mpr same)
    · exact Nat.eq_zero_of_not_pos (same ∘ positive.mp)

end Forwarding

end Nextmini.Routing
