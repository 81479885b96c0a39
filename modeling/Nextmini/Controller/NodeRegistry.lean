import Mathlib.Data.Finset.Basic
import Mathlib.Logic.Function.Basic
import Nextmini.Library.TransitionSystem
import Nextmini.Routing.RoutingTable

/-!
# Node registry

The controller's registry of connected nodes under connects, StartUp messages and closes, in any
order. Each connection has a task that keeps the id it registered last and takes that one entry away
when the connection ends; a connection that registered another id before leaves its entry behind.
The connection that last registered an id is recorded beside the state, and no step reads it.
-/

namespace Nextmini.Controller

open Nextmini.Library Nextmini.Routing

set_option autoImplicit false

abbrev ConnectionId := Nat

/-! ## Connections and their messages -/

/-- Connections are numbered in the order they arrive. -/
structure NodeRegistry where
  opened : Finset ConnectionId
  arrived : Nat
  nodeWs : NodeId → Option ConnectionId
  currentNodeId : ConnectionId → Option NodeId
  registrar : NodeId → Option ConnectionId

namespace NodeRegistry

def empty : NodeRegistry where
  opened := ∅
  arrived := 0
  nodeWs _ := none
  currentNodeId _ := none
  registrar _ := none

def connect (state : NodeRegistry) : NodeRegistry :=
  { state with
    opened := insert state.arrived state.opened
    arrived := state.arrived + 1 }

/-- An id that is in use is refused, and the connection stays as it is. -/
def startUp (state : NodeRegistry) (connection : ConnectionId) (maybeNodeId : Option NodeId) :
    NodeRegistry :=
  match maybeNodeId with
  | none => state
  | some nodeId =>
      if (state.nodeWs nodeId).isSome then state
      else
        { state with
          nodeWs := Function.update state.nodeWs nodeId (some connection)
          currentNodeId := Function.update state.currentNodeId connection (some nodeId)
          registrar := Function.update state.registrar nodeId (some connection) }

/-- The end of a connection's task takes the entry of its current id away. -/
def close (state : NodeRegistry) (connection : ConnectionId) : NodeRegistry :=
  { state with
    opened := state.opened.erase connection
    nodeWs := match state.currentNodeId connection with
      | none => state.nodeWs
      | some nodeId => Function.update state.nodeWs nodeId none }

end NodeRegistry

inductive RegistryLabel where
  | connected
  | startedUp (connection : ConnectionId) (maybeNodeId : Option NodeId)
  | closed (connection : ConnectionId)

inductive RegistryStep : NodeRegistry → RegistryLabel → NodeRegistry → Prop
  | connected (state : NodeRegistry) : RegistryStep state .connected state.connect
  | startedUp (state : NodeRegistry) (connection : ConnectionId) (maybeNodeId : Option NodeId) :
      connection ∈ state.opened →
        RegistryStep state (.startedUp connection maybeNodeId) (state.startUp connection maybeNodeId)
  | closed (state : NodeRegistry) (connection : ConnectionId) :
      connection ∈ state.opened → RegistryStep state (.closed connection) (state.close connection)

def nodeRegistry : TransitionSystem NodeRegistry RegistryLabel where
  initial state := state = .empty
  step := RegistryStep

/-- What the registry is to be: an entry for each id whose last registrar is open, none once all
connections are closed, and a connection that closes takes away no entry of another. -/
structure FollowsConnections (state : NodeRegistry) : Prop where
  live : ∀ nodeId, state.nodeWs nodeId ≠ none ↔
    ∃ connection ∈ state.opened, state.registrar nodeId = some connection
  emptied : state.opened = ∅ → ∀ nodeId, state.nodeWs nodeId = none
  ownEntries : ∀ connection ∈ state.opened, ∀ nodeId, state.nodeWs nodeId ≠ some connection →
    (state.close connection).nodeWs nodeId = state.nodeWs nodeId

/-! ## Invariant -/

/-- An entry leads to its last registrar, stays while that is open, and is the one of its current
id. -/
structure Registered (state : NodeRegistry) : Prop where
  numbered : ∀ connection ∈ state.opened, connection < state.arrived
  entry : ∀ nodeId connection, state.nodeWs nodeId = some connection →
    state.registrar nodeId = some connection ∧ connection < state.arrived
  kept : ∀ nodeId, ∀ connection ∈ state.opened, state.registrar nodeId = some connection →
    state.nodeWs nodeId = some connection
  current : ∀ connection ∈ state.opened, ∀ nodeId, state.currentNodeId connection = some nodeId →
    state.nodeWs nodeId = some connection
  unseen : ∀ connection, state.arrived ≤ connection →
    state.currentNodeId connection = none ∧ ∀ nodeId, state.registrar nodeId ≠ some connection

theorem registered_empty : Registered .empty where
  numbered _ member := absurd member (Finset.notMem_empty _)
  entry _ _ present := by cases present
  kept _ _ member := absurd member (Finset.notMem_empty _)
  current _ member := absurd member (Finset.notMem_empty _)
  unseen _ _ := ⟨rfl, fun _ => Option.some_ne_none _ ∘ Eq.symm⟩

theorem registered_connect {state : NodeRegistry} (registered : Registered state) :
    Registered state.connect where
  numbered connection member := by
    rcases Finset.mem_insert.mp member with rfl | earlier
    · exact Nat.lt_succ_self _
    · exact Nat.lt_succ_of_lt (registered.numbered connection earlier)
  entry nodeId connection present := by
    rcases registered.entry nodeId connection present with ⟨registrar, below⟩
    exact ⟨registrar, Nat.lt_succ_of_lt below⟩
  kept nodeId connection member registrar := by
    rcases Finset.mem_insert.mp member with rfl | earlier
    · exact absurd registrar ((registered.unseen _ (Nat.le_refl _)).2 nodeId)
    · exact registered.kept nodeId connection earlier registrar
  current connection member nodeId current := by
    rcases Finset.mem_insert.mp member with rfl | earlier
    · have none := (registered.unseen _ (Nat.le_refl _)).1
      have some : state.currentNodeId state.arrived = .some nodeId := current
      rw [none] at some
      cases some
    · exact registered.current connection earlier nodeId current
  unseen connection later := registered.unseen connection (Nat.le_of_succ_le later)

theorem start_up_refused {state : NodeRegistry} {connection : ConnectionId}
    {maybeNodeId : Option NodeId}
    (refused : ∀ nodeId ∈ maybeNodeId, (state.nodeWs nodeId).isSome = true) :
    state.startUp connection maybeNodeId = state := by
  cases maybeNodeId with
  | none => rfl
  | some nodeId => exact if_pos (refused nodeId rfl)

theorem start_up_accepted {state : NodeRegistry} (connection : ConnectionId) {nodeId : NodeId}
    (free : state.nodeWs nodeId = none) :
    state.startUp connection (some nodeId) =
      { state with
        nodeWs := Function.update state.nodeWs nodeId (some connection)
        currentNodeId := Function.update state.currentNodeId connection (some nodeId)
        registrar := Function.update state.registrar nodeId (some connection) } := by
  rw [NodeRegistry.startUp, free]
  rfl

theorem start_up_cases (state : NodeRegistry) (connection : ConnectionId)
    (maybeNodeId : Option NodeId) :
    state.startUp connection maybeNodeId = state ∨
      ∃ nodeId, maybeNodeId = some nodeId ∧ state.nodeWs nodeId = none := by
  cases maybeNodeId with
  | none => exact .inl rfl
  | some nodeId =>
    cases present : state.nodeWs nodeId with
    | none => exact .inr ⟨nodeId, rfl, present⟩
    | some holder =>
      left
      apply start_up_refused
      rintro _ ⟨⟩
      rw [present]
      rfl

theorem registered_start_up {state : NodeRegistry} (registered : Registered state)
    {connection : ConnectionId} (member : connection ∈ state.opened) (maybeNodeId : Option NodeId) :
    Registered (state.startUp connection maybeNodeId) := by
  rcases start_up_cases state connection maybeNodeId with same | ⟨nodeId, rfl, free⟩
  · rw [same]
    exact registered
  · rw [start_up_accepted connection free]
    have below := registered.numbered connection member
    refine ⟨registered.numbered, ?_, ?_, ?_, ?_⟩
    · intro other holder present
      simp only [Function.update_apply] at present ⊢
      split_ifs at present ⊢ with own
      · cases present
        exact ⟨rfl, below⟩
      · exact registered.entry other holder present
    · intro other holder opened registrar
      simp only [Function.update_apply] at registrar ⊢
      split_ifs at registrar ⊢ with own
      · exact registrar
      · exact registered.kept other holder opened registrar
    · intro holder opened other current
      simp only [Function.update_apply] at current ⊢
      by_cases sameHolder : holder = connection
      · rw [if_pos sameHolder, Option.some.injEq] at current
        rw [if_pos current.symm, sameHolder]
      · rw [if_neg sameHolder] at current
        have holds := registered.current holder opened other current
        rw [if_neg]
        · exact holds
        · rintro rfl
          rw [free] at holds
          cases holds
    · intro holder later
      rcases registered.unseen holder later with ⟨noCurrent, noRegistrar⟩
      have apart : holder ≠ connection := by
        rintro rfl
        exact absurd below (Nat.not_lt.mpr later)
      simp only [Function.update_apply, if_neg apart]
      refine ⟨noCurrent, ?_⟩
      intro other registrar
      split_ifs at registrar with own
      · exact apart (Option.some.inj registrar).symm
      · exact noRegistrar other registrar

/-- A close takes away the entry of the current id, which is the connection's own. -/
theorem close_entries (state : NodeRegistry) (connection : ConnectionId) (nodeId : NodeId) :
    (state.close connection).nodeWs nodeId =
      if state.currentNodeId connection = some nodeId then none else state.nodeWs nodeId := by
  rw [NodeRegistry.close]
  cases current : state.currentNodeId connection with
  | none => simp
  | some own => simp [Function.update_apply, eq_comm]

theorem registered_close {state : NodeRegistry} (registered : Registered state)
    {connection : ConnectionId} (member : connection ∈ state.opened) :
    Registered (state.close connection) := by
  have entries := close_entries state connection
  refine ⟨?_, ?_, ?_, ?_, registered.unseen⟩
  · intro other still
    exact registered.numbered other (Finset.mem_of_mem_erase still)
  · intro nodeId holder present
    rw [entries] at present
    split_ifs at present
    exact registered.entry nodeId holder present
  · intro nodeId holder still registrar
    have other := Finset.ne_of_mem_erase still
    have present := registered.kept nodeId holder (Finset.mem_of_mem_erase still) registrar
    rw [entries, if_neg]
    · exact present
    · intro current
      have own := registered.current connection member nodeId current
      rw [present] at own
      exact other (Option.some.inj own)
  · intro holder still nodeId current
    have other := Finset.ne_of_mem_erase still
    have present := registered.current holder (Finset.mem_of_mem_erase still) nodeId current
    rw [entries, if_neg]
    · exact present
    · intro alsoCurrent
      have own := registered.current connection member nodeId alsoCurrent
      rw [present] at own
      exact other (Option.some.inj own)

theorem registered_step {state next : NodeRegistry} {label : RegistryLabel}
    (registered : Registered state) (step : RegistryStep state label next) : Registered next := by
  cases step with
  | connected => exact registered_connect registered
  | startedUp connection maybeNodeId member =>
    exact registered_start_up registered member maybeNodeId
  | closed connection member => exact registered_close registered member

theorem registered_of_run {state : NodeRegistry} {labels : List RegistryLabel}
    (run : nodeRegistry.Run .empty labels state) : Registered state :=
  TransitionSystem.run_preserves (motive := Registered)
    (fun _ _ _ registered step => registered_step registered step) run registered_empty

/-! ## Entries left behind -/

/-- The connection has no entry but that of its current id. -/
def OneEntry (state : NodeRegistry) (connection : ConnectionId) : Prop :=
  ∀ nodeId, state.nodeWs nodeId = some connection → state.currentNodeId connection = some nodeId

/-- A step that closes such a connection, or closes none. -/
def ClosesOneEntry (state : NodeRegistry) (label : RegistryLabel) : Prop :=
  ∀ connection, label = .closed connection → OneEntry state connection

/-- No entry leads to a connection that has closed. -/
def NoneStale (state : NodeRegistry) : Prop :=
  ∀ nodeId connection, state.nodeWs nodeId = some connection → connection ∈ state.opened

theorem follows_iff_none_stale {state : NodeRegistry} (registered : Registered state) :
    FollowsConnections state ↔ NoneStale state := by
  constructor
  · intro follows nodeId connection present
    rcases (follows.live nodeId).mp (by rw [present]; exact Option.some_ne_none _) with
      ⟨holder, opened, registrar⟩
    rw [(registered.entry nodeId connection present).1] at registrar
    cases registrar
    exact opened
  · intro current
    refine ⟨?_, ?_, ?_⟩
    · intro nodeId
      constructor
      · intro present
        rcases Option.ne_none_iff_exists'.mp present with ⟨holder, found⟩
        exact ⟨holder, current nodeId holder found, (registered.entry nodeId holder found).1⟩
      · rintro ⟨holder, opened, registrar⟩
        rw [registered.kept nodeId holder opened registrar]
        exact Option.some_ne_none _
    · intro nobody nodeId
      cases present : state.nodeWs nodeId with
      | none => rfl
      | some holder =>
        have opened := current nodeId holder present
        rw [nobody] at opened
        exact absurd opened (Finset.notMem_empty _)
    · intro connection member nodeId foreign
      rw [close_entries, if_neg]
      intro own
      exact foreign (registered.current connection member nodeId own)

/-- An entry that was left behind stays: its id is in use, and no task takes it away. -/
theorem stale_entry_stays {state next : NodeRegistry} {label : RegistryLabel} {nodeId : NodeId}
    {gone : ConnectionId} (registered : Registered state) (step : RegistryStep state label next)
    (present : state.nodeWs nodeId = some gone) (closed : gone ∉ state.opened) :
    next.nodeWs nodeId = some gone ∧ gone ∉ next.opened := by
  cases step with
  | connected =>
    refine ⟨present, ?_⟩
    intro member
    rcases Finset.mem_insert.mp member with rfl | earlier
    · exact Nat.lt_irrefl _ (registered.entry nodeId _ present).2
    · exact closed earlier
  | startedUp connection maybeNodeId member =>
    rcases start_up_cases state connection maybeNodeId with same | ⟨other, rfl, free⟩
    · rw [same]
      exact ⟨present, closed⟩
    · have apart : nodeId ≠ other := by
        rintro rfl
        rw [free] at present
        cases present
      rw [start_up_accepted connection free]
      refine ⟨?_, closed⟩
      simp only [Function.update_apply, if_neg apart]
      exact present
  | closed connection member =>
    rw [close_entries, if_neg]
    · exact ⟨present, closed ∘ Finset.mem_of_mem_erase⟩
    · intro own
      rw [registered.current connection member nodeId own] at present
      cases present
      exact closed member

/-- A step leaves no entry behind exactly when it is not the close of a connection with another
entry than its current one. -/
theorem none_stale_step {state next : NodeRegistry} {label : RegistryLabel}
    (step : RegistryStep state label next) (current : NoneStale state) :
    NoneStale next ↔ ClosesOneEntry state label := by
  cases step with
  | connected =>
    constructor
    · rintro _ connection ⟨⟩
    · intro _ nodeId connection present
      exact Finset.mem_insert_of_mem (current nodeId connection present)
  | startedUp connection maybeNodeId member =>
    constructor
    · rintro _ other ⟨⟩
    · intro _ nodeId holder present
      rcases start_up_cases state connection maybeNodeId with same | ⟨other, rfl, free⟩
      · rw [same] at present ⊢
        exact current nodeId holder present
      · rw [start_up_accepted connection free] at present ⊢
        simp only [Function.update_apply] at present
        split_ifs at present with own
        · cases present
          exact member
        · exact current nodeId holder present
  | closed connection member =>
    constructor
    · rintro later _ ⟨⟩ nodeId present
      by_contra other
      have stays : (state.close connection).nodeWs nodeId = some connection := by
        rw [close_entries, if_neg other]
        exact present
      exact Finset.notMem_erase connection state.opened (later nodeId connection stays)
    · intro own nodeId holder present
      rw [close_entries] at present
      split_ifs at present with taken
      refine Finset.mem_erase.mpr ⟨?_, current nodeId holder present⟩
      rintro rfl
      exact taken (own holder rfl nodeId present)

/-- Over every run, the registry follows the connections exactly when each connection that has closed
had no entry but that of its current id. -/
theorem registry_follows_iff {labels : List RegistryLabel} {finish : NodeRegistry}
    (run : nodeRegistry.Run .empty labels finish) :
    FollowsConnections finish ↔ (nodeRegistry.restrict ClosesOneEntry).Run .empty labels finish := by
  rw [follows_iff_none_stale (registered_of_run run)]
  constructor
  · intro current
    induction run with
    | nil => exact .nil
    | @snoc labels middle finish label before step induction =>
      have registered := registered_of_run before
      have earlier : NoneStale middle := by
        intro nodeId connection present
        by_contra closed
        rcases stale_entry_stays registered step present closed with ⟨stays, gone⟩
        exact gone (current nodeId connection stays)
      exact .snoc (induction earlier) ⟨(none_stale_step step earlier).mp current, step⟩
  · intro restricted
    apply TransitionSystem.run_preserves (motive := NoneStale) _ restricted
    · intro nodeId connection present
      cases present
    · rintro state label next current ⟨guarded, step⟩
      exact (none_stale_step step current).mpr guarded

/-! ## Two ids on one connection -/

/-- One connection with one id. -/
theorem one_id_follows :
    FollowsConnections ((NodeRegistry.empty.connect.startUp 0 (some 1)).close 0) := by
  have arrives : RegistryStep .empty .connected NodeRegistry.empty.connect := .connected _
  have started : RegistryStep NodeRegistry.empty.connect (.startedUp 0 (some 1))
      (NodeRegistry.empty.connect.startUp 0 (some 1)) := .startedUp _ 0 (some 1) (by decide)
  have closed : RegistryStep (NodeRegistry.empty.connect.startUp 0 (some 1)) (.closed 0)
      ((NodeRegistry.empty.connect.startUp 0 (some 1)).close 0) := .closed _ 0 (by decide)
  have own : OneEntry (NodeRegistry.empty.connect.startUp 0 (some 1)) 0 := by
    intro nodeId present
    rw [start_up_accepted 0 rfl] at present ⊢
    simp only [Function.update_apply] at present
    split_ifs at present with same
    · rw [same]
      rfl
    · cases present
  apply (registry_follows_iff (.cons arrives (.cons started (.single closed)))).mpr
  refine .cons ⟨?_, arrives⟩ (.cons ⟨?_, started⟩ (.single ⟨?_, closed⟩))
  · rintro _ ⟨⟩
  · rintro _ ⟨⟩
  · rintro _ ⟨⟩
    exact own

/-- A connection that registers two ids and closes leaves the first in the registry, although no
connection is open. -/
theorem first_id_left_behind :
    nodeRegistry.Run .empty [.connected, .startedUp 0 (some 1), .startedUp 0 (some 2), .closed 0]
      (((NodeRegistry.empty.connect.startUp 0 (some 1)).startUp 0 (some 2)).close 0) ∧
    ¬FollowsConnections
      (((NodeRegistry.empty.connect.startUp 0 (some 1)).startUp 0 (some 2)).close 0) := by
  refine ⟨?_, ?_⟩
  · exact .cons (.connected _) (.cons (.startedUp _ 0 (some 1) (by decide))
      (.cons (.startedUp _ 0 (some 2) (by decide)) (.single (.closed _ 0 (by decide)))))
  · intro follows
    have empty := follows.emptied (by decide) 1
    exact absurd empty (by decide)

end Nextmini.Controller
