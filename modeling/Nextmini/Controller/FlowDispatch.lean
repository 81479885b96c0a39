import Mathlib.Data.Finset.Card
import Mathlib.Data.List.Nodup
import Nextmini.Library.NarrowCasts
import Nextmini.Library.TransitionSystem

/-!
# Flow dispatch

The two tasks of the controller that send flows to nodes: the coordinator sends the unfinished flows
of the table once, when every expected node has connected, and the database-sync task sends each flow
whose insertion it is notified of to those of its two nodes that are connected. Flows of the
configuration are in the table before anybody listens for notifications. A node id in a row is an
`i32` and is known here by the word with its bits. Pinned routes and what else a flow specifies do not
decide where it is sent, and are left out.
-/

namespace Nextmini.Controller

open Nextmini.Library

set_option autoImplicit false

inductive FlowTransport where
  | tcp
  | losslessUnicast
  deriving DecidableEq

/-- The table admits no other type of flow length. -/
inductive FlowLenType where
  | bytes
  | duration
  deriving DecidableEq

structure FlowRow where
  id : Nat
  srcNodeId : UInt32
  dstNodeId : UInt32
  flowLenType : FlowLenType
  flowRate : Option Int
  isFinished : Bool
  deriving DecidableEq

/-- `FlowSpec::validate`: a flow of a given duration over a lossless session needs a rate. -/
def FlowRow.validate (transport : FlowTransport) (row : FlowRow) : Bool :=
  !(row.flowLenType = .duration ∧ row.flowRate = none ∧ transport = .losslessUnicast)

/-- The flows in the message built for a node, by their ids; a flow that is not valid is skipped. -/
def buildFlowsForNode (transport : FlowTransport) (rows : List FlowRow) : List Nat :=
  (rows.filter (FlowRow.validate transport)).map FlowRow.id

/-- The coordinator has not all nodes yet, or has them, or has read the flows, or has sent them. -/
inductive BulkStage where
  | waiting
  | due
  | selected (rows : List FlowRow)
  | sent (rows : List FlowRow)

inductive SyncStage where
  | idle
  | source (row : FlowRow)
  | destination (row : FlowRow)

/-- What the two tasks have sent, as pairs of a node and a flow id, is kept apart. -/
structure FlowDispatch where
  flows : List FlowRow
  nodeWs : Finset UInt32
  connectedNodes : Finset UInt32
  bulk : BulkStage
  notifications : List Nat
  sync : SyncStage
  bulkSent : List (UInt32 × Nat)
  syncSent : List (UInt32 × Nat)

structure DispatchConfig where
  expected : Finset UInt32
  transport : FlowTransport

def findNode (nodeWs : Finset UInt32) (nodeId : Nat) : Option UInt32 :=
  if nodeId < 2 ^ 32 ∧ UInt32.ofNat nodeId ∈ nodeWs then some (UInt32.ofNat nodeId) else none

inductive DispatchLabel where
  | inserted (row : FlowRow)
  | connected (node : UInt32)
  | joined (node : UInt32)
  | bulkSelected
  | bulkSent (order : List UInt32)
  | notified
  | sourceSent
  | destinationSent

namespace FlowDispatch

variable (config : DispatchConfig)

/-- The messages of the bulk send, in the order in which the connected nodes are gone through. -/
def bulkMessages (rows : List FlowRow) (order : List UInt32) : List (UInt32 × Nat) :=
  order.flatMap fun node =>
    let flows := rows.filter fun row =>
      asI32 row.srcNodeId.toNat = asI32 node.toNat ∨ asI32 row.dstNodeId.toNat = asI32 node.toNat
    (buildFlowsForNode config.transport flows).map fun id => (node, id)

/-- `send_to_node`: nothing is sent to a node that is not connected. -/
def syncMessages (nodeWs : Finset UInt32) (row : FlowRow) (nodeId : UInt32) :
    List (UInt32 × Nat) :=
  match findNode nodeWs (asUsize (asI32 nodeId.toNat)) with
  | none => []
  | some node => (buildFlowsForNode config.transport [row]).map fun id => (node, id)

/-- A node that joins may complete the expected nodes, once. -/
def join (state : FlowDispatch) (node : UInt32) : FlowDispatch :=
  let connectedNodes := insert node state.connectedNodes
  { state with
    connectedNodes := connectedNodes
    bulk :=
      match state.bulk with
      | .waiting => if connectedNodes.card = config.expected.card then .due else .waiting
      | stage => stage }

end FlowDispatch

/-- A node is in the registry before the coordinator hears of it. -/
inductive DispatchStep (config : DispatchConfig) :
    FlowDispatch → DispatchLabel → FlowDispatch → Prop
  | inserted (state : FlowDispatch) (row : FlowRow) :
      row.id ∉ state.flows.map FlowRow.id →
        DispatchStep config state (.inserted row)
          { state with
            flows := state.flows ++ [row]
            notifications := state.notifications ++ [row.id] }
  | connected (state : FlowDispatch) (node : UInt32) :
      node ∈ config.expected → node ∉ state.nodeWs →
        DispatchStep config state (.connected node) { state with nodeWs := insert node state.nodeWs }
  | joined (state : FlowDispatch) (node : UInt32) :
      node ∈ state.nodeWs → node ∉ state.connectedNodes →
        DispatchStep config state (.joined node) (state.join config node)
  | bulkSelected (state : FlowDispatch) :
      state.bulk = .due →
        DispatchStep config state .bulkSelected
          { state with bulk := .selected (state.flows.filter fun row => !row.isFinished) }
  | bulkSent (state : FlowDispatch) (rows : List FlowRow) (order : List UInt32) :
      state.bulk = .selected rows → order.Nodup → (∀ node, node ∈ order ↔ node ∈ state.nodeWs) →
        DispatchStep config state (.bulkSent order)
          { state with
            bulk := .sent rows
            bulkSent := state.bulkSent ++ FlowDispatch.bulkMessages config rows order }
  | notified (state : FlowDispatch) (row : FlowRow) (rest : List Nat) :
      state.sync = .idle → state.notifications = row.id :: rest → row ∈ state.flows →
        DispatchStep config state .notified { state with notifications := rest, sync := .source row }
  | sourceSent (state : FlowDispatch) (row : FlowRow) :
      state.sync = .source row →
        DispatchStep config state .sourceSent
          { state with
            sync := .destination row
            syncSent :=
              state.syncSent ++ FlowDispatch.syncMessages config state.nodeWs row row.srcNodeId }
  | destinationSent (state : FlowDispatch) (row : FlowRow) :
      state.sync = .destination row →
        DispatchStep config state .destinationSent
          { state with
            sync := .idle
            syncSent :=
              state.syncSent ++ FlowDispatch.syncMessages config state.nodeWs row row.dstNodeId }

def flowDispatch (config : DispatchConfig) : TransitionSystem FlowDispatch DispatchLabel where
  initial state :=
    (state.flows.map FlowRow.id).Nodup ∧ state.nodeWs = ∅ ∧ state.connectedNodes = ∅ ∧
      state.bulk = .waiting ∧ state.notifications = [] ∧ state.sync = .idle ∧
      state.bulkSent = [] ∧ state.syncSent = []
  step := DispatchStep config

/-- The bulk send has been made, and every notification has been dealt with. -/
def FlowDispatch.Settled (state : FlowDispatch) : Prop :=
  (∃ rows, state.bulk = .sent rows) ∧ state.notifications = [] ∧ state.sync = .idle

def FlowRow.Concerned (row : FlowRow) : Prop :=
  row.isFinished = false ∧ row.srcNodeId ≠ row.dstNodeId

def FlowRow.Ends (row : FlowRow) (node : UInt32) : Prop :=
  node = row.srcNodeId ∨ node = row.dstNodeId

/-- Every unfinished flow between two nodes has been sent once to each of them. -/
def DispatchedOnce (config : DispatchConfig) (state : FlowDispatch) : Prop :=
  ∀ row ∈ state.flows, row.Concerned → ∀ node ∈ config.expected, row.Ends node →
    (state.bulkSent ++ state.syncSent).count (node, row.id) = 1

/-- The coordinator has selected the flow or has not selected yet. -/
def FlowDispatch.InBulk (state : FlowDispatch) (row : FlowRow) : Prop :=
  match state.bulk with
  | .waiting | .due => True
  | .selected rows | .sent rows => row ∈ rows

/-- A flow that can be built, and that a notification reaches where the coordinator is past it. -/
def FlowDispatch.Deliverable (config : DispatchConfig) (state : FlowDispatch) (row : FlowRow) : Prop :=
  row.Concerned → ∀ node ∈ config.expected, row.Ends node →
    row.validate config.transport = true ∧ (¬state.InBulk row → node.toNat < 2 ^ 31)

/-- The database-sync task does not find a node of a flow that the coordinator sends. -/
def FlowDispatch.Guarded (config : DispatchConfig) (state : FlowDispatch) : DispatchLabel → Prop
  | .inserted row => state.Deliverable config row
  | .sourceSent => ∀ row, state.sync = .source row → row.Concerned → state.InBulk row →
      findNode state.nodeWs (asUsize (asI32 row.srcNodeId.toNat)) = none
  | .destinationSent => ∀ row, state.sync = .destination row → row.Concerned → state.InBulk row →
      findNode state.nodeWs (asUsize (asI32 row.dstNodeId.toNat)) = none
  | _ => True

/-! ## Messages -/

variable {config : DispatchConfig} {state next : FlowDispatch}

/-- An id with its highest bit set is looked up as another number. -/
theorem find_node_of_row (nodeWs : Finset UInt32) (node : UInt32) :
    findNode nodeWs (asUsize (asI32 node.toNat)) =
      if node.toNat < 2 ^ 31 ∧ node ∈ nodeWs then some node else none := by
  by_cases narrow : node.toNat < 2 ^ 31
  · rw [as_usize_as_i32 narrow, findNode, UInt32.ofNat_toNat]
    exact if_congr (and_congr (iff_of_true node.toNat_lt narrow) Iff.rfl) rfl rfl
  · have wide : 2 ^ 31 ≤ node.toNat := Nat.le_of_not_lt narrow
    have beyond : ¬node.toNat + (2 ^ 64 - 2 ^ 32) < 2 ^ 32 := by omega
    rw [as_usize_as_i32_large wide node.toNat_lt, findNode, if_neg (fun both => beyond both.1),
      if_neg (fun both => narrow both.1)]

theorem sync_messages_eq (nodeWs : Finset UInt32) (row : FlowRow) (node : UInt32) :
    FlowDispatch.syncMessages config nodeWs row node =
      if row.validate config.transport = true ∧ node.toNat < 2 ^ 31 ∧ node ∈ nodeWs then
        [(node, row.id)]
      else [] := by
  unfold FlowDispatch.syncMessages
  rw [find_node_of_row]
  by_cases found : node.toNat < 2 ^ 31 ∧ node ∈ nodeWs
  · rw [if_pos found]
    by_cases valid : row.validate config.transport = true
    · rw [if_pos ⟨valid, found⟩]
      simp [valid, buildFlowsForNode]
    · rw [if_neg fun both => valid both.1]
      simp [valid, buildFlowsForNode]
  · rw [if_neg found, if_neg fun both => found both.2]

theorem same_row_node {first second : UInt32} :
    asI32 first.toNat = asI32 second.toNat ↔ second = first := by
  constructor
  · intro same
    exact (UInt32.toNat_inj.mp (as_i32_injective first.toNat_lt second.toNat_lt same)).symm
  · rintro rfl
    rfl

theorem mem_bulk_messages {rows : List FlowRow} {order : List UInt32} {node : UInt32} {id : Nat} :
    (node, id) ∈ FlowDispatch.bulkMessages config rows order ↔
      node ∈ order ∧ ∃ row ∈ rows, row.id = id ∧ row.validate config.transport = true ∧
        row.Ends node := by
  simp only [FlowDispatch.bulkMessages, buildFlowsForNode, List.mem_flatMap, List.mem_map,
    List.mem_filter, same_row_node, FlowRow.Ends, decide_eq_true_eq, Prod.mk.injEq]
  constructor
  · rintro ⟨other, listed, _, ⟨row, ⟨⟨member, ends⟩, valid⟩, rfl⟩, rfl, rfl⟩
    exact ⟨listed, row, member, rfl, valid, ends⟩
  · rintro ⟨listed, row, member, rfl, valid, ends⟩
    exact ⟨node, listed, row.id, ⟨row, ⟨⟨member, ends⟩, valid⟩, rfl⟩, rfl, rfl⟩

theorem bulk_messages_nodup {rows : List FlowRow} {order : List UInt32} (distinct : order.Nodup)
    (ids : (rows.map FlowRow.id).Nodup) :
    (FlowDispatch.bulkMessages config rows order).Nodup := by
  unfold FlowDispatch.bulkMessages buildFlowsForNode
  rw [List.nodup_flatMap]
  constructor
  · intro node _
    apply List.Nodup.map
    · intro first second same
      exact (Prod.mk.inj same).2
    · exact ids.sublist ((List.filter_sublist.trans List.filter_sublist).map FlowRow.id)
  · apply distinct.imp
    intro first second different pair here there
    rcases List.mem_map.mp here with ⟨_, _, rfl⟩
    rcases List.mem_map.mp there with ⟨_, _, same⟩
    exact different (Prod.mk.inj same).1.symm

/-! ## What holds throughout -/

/-- The database-sync task still has to look up a node of the flow. -/
def FlowDispatch.Owes (state : FlowDispatch) (row : FlowRow) (node : UInt32) : Prop :=
  row.id ∈ state.notifications ∨ state.sync = .source row ∨
    (state.sync = .destination row ∧ node = row.dstNodeId)

def BulkStage.Holds (stage : BulkStage) (rows : List FlowRow) : Prop :=
  stage = .selected rows ∨ stage = .sent rows

/-- How often the bulk send has sent a flow to one of its nodes. -/
def BulkStage.times (stage : BulkStage) (transport : FlowTransport) (row : FlowRow) : Nat :=
  match stage with
  | .sent rows => if row ∈ rows ∧ row.validate transport = true then 1 else 0
  | _ => 0

structure Dispatching (config : DispatchConfig) (state : FlowDispatch) : Prop where
  distinct : (state.flows.map FlowRow.id).Nodup
  nodes : state.nodeWs ⊆ config.expected
  joined : state.connectedNodes ⊆ state.nodeWs
  complete : state.bulk ≠ .waiting → state.nodeWs = config.expected
  chosen : ∀ rows, state.bulk.Holds rows →
    (∀ row ∈ rows, row ∈ state.flows) ∧ (rows.map FlowRow.id).Nodup
  notified : state.notifications.Nodup
  listed : ∀ id ∈ state.notifications, id ∈ state.flows.map FlowRow.id
  syncing : ∀ row, state.sync = .source row ∨ state.sync = .destination row →
    row ∈ state.flows ∧ row.id ∉ state.notifications
  bulkSent : ∀ row ∈ state.flows, ∀ node ∈ config.expected, row.Ends node →
    state.bulkSent.count (node, row.id) = state.bulk.times config.transport row
  known : ∀ node id, (node, id) ∈ state.bulkSent ++ state.syncSent →
    id ∈ state.flows.map FlowRow.id
  found : ∀ row ∈ state.flows, ∀ node, (node, row.id) ∈ state.syncSent →
    row.validate config.transport = true ∧ node.toNat < 2 ^ 31
  late : ∀ row ∈ state.flows, ¬state.InBulk row → row.Concerned →
    row.validate config.transport = true → ∀ node ∈ config.expected, row.Ends node →
      node.toNat < 2 ^ 31 →
        (state.Owes row node → (node, row.id) ∉ state.syncSent) ∧
        (¬state.Owes row node → state.syncSent.count (node, row.id) = 1)

theorem dispatching_initial (initial : (flowDispatch config).initial state) :
    Dispatching config state := by
  rcases initial with ⟨distinct, nodeWs, connected, bulk, notifications, sync, bulkSent, syncSent⟩
  have inBulk : ∀ row, state.InBulk row := by
    intro row
    simp only [FlowDispatch.InBulk, bulk]
  constructor
  · exact distinct
  · rw [nodeWs]
    exact Finset.empty_subset _
  · rw [connected]
    exact Finset.empty_subset _
  · intro started
    exact absurd bulk started
  · intro rows holds
    rcases holds with holds | holds
    · rw [bulk] at holds
      cases holds
    · rw [bulk] at holds
      cases holds
  · rw [notifications]
    exact List.nodup_nil
  · rw [notifications]
    intro id member
    cases member
  · rintro row (syncing | syncing)
    · rw [sync] at syncing
      cases syncing
    · rw [sync] at syncing
      cases syncing
  · intro row _ node _ _
    rw [bulkSent, bulk]
    rfl
  · intro node id member
    rw [bulkSent, syncSent] at member
    cases member
  · intro row _ node member
    rw [syncSent] at member
    cases member
  · intro row _ outside
    exact absurd (inBulk row) outside

theorem row_of_id (dispatching : Dispatching config state) {first second : FlowRow}
    (one : first ∈ state.flows) (other : second ∈ state.flows) (same : first.id = second.id) :
    first = second :=
  List.inj_on_of_nodup_map dispatching.distinct one other same

theorem dispatching_inserted (before : Dispatching config state) {row : FlowRow}
    (fresh : row.id ∉ state.flows.map FlowRow.id) :
    Dispatching config
      { state with
        flows := state.flows ++ [row]
        notifications := state.notifications ++ [row.id] } := by
  have unknown : ∀ node, (node, row.id) ∉ state.bulkSent ++ state.syncSent :=
    fun node member => fresh (before.known node row.id member)
  have unlisted : row.id ∉ state.notifications := fun member => fresh (before.listed _ member)
  have ids : (state.flows ++ [row]).map FlowRow.id = state.flows.map FlowRow.id ++ [row.id] := by
    rw [List.map_append, List.map_singleton]
  constructor
  · rw [ids, ← List.concat_eq_append, List.nodup_concat]
    exact ⟨fresh, before.distinct⟩
  · exact before.nodes
  · exact before.joined
  · exact before.complete
  · intro rows holds
    rcases before.chosen rows holds with ⟨members, distinct⟩
    exact ⟨fun other member => List.mem_append_left _ (members other member), distinct⟩
  · have extended : (state.notifications ++ [row.id]).Nodup := by
      rw [← List.concat_eq_append, List.nodup_concat]
      exact ⟨unlisted, before.notified⟩
    exact extended
  · intro id member
    rw [ids]
    rcases List.mem_append.mp member with member | member
    · exact List.mem_append_left _ (before.listed id member)
    · exact List.mem_append_right _ member
  · intro other syncing
    rcases before.syncing other syncing with ⟨member, absent⟩
    refine ⟨List.mem_append_left _ member, ?_⟩
    intro listed
    rcases List.mem_append.mp listed with listed | listed
    · exact absent listed
    · rw [List.mem_singleton] at listed
      exact fresh (listed ▸ List.mem_map_of_mem member)
  · intro other member node expected ends
    rcases List.mem_append.mp member with member | member
    · exact before.bulkSent other member node expected ends
    · rw [List.mem_singleton.mp member]
      have none : state.bulkSent.count (node, row.id) = 0 :=
        List.count_eq_zero.mpr fun sent => unknown node (List.mem_append_left _ sent)
      rw [none]
      unfold BulkStage.times
      split
      · rename_i rows stage
        have outside : row ∉ rows := by
          intro inside
          exact fresh (List.mem_map_of_mem ((before.chosen rows (.inr stage)).1 row inside))
        simp [outside]
      · rfl
  · intro node id member
    rw [ids]
    exact List.mem_append_left _ (before.known node id member)
  · intro other member node sent
    rcases List.mem_append.mp member with member | member
    · exact before.found other member node sent
    · rw [List.mem_singleton.mp member] at sent
      exact absurd (List.mem_append_right _ sent) (unknown node)
  · intro other member outside concerned valid node expected ends narrow
    rcases List.mem_append.mp member with member | member
    · have owes : FlowDispatch.Owes { state with
            flows := state.flows ++ [row]
            notifications := state.notifications ++ [row.id] } other node ↔
          state.Owes other node := by
        have different : other.id ≠ row.id := fun same => fresh (same ▸ List.mem_map_of_mem member)
        simp [FlowDispatch.Owes, different]
      rw [owes]
      exact before.late other member outside concerned valid node expected ends narrow
    · rw [List.mem_singleton.mp member]
      constructor
      · intro _ sent
        exact unknown node (List.mem_append_right _ sent)
      · intro settled
        exact absurd (.inl (List.mem_append_right _ (List.mem_singleton_self _))) settled

theorem dispatching_connected (before : Dispatching config state) {node : UInt32}
    (expected : node ∈ config.expected) (absent : node ∉ state.nodeWs) :
    Dispatching config { state with nodeWs := insert node state.nodeWs } := by
  constructor
  · exact before.distinct
  · exact Finset.insert_subset expected before.nodes
  · exact before.joined.trans (Finset.subset_insert _ _)
  · intro started
    rw [before.complete started] at absent
    exact absurd expected absent
  · exact before.chosen
  · exact before.notified
  · exact before.listed
  · exact before.syncing
  · exact before.bulkSent
  · exact before.known
  · exact before.found
  · exact before.late

theorem in_bulk_join (node : UInt32) (row : FlowRow) :
    (state.join config node).InBulk row ↔ state.InBulk row := by
  unfold FlowDispatch.join FlowDispatch.InBulk
  cases state.bulk with
  | waiting =>
    simp only
    split_ifs <;> exact Iff.rfl
  | due | selected rows | sent rows => exact Iff.rfl

theorem dispatching_joined (before : Dispatching config state) {node : UInt32}
    (connected : node ∈ state.nodeWs) : Dispatching config (state.join config node) := by
  have joined : insert node state.connectedNodes ⊆ state.nodeWs :=
    Finset.insert_subset connected before.joined
  have later : ∀ rows, (state.join config node).bulk.Holds rows → state.bulk.Holds rows := by
    intro rows holds
    unfold FlowDispatch.join at holds
    cases stage : state.bulk with
    | waiting =>
      simp only [stage] at holds
      split_ifs at holds
      · rcases holds with holds | holds
        · cases holds
        · cases holds
      · rcases holds with holds | holds
        · cases holds
        · cases holds
    | due | selected other | sent other =>
      simp only [stage] at holds
      exact holds
  have times : ∀ row, (state.join config node).bulk.times config.transport row =
      state.bulk.times config.transport row := by
    intro row
    unfold FlowDispatch.join
    cases state.bulk with
    | waiting =>
      simp only
      split_ifs <;> rfl
    | due | selected other | sent other => rfl
  constructor
  · exact before.distinct
  · exact before.nodes
  · exact joined
  · intro started
    by_cases waiting : state.bulk = .waiting
    · simp only [FlowDispatch.join, waiting] at started ⊢
      split_ifs at started with full
      · have all : insert node state.connectedNodes = config.expected :=
          Finset.eq_of_subset_of_card_le (joined.trans before.nodes) full.ge
        exact Finset.Subset.antisymm before.nodes (all ▸ joined)
      · exact absurd rfl started
    · exact before.complete waiting
  · intro rows holds
    exact before.chosen rows (later rows holds)
  · exact before.notified
  · exact before.listed
  · exact before.syncing
  · intro row member other expected ends
    rw [times]
    exact before.bulkSent row member other expected ends
  · exact before.known
  · exact before.found
  · intro row member outside
    rw [in_bulk_join] at outside
    exact before.late row member outside

theorem dispatching_selected (before : Dispatching config state) (due : state.bulk = .due) :
    Dispatching config
      { state with bulk := .selected (state.flows.filter fun row => !row.isFinished) } := by
  constructor
  · exact before.distinct
  · exact before.nodes
  · exact before.joined
  · intro _
    apply before.complete
    rw [due]
    exact BulkStage.noConfusion
  · rintro rows (holds | holds)
    · cases holds
      exact ⟨fun row member => List.mem_of_mem_filter member,
        before.distinct.sublist (List.filter_sublist.map FlowRow.id)⟩
    · cases holds
  · exact before.notified
  · exact before.listed
  · exact before.syncing
  · intro row member node expected ends
    rw [before.bulkSent row member node expected ends, due]
    rfl
  · exact before.known
  · exact before.found
  · intro row member outside concerned
    have inside : row ∈ state.flows.filter fun row => !row.isFinished :=
      List.mem_filter.mpr ⟨member, by rw [concerned.1]; rfl⟩
    exact absurd inside outside

theorem dispatching_sent (before : Dispatching config state) {rows : List FlowRow}
    {order : List UInt32} (selected : state.bulk = .selected rows) (distinct : order.Nodup)
    (covers : ∀ node, node ∈ order ↔ node ∈ state.nodeWs) :
    Dispatching config
      { state with
        bulk := .sent rows
        bulkSent := state.bulkSent ++ FlowDispatch.bulkMessages config rows order } := by
  rcases before.chosen rows (.inl selected) with ⟨members, ids⟩
  have everywhere : state.nodeWs = config.expected := by
    apply before.complete
    rw [selected]
    exact BulkStage.noConfusion
  constructor
  · exact before.distinct
  · exact before.nodes
  · exact before.joined
  · intro _
    exact everywhere
  · rintro others (holds | holds)
    · cases holds
    · cases holds
      exact ⟨members, ids⟩
  · exact before.notified
  · exact before.listed
  · exact before.syncing
  · intro row member node expected ends
    have earlier : state.bulkSent.count (node, row.id) = 0 := by
      rw [before.bulkSent row member node expected ends, selected]
      rfl
    have messages : (node, row.id) ∈ FlowDispatch.bulkMessages config rows order ↔
        row ∈ rows ∧ row.validate config.transport = true := by
      rw [mem_bulk_messages, covers, everywhere]
      constructor
      · rintro ⟨_, other, inside, same, valid, _⟩
        have itself := row_of_id before (members other inside) member same
        rw [← itself]
        exact ⟨inside, valid⟩
      · rintro ⟨inside, valid⟩
        exact ⟨expected, row, inside, rfl, valid, ends⟩
    rw [List.count_append, earlier, Nat.zero_add, (bulk_messages_nodup distinct ids).count]
    simp only [messages, BulkStage.times]
  · intro node id member
    rw [List.append_assoc, List.mem_append] at member
    rcases member with member | member
    · exact before.known node id (List.mem_append_left _ member)
    · rcases List.mem_append.mp member with member | member
      · rcases mem_bulk_messages.mp member with ⟨_, row, inside, rfl, _⟩
        exact List.mem_map_of_mem (members row inside)
      · exact before.known node id (List.mem_append_right _ member)
  · exact before.found
  · intro row member outside
    apply before.late row member
    simp only [FlowDispatch.InBulk, selected]
    exact outside

theorem dispatching_notified (before : Dispatching config state) {row : FlowRow} {rest : List Nat}
    (idle : state.sync = .idle) (first : state.notifications = row.id :: rest)
    (member : row ∈ state.flows) :
    Dispatching config { state with notifications := rest, sync := .source row } := by
  have distinct := before.notified
  rw [first, List.nodup_cons] at distinct
  constructor
  · exact before.distinct
  · exact before.nodes
  · exact before.joined
  · exact before.complete
  · exact before.chosen
  · exact distinct.2
  · intro id listed
    exact before.listed id (first ▸ List.mem_cons_of_mem _ listed)
  · rintro other (syncing | syncing)
    · cases syncing
      exact ⟨member, distinct.1⟩
    · cases syncing
  · exact before.bulkSent
  · exact before.known
  · exact before.found
  · intro other inside outside concerned valid node expected ends narrow
    have owes : FlowDispatch.Owes { state with notifications := rest, sync := .source row } other
        node ↔ state.Owes other node := by
      simp only [FlowDispatch.Owes, first, idle, List.mem_cons, reduceCtorEq, false_and, or_false]
      constructor
      · rintro (listed | same)
        · exact .inr listed
        · cases same
          exact .inl rfl
      · rintro (same | listed)
        · rw [row_of_id before inside member same]
          exact .inr rfl
        · exact .inl listed
    rw [owes]
    exact before.late other inside outside concerned valid node expected ends narrow

theorem dispatching_looked_up (before : Dispatching config state) {row : FlowRow} {node : UInt32}
    {stage : SyncStage} (member : row ∈ state.flows) (unlisted : row.id ∉ state.notifications)
    (syncing : ∀ other, stage = .source other ∨ stage = .destination other → other = row)
    (others : ∀ other, other ≠ row → ∀ place, FlowDispatch.Owes
      { state with
        sync := stage
        syncSent := state.syncSent ++ FlowDispatch.syncMessages config state.nodeWs row node } other
          place ↔ state.Owes other place)
    (this : ∀ place, row.Concerned → row.Ends place → (FlowDispatch.Owes
      { state with
        sync := stage
        syncSent := state.syncSent ++ FlowDispatch.syncMessages config state.nodeWs row node } row
          place ↔ state.Owes row place ∧ place ≠ node))
    (due : row.Concerned → state.Owes row node) :
    Dispatching config
      { state with
        sync := stage
        syncSent := state.syncSent ++ FlowDispatch.syncMessages config state.nodeWs row node } := by
  have messages : ∀ place id,
      (place, id) ∈ FlowDispatch.syncMessages config state.nodeWs row node →
        id = row.id ∧ place = node ∧ row.validate config.transport = true ∧ node.toNat < 2 ^ 31 := by
    intro place id sent
    rw [sync_messages_eq] at sent
    split_ifs at sent with found
    · cases List.mem_singleton.mp sent
      exact ⟨rfl, rfl, found.1, found.2.1⟩
    · cases sent
  constructor
  · exact before.distinct
  · exact before.nodes
  · exact before.joined
  · exact before.complete
  · exact before.chosen
  · exact before.notified
  · exact before.listed
  · intro other stage
    rw [syncing other stage]
    exact ⟨member, unlisted⟩
  · exact before.bulkSent
  · intro place id sent
    rw [← List.append_assoc, List.mem_append] at sent
    rcases sent with sent | sent
    · exact before.known place id sent
    · rw [(messages place id sent).1]
      exact List.mem_map_of_mem member
  · intro other inside place sent
    rcases List.mem_append.mp sent with sent | sent
    · exact before.found other inside place sent
    · rcases messages place other.id sent with ⟨same, rfl, valid, narrow⟩
      rw [row_of_id before inside member same]
      exact ⟨valid, narrow⟩
  · intro other inside outside concerned valid place expected ends narrow
    rcases before.late other inside outside concerned valid place expected ends narrow with
      ⟨waiting, done⟩
    by_cases itself : other = row
    · rw [itself] at concerned valid ends waiting done ⊢
      rw [this place concerned ends]
      by_cases here : place = node
      · have everywhere : state.nodeWs = config.expected := by
          apply before.complete
          intro unstarted
          simp only [FlowDispatch.InBulk, unstarted] at outside
          exact outside trivial
        have sent : FlowDispatch.syncMessages config state.nodeWs row node = [(node, row.id)] := by
          rw [sync_messages_eq, if_pos ⟨valid, here ▸ narrow, everywhere ▸ here ▸ expected⟩]
        constructor
        · intro both
          exact absurd here both.2
        · intro _
          have unsent : (node, row.id) ∉ state.syncSent := by
            rw [here] at waiting
            exact waiting (due concerned)
          rw [here, sent, List.count_append, List.count_eq_zero.mpr unsent, List.count_singleton_self]
      · have none : (FlowDispatch.syncMessages config state.nodeWs row node).count (place, row.id) =
            0 := List.count_eq_zero.mpr fun sent => here (messages place row.id sent).2.1
        constructor
        · rintro ⟨owes, _⟩ sent
          rcases List.mem_append.mp sent with sent | sent
          · exact waiting owes sent
          · exact here (messages place row.id sent).2.1
        · intro settled
          have clear : ¬state.Owes row place := fun owes => settled ⟨owes, here⟩
          rw [List.count_append, none, Nat.add_zero]
          exact done clear
    · have foreign : ∀ place, (place, other.id) ∉
          FlowDispatch.syncMessages config state.nodeWs row node := by
        intro place sent
        exact itself (row_of_id before inside member (messages place other.id sent).1)
      rw [others other itself place]
      constructor
      · intro owes sent
        rcases List.mem_append.mp sent with sent | sent
        · exact waiting owes sent
        · exact foreign place sent
      · intro settled
        rw [List.count_append, List.count_eq_zero.mpr (foreign place), Nat.add_zero]
        exact done settled

theorem dispatching_step {label : DispatchLabel} (before : Dispatching config state)
    (step : DispatchStep config state label next) : Dispatching config next := by
  cases step with
  | inserted row fresh => exact dispatching_inserted before fresh
  | connected node expected absent => exact dispatching_connected before expected absent
  | joined node connected unknown => exact dispatching_joined before connected
  | bulkSelected due => exact dispatching_selected before due
  | bulkSent rows order selected distinct covers =>
    exact dispatching_sent before selected distinct covers
  | notified row rest idle first member => exact dispatching_notified before idle first member
  | sourceSent row source =>
    rcases before.syncing row (.inl source) with ⟨member, unlisted⟩
    apply dispatching_looked_up before member unlisted
    · rintro other (same | same)
      · cases same
      · cases same
        rfl
    · intro other different place
      have apart : row ≠ other := Ne.symm different
      simp [FlowDispatch.Owes, source, apart]
    · intro place concerned ends
      have apart : place = row.dstNodeId ↔ place ≠ row.srcNodeId := by
        rcases ends with rfl | rfl
        · exact ⟨fun same => absurd same concerned.2, fun other => absurd rfl other⟩
        · exact ⟨fun _ => concerned.2.symm, fun _ => rfl⟩
      simp [FlowDispatch.Owes, unlisted, source, apart]
    · intro _
      exact .inr (.inl source)
  | destinationSent row destination =>
    rcases before.syncing row (.inr destination) with ⟨member, unlisted⟩
    apply dispatching_looked_up before member unlisted
    · rintro other (same | same)
      · cases same
      · cases same
    · intro other different place
      have apart : row ≠ other := Ne.symm different
      simp [FlowDispatch.Owes, destination, apart]
    · intro place _ _
      simp [FlowDispatch.Owes, unlisted, destination]
    · intro _
      exact .inr (.inr ⟨destination, rfl⟩)

/-! ## Flows that are not sent once -/

/-- A node of the flow will be sent it never, or twice. -/
def FlowDispatch.SpoiledAt (config : DispatchConfig) (state : FlowDispatch) (row : FlowRow)
    (node : UInt32) : Prop :=
  row.validate config.transport = false ∨
    (state.InBulk row ∧ (node, row.id) ∈ state.syncSent) ∨
    (¬state.InBulk row ∧ 2 ^ 31 ≤ node.toNat)

def FlowDispatch.Spoiled (config : DispatchConfig) (state : FlowDispatch) : Prop :=
  ∃ row ∈ state.flows, row.Concerned ∧
    ∃ node ∈ config.expected, row.Ends node ∧ state.SpoiledAt config row node

theorem dispatched_once_iff (dispatching : Dispatching config state) (settled : state.Settled) :
    DispatchedOnce config state ↔ ¬state.Spoiled config := by
  rcases settled with ⟨⟨rows, sent⟩, drained, idle⟩
  have exact_at : ∀ row ∈ state.flows, row.Concerned → ∀ node ∈ config.expected, row.Ends node →
      ((state.bulkSent ++ state.syncSent).count (node, row.id) = 1 ↔
        ¬state.SpoiledAt config row node) := by
    intro row member concerned node expected ends
    have inBulk : state.InBulk row ↔ row ∈ rows := by
      simp only [FlowDispatch.InBulk, sent]
    have bulk := dispatching.bulkSent row member node expected ends
    rw [sent] at bulk
    rw [List.count_append, bulk, FlowDispatch.SpoiledAt, inBulk]
    cases valid : row.validate config.transport with
    | false =>
      have none : (node, row.id) ∉ state.syncSent := by
        intro found
        have impossible := (dispatching.found row member node found).1
        rw [valid] at impossible
        cases impossible
      simp [BulkStage.times, valid, List.count_eq_zero.mpr none]
    | true =>
      by_cases inside : row ∈ rows
      · simp [BulkStage.times, valid, inside, List.count_eq_zero]
      · by_cases narrow : node.toNat < 2 ^ 31
        · have clear : ¬state.Owes row node := by
            simp [FlowDispatch.Owes, drained, idle]
          have outside : ¬state.InBulk row := fun held => inside (inBulk.mp held)
          have once := (dispatching.late row member outside concerned valid node expected ends
            narrow).2 clear
          have small : ¬2 ^ 31 ≤ node.toNat := Nat.not_le.mpr narrow
          simp only [BulkStage.times, inside, false_and, if_false, once, small, and_false, or_false]
          simp
        · have none : (node, row.id) ∉ state.syncSent := fun found =>
            narrow (dispatching.found row member node found).2
          have large : 2 ^ 31 ≤ node.toNat := Nat.le_of_not_lt narrow
          simp only [BulkStage.times, inside, false_and, if_false, List.count_eq_zero.mpr none,
            large]
          simp
  constructor
  · rintro once ⟨row, member, concerned, node, expected, ends, spoiled⟩
    exact (exact_at row member concerned node expected ends).mp
      (once row member concerned node expected ends) spoiled
  · intro clean row member concerned node expected ends
    apply (exact_at row member concerned node expected ends).mpr
    intro spoiled
    exact clean ⟨row, member, concerned, node, expected, ends, spoiled⟩

theorem spoiled_unchanged (flows : next.flows = state.flows)
    (syncSent : next.syncSent = state.syncSent)
    (inBulk : ∀ row ∈ state.flows, row.Concerned → (next.InBulk row ↔ state.InBulk row)) :
    next.Spoiled config ↔ state.Spoiled config := by
  unfold FlowDispatch.Spoiled FlowDispatch.SpoiledAt
  rw [flows, syncSent]
  constructor
  · rintro ⟨row, member, concerned, node, expected, ends, spoiled⟩
    rw [inBulk row member concerned] at spoiled
    exact ⟨row, member, concerned, node, expected, ends, spoiled⟩
  · rintro ⟨row, member, concerned, node, expected, ends, spoiled⟩
    rw [← inBulk row member concerned] at spoiled
    exact ⟨row, member, concerned, node, expected, ends, spoiled⟩

theorem spoiled_inserted (before : Dispatching config state) {row : FlowRow}
    (fresh : row.id ∉ state.flows.map FlowRow.id) :
    FlowDispatch.Spoiled config
      { state with
        flows := state.flows ++ [row]
        notifications := state.notifications ++ [row.id] } ↔
      state.Spoiled config ∨ ¬state.Deliverable config row := by
  have unknown : ∀ node, (node, row.id) ∉ state.syncSent :=
    fun node sent => fresh (before.known node row.id (List.mem_append_right _ sent))
  constructor
  · rintro ⟨other, member, concerned, node, expected, ends, spoiled⟩
    rcases List.mem_append.mp member with member | member
    · exact .inl ⟨other, member, concerned, node, expected, ends, spoiled⟩
    · rw [List.mem_singleton.mp member] at concerned ends spoiled
      right
      intro deliverable
      rcases deliverable concerned node expected ends with ⟨valid, narrow⟩
      rcases spoiled with invalid | ⟨_, sent⟩ | ⟨outside, wide⟩
      · rw [valid] at invalid
        cases invalid
      · exact unknown node sent
      · exact absurd (narrow outside) (Nat.not_lt.mpr wide)
  · rintro (⟨other, member, spoiled⟩ | undeliverable)
    · exact ⟨other, List.mem_append_left _ member, spoiled⟩
    · by_contra clean
      apply undeliverable
      intro concerned node expected ends
      have here : ¬state.SpoiledAt config row node := fun spoiled => clean
        ⟨row, List.mem_append_right _ (List.mem_singleton_self _), concerned, node, expected, ends,
          spoiled⟩
      constructor
      · by_contra invalid
        exact here (.inl (Bool.eq_false_of_not_eq_true invalid))
      · intro outside
        by_contra wide
        exact here (.inr (.inr ⟨outside, Nat.le_of_not_lt wide⟩))

theorem spoiled_looked_up (before : Dispatching config state) {row : FlowRow} {node : UInt32}
    {stage : SyncStage} (member : row ∈ state.flows) (ends : row.Ends node) :
    FlowDispatch.Spoiled config
      { state with
        sync := stage
        syncSent := state.syncSent ++ FlowDispatch.syncMessages config state.nodeWs row node } ↔
      state.Spoiled config ∨ ¬(row.Concerned → state.InBulk row →
        findNode state.nodeWs (asUsize (asI32 node.toNat)) = none) := by
  have found : findNode state.nodeWs (asUsize (asI32 node.toNat)) = none ↔
      ¬(node.toNat < 2 ^ 31 ∧ node ∈ state.nodeWs) := by
    rw [find_node_of_row]
    split_ifs with both
    · exact iff_of_false nofun (not_not_intro both)
    · exact iff_of_true rfl both
  constructor
  · rintro ⟨other, inside, concerned, place, expected, theirs, spoiled⟩
    rcases spoiled with invalid | ⟨held, sent⟩ | outside
    · exact .inl ⟨other, inside, concerned, place, expected, theirs, .inl invalid⟩
    · rcases List.mem_append.mp sent with sent | sent
      · exact .inl ⟨other, inside, concerned, place, expected, theirs, .inr (.inl ⟨held, sent⟩)⟩
      · rw [sync_messages_eq] at sent
        split_ifs at sent with both
        · have same := List.mem_singleton.mp sent
          have itself := row_of_id before inside member (Prod.mk.inj same).2
          rw [itself] at concerned held
          right
          intro guarded
          exact found.mp (guarded concerned held) both.2
        · cases sent
    · exact .inl ⟨other, inside, concerned, place, expected, theirs, .inr (.inr outside)⟩
  · rintro (⟨other, inside, concerned, place, expected, theirs, spoiled⟩ | unguarded)
    · refine ⟨other, inside, concerned, place, expected, theirs, ?_⟩
      rcases spoiled with invalid | ⟨held, sent⟩ | outside
      · exact .inl invalid
      · exact .inr (.inl ⟨held, List.mem_append_left _ sent⟩)
      · exact .inr (.inr outside)
    · push Not at unguarded
      rcases unguarded with ⟨concerned, held, present⟩
      have both : node.toNat < 2 ^ 31 ∧ node ∈ state.nodeWs := by
        by_contra absent
        exact present (found.mpr absent)
      refine ⟨row, member, concerned, node, before.nodes both.2, ends, ?_⟩
      cases valid : row.validate config.transport with
      | false => exact .inl valid
      | true =>
        refine .inr (.inl ⟨held, List.mem_append_right _ ?_⟩)
        rw [sync_messages_eq, if_pos ⟨valid, both⟩]
        exact List.mem_singleton_self _

theorem spoiled_step {label : DispatchLabel} (before : Dispatching config state)
    (step : DispatchStep config state label next) :
    next.Spoiled config ↔ state.Spoiled config ∨ ¬state.Guarded config label := by
  have free : ∀ label, state.Guarded config label →
      (next.Spoiled config ↔ state.Spoiled config) →
        (next.Spoiled config ↔ state.Spoiled config ∨ ¬state.Guarded config label) := by
    intro label guarded same
    rw [same]
    exact ⟨.inl, fun either => either.resolve_right fun not => not guarded⟩
  cases step with
  | inserted row fresh => exact spoiled_inserted before fresh
  | connected node expected absent =>
    exact free (.connected node) trivial (spoiled_unchanged rfl rfl fun _ _ _ => Iff.rfl)
  | joined node connected unknown =>
    exact free (.joined node) trivial
      (spoiled_unchanged rfl rfl fun row _ _ => in_bulk_join node row)
  | bulkSelected due =>
    apply free .bulkSelected trivial (spoiled_unchanged rfl rfl _)
    intro row member concerned
    have inside : row ∈ state.flows.filter fun row => !row.isFinished :=
      List.mem_filter.mpr ⟨member, by rw [concerned.1]; rfl⟩
    simp only [FlowDispatch.InBulk, due, inside]
  | bulkSent rows order selected distinct covers =>
    apply free (.bulkSent order) trivial (spoiled_unchanged rfl rfl _)
    intro row _ _
    simp only [FlowDispatch.InBulk, selected]
  | notified row rest idle first member =>
    exact free .notified trivial (spoiled_unchanged rfl rfl fun _ _ _ => Iff.rfl)
  | sourceSent row source =>
    rcases before.syncing row (.inl source) with ⟨member, _⟩
    rw [spoiled_looked_up before member (.inl rfl)]
    have guarded : state.Guarded config .sourceSent ↔ (row.Concerned → state.InBulk row →
        findNode state.nodeWs (asUsize (asI32 row.srcNodeId.toNat)) = none) := by
      simp [FlowDispatch.Guarded, source]
    rw [guarded]
  | destinationSent row destination =>
    rcases before.syncing row (.inr destination) with ⟨member, _⟩
    rw [spoiled_looked_up before member (.inr rfl)]
    have guarded : state.Guarded config .destinationSent ↔ (row.Concerned → state.InBulk row →
        findNode state.nodeWs (asUsize (asI32 row.dstNodeId.toNat)) = none) := by
      simp [FlowDispatch.Guarded, destination]
    rw [guarded]

/-! ## Whole runs -/

theorem dispatching_run {start : FlowDispatch} {labels : List DispatchLabel}
    (initial : (flowDispatch config).initial start)
    (run : (flowDispatch config).Run start labels state) : Dispatching config state := by
  apply TransitionSystem.run_preserves (motive := Dispatching config) _ run
    (dispatching_initial initial)
  intro before label next dispatching step
  exact dispatching_step dispatching step

theorem spoiled_initial (initial : (flowDispatch config).initial state) :
    state.Spoiled config ↔ ¬∀ row ∈ state.flows, state.Deliverable config row := by
  rcases initial with ⟨_, _, _, bulk, _, _, _, syncSent⟩
  have inBulk : ∀ row, state.InBulk row := by
    intro row
    simp only [FlowDispatch.InBulk, bulk]
  simp only [FlowDispatch.Spoiled, FlowDispatch.SpoiledAt, FlowDispatch.Deliverable, inBulk, syncSent,
    List.not_mem_nil, and_false, not_true_eq_false, false_and, or_false, false_imp_iff, and_true]
  push Not
  simp only [Bool.not_eq_true]

theorem clean_run_guarded {start : FlowDispatch} {labels : List DispatchLabel}
    (initial : (flowDispatch config).initial start)
    (run : (flowDispatch config).Run start labels state) (clean : ¬state.Spoiled config) :
    (∀ row ∈ start.flows, start.Deliverable config row) ∧
      ((flowDispatch config).restrict (FlowDispatch.Guarded config)).Run start labels state := by
  induction run with
  | nil =>
    rw [spoiled_initial initial, not_not] at clean
    exact ⟨clean, .nil⟩
  | snoc earlier step induction =>
    rw [spoiled_step (dispatching_run initial earlier) step, not_or, not_not] at clean
    rcases induction clean.1 with ⟨deliverable, restricted⟩
    exact ⟨deliverable, .snoc restricted ⟨clean.2, step⟩⟩

theorem guarded_run_clean {start : FlowDispatch} {labels : List DispatchLabel}
    (initial : (flowDispatch config).initial start)
    (deliverable : ∀ row ∈ start.flows, start.Deliverable config row)
    (restricted : ((flowDispatch config).restrict (FlowDispatch.Guarded config)).Run start labels
      state) : ¬state.Spoiled config := by
  have clean : ¬start.Spoiled config :=
    fun spoiled => (spoiled_initial initial).mp spoiled deliverable
  have kept : Dispatching config state ∧ ¬state.Spoiled config := by
    apply TransitionSystem.run_preserves
      (motive := fun state => Dispatching config state ∧ ¬state.Spoiled config) _ restricted
      ⟨dispatching_initial initial, clean⟩
    rintro before label next ⟨dispatching, clean⟩ ⟨guarded, step⟩
    refine ⟨dispatching_step dispatching step, ?_⟩
    rw [spoiled_step dispatching step]
    rintro (spoiled | unguarded)
    · exact clean spoiled
    · exact unguarded guarded
  exact kept.2

def twoNodes : DispatchConfig := ⟨{1, 2}, .tcp⟩

def oneTwoFlow : FlowRow := ⟨1, 1, 2, .bytes, none, false⟩

def dispatchStart (flows : List FlowRow) : FlowDispatch :=
  ⟨flows, ∅, ∅, .waiting, [], .idle, [], []⟩

theorem dispatch_start_initial (row : FlowRow) :
    (flowDispatch twoNodes).initial (dispatchStart [row]) :=
  ⟨List.nodup_singleton _, rfl, rfl, rfl, rfl, rfl, rfl, rfl⟩

end Nextmini.Controller
