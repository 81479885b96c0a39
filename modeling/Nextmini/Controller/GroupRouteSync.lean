import Mathlib.Data.Finset.Basic
import Nextmini.Controller.GroupTables
import Nextmini.Library.TransitionSystem

/-!
# Group route synchronisation

The trees and members of one group of one source, and the entries that its nodes last received. A
request of the source replaces the trees and sends their entries to the nodes it may concern. A member
that joins or leaves raises a notification, and one task works notifications off by reading the tables
and sending again. Connections and that task interleave at every query and every send, in any number
of connections of the source. Requests and notifications of other groups touch none of this. Queries
and sends do not fail, and the same nodes stay connected.
-/

namespace Nextmini.Controller

open Nextmini.Library Nextmini.Routing

set_option autoImplicit false

/-! ## Nodes to notify -/

def onTrees (trees : List GroupRouteTree) (node : UInt32) : Bool :=
  trees.any fun tree => isEndpoint tree.edges node

/-- The nodes of the trees before and after a request, the source, and the members before and after. -/
def RequestNotifies (srcNodeId : UInt32) (trees previousTrees : List GroupRouteTree)
    (previousMembers members : Finset UInt32) (node : UInt32) : Prop :=
  onTrees previousTrees node = true ∨ onTrees trees node = true ∨ node = srcNodeId ∨
    node ∈ previousMembers ∨ node ∈ members

def MulticastNodesToNotify (srcNodeId : UInt32) (trees : List GroupRouteTree)
    (members : Finset UInt32) (priorMember : Option UInt32) (node : UInt32) : Prop :=
  onTrees trees node = true ∨ node = srcNodeId ∨ node ∈ members ∨ priorMember = some node

/-- The member that a notification names: a signed number in the table, left out where negative. -/
def priorMemberNodeId (node : UInt32) : Option UInt32 :=
  if node.toNat < 2 ^ 31 then some node else none

section Entries

variable {groupId : GroupId} {node : UInt32}

theorem build_members_congr (trees : List GroupRouteTree) {members others : Finset UInt32}
    (same : node ∈ members ↔ node ∈ others) :
    buildGroupRoutesForNodeMultitree groupId trees node members =
      buildGroupRoutesForNodeMultitree groupId trees node others := by
  have entry (routeId : Nat) (edges : List Edge) :
      buildGroupRoutesForNodeWithRouteId routeId edges node members =
        buildGroupRoutesForNodeWithRouteId routeId edges node others := by
    unfold buildGroupRoutesForNodeWithRouteId treeNextHops
    by_cases inside : node ∈ others
    · simp [inside, same.mpr inside]
    · simp [inside, mt same.mp inside]
  have entries (ordered : List GroupRouteTree) : buildTreeEntries groupId node members ordered =
      buildTreeEntries groupId node others ordered := by
    induction ordered with
    | nil => rfl
    | cons tree rest induction => simp only [buildTreeEntries, induction, entry]
  simp only [buildGroupRoutesForNodeMultitree, entries]

theorem off_tree_hops {edges : List Edge} (off : isEndpoint edges node = false) :
    outgoingNeighbors edges node = [] := by
  rw [List.eq_nil_iff_forall_not_mem]
  intro neighbor member
  have edge := mem_outgoing.mp member
  have touched : isEndpoint edges node = true := by
    rw [isEndpoint, List.any_eq_true]
    exact ⟨_, edge, by simp⟩
  rw [off] at touched
  cases touched

theorem built_off_trees {trees : List GroupRouteTree} {members : Finset UInt32}
    {routes : List GroupRoutingTableEntry}
    (built : buildGroupRoutesForNodeMultitree groupId trees node members = .ok routes)
    (off : onTrees trees node = false) (outside : node ∉ members) : routes = [] := by
  rcases built_entries_hops built with ⟨ordered, canonical, permuted, entries, hops⟩
  have offAll : ∀ tree ∈ ordered, isEndpoint tree.edges node = false := by
    intro tree member
    rw [onTrees, List.any_eq_false] at off
    exact Bool.eq_false_iff.mpr (off tree (permuted.mem_iff.mp member))
  clear built permuted off hops
  induction ordered generalizing routes with
  | nil =>
    cases entries
    rfl
  | cons tree rest induction =>
    rcases canonical.identified tree List.mem_cons_self with ⟨routeId, computed⟩
    have hopless : treeNextHops tree.edges node members = [] := by
      simp [treeNextHops, off_tree_hops (offAll tree List.mem_cons_self), outside]
    have others : Canonical groupId rest :=
      ⟨(List.pairwise_cons.mp canonical.ascending).2,
        fun other member => canonical.identified other (List.mem_cons_of_mem _ member)⟩
    rw [buildTreeEntries, computed] at entries
    cases later : buildTreeEntries groupId node members rest with
    | error reason =>
      rw [later] at entries
      cases entries
    | ok found =>
      have empty : found = [] := induction others later
        (fun other member => offAll other (List.mem_cons_of_mem _ member))
      rw [later, empty] at entries
      simp only [bind, Except.bind, build_entry_none routeId hopless] at entries
      cases entries
      rfl

theorem canonical_built {trees : List GroupRouteTree} (canonical : Canonical groupId trees)
    (node : UInt32) (members : Finset UInt32) :
    ∃ routes, buildGroupRoutesForNodeMultitree groupId trees node members = .ok routes :=
  accepted_update_built node members (canonical_accepted canonical)

end Entries

/-! ## Handlings -/

/-- How far a request or a notification is: what it has read, and at last the nodes to send to. -/
inductive Handling where
  | requested (trees : List GroupRouteTree)
  | oldTreesRead (trees previousTrees : List GroupRouteTree)
  | oldMembersRead (trees previousTrees : List GroupRouteTree) (previousMembers : Finset UInt32)
  | replaced (trees previousTrees : List GroupRouteTree) (previousMembers : Finset UInt32)
  | recomputing (trees : List GroupRouteTree) (priorMember : Option UInt32)
  | sending (trees : List GroupRouteTree) (members : Finset UInt32) (targets : List UInt32)

namespace Handling

/-- The trees whose entries will be sent. -/
def trees : Handling → List GroupRouteTree
  | requested trees => trees
  | oldTreesRead trees _ => trees
  | oldMembersRead trees _ _ => trees
  | replaced trees _ _ => trees
  | recomputing trees _ => trees
  | sending trees _ _ => trees

def begun : Handling → Bool
  | requested _ => false
  | _ => true

end Handling

/-- The worker `none` is the task that works notifications off, the others are the connections. A node
that has received nothing holds no entries. -/
structure GroupSync where
  trees : List GroupRouteTree
  members : Finset UInt32
  notifications : List (Option UInt32)
  handlings : Option Nat → Option Handling
  held : UInt32 → List GroupRoutingTableEntry

namespace GroupSync

def setHandling (state : GroupSync) (worker : Option Nat) (handling : Option Handling) : GroupSync :=
  { state with handlings := Function.update state.handlings worker handling }

/-- Only a row that was not there is inserted, and only an insert notifies. -/
def join (state : GroupSync) (node : UInt32) : GroupSync :=
  if node ∈ state.members then state
  else
    { state with
      members := insert node state.members
      notifications := state.notifications ++ [priorMemberNodeId node] }

def leave (state : GroupSync) (node : UInt32) : GroupSync :=
  if node ∈ state.members then
    { state with
      members := state.members.erase node
      notifications := state.notifications ++ [priorMemberNodeId node] }
  else state

def Quiet (state : GroupSync) : Prop :=
  (∀ worker, state.handlings worker = none) ∧ state.notifications = []

end GroupSync

inductive GroupSyncLabel where
  | joined (node : UInt32)
  | left (node : UInt32)
  | requested (connection : Nat) (requesterNodeId : UInt32) (trees : List GroupRouteTree)
  | oldTreesRead (connection : Nat)
  | oldMembersRead (connection : Nat)
  | replaced (connection : Nat)
  | membersRead (connection : Nat) (targets : List UInt32)
  | syncStarted
  | syncMembersRead (targets : List UInt32)
  | sent (worker : Option Nat)
  | finished (worker : Option Nat)

section Sync

variable (groupId : GroupId) (srcNodeId : UInt32) (connected : Finset UInt32)

/-- A request of another node, or one whose trees are not valid, is dropped. -/
def GroupSync.request (state : GroupSync) (connection : Nat) (requesterNodeId : UInt32)
    (trees : List GroupRouteTree) : GroupSync :=
  if srcNodeId ≠ requesterNodeId then state
  else
    match canonicalizeGroupRouteTrees groupId trees with
    | .error _ => state
    | .ok trees => state.setHandling (some connection) (some (.requested trees))

/-- Entries that cannot be built are not sent. -/
def sendGroupRoutes (trees : List GroupRouteTree) (members : Finset UInt32) (node : UInt32)
    (held : UInt32 → List GroupRoutingTableEntry) : UInt32 → List GroupRoutingTableEntry :=
  match buildGroupRoutesForNodeMultitree groupId trees node members with
  | .error _ => held
  | .ok routes => Function.update held node routes

inductive GroupSyncStep : GroupSync → GroupSyncLabel → GroupSync → Prop
  | joined (state : GroupSync) (node : UInt32) : GroupSyncStep state (.joined node) (state.join node)
  | left (state : GroupSync) (node : UInt32) : GroupSyncStep state (.left node) (state.leave node)
  | requested (state : GroupSync) (connection : Nat) (requesterNodeId : UInt32)
      (trees : List GroupRouteTree) :
      state.handlings (some connection) = none →
        GroupSyncStep state (.requested connection requesterNodeId trees)
          (state.request groupId srcNodeId connection requesterNodeId trees)
  | oldTreesRead (state : GroupSync) (connection : Nat) (trees : List GroupRouteTree) :
      state.handlings (some connection) = some (.requested trees) →
        GroupSyncStep state (.oldTreesRead connection)
          (state.setHandling (some connection) (some (.oldTreesRead trees state.trees)))
  | oldMembersRead (state : GroupSync) (connection : Nat) (trees previous : List GroupRouteTree) :
      state.handlings (some connection) = some (.oldTreesRead trees previous) →
        GroupSyncStep state (.oldMembersRead connection)
          (state.setHandling (some connection) (some (.oldMembersRead trees previous state.members)))
  | replaced (state : GroupSync) (connection : Nat) (trees previous : List GroupRouteTree)
      (previousMembers : Finset UInt32) :
      state.handlings (some connection) = some (.oldMembersRead trees previous previousMembers) →
        GroupSyncStep state (.replaced connection)
          ({ state with trees := trees }.setHandling (some connection)
            (some (.replaced trees previous previousMembers)))
  | membersRead (state : GroupSync) (connection : Nat) (trees previous : List GroupRouteTree)
      (previousMembers : Finset UInt32) (targets : List UInt32) :
      state.handlings (some connection) = some (.replaced trees previous previousMembers) →
      (∀ node, node ∈ targets ↔ node ∈ connected ∧
        RequestNotifies srcNodeId trees previous previousMembers state.members node) →
        GroupSyncStep state (.membersRead connection targets)
          (state.setHandling (some connection) (some (.sending trees state.members targets)))
  | syncStarted (state : GroupSync) (priorMember : Option UInt32) (rest : List (Option UInt32)) :
      state.notifications = priorMember :: rest → state.handlings none = none →
        GroupSyncStep state .syncStarted
          ({ state with notifications := rest }.setHandling none
            (some (.recomputing state.trees priorMember)))
  | syncMembersRead (state : GroupSync) (trees : List GroupRouteTree) (priorMember : Option UInt32)
      (targets : List UInt32) :
      state.handlings none = some (.recomputing trees priorMember) →
      (∀ node, node ∈ targets ↔ node ∈ connected ∧
        MulticastNodesToNotify srcNodeId trees state.members priorMember node) →
        GroupSyncStep state (.syncMembersRead targets)
          (state.setHandling none (some (.sending trees state.members targets)))
  | sent (state : GroupSync) (worker : Option Nat) (trees : List GroupRouteTree)
      (members : Finset UInt32) (node : UInt32) (rest : List UInt32) :
      state.handlings worker = some (.sending trees members (node :: rest)) →
        GroupSyncStep state (.sent worker)
          ({ state with held := sendGroupRoutes groupId trees members node state.held }.setHandling
            worker (some (.sending trees members rest)))
  | finished (state : GroupSync) (worker : Option Nat) (trees : List GroupRouteTree)
      (members : Finset UInt32) :
      state.handlings worker = some (.sending trees members []) →
        GroupSyncStep state (.finished worker) (state.setHandling worker none)

/-- The node holds the entries of the trees and members in the tables. -/
def HoldsEntries (state : GroupSync) (node : UInt32) : Prop :=
  buildGroupRoutesForNodeMultitree groupId state.trees node state.members = .ok (state.held node)

/-- A run starts with valid trees that every connected node has its entries of. -/
def groupSync : TransitionSystem GroupSync GroupSyncLabel where
  initial state := Canonical groupId state.trees ∧ state.Quiet ∧
    ∀ node ∈ connected, HoldsEntries groupId state node
  step := GroupSyncStep groupId srcNodeId connected

/-- A handling makes its first query when no other one is between its first query and its last send,
and a member that leaves has an id that the notification can name. -/
def OneAtATime (state : GroupSync) : GroupSyncLabel → Prop
  | .oldTreesRead _ => ∀ worker, ∀ handling ∈ state.handlings worker, handling.begun = false
  | .syncStarted => ∀ worker, ∀ handling ∈ state.handlings worker, handling.begun = false
  | .left node => node ∈ state.members → node.toNat < 2 ^ 31
  | _ => True

/-! ## What a notification or a handling will still bring -/

/-- A notification is queued that will be sent on to the node. -/
def Pending (state : GroupSync) (node : UInt32) : Prop :=
  some node ∈ state.notifications ∨ (none ∈ state.notifications ∧ node ∈ state.members)

/-- The notification that is being worked off will be sent on to the node. -/
def Reaches (state : GroupSync) (priorMember : Option UInt32) (node : UInt32) : Prop :=
  priorMember = some node ∨ (priorMember = none ∧ node ∈ state.members)

def Settled (state : GroupSync) (node : UInt32) : Prop :=
  Pending state node ∨ HoldsEntries groupId state node

/-- What a handling that has begun has read is what the tables hold, as far as it matters to a node
that no queued notification will reach. -/
def Covered (state : GroupSync) (node : UInt32) : Handling → Prop
  | .requested _ => Settled groupId state node
  | .oldTreesRead _ previous => previous = state.trees ∧ Settled groupId state node
  | .oldMembersRead _ previous previousMembers => previous = state.trees ∧
      (Pending state node ∨ HoldsEntries groupId state node ∧
        (node ∈ previousMembers ↔ node ∈ state.members))
  | .replaced trees previous previousMembers => trees = state.trees ∧
      (Pending state node ∨
        buildGroupRoutesForNodeMultitree groupId previous node state.members =
            .ok (state.held node) ∧
          (node ∈ previousMembers ↔ node ∈ state.members))
  | .recomputing trees priorMember => trees = state.trees ∧
      (Pending state node ∨ Reaches state priorMember node ∨ HoldsEntries groupId state node)
  | .sending trees members targets => trees = state.trees ∧
      (Pending state node ∨ (node ∈ members ↔ node ∈ state.members) ∧
        (node ∈ targets ∨ HoldsEntries groupId state node))

structure Serial (state : GroupSync) : Prop where
  canonical : Canonical groupId state.trees
  handled : ∀ worker, ∀ handling ∈ state.handlings worker, Canonical groupId handling.trees
  alone : ∀ worker other, ∀ handling ∈ state.handlings worker, ∀ rival ∈ state.handlings other,
    handling.begun = true → rival.begun = true → worker = other
  covered : ∀ worker, ∀ handling ∈ state.handlings worker, handling.begun = true →
    ∀ node ∈ connected, Covered groupId state node handling
  settled : (∀ worker, ∀ handling ∈ state.handlings worker, handling.begun = false) →
    ∀ node ∈ connected, Settled groupId state node

variable {groupId srcNodeId connected}

/-- A change of the members: whoever it concerns will be notified, and no notification is lost. -/
structure Announced (state next : GroupSync) : Prop where
  trees : next.trees = state.trees
  held : next.held = state.held
  handlings : next.handlings = state.handlings
  pending : ∀ node, Pending state node → Pending next node
  members : ∀ node, Pending next node ∨ (node ∈ next.members ↔ node ∈ state.members)

theorem join_announced (state : GroupSync) (node : UInt32) : Announced state (state.join node) := by
  unfold GroupSync.join
  split_ifs with inside
  · exact ⟨rfl, rfl, rfl, fun _ => id, fun _ => .inr Iff.rfl⟩
  · refine ⟨rfl, rfl, rfl, ?_, ?_⟩
    · rintro other (named | ⟨unnamed, member⟩)
      · exact .inl (List.mem_append_left _ named)
      · exact .inr ⟨List.mem_append_left _ unnamed, Finset.mem_insert_of_mem member⟩
    · intro other
      by_cases same : other = node
      · subst same
        left
        by_cases signed : other.toNat < 2 ^ 31
        · left
          rw [priorMemberNodeId, if_pos signed]
          exact List.mem_append_right _ (List.mem_singleton.mpr rfl)
        · right
          rw [priorMemberNodeId, if_neg signed]
          exact ⟨List.mem_append_right _ (List.mem_singleton.mpr rfl), Finset.mem_insert_self _ _⟩
      · right
        simp [same]

theorem leave_announced (state : GroupSync) {node : UInt32}
    (named : node ∈ state.members → node.toNat < 2 ^ 31) : Announced state (state.leave node) := by
  unfold GroupSync.leave
  split_ifs with inside
  · have hint : priorMemberNodeId node = some node := by
      rw [priorMemberNodeId, if_pos (named inside)]
    refine ⟨rfl, rfl, rfl, ?_, ?_⟩
    · rintro other (known | ⟨unnamed, member⟩)
      · exact .inl (List.mem_append_left _ known)
      · by_cases same : other = node
        · subst same
          left
          simp [hint]
        · exact .inr ⟨List.mem_append_left _ unnamed, Finset.mem_erase_of_ne_of_mem same member⟩
    · intro other
      by_cases same : other = node
      · subst same
        left
        left
        simp [hint]
      · right
        simp [same]
  · exact ⟨rfl, rfl, rfl, fun _ => id, fun _ => .inr Iff.rfl⟩

section Members

variable {state next : GroupSync} (announced : Announced state next)

include announced

theorem Announced.holds (groupId : GroupId) (node : UInt32) :
    Pending next node ∨ (HoldsEntries groupId next node ↔ HoldsEntries groupId state node) := by
  rcases announced.members node with pending | same
  · exact .inl pending
  · right
    rw [HoldsEntries, HoldsEntries, announced.trees, announced.held, build_members_congr _ same]

theorem Announced.settled {node : UInt32} (settled : Settled groupId state node) :
    Settled groupId next node := by
  rcases settled with pending | holds
  · exact .inl (announced.pending node pending)
  · exact (announced.holds groupId node).imp_right fun same => same.mpr holds

theorem Announced.covered {node : UInt32} {handling : Handling}
    (covered : Covered groupId state node handling) : Covered groupId next node handling := by
  cases handling with
  | requested trees => exact announced.settled covered
  | oldTreesRead trees previous =>
    exact ⟨covered.1.trans announced.trees.symm, announced.settled covered.2⟩
  | oldMembersRead trees previous previousMembers =>
    refine ⟨covered.1.trans announced.trees.symm, ?_⟩
    rcases covered.2 with pending | ⟨holds, members⟩
    · exact .inl (announced.pending node pending)
    · rcases announced.members node with pending | same
      · exact .inl pending
      · refine (announced.holds groupId node).imp_right ?_
        intro kept
        exact ⟨kept.mpr holds, members.trans same.symm⟩
  | replaced trees previous previousMembers =>
    refine ⟨covered.1.trans announced.trees.symm, ?_⟩
    rcases covered.2 with pending | ⟨holds, members⟩
    · exact .inl (announced.pending node pending)
    · rcases announced.members node with pending | same
      · exact .inl pending
      · right
        rw [announced.held, build_members_congr _ same]
        exact ⟨holds, members.trans same.symm⟩
  | recomputing trees priorMember =>
    refine ⟨covered.1.trans announced.trees.symm, ?_⟩
    rcases covered.2 with pending | reached | holds
    · exact .inl (announced.pending node pending)
    · rcases announced.members node with pending | same
      · exact .inl pending
      · rw [Reaches, ← same] at reached
        exact .inr (.inl reached)
    · exact (announced.holds groupId node).imp_right fun same => .inr (same.mpr holds)
  | sending trees members targets =>
    refine ⟨covered.1.trans announced.trees.symm, ?_⟩
    rcases covered.2 with pending | ⟨members, reached⟩
    · exact .inl (announced.pending node pending)
    · rcases announced.members node with pending | same
      · exact .inl pending
      · refine (announced.holds groupId node).imp_right ?_
        intro kept
        exact ⟨members.trans same.symm, reached.imp_right kept.mpr⟩

theorem Announced.serial (serial : Serial groupId connected state) :
    Serial groupId connected next := by
  constructor
  · rw [announced.trees]
    exact serial.canonical
  · rw [announced.handlings]
    exact serial.handled
  · rw [announced.handlings]
    exact serial.alone
  · rw [announced.handlings]
    intro worker handling here begun node member
    exact announced.covered (serial.covered worker handling here begun node member)
  · rw [announced.handlings]
    intro none node member
    exact announced.settled (serial.settled none node member)

end Members

/-! ## Steps of a handling -/

theorem Serial.advance {state next : GroupSync} {worker : Option Nat} {later : Option Handling}
    (serial : Serial groupId connected state)
    (idle : ∀ other, ∀ handling ∈ state.handlings other, handling.begun = true → other = worker)
    (unchanged : next.handlings = state.handlings) (canonical : Canonical groupId next.trees)
    (valid : ∀ handling ∈ later, Canonical groupId handling.trees)
    (covered : ∀ handling ∈ later, handling.begun = true → ∀ node ∈ connected,
      Covered groupId next node handling)
    (settled : (∀ handling ∈ later, handling.begun = false) → ∀ node ∈ connected,
      Settled groupId next node) :
    Serial groupId connected (next.setHandling worker later) := by
  have here {other : Option Nat} {handling : Handling}
      (found : handling ∈ (next.setHandling worker later).handlings other) :
      handling ∈ later ∨ other ≠ worker ∧ handling ∈ state.handlings other := by
    simp only [GroupSync.setHandling, unchanged] at found
    by_cases same : other = worker
    · subst same
      rw [Function.update_self] at found
      exact .inl found
    · rw [Function.update_of_ne same] at found
      exact .inr ⟨same, found⟩
  have only {other : Option Nat} {handling : Handling}
      (found : handling ∈ (next.setHandling worker later).handlings other)
      (begun : handling.begun = true) : other = worker := by
    by_contra different
    simp only [GroupSync.setHandling, unchanged, Function.update_of_ne different] at found
    exact different (idle other handling found begun)
  constructor
  · exact canonical
  · intro other handling found
    rcases here found with now | ⟨_, before⟩
    · exact valid handling now
    · exact serial.handled other handling before
  · intro first second handling found rival also begun rivalBegun
    rw [only found begun, only also rivalBegun]
  · intro other handling found begun node member
    rcases here found with now | ⟨different, _⟩
    · have known := covered handling now begun node member
      cases handling <;> exact known
    · exact absurd (only found begun) different
  · intro none
    apply settled
    intro handling now
    apply none worker
    simp only [GroupSync.setHandling, Function.update_self]
    exact now

/-- A handling that is between its first query and its last send is the only one. -/
theorem Serial.idle {state : GroupSync} (serial : Serial groupId connected state)
    {worker : Option Nat} {handling : Handling} (here : state.handlings worker = some handling)
    (begun : handling.begun = true) :
    ∀ other, ∀ rival ∈ state.handlings other, rival.begun = true → other = worker := by
  intro other rival found rivalBegun
  exact serial.alone other worker rival found handling here rivalBegun begun

theorem Serial.proceed {state next : GroupSync} {worker : Option Nat} {handling later : Handling}
    (serial : Serial groupId connected state) (here : state.handlings worker = some handling)
    (begun : handling.begun = true) (unchanged : next.handlings = state.handlings)
    (canonical : Canonical groupId next.trees) (same : later.trees = handling.trees)
    (laterBegun : later.begun = true)
    (covered : ∀ node ∈ connected, Covered groupId state node handling →
      Covered groupId next node later) :
    Serial groupId connected (next.setHandling worker (some later)) := by
  apply serial.advance (serial.idle here begun) unchanged canonical
  · rintro _ ⟨⟩
    rw [same]
    exact serial.handled worker handling here
  · rintro _ ⟨⟩ _ node member
    exact covered node member (serial.covered worker handling here begun node member)
  · intro none
    exact absurd ((none later rfl).symm.trans laterBegun) Bool.false_ne_true

/-- The first query of a handling, while no other one has begun. -/
theorem Serial.begin {state next : GroupSync} {worker : Option Nat} {later : Handling}
    (serial : Serial groupId connected state)
    (guarded : ∀ worker, ∀ handling ∈ state.handlings worker, handling.begun = false)
    (unchanged : next.handlings = state.handlings) (canonical : Canonical groupId next.trees)
    (valid : Canonical groupId later.trees) (laterBegun : later.begun = true)
    (covered : ∀ node ∈ connected, Settled groupId state node → Covered groupId next node later) :
    Serial groupId connected (next.setHandling worker (some later)) := by
  apply serial.advance _ unchanged canonical
  · rintro _ ⟨⟩
    exact valid
  · rintro _ ⟨⟩ _ node member
    exact covered node member (serial.settled guarded node member)
  · intro none
    exact absurd ((none later rfl).symm.trans laterBegun) Bool.false_ne_true
  · intro other handling found begun
    exact absurd ((guarded other handling found).symm.trans begun) Bool.false_ne_true

theorem Serial.requested {state : GroupSync} (serial : Serial groupId connected state)
    {connection : Nat} (free : state.handlings (some connection) = none) (requesterNodeId : UInt32)
    (trees : List GroupRouteTree) :
    Serial groupId connected
      (state.request groupId srcNodeId connection requesterNodeId trees) := by
  unfold GroupSync.request
  split_ifs with foreign
  · exact serial
  · cases accepted : canonicalizeGroupRouteTrees groupId trees with
    | error reason => exact serial
    | ok ordered =>
      have here {other : Option Nat} {handling : Handling}
          (found : handling ∈ Function.update state.handlings (some connection)
            (some (.requested ordered)) other) :
          handling = .requested ordered ∨ handling ∈ state.handlings other := by
        by_cases same : other = some connection
        · subst same
          rw [Function.update_self] at found
          exact .inl (Option.some.inj found).symm
        · rw [Function.update_of_ne same] at found
          exact .inr found
      constructor
      · exact serial.canonical
      · intro other handling found
        rcases here found with rfl | before
        · exact (canonicalize_ok accepted).1
        · exact serial.handled other handling before
      · intro first second handling found rival also begun rivalBegun
        rcases here found with rfl | before
        · cases begun
        · rcases here also with rfl | rivalBefore
          · cases rivalBegun
          · exact serial.alone first second handling before rival rivalBefore begun rivalBegun
      · intro other handling found begun node member
        rcases here found with rfl | before
        · cases begun
        · have covered := serial.covered other handling before begun node member
          cases handling <;> exact covered
      · intro none node member
        have settled := serial.settled (by
          intro other handling before
          apply none other handling
          have different : other ≠ some connection := by
            rintro rfl
            rw [free] at before
            cases before
          have kept : Function.update state.handlings (some connection)
              (some (Handling.requested ordered)) other = state.handlings other :=
            Function.update_of_ne different _ _
          exact kept.trans before) node member
        exact settled

theorem serial_step {state next : GroupSync} {label : GroupSyncLabel}
    (serial : Serial groupId connected state) (guarded : OneAtATime state label)
    (step : GroupSyncStep groupId srcNodeId connected state label next) :
    Serial groupId connected next := by
  cases step with
  | joined node => exact (join_announced state node).serial serial
  | left node => exact (leave_announced state guarded).serial serial
  | requested connection requesterNodeId trees free =>
    exact serial.requested free requesterNodeId trees
  | oldTreesRead connection trees here =>
    have valid := serial.handled _ _ here
    refine serial.begin guarded rfl serial.canonical valid rfl ?_
    intro node _ settled
    exact ⟨rfl, settled⟩
  | oldMembersRead connection trees previous here =>
    refine serial.proceed here rfl rfl serial.canonical rfl rfl ?_
    rintro node _ ⟨same, settled⟩
    exact ⟨same, settled.imp_right fun holds => ⟨holds, Iff.rfl⟩⟩
  | replaced connection trees previous previousMembers here =>
    refine serial.proceed here rfl rfl (serial.handled _ _ here) rfl rfl ?_
    rintro node _ ⟨rfl, covered⟩
    exact ⟨rfl, covered⟩
  | membersRead connection trees previous previousMembers targets here all =>
    refine serial.proceed here rfl rfl serial.canonical rfl rfl ?_
    rintro node member ⟨rfl, covered⟩
    refine ⟨rfl, covered.imp_right ?_⟩
    rintro ⟨built, _⟩
    refine ⟨Iff.rfl, ?_⟩
    by_cases target : node ∈ targets
    · exact .inl target
    · right
      -- a node that is not told had no entries before and has none now
      rw [all, not_and] at target
      have foreign := target member
      simp only [RequestNotifies, not_or, Bool.not_eq_true] at foreign
      rcases canonical_built serial.canonical node state.members with ⟨routes, rebuilt⟩
      have before := built_off_trees built foreign.1 foreign.2.2.2.2
      have now := built_off_trees rebuilt foreign.2.1 foreign.2.2.2.2
      rw [now, ← before] at rebuilt
      exact rebuilt
  | syncStarted priorMember rest pending idle =>
    refine serial.begin guarded rfl serial.canonical serial.canonical rfl ?_
    intro node _ settled
    refine ⟨rfl, ?_⟩
    rcases settled with known | holds
    · rw [Pending, pending, List.mem_cons, List.mem_cons] at known
      rcases known with (rfl | named) | ⟨rfl | unnamed, inside⟩
      · exact .inr (.inl (.inl rfl))
      · exact .inl (.inl named)
      · exact .inr (.inl (.inr ⟨rfl, inside⟩))
      · exact .inl (.inr ⟨unnamed, inside⟩)
    · exact .inr (.inr holds)
  | syncMembersRead trees priorMember targets here all =>
    refine serial.proceed here rfl rfl serial.canonical rfl rfl ?_
    rintro node member ⟨rfl, covered⟩
    refine ⟨rfl, covered.imp_right ?_⟩
    intro reached
    refine ⟨Iff.rfl, ?_⟩
    rcases reached with (named | ⟨_, inside⟩) | holds
    · exact .inl ((all node).mpr ⟨member, .inr (.inr (.inr named))⟩)
    · exact .inl ((all node).mpr ⟨member, .inr (.inr (.inl inside))⟩)
    · exact .inr holds
  | sent worker trees members target rest here =>
    refine serial.proceed here rfl rfl serial.canonical rfl rfl ?_
    rintro node _ ⟨rfl, covered⟩
    refine ⟨rfl, covered.imp_right ?_⟩
    rintro ⟨same, reached⟩
    refine ⟨same, ?_⟩
    rcases canonical_built serial.canonical target members with ⟨routes, built⟩
    have sent : sendGroupRoutes groupId state.trees members target state.held =
        Function.update state.held target routes := by
      rw [sendGroupRoutes, built]
    by_cases own : node = target
    · subst own
      right
      change buildGroupRoutesForNodeMultitree groupId state.trees node state.members =
        .ok (sendGroupRoutes groupId state.trees members node state.held node)
      rw [sent, Function.update_self, ← build_members_congr _ same, built]
    · rcases reached with listed | holds
      · exact .inl ((List.mem_cons.mp listed).resolve_left own)
      · right
        change buildGroupRoutesForNodeMultitree groupId state.trees node state.members =
          .ok (sendGroupRoutes groupId state.trees members target state.held node)
        rw [sent, Function.update_of_ne own]
        exact holds
  | finished worker trees members here =>
    apply serial.advance (serial.idle here rfl) rfl serial.canonical
    · intro handling none
      cases none
    · intro handling none
      cases none
    · intro _ node member
      rcases serial.covered worker _ here rfl node member with ⟨rfl, pending | ⟨_, listed | holds⟩⟩
      · exact .inl pending
      · cases listed
      · exact .inr holds

/-- In every run whose handlings of the group do not overlap, and whose leaving members can be named,
every connected node holds its entries of the final trees and members once all requests and
notifications have been processed. -/
theorem group_routes_converge {start finish : GroupSync} {labels : List GroupSyncLabel}
    (initial : (groupSync groupId srcNodeId connected).initial start)
    (run : ((groupSync groupId srcNodeId connected).restrict OneAtATime).Run start labels finish)
    (quiet : finish.Quiet) : ∀ node ∈ connected, HoldsEntries groupId finish node := by
  have serial : Serial groupId connected finish := by
    apply TransitionSystem.run_preserves (motive := Serial groupId connected) _ run
    · rcases initial with ⟨canonical, ⟨none, _⟩, holds⟩
      refine ⟨canonical, ?_, ?_, ?_, fun _ node member => .inr (holds node member)⟩
      · intro worker handling found
        rw [none] at found
        cases found
      · intro worker other handling found
        rw [none] at found
        cases found
      · intro worker handling found
        rw [none] at found
        cases found
    · rintro state label next serial ⟨guarded, step⟩
      exact serial_step serial guarded step
  rcases quiet with ⟨none, empty⟩
  intro node member
  have settled := serial.settled (by
    intro worker handling found
    rw [none] at found
    cases found) node member
  apply settled.resolve_left
  simp [Pending, empty]

end Sync

/-! ## One request, and a notification that overtakes it -/

def oneTree : List GroupRouteTree := [⟨0, [(1, 2)]⟩]

/-- Group 7 without trees, as its nodes start on it. -/
def newGroup : GroupSync where
  trees := []
  members := ∅
  notifications := []
  handlings _ := none
  held _ := []

theorem no_trees_built (node : UInt32) (members : Finset UInt32) :
    buildGroupRoutesForNodeMultitree 7 [] node members = .ok [] := by
  rw [buildGroupRoutesForNodeMultitree, canonical_accepted (canonical_nil 7)]
  rfl

theorem new_group_initial (connected : Finset UInt32) :
    (groupSync 7 1 connected).initial newGroup :=
  ⟨canonical_nil 7, ⟨fun _ => rfl, rfl⟩, fun node _ => no_trees_built node ∅⟩

theorem one_tree_canonical : canonicalizeGroupRouteTrees 7 oneTree = .ok oneTree :=
  one_tree_accepted 7 ⟨0, [(1, 2)]⟩ 458752 (by decide)

theorem request_taken (state : GroupSync) (connection : Nat) :
    state.request 7 1 connection 1 oneTree =
      state.setHandling (some connection) (some (.requested oneTree)) := by
  rw [GroupSync.request, if_neg (by decide), one_tree_canonical]

theorem on_one_tree {node : UInt32} (on : onTrees oneTree node = true) : node = 1 ∨ node = 2 := by
  simp only [onTrees, oneTree, isEndpoint, List.any_cons, List.any_nil, Bool.or_false,
    Bool.or_eq_true, decide_eq_true_eq] at on
  exact on.imp Eq.symm Eq.symm

def withTree (state : GroupSync) : GroupSync :=
  { state with trees := oneTree, held := sendGroupRoutes 7 oneTree state.members 2 state.held }

section Requests

variable {connected : Finset UInt32}

/-- A request is handled from its arrival to its end, whatever else is under way. -/
theorem request_handled {guard : GroupSync → GroupSyncLabel → Prop} (state : GroupSync)
    (inside : 2 ∈ connected) (apart : 1 ∉ connected) (untreed : state.trees = [])
    (sole : state.members = {2}) (free : state.handlings (some 0) = none)
    (begins : guard (state.setHandling (some 0) (some (.requested oneTree))) (.oldTreesRead 0))
    (proceeds : ∀ state label, (∀ connection, label ≠ .oldTreesRead connection) →
      label ≠ .syncStarted → (∀ node, label ≠ .left node) → guard state label) :
    ∃ labels, ((groupSync 7 1 connected).restrict guard).Run state labels (withTree state) := by
  let requested := state.setHandling (some 0) (some (.requested oneTree))
  let first := requested.setHandling (some 0) (some (.oldTreesRead oneTree state.trees))
  let second := first.setHandling (some 0) (some (.oldMembersRead oneTree state.trees state.members))
  let third := { second with trees := oneTree }.setHandling (some 0)
    (some (.replaced oneTree state.trees state.members))
  let fourth := third.setHandling (some 0) (some (.sending oneTree state.members [2]))
  let fifth := { fourth with held := sendGroupRoutes 7 oneTree state.members 2 state.held }.setHandling
    (some 0) (some (.sending oneTree state.members []))
  have arrival : GroupSyncStep 7 1 connected state (.requested 0 1 oneTree) requested := by
    have step : GroupSyncStep 7 1 connected state (.requested 0 1 oneTree) _ :=
      .requested state 0 1 oneTree free
    rw [request_taken] at step
    exact step
  have oldTrees : GroupSyncStep 7 1 connected requested (.oldTreesRead 0) first :=
    .oldTreesRead requested 0 oneTree rfl
  have oldMembers : GroupSyncStep 7 1 connected first (.oldMembersRead 0) second :=
    .oldMembersRead first 0 oneTree state.trees rfl
  have replaced : GroupSyncStep 7 1 connected second (.replaced 0) third :=
    .replaced second 0 oneTree state.trees state.members rfl
  have targets : ∀ node, node ∈ [2] ↔ node ∈ connected ∧
      RequestNotifies 1 oneTree state.trees state.members state.members node := by
    intro node
    rw [untreed, sole, List.mem_singleton]
    constructor
    · rintro rfl
      exact ⟨inside, .inr (.inl (by decide))⟩
    · rintro ⟨member, off | on | rfl | named | named⟩
      · cases off
      · exact (on_one_tree on).resolve_left fun first => apart (first ▸ member)
      · exact absurd member apart
      · exact Finset.mem_singleton.mp named
      · exact Finset.mem_singleton.mp named
  have members : GroupSyncStep 7 1 connected third (.membersRead 0 [2]) fourth :=
    .membersRead third 0 oneTree state.trees state.members [2] rfl targets
  have sent : GroupSyncStep 7 1 connected fourth (.sent (some 0)) fifth :=
    .sent fourth (some 0) oneTree state.members 2 [] rfl
  have finished : GroupSyncStep 7 1 connected fifth (.finished (some 0)) (fifth.setHandling (some 0) none) :=
    .finished fifth (some 0) oneTree state.members rfl
  have last : fifth.setHandling (some 0) none = withTree state := by
    simp only [fifth, fourth, third, second, first, requested, GroupSync.setHandling, withTree,
      Function.update_idem]
    rw [← free, Function.update_eq_self]
  have allowed {state next : GroupSync} {label : GroupSyncLabel}
      (step : GroupSyncStep 7 1 connected state label next) (others : ∀ c, label ≠ .oldTreesRead c)
      (idle : label ≠ .syncStarted) (stays : ∀ node, label ≠ .left node) :
      ((groupSync 7 1 connected).restrict guard).step state label next :=
    ⟨proceeds state label others idle stays, step⟩
  rw [last] at finished
  refine ⟨_, .cons (allowed arrival ?_ ?_ ?_) (.cons ⟨begins, oldTrees⟩
    (.cons (allowed oldMembers ?_ ?_ ?_) (.cons (allowed replaced ?_ ?_ ?_)
      (.cons (allowed members ?_ ?_ ?_) (.cons (allowed sent ?_ ?_ ?_)
        (.single (allowed finished ?_ ?_ ?_)))))))⟩ <;> simp

theorem tree_reaches_member :
    buildGroupRoutesForNodeMultitree 7 oneTree 2 {2} = .ok [⟨458752, [2]⟩] := by
  rw [buildGroupRoutesForNodeMultitree, one_tree_canonical]
  rfl

/-- Node 2 has joined, and the notification of it has read the tables. -/
def joinRead : GroupSync where
  trees := []
  members := {2}
  notifications := []
  handlings := Function.update (fun _ => none) none (some (.sending [] {2} [2]))
  held _ := []

theorem join_notified (inside : 2 ∈ connected) (apart : 1 ∉ connected) :
    ((groupSync 7 1 connected).restrict OneAtATime).Run newGroup
      [.joined 2, .syncStarted, .syncMembersRead [2]] joinRead := by
  let joined := newGroup.join 2
  let started := { joined with notifications := [] }.setHandling none
    (some (.recomputing [] (some 2)))
  have join : GroupSyncStep 7 1 connected newGroup (.joined 2) joined := .joined newGroup 2
  have start : GroupSyncStep 7 1 connected joined .syncStarted started :=
    .syncStarted joined (some 2) [] rfl rfl
  have targets : ∀ node, node ∈ [2] ↔ node ∈ connected ∧
      MulticastNodesToNotify 1 [] {2} (some 2) node := by
    intro node
    rw [List.mem_singleton]
    constructor
    · rintro rfl
      exact ⟨inside, .inr (.inr (.inr rfl))⟩
    · rintro ⟨member, off | rfl | named | named⟩
      · cases off
      · exact absurd member apart
      · exact Finset.mem_singleton.mp named
      · exact (Option.some.inj named).symm
  have reads : GroupSyncStep 7 1 connected started (.syncMembersRead [2])
      (started.setHandling none (some (.sending [] {2} [2]))) :=
    .syncMembersRead started [] (some 2) [2] rfl targets
  have last : started.setHandling none (some (.sending [] {2} [2])) = joinRead := by
    simp only [started, GroupSync.setHandling, Function.update_idem]
    rfl
  rw [last] at reads
  exact .cons ⟨trivial, join⟩ (.cons ⟨nofun, start⟩ (.single ⟨trivial, reads⟩))

end Requests

/-- Node 2 joins and is sent no entries, then a request for a tree to it is handled. Node 3 is on no
tree and no member. -/
theorem join_and_request_converge :
    ∃ labels finish, (groupSync 7 1 {2, 3}).Run newGroup labels finish ∧ finish.Quiet ∧
      finish.trees = oneTree ∧ finish.members = {2} ∧
        ∀ node ∈ ({2, 3} : Finset UInt32), HoldsEntries 7 finish node := by
  let sent := { joinRead with held := sendGroupRoutes 7 [] {2} 2 joinRead.held }.setHandling none
    (some (.sending [] {2} []))
  let notified := sent.setHandling none none
  have idle : ∀ worker, notified.handlings worker = none := by
    intro worker
    cases worker <;> rfl
  have sends : ((groupSync 7 1 {2, 3}).restrict OneAtATime).step joinRead (.sent none) sent :=
    ⟨trivial, .sent joinRead none [] {2} 2 [] rfl⟩
  have ends : ((groupSync 7 1 {2, 3}).restrict OneAtATime).step sent (.finished none) notified :=
    ⟨trivial, .finished sent none [] {2} rfl⟩
  have begins : OneAtATime (notified.setHandling (some 0) (some (.requested oneTree)))
      (.oldTreesRead 0) := by
    intro worker handling found
    by_cases here : worker = some 0
    · subst here
      simp only [GroupSync.setHandling, Function.update_self] at found
      cases found
      rfl
    · simp only [GroupSync.setHandling, Function.update_of_ne here] at found
      rw [idle worker] at found
      cases found
  have proceeds : ∀ state label, (∀ connection, label ≠ .oldTreesRead connection) →
      label ≠ .syncStarted → (∀ node, label ≠ .left node) → OneAtATime state label := by
    intro state label others idle stays
    cases label with
    | oldTreesRead connection => exact absurd rfl (others connection)
    | syncStarted => exact absurd rfl idle
    | left node => exact absurd rfl (stays node)
    | _ => trivial
  rcases request_handled notified (by decide : 2 ∈ ({2, 3} : Finset UInt32)) (by decide) rfl rfl
    (idle (some 0)) begins proceeds with ⟨labels, request⟩
  have run := (join_notified (by decide : 2 ∈ ({2, 3} : Finset UInt32)) (by decide)).append
    (.cons sends (.cons ends request))
  have quiet : (withTree notified).Quiet := ⟨idle, rfl⟩
  exact ⟨_, _, run.unrestricted, quiet, rfl, rfl,
    group_routes_converge (new_group_initial {2, 3}) run quiet⟩

/-- Node 2 joins, the notification reads the tables, the source sets a tree and its entries are sent,
and then those of the notification are: node 2 is left without the tree. -/
theorem notification_sent_last_stale :
    ∃ labels finish, (groupSync 7 1 {2}).Run newGroup labels finish ∧ finish.Quiet ∧
      ¬HoldsEntries 7 finish 2 := by
  let overtaken := withTree joinRead
  let stale := { overtaken with held := sendGroupRoutes 7 [] {2} 2 overtaken.held }.setHandling none
    (some (.sending [] {2} []))
  have joined := join_notified (by decide : 2 ∈ ({2} : Finset UInt32)) (by decide)
  rcases @request_handled {2} (fun _ _ => True) joinRead (by decide) (by decide) rfl rfl rfl trivial
    (fun _ _ _ _ _ => trivial) with ⟨labels, request⟩
  have sent : GroupSyncStep 7 1 {2} overtaken (.sent none) stale :=
    .sent overtaken none [] {2} 2 [] rfl
  have finished : GroupSyncStep 7 1 {2} stale (.finished none) (stale.setHandling none none) :=
    .finished stale none [] {2} rfl
  have run : (groupSync 7 1 {2}).Run newGroup _ (stale.setHandling none none) :=
    joined.unrestricted.append (.append request.unrestricted (.cons sent (.single finished)))
  refine ⟨_, _, run, ⟨?_, rfl⟩, ?_⟩
  · intro worker
    cases worker <;> rfl
  · intro holds
    have left : (stale.setHandling none none).held 2 = [] := by
      change sendGroupRoutes 7 [] {2} 2 overtaken.held 2 = []
      rw [sendGroupRoutes, no_trees_built]
      exact Function.update_self _ _ _
    rw [HoldsEntries, left] at holds
    have built := tree_reaches_member.symm.trans holds
    cases built

end Nextmini.Controller
