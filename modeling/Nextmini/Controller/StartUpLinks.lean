import Mathlib.Data.List.Sort
import Mathlib.Logic.Function.Basic
import Nextmini.Library.NarrowCasts
import Nextmini.Library.TransitionSystem
import Nextmini.Routing.RoutingTable

/-!
# Links at start-up

How the controller links nodes as they start: the handler of a StartUp message writes the row of its
node, later reads the rows of its neighbours in the topology, and sends an AddNode message for each of
them. Handlers of different connections interleave at every step. The rest of the start-up, and what
the connections do otherwise, leaves rows and links as they are.
-/

namespace Nextmini.Controller

open Nextmini.Library Nextmini.Routing

set_option autoImplicit false

/-! ## Neighbours in the topology -/

/-- The list at a position with one more value; positions behind the end are passed over. -/
def pushAt (neighbors : List (List Int)) (position : Nat) (value : Int) : List (List Int) :=
  neighbors.modify position fun list => list ++ [value]

def pushEdge (neighbors : List (List Int)) (edge : UInt32 × UInt32) : List (List Int) :=
  pushAt (pushAt neighbors edge.1.toNat (asI32 edge.2.toNat)) edge.2.toNat (asI32 edge.1.toNat)

def maxNodeId (edges : List (UInt32 × UInt32)) : Nat :=
  edges.foldl (fun found edge => max (max found edge.1.toNat) edge.2.toNat) 0

/-- `sort_unstable` and `dedup`: in the sorted list equal values stand together. -/
def sortDedup (list : List Int) : List Int :=
  (list.insertionSort (· ≤ ·)).dedup

def buildNeighborIndex (edges : List (UInt32 × UInt32)) : List (List Int) :=
  (edges.foldl pushEdge (List.replicate (maxNodeId edges + 1) [])).map sortDedup

def neighborIds (edges : List (UInt32 × UInt32)) (nodeId : NodeId) : List Int :=
  ((buildNeighborIndex edges)[nodeId]?).getD []

theorem push_at_length (neighbors : List (List Int)) (position : Nat) (value : Int) :
    (pushAt neighbors position value).length = neighbors.length :=
  List.length_modify _ _ _

theorem mem_push_at {neighbors : List (List Int)} {position : Nat} {value : Int}
    (inside : position < neighbors.length) (nodeId : Nat) (id : Int) :
    id ∈ ((pushAt neighbors position value)[nodeId]?).getD [] ↔
      id ∈ (neighbors[nodeId]?).getD [] ∨ (position = nodeId ∧ value = id) := by
  unfold pushAt
  rw [List.getElem?_modify]
  by_cases same : position = nodeId
  · subst same
    simp [inside, eq_comm]
  · simp [same]

theorem mem_push_edge {neighbors : List (List Int)} {edge : UInt32 × UInt32}
    (first : edge.1.toNat < neighbors.length) (second : edge.2.toNat < neighbors.length)
    (nodeId : Nat) (id : Int) :
    id ∈ ((pushEdge neighbors edge)[nodeId]?).getD [] ↔
      id ∈ (neighbors[nodeId]?).getD [] ∨
        (edge.1.toNat = nodeId ∧ asI32 edge.2.toNat = id) ∨
        (edge.2.toNat = nodeId ∧ asI32 edge.1.toNat = id) := by
  unfold pushEdge
  rw [mem_push_at (by rwa [push_at_length]), mem_push_at first, or_assoc]

theorem mem_fold_edges (edges : List (UInt32 × UInt32)) (neighbors : List (List Int))
    (inside : ∀ edge ∈ edges, edge.1.toNat < neighbors.length ∧ edge.2.toNat < neighbors.length)
    (nodeId : Nat) (id : Int) :
    id ∈ ((edges.foldl pushEdge neighbors)[nodeId]?).getD [] ↔
      id ∈ (neighbors[nodeId]?).getD [] ∨ ∃ edge ∈ edges,
        (edge.1.toNat = nodeId ∧ asI32 edge.2.toNat = id) ∨
        (edge.2.toNat = nodeId ∧ asI32 edge.1.toNat = id) := by
  induction edges generalizing neighbors with
  | nil => simp
  | cons edge rest induction =>
    have sized : (pushEdge neighbors edge).length = neighbors.length := by
      rw [pushEdge, push_at_length, push_at_length]
    have here := inside edge List.mem_cons_self
    rw [List.foldl_cons, induction, mem_push_edge here.1 here.2]
    · simp only [List.mem_cons, exists_eq_or_imp, or_assoc]
    · intro other member
      rw [sized]
      exact inside other (List.mem_cons_of_mem _ member)

theorem fold_max_le (edges : List (UInt32 × UInt32)) (found : Nat) :
    found ≤ edges.foldl (fun found edge => max (max found edge.1.toNat) edge.2.toNat) found ∧
      ∀ edge ∈ edges,
        edge.1.toNat ≤ edges.foldl (fun found edge => max (max found edge.1.toNat) edge.2.toNat) found ∧
        edge.2.toNat ≤
          edges.foldl (fun found edge => max (max found edge.1.toNat) edge.2.toNat) found := by
  induction edges generalizing found with
  | nil => simp
  | cons edge rest induction =>
    rcases induction (max (max found edge.1.toNat) edge.2.toNat) with ⟨above, others⟩
    rw [List.foldl_cons]
    refine ⟨by omega, ?_⟩
    intro other member
    rcases List.mem_cons.mp member with rfl | member
    · omega
    · exact others other member

theorem mem_neighbor_ids (edges : List (UInt32 × UInt32)) (nodeId : NodeId) (id : Int) :
    id ∈ neighborIds edges nodeId ↔ ∃ edge ∈ edges,
      (edge.1.toNat = nodeId ∧ asI32 edge.2.toNat = id) ∨
      (edge.2.toNat = nodeId ∧ asI32 edge.1.toNat = id) := by
  have whole := mem_fold_edges edges (List.replicate (maxNodeId edges + 1) []) (by
    intro edge member
    rw [List.length_replicate]
    have bounded := (fold_max_le edges 0).2 edge member
    unfold maxNodeId
    omega) nodeId id
  have empty : id ∉ ((List.replicate (maxNodeId edges + 1) ([] : List Int))[nodeId]?).getD [] := by
    rw [List.getElem?_replicate]
    split_ifs <;> simp
  simp only [empty, false_or] at whole
  rw [← whole]
  unfold neighborIds buildNeighborIndex
  rw [List.getElem?_map]
  cases (edges.foldl pushEdge (List.replicate (maxNodeId edges + 1) []))[nodeId]? with
  | none => rfl
  | some list => simp [sortDedup]

/-! ## Addresses -/

/-- The characters that `trim` takes away. -/
def isWhitespace (character : Char) : Bool :=
  let code := character.toNat
  (0x9 ≤ code ∧ code ≤ 0xd) ∨ code = 0x20 ∨ code = 0x85 ∨ code = 0xa0 ∨ code = 0x1680 ∨
    (0x2000 ≤ code ∧ code ≤ 0x200a) ∨ code = 0x2028 ∨ code = 0x2029 ∨ code = 0x202f ∨
    code = 0x205f ∨ code = 0x3000

def trim (name : String) : String :=
  String.ofList ((name.toList.dropWhile isWhitespace).reverse.dropWhile isWhitespace).reverse

def normalizePrivateNetworkName (name : String) : Option String :=
  if trim name = "" then none else some (trim name)

def sharesPrivateNetwork (a b : Option String) : Bool :=
  match a.map trim, b.map trim with
  | some a, some b => a ≠ "" ∧ a = b
  | _, _ => false

/-! ## Handlers -/

structure Node where
  id : Int
  privateNetworkName : Option String
  privateNetworkAddr : String
  publicNetworkAddr : String
  deriving DecidableEq

structure StartUp where
  privateNetworkName : String
  privateNetworkAddr : String
  publicNetworkAddr : String
  nodeId : Option NodeId

structure AddNode where
  remoteNodeId : NodeId
  remoteAddr : String
  deriving DecidableEq

def addNode (privateNetworkName : Option String) (node : Node) : AddNode where
  remoteNodeId := asUsize node.id
  remoteAddr :=
    if sharesPrivateNetwork node.privateNetworkName privateNetworkName then node.privateNetworkAddr
    else node.publicNetworkAddr

/-- Where a handler stands: its node is registered, then its row is written, then the rows of its
neighbours are read and it sends the rest of them; it has finished when none is left. -/
inductive HandlerStage where
  | registered
  | inserted
  | sending (rest : List Node)
  deriving DecidableEq

/-- An accepted StartUp message with what its connection has been sent so far. -/
structure StartUpHandler where
  connection : Nat
  nodeId : NodeId
  row : Node
  stage : HandlerStage
  sent : List AddNode

def StartUpHandler.found (handler : StartUpHandler) (nodes : List Node) : StartUpHandler :=
  { handler with stage := .sending nodes }

def StartUpHandler.send (handler : StartUpHandler) (node : Node) (rest : List Node) :
    StartUpHandler :=
  { handler with
    stage := .sending rest
    sent := handler.sent ++ [addNode handler.row.privateNetworkName node] }

def StartUpHandler.finished (handler : StartUpHandler) : Prop := handler.stage = .sending []

/-- The handlers are numbered in the order in which they were accepted. -/
structure StartUpLinks where
  rows : Int → Option Node
  nodeWs : NodeId → Option Nat
  currentNodeId : Nat → Option NodeId
  accepted : Nat
  handlers : Nat → Option StartUpHandler

namespace StartUpLinks

/-- A connection reads its next message when it is done with the last one. -/
def Idle (state : StartUpLinks) (connection : Nat) : Prop :=
  ∀ number handler, state.handlers number = some handler → handler.connection = connection →
    handler.finished

def setHandler (state : StartUpLinks) (number : Nat) (handler : StartUpHandler) : StartUpLinks :=
  { state with handlers := Function.update state.handlers number (some handler) }

/-- A message without an id and an id that is in use are refused. -/
def startUp (state : StartUpLinks) (connection : Nat) (message : StartUp) : StartUpLinks :=
  match message.nodeId with
  | none => state
  | some nodeId =>
      if (state.nodeWs nodeId).isSome then state
      else
        let row : Node :=
          { id := asI32 nodeId
            privateNetworkName := normalizePrivateNetworkName message.privateNetworkName
            privateNetworkAddr := message.privateNetworkAddr
            publicNetworkAddr := message.publicNetworkAddr }
        { state with
          nodeWs := Function.update state.nodeWs nodeId (some connection)
          accepted := state.accepted + 1
          handlers := Function.update state.handlers state.accepted
            (some ⟨connection, nodeId, row, .registered, []⟩) }

def insertRow (state : StartUpLinks) (number : Nat) (handler : StartUpHandler) : StartUpLinks :=
  { state with
    rows := Function.update state.rows handler.row.id (some handler.row)
    currentNodeId := Function.update state.currentNodeId handler.connection (some handler.nodeId)
    handlers := Function.update state.handlers number (some { handler with stage := .inserted }) }

def Selects (state : StartUpLinks) (ids : List Int) (nodes : List Node) : Prop :=
  nodes.Nodup ∧ ∀ node, node ∈ nodes ↔ ∃ id ∈ ids, state.rows id = some node

def close (state : StartUpLinks) (connection : Nat) : StartUpLinks :=
  match state.currentNodeId connection with
  | none => state
  | some nodeId => { state with nodeWs := Function.update state.nodeWs nodeId none }

end StartUpLinks

inductive LinkLabel where
  | startUp (connection : Nat) (message : StartUp)
  | inserted (number : Nat)
  | selected (number : Nat) (nodes : List Node)
  | sent (number : Nat)
  | closed (connection : Nat)

inductive LinkStep (edges : List (UInt32 × UInt32)) :
    StartUpLinks → LinkLabel → StartUpLinks → Prop
  | startUp (state : StartUpLinks) (connection : Nat) (message : StartUp) :
      state.Idle connection →
        LinkStep edges state (.startUp connection message) (state.startUp connection message)
  | inserted (state : StartUpLinks) (number : Nat) (handler : StartUpHandler) :
      state.handlers number = some handler → handler.stage = .registered →
        LinkStep edges state (.inserted number) (state.insertRow number handler)
  | selected (state : StartUpLinks) (number : Nat) (handler : StartUpHandler) (nodes : List Node) :
      state.handlers number = some handler → handler.stage = .inserted →
      state.Selects (neighborIds edges handler.nodeId) nodes →
        LinkStep edges state (.selected number nodes)
          (state.setHandler number (handler.found nodes))
  | sent (state : StartUpLinks) (number : Nat) (handler : StartUpHandler) (node : Node)
      (rest : List Node) :
      state.handlers number = some handler → handler.stage = .sending (node :: rest) →
        LinkStep edges state (.sent number)
          (state.setHandler number (handler.send node rest))
  | closed (state : StartUpLinks) (connection : Nat) :
      state.Idle connection → LinkStep edges state (.closed connection) (state.close connection)

/-- The rows of an earlier run of the controller may be there. -/
def startUpLinks (edges : List (UInt32 × UInt32)) : TransitionSystem StartUpLinks LinkLabel where
  initial state :=
    (∀ id node, state.rows id = some node → node.id = id) ∧ state.accepted = 0 ∧
      (∀ nodeId, state.nodeWs nodeId = none) ∧ (∀ connection, state.currentNodeId connection = none) ∧
        ∀ number, state.handlers number = none
  step := LinkStep edges

def Neighbours (edges : List (UInt32 × UInt32)) (first second : NodeId) : Prop :=
  ∃ edge ∈ edges, (edge.1.toNat = first ∧ edge.2.toNat = second) ∨
    (edge.1.toNat = second ∧ edge.2.toNat = first)

/-- Of two started neighbours one has been told of the other, and no node has been told of one that
is not its neighbour. -/
structure LinksCovered (edges : List (UInt32 × UInt32)) (state : StartUpLinks) : Prop where
  covered : ∀ edge ∈ edges, ∀ first second one other,
    state.handlers first = some one → state.handlers second = some other →
    one.finished → other.finished →
    one.nodeId = edge.1.toNat → other.nodeId = edge.2.toNat →
      (∃ message ∈ one.sent, message.remoteNodeId = other.nodeId) ∨
        ∃ message ∈ other.sent, message.remoteNodeId = one.nodeId
  neighbours : ∀ number handler, state.handlers number = some handler →
    ∀ message ∈ handler.sent, Neighbours edges handler.nodeId message.remoteNodeId

/-! ## What handlers have in common -/

/-- A handler has told its node of the node with a row id, or is about to. -/
def StartUpHandler.Tells (handler : StartUpHandler) (id : Int) : Prop :=
  (∃ rest, handler.stage = .sending rest ∧ ∃ node ∈ rest, node.id = id) ∨
    ∃ message ∈ handler.sent, message.remoteNodeId = asUsize id

/-- A handler that reads after it has written finds the row of every other that has written before;
of two that have read, one has found the other. -/
structure Linked (edges : List (UInt32 × UInt32)) (state : StartUpLinks) : Prop where
  fresh : ∀ number, state.accepted ≤ number → state.handlers number = none
  keyed : ∀ id node, state.rows id = some node → node.id = id
  own : ∀ number handler, state.handlers number = some handler →
    handler.row.id = asI32 handler.nodeId
  written : ∀ number handler, state.handlers number = some handler →
    handler.stage ≠ .registered → ∃ node, state.rows (asI32 handler.nodeId) = some node
  read : ∀ number handler rest, state.handlers number = some handler →
    handler.stage = .sending rest → ∀ node ∈ rest, node.id ∈ neighborIds edges handler.nodeId
  named : ∀ number handler, state.handlers number = some handler →
    ∀ message ∈ handler.sent, ∃ id ∈ neighborIds edges handler.nodeId,
      message.remoteNodeId = asUsize id
  met : ∀ first second one other oneRest otherRest,
    state.handlers first = some one → state.handlers second = some other →
    one.stage = .sending oneRest → other.stage = .sending otherRest →
    asI32 other.nodeId ∈ neighborIds edges one.nodeId →
    asI32 one.nodeId ∈ neighborIds edges other.nodeId →
      one.Tells (asI32 other.nodeId) ∨ other.Tells (asI32 one.nodeId)

variable {edges : List (UInt32 × UInt32)} {state next : StartUpLinks}

theorem linked_initial (initial : (startUpLinks edges).initial state) : Linked edges state := by
  rcases initial with ⟨keyed, _, _, _, none⟩
  have absent : ∀ {number handler}, ¬state.handlers number = some handler := by
    intro number handler found
    rw [none] at found
    cases found
  constructor
  · intro number _
    exact none number
  · exact keyed
  · intro number handler found
    exact absurd found absent
  · intro number handler found
    exact absurd found absent
  · intro number handler rest found
    exact absurd found absent
  · intro number handler found
    exact absurd found absent
  · intro first second one other oneRest otherRest found
    exact absurd found absent

theorem updated_handler {number other : Nat} {changed found : StartUpHandler}
    (present : Function.update state.handlers number (some changed) other = some found) :
    other = number ∧ found = changed ∨ other ≠ number ∧ state.handlers other = some found := by
  by_cases same : other = number
  · subst same
    rw [Function.update_self] at present
    exact .inl ⟨rfl, (Option.some.inj present).symm⟩
  · rw [Function.update_of_ne same] at present
    exact .inr ⟨same, present⟩

theorem linked_start_up (linked : Linked edges state) (connection : Nat) (message : StartUp) :
    Linked edges (state.startUp connection message) := by
  unfold StartUpLinks.startUp
  split
  · exact linked
  · rename_i nodeId requested
    split_ifs
    · exact linked
    · constructor
      · intro number later
        have different : number ≠ state.accepted := by
          intro same
          have behind : state.accepted + 1 ≤ number := later
          omega
        exact (Function.update_of_ne different _ _).trans
          (linked.fresh number (Nat.le_of_succ_le later))
      · exact linked.keyed
      · intro number handler found
        rcases updated_handler found with ⟨_, rfl⟩ | ⟨_, found⟩
        · rfl
        · exact linked.own number handler found
      · intro number handler found stage
        rcases updated_handler found with ⟨_, rfl⟩ | ⟨_, found⟩
        · exact absurd rfl stage
        · exact linked.written number handler found stage
      · intro number handler rest found stage
        rcases updated_handler found with ⟨_, rfl⟩ | ⟨_, found⟩
        · cases stage
        · exact linked.read number handler rest found stage
      · intro number handler found told member
        rcases updated_handler found with ⟨_, rfl⟩ | ⟨_, found⟩
        · cases member
        · exact linked.named number handler found told member
      · intro first second one other oneRest otherRest atFirst atSecond oneStage otherStage
        rcases updated_handler atFirst with ⟨_, rfl⟩ | ⟨_, atFirst⟩
        · cases oneStage
        · rcases updated_handler atSecond with ⟨_, rfl⟩ | ⟨_, atSecond⟩
          · cases otherStage
          · exact linked.met first second one other oneRest otherRest atFirst atSecond oneStage
              otherStage

theorem fresh_updated (linked : Linked edges state) {number later : Nat} {handler : StartUpHandler}
    (present : state.handlers number = some handler) (beyond : state.accepted ≤ later)
    (changed : StartUpHandler) :
    Function.update state.handlers number (some changed) later = none := by
  have absent := linked.fresh later beyond
  have different : later ≠ number := by
    intro same
    rw [same, present] at absent
    cases absent
  rw [Function.update_of_ne different, absent]

theorem linked_inserted (linked : Linked edges state) {number : Nat} {handler : StartUpHandler}
    (present : state.handlers number = some handler) :
    Linked edges (state.insertRow number handler) := by
  have rows : ∀ {id node}, state.rows id = some node →
      ∃ node, (state.insertRow number handler).rows id = some node := by
    intro id node found
    by_cases same : id = handler.row.id
    · rw [same]
      exact ⟨_, Function.update_self _ _ _⟩
    · exact ⟨node, (Function.update_of_ne same _ _).trans found⟩
  constructor
  · intro later beyond
    exact fresh_updated linked present beyond _
  · intro id node found
    by_cases same : id = handler.row.id
    · have placed : (state.insertRow number handler).rows handler.row.id = some handler.row :=
        Function.update_self _ _ _
      rw [same, placed] at found
      cases found
      exact same.symm
    · exact linked.keyed id node ((Function.update_of_ne same _ _).symm.trans found)
  · intro other found at_it
    rcases updated_handler at_it with ⟨_, rfl⟩ | ⟨_, at_it⟩
    · exact linked.own number handler present
    · exact linked.own other found at_it
  · intro other found at_it stage
    rcases updated_handler at_it with ⟨_, rfl⟩ | ⟨_, at_it⟩
    · rw [← linked.own number handler present]
      exact ⟨_, Function.update_self _ _ _⟩
    · rcases linked.written other found at_it stage with ⟨node, written⟩
      exact rows written
  · intro other found rest at_it stage
    rcases updated_handler at_it with ⟨_, rfl⟩ | ⟨_, at_it⟩
    · cases stage
    · exact linked.read other found rest at_it stage
  · intro other found at_it told member
    rcases updated_handler at_it with ⟨_, rfl⟩ | ⟨_, at_it⟩
    · exact linked.named number handler present told member
    · exact linked.named other found at_it told member
  · intro first second one other oneRest otherRest atFirst atSecond oneStage otherStage
    rcases updated_handler atFirst with ⟨_, rfl⟩ | ⟨_, atFirst⟩
    · cases oneStage
    · rcases updated_handler atSecond with ⟨_, rfl⟩ | ⟨_, atSecond⟩
      · cases otherStage
      · exact linked.met first second one other oneRest otherRest atFirst atSecond oneStage otherStage

theorem linked_set_handler (linked : Linked edges state) {number : Nat}
    {handler : StartUpHandler} {rest : List Node} (changed : StartUpHandler)
    (present : state.handlers number = some handler) (written : handler.stage ≠ .registered)
    (nodeId : changed.nodeId = handler.nodeId) (row : changed.row = handler.row)
    (sending : changed.stage = .sending rest)
    (read : ∀ node ∈ rest, node.id ∈ neighborIds edges handler.nodeId)
    (named : ∀ message ∈ changed.sent, ∃ id ∈ neighborIds edges handler.nodeId,
      message.remoteNodeId = asUsize id)
    (met : ∀ second other otherRest, state.handlers second = some other →
      other.stage = .sending otherRest ∨ other = handler →
      asI32 other.nodeId ∈ neighborIds edges handler.nodeId →
      asI32 handler.nodeId ∈ neighborIds edges other.nodeId →
        changed.Tells (asI32 other.nodeId) ∨
          second ≠ number ∧ other.Tells (asI32 handler.nodeId)) :
    Linked edges (state.setHandler number changed) := by
  constructor
  · intro later beyond
    exact fresh_updated linked present beyond _
  · exact linked.keyed
  · intro other found at_it
    rcases updated_handler at_it with ⟨_, rfl⟩ | ⟨_, at_it⟩
    · rw [row, nodeId]
      exact linked.own number handler present
    · exact linked.own other found at_it
  · intro other found at_it stage
    rcases updated_handler at_it with ⟨_, rfl⟩ | ⟨_, at_it⟩
    · rw [nodeId]
      exact linked.written number handler present written
    · exact linked.written other found at_it stage
  · intro other found others at_it stage
    rcases updated_handler at_it with ⟨_, rfl⟩ | ⟨_, at_it⟩
    · rw [sending] at stage
      cases stage
      rw [nodeId]
      exact read
    · exact linked.read other found others at_it stage
  · intro other found at_it told member
    rcases updated_handler at_it with ⟨_, rfl⟩ | ⟨_, at_it⟩
    · rw [nodeId]
      exact named told member
    · exact linked.named other found at_it told member
  · intro first second one other oneRest otherRest atFirst atSecond oneStage otherStage
      otherNear oneNear
    rcases updated_handler atFirst with ⟨_, oneIs⟩ | ⟨_, atFirst⟩
    · rcases updated_handler atSecond with ⟨_, otherIs⟩ | ⟨_, atSecond⟩
      · rw [oneIs, otherIs, nodeId] at otherNear
        rw [oneIs, otherIs, nodeId]
        rcases met number handler oneRest present (.inr rfl) otherNear otherNear with
          tells | ⟨itself, _⟩
        · exact .inl tells
        · exact absurd rfl itself
      · rw [oneIs, nodeId] at otherNear oneNear
        rw [oneIs, nodeId]
        rcases met second other otherRest atSecond (.inl otherStage) otherNear oneNear with
          tells | ⟨_, tells⟩
        · exact .inl tells
        · exact .inr tells
    · rcases updated_handler atSecond with ⟨_, otherIs⟩ | ⟨_, atSecond⟩
      · rw [otherIs, nodeId] at otherNear oneNear
        rw [otherIs, nodeId]
        rcases met first one oneRest atFirst (.inl oneStage) oneNear otherNear with
          tells | ⟨_, tells⟩
        · exact .inr tells
        · exact .inl tells
      · exact linked.met first second one other oneRest otherRest atFirst atSecond oneStage otherStage
          otherNear oneNear

theorem linked_selected (linked : Linked edges state) {number : Nat} {handler : StartUpHandler}
    {nodes : List Node} (present : state.handlers number = some handler)
    (inserted : handler.stage = .inserted)
    (selects : state.Selects (neighborIds edges handler.nodeId) nodes) :
    Linked edges (state.setHandler number (handler.found nodes)) := by
  have written : handler.stage ≠ .registered := by
    rw [inserted]
    exact HandlerStage.noConfusion
  apply linked_set_handler linked (handler.found nodes) present written rfl rfl rfl
  · intro node member
    rcases (selects.2 node).mp member with ⟨id, near, found⟩
    rw [linked.keyed id node found]
    exact near
  · exact linked.named number handler present
  · intro second other otherRest atSecond stage near _
    -- whoever has read or is reading has written its row before
    have theirs : other.stage ≠ .registered := by
      rcases stage with stage | rfl
      · rw [stage]
        exact HandlerStage.noConfusion
      · exact written
    rcases linked.written second other atSecond theirs with ⟨node, found⟩
    exact .inl (.inl ⟨nodes, rfl, node, (selects.2 node).mpr ⟨_, near, found⟩,
      linked.keyed _ _ found⟩)

theorem linked_sent (linked : Linked edges state) {number : Nat} {handler : StartUpHandler}
    {node : Node} {rest : List Node} (present : state.handlers number = some handler)
    (sending : handler.stage = .sending (node :: rest)) :
    Linked edges (state.setHandler number (handler.send node rest)) := by
  have written : handler.stage ≠ .registered := by
    rw [sending]
    exact HandlerStage.noConfusion
  have tells : ∀ id, handler.Tells id → (handler.send node rest).Tells id := by
    rintro id (⟨waiting, stage, found, member, same⟩ | ⟨message, member, names⟩)
    · rw [sending] at stage
      cases stage
      rcases List.mem_cons.mp member with rfl | member
      · refine .inr ⟨_, List.mem_append_right _ (List.mem_singleton_self _), ?_⟩
        rw [← same]
        rfl
      · exact .inl ⟨rest, rfl, found, member, same⟩
    · exact .inr ⟨message, List.mem_append_left _ member, names⟩
  apply linked_set_handler linked (handler.send node rest) present written rfl rfl rfl
  · intro other member
    exact linked.read number handler _ present sending other (List.mem_cons_of_mem _ member)
  · intro message member
    rcases List.mem_append.mp member with member | member
    · exact linked.named number handler present message member
    · rw [List.mem_singleton.mp member]
      exact ⟨node.id, linked.read number handler _ present sending node List.mem_cons_self, rfl⟩
  · intro second other otherRest atSecond stage otherNear near
    by_cases itself : second = number
    · rw [itself, present] at atSecond
      cases atSecond
      rcases linked.met number number handler handler _ _ present present sending sending otherNear
        near with told | told
      · exact .inl (tells _ told)
      · exact .inl (tells _ told)
    · rcases stage with stage | rfl
      · rcases linked.met number second handler other _ otherRest present atSecond sending stage
          otherNear near with told | told
        · exact .inl (tells _ told)
        · exact .inr ⟨itself, told⟩
      · rcases linked.met number second other other _ _ present atSecond sending sending otherNear
          near with told | told
        · exact .inl (tells _ told)
        · exact .inl (tells _ told)

theorem linked_step {label : LinkLabel} (linked : Linked edges state)
    (step : LinkStep edges state label next) : Linked edges next := by
  cases step with
  | startUp connection message idle => exact linked_start_up linked connection message
  | inserted number handler present registered => exact linked_inserted linked present
  | selected number handler nodes present inserted selects =>
    exact linked_selected linked present inserted selects
  | sent number handler node rest present sending => exact linked_sent linked present sending
  | closed connection idle =>
    unfold StartUpLinks.close
    split
    · exact linked
    · rcases linked with ⟨fresh, keyed, own, written, read, named, met⟩
      exact ⟨fresh, keyed, own, written, read, named, met⟩

theorem linked_of_reachable (reachable : (startUpLinks edges).Reachable state) :
    Linked edges state := by
  apply TransitionSystem.invariant_of_reachable _ _ reachable
  · intro state initial
    exact linked_initial initial
  · intro state label next linked step
    exact linked_step linked step

theorem told_of_finished {handler : StartUpHandler} {id : Int} (finished : handler.finished)
    (tells : handler.Tells id) : ∃ message ∈ handler.sent, message.remoteNodeId = asUsize id := by
  rcases tells with ⟨rest, stage, node, member, _⟩ | told
  · rw [StartUpHandler.finished] at finished
    rw [finished] at stage
    cases stage
    cases member
  · exact told

theorem narrow_links_covered (linked : Linked edges state)
    (narrow : ∀ edge ∈ edges, edge.1.toNat < 2 ^ 31 ∧ edge.2.toNat < 2 ^ 31) :
    LinksCovered edges state := by
  constructor
  · intro edge member first second one other atFirst atSecond oneFinished otherFinished oneIs otherIs
    have otherNear : asI32 other.nodeId ∈ neighborIds edges one.nodeId := by
      rw [mem_neighbor_ids, oneIs, otherIs]
      exact ⟨edge, member, .inl ⟨rfl, rfl⟩⟩
    have oneNear : asI32 one.nodeId ∈ neighborIds edges other.nodeId := by
      rw [mem_neighbor_ids, oneIs, otherIs]
      exact ⟨edge, member, .inr ⟨rfl, rfl⟩⟩
    have bounds := narrow edge member
    rcases linked.met first second one other [] [] atFirst atSecond oneFinished otherFinished
      otherNear oneNear with tells | tells
    · rcases told_of_finished oneFinished tells with ⟨message, sent, names⟩
      rw [as_usize_as_i32 (otherIs ▸ bounds.2)] at names
      exact .inl ⟨message, sent, names⟩
    · rcases told_of_finished otherFinished tells with ⟨message, sent, names⟩
      rw [as_usize_as_i32 (oneIs ▸ bounds.1)] at names
      exact .inr ⟨message, sent, names⟩
  · intro number handler present message sent
    rcases linked.named number handler present message sent with ⟨id, near, names⟩
    rcases (mem_neighbor_ids edges handler.nodeId id).mp near with
      ⟨edge, member, ⟨here, rfl⟩ | ⟨here, rfl⟩⟩
    · rw [as_usize_as_i32 (narrow edge member).2] at names
      exact ⟨edge, member, .inl ⟨here, names.symm⟩⟩
    · rw [as_usize_as_i32 (narrow edge member).1] at names
      exact ⟨edge, member, .inr ⟨names.symm, here⟩⟩

/-! ## Ids that do not fit a row -/

theorem selects_first (linked : Linked edges state) {ids : List Int} {id : Int} {node : Node}
    (near : id ∈ ids) (found : state.rows id = some node) :
    ∃ rest, state.Selects ids (node :: rest) := by
  have distinct : (ids.dedup.filterMap state.rows).Nodup := by
    apply (List.nodup_dedup ids).filterMap
    intro first second node atFirst atSecond
    exact (linked.keyed first node atFirst).symm.trans (linked.keyed second node atSecond)
  have listed : ∀ other, other ∈ ids.dedup.filterMap state.rows ↔
      ∃ id ∈ ids, state.rows id = some other := by
    intro other
    simp only [List.mem_filterMap, List.mem_dedup]
  have first : (node :: (ids.dedup.filterMap state.rows).erase node).Perm
      (ids.dedup.filterMap state.rows) :=
    (List.perm_cons_erase ((listed node).mpr ⟨id, near, found⟩)).symm
  refine ⟨_, first.nodup_iff.mpr distinct, ?_⟩
  intro other
  rw [first.mem_iff, listed]

/-- A handler that has written its row can tell its node of any neighbour with a row. -/
theorem can_tell (reachable : (startUpLinks edges).Reachable state) {number : Nat}
    {handler : StartUpHandler} {id : Int} {node : Node}
    (present : state.handlers number = some handler) (inserted : handler.stage = .inserted)
    (near : id ∈ neighborIds edges handler.nodeId) (found : state.rows id = some node) :
    ∃ told later, (startUpLinks edges).Reachable later ∧ later.handlers number = some told ∧
      told.nodeId = handler.nodeId ∧ ∃ message ∈ told.sent, message.remoteNodeId = asUsize id := by
  have linked := linked_of_reachable reachable
  rcases selects_first linked near found with ⟨rest, selects⟩
  have read : LinkStep edges state (.selected number (node :: rest))
      (state.setHandler number (handler.found (node :: rest))) :=
    .selected state number handler _ present inserted selects
  have placed : (state.setHandler number (handler.found (node :: rest))).handlers number =
      some (handler.found (node :: rest)) := Function.update_self _ _ _
  have sent : LinkStep edges _ (.sent number) _ := .sent _ number _ node rest placed rfl
  refine ⟨(handler.found (node :: rest)).send node rest, _, (reachable.step read).step sent,
    Function.update_self _ _ _, rfl, addNode handler.row.privateNetworkName node, ?_, ?_⟩
  · exact List.mem_append_right _ (List.mem_singleton_self _)
  · rw [← linked.keyed id node found]
    rfl

def noLinks : StartUpLinks := ⟨fun _ => none, fun _ => none, fun _ => none, 0, fun _ => none⟩

theorem no_links_initial : (startUpLinks edges).initial noLinks := by
  refine ⟨?_, rfl, fun _ => rfl, fun _ => rfl, fun _ => rfl⟩
  intro id node found
  cases found

def plainStartUp (nodeId : NodeId) : StartUp := ⟨"", "10.0.0.1:8000", "10.0.0.1:8000", some nodeId⟩

theorem can_start (reachable : (startUpLinks edges).Reachable state) (nodeId : NodeId)
    (connection : Nat) (unused : ∀ number handler, state.handlers number = some handler →
      handler.connection ≠ connection) (free : state.nodeWs nodeId = none) :
    ∃ handler later node, (startUpLinks edges).Reachable later ∧
      later.handlers state.accepted = some handler ∧ handler.nodeId = nodeId ∧
      handler.stage = .inserted ∧ later.rows (asI32 nodeId) = some node ∧
      (∀ id, id ≠ asI32 nodeId → later.rows id = state.rows id) ∧
      (∀ number found, later.handlers number = some found →
        found.connection = connection ∨ state.handlers number = some found) ∧
      ∀ other, other ≠ nodeId → later.nodeWs other = state.nodeWs other := by
  have idle : state.Idle connection := by
    intro number handler present here
    exact absurd here (unused number handler present)
  have started : LinkStep edges state (.startUp connection (plainStartUp nodeId))
      (state.startUp connection (plainStartUp nodeId)) := .startUp state connection _ idle
  generalize shape : state.startUp connection (plainStartUp nodeId) = next at started
  simp only [StartUpLinks.startUp, plainStartUp, free, Option.isSome_none, Bool.false_eq_true,
    if_false] at shape
  have placed : next.handlers state.accepted =
      some ⟨connection, nodeId, ⟨asI32 nodeId, normalizePrivateNetworkName "", "10.0.0.1:8000",
        "10.0.0.1:8000"⟩, .registered, []⟩ := by
    rw [← shape]
    exact Function.update_self _ _ _
  have written : LinkStep edges next (.inserted state.accepted) _ :=
    .inserted next state.accepted _ placed rfl
  refine ⟨_, _, _, (reachable.step started).step written, Function.update_self _ _ _, rfl, rfl,
    Function.update_self _ _ _, ?_, ?_, ?_⟩
  · intro id different
    refine (Function.update_of_ne different _ _).trans ?_
    rw [← shape]
  · intro number found at_it
    rcases updated_handler at_it with ⟨_, rfl⟩ | ⟨different, at_it⟩
    · exact .inl rfl
    · rw [← shape] at at_it
      exact .inr ((Function.update_of_ne different _ _).symm.trans at_it)
  · intro other different
    rw [← shape]
    exact Function.update_of_ne different _ _

theorem neighbour_word {first second : Nat} (near : Neighbours edges first second) :
    second < 2 ^ 32 := by
  rcases near with ⟨edge, _, ⟨_, rfl⟩ | ⟨rfl, _⟩⟩
  · exact edge.2.toNat_lt
  · exact edge.1.toNat_lt

/-- A node that reads the row of an id with its highest bit set is told of another id. -/
theorem wide_id_misnamed {wide nodeId : Nat} (near : asI32 wide ∈ neighborIds edges nodeId)
    (large : 2 ^ 31 ≤ wide) (word : wide < 2 ^ 32) :
    ∃ state, (startUpLinks edges).Reachable state ∧ ¬LinksCovered edges state := by
  have misnamed : ∀ {state number handler node}, (startUpLinks edges).Reachable state →
      state.handlers number = some handler → handler.nodeId = nodeId → handler.stage = .inserted →
      state.rows (asI32 wide) = some node →
        ∃ state, (startUpLinks edges).Reachable state ∧ ¬LinksCovered edges state := by
    intro state number handler node reachable present own inserted found
    rcases can_tell reachable present inserted (own ▸ near) found with
      ⟨told, later, reached, at_it, _, message, sent, names⟩
    refine ⟨later, reached, ?_⟩
    intro covered
    have bounded := neighbour_word (covered.neighbours number told at_it message sent)
    rw [names, as_usize_as_i32_large large word] at bounded
    have excess : 2 ^ 32 ≤ wide + (2 ^ 64 - 2 ^ 32) := by omega
    exact absurd bounded (Nat.not_lt.mpr excess)
  have first : (startUpLinks edges).Reachable noLinks :=
    TransitionSystem.reachable_of_initial no_links_initial
  have none : ∀ number handler, noLinks.handlers number = some handler → handler.connection ≠ 0 := by
    intro number handler present
    cases present
  rcases can_start first wide 0 none rfl with
    ⟨handler, state, node, reachable, present, own, inserted, found, _, handlers, others⟩
  by_cases same : nodeId = wide
  · exact misnamed reachable present (own.trans same.symm) inserted found
  · have unused : ∀ number handler, state.handlers number = some handler →
        handler.connection ≠ 1 := by
      intro number handler present
      rcases handlers number handler present with here | earlier
      · rw [here]
        exact Nat.zero_ne_one
      · cases earlier
    rcases can_start reachable nodeId 1 unused (others nodeId same) with
      ⟨second, later, row, reached, at_it, theirs, written, placed, kept, _, _⟩
    by_cases alike : asI32 wide = asI32 nodeId
    · rw [← alike] at placed
      exact misnamed reached at_it theirs written placed
    · rw [← kept _ alike] at found
      exact misnamed reached at_it theirs written found

/-- The links of every run are covered exactly when the ids of the topology fit the rows' ids. -/
theorem links_covered_iff (edges : List (UInt32 × UInt32)) :
    (∀ state, (startUpLinks edges).Reachable state → LinksCovered edges state) ↔
      ∀ edge ∈ edges, edge.1.toNat < 2 ^ 31 ∧ edge.2.toNat < 2 ^ 31 := by
  constructor
  · intro covered edge member
    have second : asI32 edge.2.toNat ∈ neighborIds edges edge.1.toNat :=
      (mem_neighbor_ids _ _ _).mpr ⟨edge, member, .inl ⟨rfl, rfl⟩⟩
    have first : asI32 edge.1.toNat ∈ neighborIds edges edge.2.toNat :=
      (mem_neighbor_ids _ _ _).mpr ⟨edge, member, .inr ⟨rfl, rfl⟩⟩
    constructor
    · by_contra wide
      rcases wide_id_misnamed first (Nat.le_of_not_lt wide) edge.1.toNat_lt with
        ⟨state, reachable, uncovered⟩
      exact uncovered (covered state reachable)
    · by_contra wide
      rcases wide_id_misnamed second (Nat.le_of_not_lt wide) edge.2.toNat_lt with
        ⟨state, reachable, uncovered⟩
      exact uncovered (covered state reachable)
  · intro narrow state reachable
    exact narrow_links_covered (linked_of_reachable reachable) narrow

/-- An edge to node 2147483648: node 1 is told of node 18446744071562067968. -/
theorem wide_edge_uncovered :
    ∃ state, (startUpLinks [(1, 2147483648)]).Reachable state ∧
      ¬LinksCovered [(1, 2147483648)] state := by
  have near : asI32 2147483648 ∈ neighborIds [(1, 2147483648)] 1 :=
    (mem_neighbor_ids _ _ _).mpr ⟨_, List.mem_singleton_self _, .inl ⟨rfl, rfl⟩⟩
  exact wide_id_misnamed near (by decide) (by decide)

end Nextmini.Controller
