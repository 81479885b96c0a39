import Mathlib.Logic.Function.Basic
import Nextmini.Node.FlowLines

/-!
# Networks of nodes

Nodes in sequential mode, joined by connections. What leaves the scheduler of a neighbor goes over the
connection to it in order, and the reader at the other end submits one packet after another to the
processors there. A packet may be lost on a connection: one that a rate limit leaves out, a probe that
its reader keeps, or the rest when the connection breaks. The steps of all nodes and readers interleave
in every order. A node has one connection to each neighbor, and names its scheduler after it. UDP, which
may reorder packets, is left out.
-/

namespace Nextmini.Node

open Nextmini.Library Nextmini.Library.PipeChain Nextmini.Routing

set_option autoImplicit false

/-! ## The network -/

/-- The packets read from each connection are counted, and those that a node has handed to its own
receivers are kept along. -/
structure NodeNetwork (config : NodeId → NodeConfig) where
  node : (id : NodeId) → SequentialNode (config id)
  read : NodeId → NodeId → Nat
  delivered : NodeId → List Packet

namespace NodeNetwork

variable {config : NodeId → NodeConfig}

def new (config : NodeId → NodeConfig) : NodeNetwork config where
  node id := .new (config id)
  read _ _ := 0
  delivered _ := []

def setNode (state : NodeNetwork config) (id : NodeId) (next : SequentialNode (config id)) :
    NodeNetwork config :=
  { state with node := Function.update state.node id next }

/-- The reader of a connection has taken a packet. -/
def readOn (state : NodeNetwork config) (first second : NodeId) : NodeNetwork config :=
  { state with
    read := Function.update state.read first
      (Function.update (state.read first) second (state.read first second + 1)) }

def deliver (state : NodeNetwork config) (id : NodeId) (packets : List Packet) : NodeNetwork config :=
  { state with delivered := Function.update state.delivered id (state.delivered id ++ packets) }

def arrived (state : NodeNetwork config) (first second : NodeId) : List Packet :=
  ((state.node first).left second).take (state.read first second)

def onWire (state : NodeNetwork config) (first second : NodeId) : List Packet :=
  ((state.node first).left second).drop (state.read first second)

end NodeNetwork

inductive NetworkLabel where
  | stepped (id : NodeId) (label : SequentialLabel)
  | relayed (first second : NodeId)
  | lost (first second : NodeId)

section Steps

variable (slots : LaneSlots) (slot : JumpSlot) {config : NodeId → NodeConfig}

inductive NetworkStep (state : NodeNetwork config) : NetworkLabel → NodeNetwork config → Prop
  | stepped (id : NodeId) (label : SequentialLabel) (next : SequentialNode (config id)) :
      SequentialStep slots slot (state.node id) label next →
        (∀ index neighbor handle, label = .messageHandled index (.addNode neighbor handle) →
          handle = neighbor) →
        NetworkStep state (.stepped id label)
          ((state.setNode id next).deliver id ((state.node id).handedOver label))
  | relayed (first second : NodeId) (packet : Packet) (rest : List Packet)
      (next : SequentialNode (config second)) :
      state.onWire first second = packet :: rest →
        SequentialStep slots slot (state.node second) (.processed packet) next →
        NetworkStep state (.relayed first second) ((state.setNode second next).readOn first second)
  | lost (first second : NodeId) (packet : Packet) (rest : List Packet) :
      state.onWire first second = packet :: rest →
        NetworkStep state (.lost first second) (state.readOn first second)

def network (config : NodeId → NodeConfig) : TransitionSystem (NodeNetwork config) NetworkLabel where
  initial state := state = .new config
  step := NetworkStep slots slot

end Steps

/-! ## Routes of a flow and tree -/

/-- Next hops that lead away from a source along a tree: into no node from two others, and not back
to the source. -/
structure RouteTree (hops : NodeId → List NodeId) (source : NodeId) : Prop where
  apart : ∀ id, (hops id).Nodup
  oneWay : ∀ first other second, second ∈ hops first → second ≠ first → second ∈ hops other →
    second ≠ other → first = other
  rooted : ∀ id, source ∈ hops id → id = source

section Guards

variable (slots : LaneSlots) (slot : JumpSlot) (key : FlowTree) (hops : NodeId → List NodeId)
  (source : NodeId) {config : NodeId → NodeConfig}

/-- The lookups of a flow and tree follow the routes, and its packets come into the network at the
source. -/
structure OnRoute (state : NodeNetwork config) (label : NetworkLabel) : Prop where
  looksUp : ∀ id inner, label = .stepped id inner →
    SequentialNode.LooksUp slot key (hops id) (state.node id) inner
  entered : ∀ id inner, label = .stepped id inner → id ≠ source → key.of inner.submitted = []

/-- A step that may lose a packet of the flow and tree is one of those at which packets may be lost. -/
structure LosesOnly (lossy : Prop) (state : NodeNetwork config) (label : NetworkLabel) : Prop where
  refused : ∀ id inner, label = .stepped id inner → (state.node id).refuses slots key inner → lossy
  sent : ∀ id inner, label = .stepped id inner → ∀ handle ∈ hops id, handle ≠ id →
    (state.node id).mayLose slots key handle inner → lossy
  relayed : ∀ first second packet rest, label = .relayed first second →
    state.onWire first second = packet :: rest →
      (state.node second).refuses slots key (.processed packet) → lossy
  dropped : ∀ first second packet rest, label = .lost first second →
    state.onWire first second = packet :: rest → packet.flowTree = key → lossy

end Guards

/-! ## What is known of a reachable state -/

section Invariant

variable {slots : LaneSlots} {slot : JumpSlot} {key : FlowTree} {hops : NodeId → List NodeId}
  {source : NodeId} {lossy : Prop} {config : NodeId → NodeConfig} {state : NodeNetwork config}
  {id : NodeId} {label : SequentialLabel} {next : SequentialNode (config id)}

/-- The packets of the flow and tree are in their own lanes and only where the routes lead. -/
structure Routed (slots : LaneSlots) (key : FlowTree) (hops : NodeId → List NodeId)
    (state : NodeNetwork config) : Prop where
  sorted : ∀ id handle, ((state.node id).scheduler handle).queue.Sorted
  ownLane : ∀ id index, ∀ packet ∈ ((state.node id).lane index).packets,
    (config id).laneOf slots packet.flowTree = index
  announced : ∀ id, SequentialNode.Announced (state.node id)
  beyond : ∀ id handle, ¬(handle ∈ hops id ∧ handle ≠ id) →
    (state.node id).beyond slots handle key = []
  keeping : ∀ id, id ∉ hops id →
    (state.node id).keeping slots key = [] ∧ key.of (state.delivered id) = []

/-- What a node sends to a neighbor, what it hands to its own receivers and what the neighbors read
are the packets submitted to it, some missing only where packets may be lost. -/
structure Traced (slots : LaneSlots) (key : FlowTree) (hops : NodeId → List NodeId) (lossy : Prop)
    (state : NodeNetwork config) : Prop extends Routed slots key hops state where
  within : ∀ first second, state.read first second ≤ ((state.node first).left second).length
  lines : ∀ id, ∀ handle ∈ hops id, handle ≠ id →
    CarriedOver lossy (key.of (state.node id).submitted) ((state.node id).line slots handle key)
  kept : ∀ id, id ∈ hops id → CarriedOver lossy (key.of (state.node id).submitted)
    (key.of (state.delivered id) ++ (state.node id).keeping slots key ++
      (state.node id).waiting slots key)
  links : ∀ first, ∀ second ∈ hops first, second ≠ first →
    CarriedOver lossy (key.of (state.arrived first second)) (key.of (state.node second).submitted)

theorem routed_stepped (named : (config id).nodeId = id) (routed : Routed slots key hops state)
    (looksUp : SequentialNode.LooksUp slot key (hops id) (state.node id) label)
    (announces : ∀ index neighbor handle, label = .messageHandled index (.addNode neighbor handle) →
      handle = neighbor)
    (step : SequentialStep slots slot (state.node id) label next) :
    Routed slots key hops ((state.setNode id next).deliver id ((state.node id).handedOver label)) where
  sorted := by
    apply (Function.forall_update_iff state.node fun _ node =>
      ∀ handle, (node.scheduler handle).queue.Sorted).mpr
    exact ⟨sorted_of_step (routed.sorted id) step, fun other _ => routed.sorted other⟩
  ownLane := by
    apply (Function.forall_update_iff state.node fun other node =>
      ∀ index, ∀ packet ∈ (node.lane index).packets,
        (config other).laneOf slots packet.flowTree = index).mpr
    refine ⟨?_, fun other _ => routed.ownLane other⟩
    intro index packet member
    cases lane_packets_step step member with
    | inl before => exact routed.ownLane id index packet before
    | inr selected => exact selected
  announced := by
    apply (Function.forall_update_iff state.node fun _ node => SequentialNode.Announced node).mpr
    exact ⟨SequentialNode.announced_step (routed.announced id) announces step,
      fun other _ => routed.announced other⟩
  beyond := by
    apply (Function.forall_update_iff state.node fun other node =>
      ∀ handle, ¬(handle ∈ hops other ∧ handle ≠ other) → node.beyond slots handle key = []).mpr
    refine ⟨?_, fun other _ => routed.beyond other⟩
    intro handle off
    have apart : ¬(handle ∈ hops id ∧ handle ≠ (config id).nodeId) := by rwa [named]
    exact SequentialNode.beyond_empty (routed.sorted id) (routed.ownLane id) (routed.announced id)
      apart looksUp (routed.beyond id handle off) step
  keeping other off := by
    by_cases here : other = id
    · subst here
      have away : (config other).nodeId ∉ hops other := by rwa [named]
      rcases routed.keeping other off with ⟨empty, none⟩
      rcases SequentialNode.keeping_empty (routed.ownLane other) away looksUp empty step with
        ⟨unhanded, kept⟩
      simp only [NodeNetwork.setNode, NodeNetwork.deliver, Function.update_self, FlowTree.of_append,
        none, unhanded, kept, List.append_nil, and_self]
    · simp only [NodeNetwork.setNode, NodeNetwork.deliver, Function.update_of_ne here]
      exact routed.keeping other off

theorem lines_stepped (apart : (hops id).Nodup)
    (traced : Traced slots key hops lossy state)
    (looksUp : SequentialNode.LooksUp slot key (hops id) (state.node id) label)
    (step : SequentialStep slots slot (state.node id) label next) {handle : Handle}
    (onRoute : handle ∈ hops id) (away : handle ≠ id)
    (risk : (state.node id).mayLose slots key handle label → lossy) :
    CarriedOver lossy (key.of next.submitted) (next.line slots handle key) := by
  have moved := SequentialNode.line_carried (traced.sorted id) (traced.ownLane id)
    (traced.announced id) apart onRoute looksUp step
  rw [submitted_step step, FlowTree.of_append]
  exact ((traced.lines id handle onRoute away).append_right _).trans (moved.mono risk)

theorem kept_stepped (named : (config id).nodeId = id) (apart : (hops id).Nodup)
    (traced : Traced slots key hops lossy state)
    (looksUp : SequentialNode.LooksUp slot key (hops id) (state.node id) label)
    (step : SequentialStep slots slot (state.node id) label next) (member : id ∈ hops id)
    (risk : (state.node id).refuses slots key label → lossy) :
    CarriedOver lossy (key.of next.submitted)
      (key.of (state.delivered id ++ (state.node id).handedOver label) ++ next.keeping slots key ++
        next.waiting slots key) := by
  have moved := SequentialNode.kept_carried (traced.ownLane id) apart looksUp step
  have before := (traced.kept id member).append_right (key.of label.submitted)
  rw [submitted_step step, FlowTree.of_append, FlowTree.of_append]
  simp only [List.append_assoc] at moved before ⊢
  apply before.trans
  apply CarriedOver.append_left
  apply moved.mono
  intro either
  cases either with
  | inl refused => exact risk refused
  | inr outside =>
    rw [named] at outside
    exact absurd member outside

theorem arrived_stepped (traced : Traced slots key hops lossy state)
    (step : SequentialStep slots slot (state.node id) label next) (first second : NodeId) :
    (state.setNode id next).arrived first second = state.arrived first second := by
  simp only [NodeNetwork.arrived, NodeNetwork.setNode]
  by_cases here : first = id
  · subst here
    rcases SequentialNode.left_step second step with ⟨more, longer⟩
    rw [Function.update_self, longer,
      List.take_append_of_le_length (traced.within first second)]
  · rw [Function.update_of_ne here]

theorem within_stepped (traced : Traced slots key hops lossy state)
    (step : SequentialStep slots slot (state.node id) label next) (first second : NodeId) :
    state.read first second ≤ ((Function.update state.node id next first).left second).length := by
  by_cases here : first = id
  · subst here
    rcases SequentialNode.left_step second step with ⟨more, longer⟩
    rw [Function.update_self, longer, List.length_append]
    exact Nat.le_add_right_of_le (traced.within first second)
  · rw [Function.update_of_ne here]
    exact traced.within first second

theorem wire_stepped (traced : Traced slots key hops lossy state)
    (step : SequentialStep slots slot (state.node id) label next) (first second : NodeId) :
    ∃ more, (state.setNode id next).onWire first second = state.onWire first second ++ more := by
  simp only [NodeNetwork.onWire, NodeNetwork.setNode]
  by_cases here : first = id
  · subst here
    rcases SequentialNode.left_step second step with ⟨more, longer⟩
    rw [Function.update_self, longer,
      List.drop_append_of_le_length (traced.within first second)]
    exact ⟨more, rfl⟩
  · rw [Function.update_of_ne here]
    exact ⟨[], (List.append_nil _).symm⟩

/-- A packet of the flow and tree on a connection is on the way along the routes. -/
theorem wire_on_route (routed : Routed slots key hops state) {first second : NodeId}
    {packet : Packet} {rest : List Packet} (front : state.onWire first second = packet :: rest)
    (own : packet.flowTree = key) : second ∈ hops first ∧ second ≠ first := by
  by_contra off
  have empty := routed.beyond first second off
  simp only [SequentialNode.beyond, List.append_eq_nil_iff] at empty
  have sent : packet ∈ (state.node first).left second := by
    apply List.mem_of_mem_drop (i := state.read first second)
    change packet ∈ state.onWire first second
    rw [front]
    exact List.mem_cons_self
  have member : packet ∈ key.of ((state.node first).left second) :=
    List.mem_filter.mpr ⟨sent, decide_eq_true own⟩
  rw [empty.1.1] at member
  cases member

theorem arrived_read {first second : NodeId} {packet : Packet} {rest : List Packet}
    (front : state.onWire first second = packet :: rest) :
    (state.readOn first second).arrived first second = state.arrived first second ++ [packet] := by
  have next : ((state.node first).left second)[state.read first second]? = some packet := by
    rw [← List.head?_drop]
    change (state.onWire first second).head? = some packet
    rw [front]
    rfl
  simp only [NodeNetwork.arrived, NodeNetwork.readOn, Function.update_self]
  rw [List.take_add_one, next]
  rfl

theorem arrived_elsewhere {first second other neighbor : NodeId}
    (elsewhere : ¬(other = first ∧ neighbor = second)) :
    (state.readOn first second).arrived other neighbor = state.arrived other neighbor := by
  simp only [NodeNetwork.arrived, NodeNetwork.readOn]
  by_cases here : other = first
  · subst here
    have apart : neighbor ≠ second := fun same => elsewhere ⟨rfl, same⟩
    rw [Function.update_self, Function.update_of_ne apart]
  · rw [Function.update_of_ne here]

theorem within_read {first second : NodeId} {packet : Packet} {rest : List Packet}
    (within : ∀ other neighbor, state.read other neighbor ≤ ((state.node other).left neighbor).length)
    (front : state.onWire first second = packet :: rest) (other neighbor : NodeId) :
    (state.readOn first second).read other neighbor ≤ ((state.node other).left neighbor).length := by
  have more : state.read first second < ((state.node first).left second).length := by
    have length := congrArg List.length front
    simp only [NodeNetwork.onWire, List.length_drop, List.length_cons] at length
    omega
  simp only [NodeNetwork.readOn]
  by_cases here : other = first
  · subst here
    rw [Function.update_self]
    by_cases there : neighbor = second
    · subst there
      rw [Function.update_self]
      exact more
    · rw [Function.update_of_ne there]
      exact within other neighbor
  · rw [Function.update_of_ne here]
    exact within other neighbor

end Invariant

/-! ## Steps of the network -/

section Network

variable {slots : LaneSlots} {slot : JumpSlot} {key : FlowTree} {hops : NodeId → List NodeId}
  {source : NodeId} {lossy : Prop} {config : NodeId → NodeConfig} {state next : NodeNetwork config}
  {label : NetworkLabel}

theorem deliver_nothing (id : NodeId) : state.deliver id [] = state := by
  simp only [NodeNetwork.deliver, List.append_nil, Function.update_eq_self]

theorem traced_relayed (named : ∀ id, (config id).nodeId = id) (tree : RouteTree hops source)
    (traced : Traced slots key hops lossy state) {first second : NodeId} {packet : Packet}
    {rest : List Packet} {node : SequentialNode (config second)}
    (front : state.onWire first second = packet :: rest)
    (risk : (state.node second).refuses slots key (.processed packet) → lossy)
    (step : SequentialStep slots slot (state.node second) (.processed packet) node) :
    Traced slots key hops lossy ((state.setNode second node).readOn first second) := by
  have looksUp : SequentialNode.LooksUp slot key (hops second) (state.node second)
      (.processed packet) := by
    intro index _ _ _ _ same
    cases same
  have announces : ∀ index neighbor handle,
      SequentialLabel.processed packet = .messageHandled index (.addNode neighbor handle) →
        handle = neighbor := by
    intro index neighbor handle same
    cases same
  have routed := routed_stepped (named second) traced.toRouted looksUp announces step
  have unhanded : (state.node second).handedOver (.processed packet) = [] := rfl
  rw [unhanded, deliver_nothing] at routed
  have submitted : node.submitted = (state.node second).submitted ++ [packet] := submitted_step step
  rcases wire_stepped traced step first second with ⟨more, longer⟩
  rw [front, List.cons_append] at longer
  refine { routed with within := ?_, lines := ?_, kept := ?_, links := ?_ }
  · exact within_read (within_stepped traced step) longer
  · intro id handle onRoute away
    by_cases here : id = second
    · subst here
      simp only [NodeNetwork.readOn, NodeNetwork.setNode, Function.update_self]
      apply lines_stepped (tree.apart id) traced looksUp step onRoute away
      intro loss
      rcases loss with loses | refused | taken
      · cases loses
      · exact risk refused
      · cases taken.1
    · simp only [NodeNetwork.readOn, NodeNetwork.setNode, Function.update_of_ne here]
      exact traced.lines id handle onRoute away
  · intro id member
    by_cases here : id = second
    · subst here
      have kept := kept_stepped (named id) (tree.apart id) traced looksUp step member risk
      simp only [NodeNetwork.readOn, NodeNetwork.setNode, Function.update_self]
      rwa [unhanded, List.append_nil] at kept
    · simp only [NodeNetwork.readOn, NodeNetwork.setNode, Function.update_of_ne here]
      exact traced.kept id member
  · intro other neighbor onRoute away
    have links := traced.links other neighbor onRoute away
    by_cases here : neighbor = second
    · subst here
      have grown : ((state.setNode neighbor node).readOn first neighbor).node neighbor = node :=
        Function.update_self _ _ _
      rw [grown, submitted, FlowTree.of_append]
      by_cases there : other = first
      · subst there
        rw [arrived_read longer, arrived_stepped traced step, FlowTree.of_append]
        exact links.append_right _
      · have elsewhere : ¬(other = first ∧ neighbor = neighbor) := fun same => there same.1
        have unrelated : packet.flowTree ≠ key := by
          intro own
          rcases wire_on_route traced.toRouted front own with ⟨led, apart⟩
          exact there (tree.oneWay other first neighbor onRoute away led apart)
        rw [arrived_elsewhere elsewhere, arrived_stepped traced step, of_other unrelated,
          List.append_nil]
        exact links
    · have elsewhere : ¬(other = first ∧ neighbor = second) := fun same => here same.2
      have unchanged : ((state.setNode second node).readOn first second).node neighbor =
          state.node neighbor :=
        Function.update_of_ne here _ _
      rw [arrived_elsewhere elsewhere, arrived_stepped traced step, unchanged]
      exact links

theorem traced_lost (traced : Traced slots key hops lossy state) {first second : NodeId}
    {packet : Packet} {rest : List Packet} (front : state.onWire first second = packet :: rest)
    (risk : packet.flowTree = key → lossy) :
    Traced slots key hops lossy (state.readOn first second) where
  sorted := traced.sorted
  ownLane := traced.ownLane
  announced := traced.announced
  beyond := traced.beyond
  keeping := traced.keeping
  within := within_read traced.within front
  lines := traced.lines
  kept := traced.kept
  links other neighbor onRoute away := by
    have links := traced.links other neighbor onRoute away
    by_cases here : other = first ∧ neighbor = second
    · rcases here with ⟨rfl, rfl⟩
      rw [arrived_read front, FlowTree.of_append]
      by_cases own : packet.flowTree = key
      · exact .fewer (risk own) (links.sublist.trans (List.sublist_append_left _ _))
      · rw [of_other own, List.append_nil]
        exact links
    · rw [arrived_elsewhere here]
      exact links

theorem traced_stepped (named : ∀ id, (config id).nodeId = id) (tree : RouteTree hops source)
    (traced : Traced slots key hops lossy state) {id : NodeId} {inner : SequentialLabel}
    {node : SequentialNode (config id)}
    (looksUp : SequentialNode.LooksUp slot key (hops id) (state.node id) inner)
    (entered : id ≠ source → key.of inner.submitted = [])
    (refused : (state.node id).refuses slots key inner → lossy)
    (sent : ∀ handle ∈ hops id, handle ≠ id → (state.node id).mayLose slots key handle inner → lossy)
    (announces : ∀ index neighbor handle, inner = .messageHandled index (.addNode neighbor handle) →
      handle = neighbor)
    (step : SequentialStep slots slot (state.node id) inner node) :
    Traced slots key hops lossy
      ((state.setNode id node).deliver id ((state.node id).handedOver inner)) := by
  have routed := routed_stepped (named id) traced.toRouted looksUp announces step
  refine { routed with within := ?_, lines := ?_, kept := ?_, links := ?_ }
  · exact within_stepped traced step
  · intro other handle onRoute away
    by_cases here : other = id
    · subst here
      simp only [NodeNetwork.deliver, NodeNetwork.setNode, Function.update_self]
      exact lines_stepped (tree.apart other) traced looksUp step onRoute away
        (sent handle onRoute away)
    · simp only [NodeNetwork.deliver, NodeNetwork.setNode, Function.update_of_ne here]
      exact traced.lines other handle onRoute away
  · intro other member
    by_cases here : other = id
    · subst here
      simp only [NodeNetwork.deliver, NodeNetwork.setNode, Function.update_self]
      exact kept_stepped (named other) (tree.apart other) traced looksUp step member refused
    · simp only [NodeNetwork.deliver, NodeNetwork.setNode, Function.update_of_ne here]
      exact traced.kept other member
  · intro other neighbor onRoute away
    have links := traced.links other neighbor onRoute away
    have arrived := arrived_stepped traced step other neighbor
    have same : ((state.setNode id node).deliver id ((state.node id).handedOver inner)).arrived other
        neighbor = state.arrived other neighbor := arrived
    rw [same]
    by_cases here : neighbor = id
    · subst here
      have inside : neighbor ≠ source := by
        rintro rfl
        exact away (tree.rooted other onRoute).symm
      simp only [NodeNetwork.deliver, NodeNetwork.setNode, Function.update_self]
      rw [submitted_step step, FlowTree.of_append, entered inside, List.append_nil]
      exact links
    · simp only [NodeNetwork.deliver, NodeNetwork.setNode, Function.update_of_ne here]
      exact links

theorem traced_step (named : ∀ id, (config id).nodeId = id) (tree : RouteTree hops source)
    (traced : Traced slots key hops lossy state)
    (onRoute : OnRoute slot key hops source state label)
    (loses : LosesOnly slots key hops lossy state label)
    (step : NetworkStep slots slot state label next) : Traced slots key hops lossy next := by
  cases step with
  | stepped id inner node stepped announces =>
    exact traced_stepped named tree traced (onRoute.looksUp id inner rfl)
      (onRoute.entered id inner rfl) (loses.refused id inner rfl) (loses.sent id inner rfl)
      announces stepped
  | relayed first second packet rest node front stepped =>
    exact traced_relayed named tree traced front
      (loses.relayed first second packet rest rfl front) stepped
  | lost first second packet rest front =>
    exact traced_lost traced front (loses.dropped first second packet rest rfl front)

theorem traced_new : Traced slots key hops lossy (NodeNetwork.new config) where
  sorted id _ := SchedulerQueue.sorted_new (config id).schedulerType
  ownLane _ _ _ member := by cases member
  announced := by
    intro id index neighbor handle found
    simp [NodeNetwork.new, SequentialNode.new, Processor.new] at found
  beyond id handle _ := by
    have inside := @inside_new (config id).queueCapacity (config id).schedulerType
      (config id).channelBackpressure key
    simp [NodeNetwork.new, SequentialNode.new, SequentialNode.beyond, inside, Lane.copiesFor]
  keeping _ _ := ⟨rfl, rfl⟩
  within _ _ := Nat.zero_le _
  lines id handle _ _ := by
    have inside := @inside_new (config id).queueCapacity (config id).schedulerType
      (config id).channelBackpressure key
    apply CarriedOver.whole
    simp [NodeNetwork.new, SequentialNode.new, SequentialNode.line, inside, Lane.line, Lane.copiesFor]
  kept _ _ := .whole rfl
  links _ _ _ _ := .whole rfl

end Network

/-! ## Packets over one connection -/

def pair (id : NodeId) : NodeConfig :=
  { oneLane with
    nodeId := id
    channelBackpressure := true }

def pairHops (id : NodeId) : List NodeId := if id = 1 ∨ id = 2 then [2] else []

theorem pair_hop {first second : NodeId} (led : second ∈ pairHops first) (away : second ≠ first) :
    first = 1 := by
  rw [pairHops] at led
  split_ifs at led with known
  · cases known with
    | inl same => exact same
    | inr same =>
      rw [List.mem_singleton, ← same] at led
      exact absurd led away
  · cases led

theorem pair_tree : RouteTree pairHops 1 where
  apart id := by
    rw [pairHops]
    split_ifs
    · exact List.nodup_singleton 2
    · exact List.nodup_nil
  oneWay first other second led away alsoLed alsoAway :=
    (pair_hop led away).trans (pair_hop alsoLed alsoAway).symm
  rooted id led := by
    rw [pairHops] at led
    split_ifs at led
    · exact absurd (List.mem_singleton.mp led) (by decide)
    · cases led

abbrev firstSlot : JumpSlot := fun _ _ => 0

/-- Labels of a node that neither look up nor hand over nor try, and submit only at node 1. -/
structure Plain (id : NodeId) (label : SequentialLabel) : Prop where
  unlooked : ∀ index, label ≠ .taken index
  unhanded : ∀ index, label ≠ .kept index
  untried : ∀ packet, label ≠ .tryProcessed packet
  named : ∀ index neighbor handle, label = .messageHandled index (.addNode neighbor handle) →
    handle = neighbor
  entered : id ≠ 1 → label.submitted = []

abbrev plainNode (id : NodeId) : TransitionSystem (SequentialNode (pair id)) SequentialLabel :=
  (sequential firstLane firstSlot (pair id)).restrict fun _ label => Plain id label

/-- Labels of the network that neither look up nor try nor lose, and submit only at node 1. -/
structure Unlooked (label : NetworkLabel) : Prop where
  unlooked : ∀ id index, label ≠ .stepped id (.taken index)
  untried : ∀ id packet, label ≠ .stepped id (.tryProcessed packet)
  entered : ∀ id inner, label = .stepped id inner → id ≠ 1 → inner.submitted = []
  kept : ∀ first second, label ≠ .lost first second

def resting (queuesNotEmpty : Bool) : Scheduler (pair 1).queueCapacity :=
  { Scheduler.new (pair 1).queueCapacity .fifo true with queuesNotEmpty := queuesNotEmpty }

/-- A node with its table, what was submitted to it, what has left it for node 2 and what its lane
holds; its scheduler is at rest. Node 1 knows the scheduler of node 2. -/
structure PairNode (table : RoutingTable) (submitted left queued : List Packet)
    (dispatching : List (Packet × NodeId)) {id : NodeId} (node : SequentialNode (pair id)) : Prop where
  table : (node.lane 0).processor.routingTable = table
  queued : (node.lane 0).queued = queued
  dispatching : (node.lane 0).dispatching = dispatching
  scheduler : id = 1 → (node.lane 0).processor.schedulers[2]? = some 2
  channel : node.channel 2 = []
  rests : ∃ queuesNotEmpty, node.scheduler 2 = resting queuesNotEmpty
  left : id = 1 → node.left 2 = left
  submitted : node.submitted = submitted

/-- A guard admits the steps that take a packet from node 1 to node 2. -/
structure LetsThrough (packet : Packet) (table : RoutingTable)
    (guard : NodeNetwork pair → NetworkLabel → Prop) : Prop where
  unlooked : ∀ state label, Unlooked label → guard state label
  looked : ∀ (state : NodeNetwork pair) id submitted left, id = 1 ∨ id = 2 →
    PairNode table submitted left [packet] [] (state.node id) → guard state (.stepped id (.taken 0))

/-- Messages give both nodes a table that leads the packet to node 2, which a guard admits. -/
structure PairTraffic (packet : Packet) (table : RoutingTable)
    (guard : NodeNetwork pair → NetworkLabel → Prop) : Prop extends LetsThrough packet table guard where
  equips : ∀ id, ∃ labels node, (plainNode id).Run (.new (pair id)) labels node ∧
    PairNode table [] [] [] [] node
  leads : ∃ later, table.getNextHopsByFlowAndTree firstSlot packet.flowId
    packet.tag.losslessFecTreeId = some (later, .ok [2])

section Pair

variable {packet : Packet} {table : RoutingTable} {guard : NodeNetwork pair → NetworkLabel → Prop}
  {submitted left : List Packet}

abbrev pairNetwork (guard : NodeNetwork pair → NetworkLabel → Prop) :
    TransitionSystem (NodeNetwork pair) NetworkLabel :=
  (network firstLane firstSlot pair).restrict guard

theorem plain_step (admits : LetsThrough packet table guard) (state : NodeNetwork pair) {id : NodeId}
    {inner : SequentialLabel} {node : SequentialNode (pair id)}
    (step : (plainNode id).step (state.node id) inner node) :
    (pairNetwork guard).step state (.stepped id inner) (state.setNode id node) := by
  rcases step with ⟨plain, step⟩
  have unhanded : (state.node id).handedOver inner = [] := by
    cases inner with
    | kept index => exact absurd rfl (plain.unhanded index)
    | _ => rfl
  have stepped := NetworkStep.stepped id inner node step plain.named
  rw [unhanded, deliver_nothing] at stepped
  refine ⟨admits.unlooked state _ ⟨?_, ?_, ?_, ?_⟩, stepped⟩
  · intro other index same
    cases same
    exact plain.unlooked index rfl
  · intro other packet same
    cases same
    exact plain.untried packet rfl
  · intro other label same outside
    cases same
    exact plain.entered outside
  · intro first second same
    cases same

/-- A run of one node is a run of the network. -/
theorem plain_run (admits : LetsThrough packet table guard) {state : NodeNetwork pair} {id : NodeId}
    {labels : List SequentialLabel} {node : SequentialNode (pair id)}
    (run : (plainNode id).Run (state.node id) labels node) :
    (pairNetwork guard).Run state (labels.map (.stepped id)) (state.setNode id node) := by
  induction run with
  | nil =>
    have same : state.setNode id (state.node id) = state := by
      simp only [NodeNetwork.setNode, Function.update_eq_self]
    rw [same]
    exact .nil
  | @snoc earlier middle later label _ step induction =>
    rw [List.map_append]
    have here : (state.setNode id middle).node id = middle := Function.update_self _ _ _
    have next := plain_step admits (state.setNode id middle) (here.symm ▸ step)
    simp only [NodeNetwork.setNode, Function.update_idem] at next ⊢
    exact .snoc induction next

theorem plain_scheduled (id : NodeId) (handle : Handle) (label : SchedulerLabel) :
    Plain id (.scheduled handle label) where
  unlooked _ same := by cases same
  unhanded _ same := by cases same
  untried _ same := by cases same
  named _ _ _ same := by cases same
  entered _ := rfl

/-- A run of a scheduler's tasks in which nothing comes or leaves. -/
theorem scheduled_plain_run {id : NodeId} {node : SequentialNode (pair id)} {handle : Handle}
    {labels : List SchedulerLabel} {finish : Scheduler (pair id).queueCapacity}
    (run : ((scheduler (pair id).queueCapacity .fifo true).restrict fun scheduler label =>
      label.arriving = [] ∧ scheduler.leaving label = []).Run (node.scheduler handle) labels finish) :
    (plainNode id).Run node (labels.map (.scheduled handle)) (node.setScheduler handle finish) := by
  induction run with
  | nil =>
    have same : node.setScheduler handle (node.scheduler handle) = node := by
      simp only [SequentialNode.setScheduler, Function.update_eq_self]
    rw [same]
    exact .nil
  | @snoc earlier middle later label _ step induction =>
    rcases step with ⟨⟨unarrived, unleft⟩, inner⟩
    rw [List.map_append]
    have here : (node.setScheduler handle middle).scheduler handle = middle :=
      Function.update_self _ _ _
    have inside : SchedulerStep ((node.setScheduler handle middle).scheduler handle) label later := by
      rw [here]
      exact inner
    have next : SequentialStep firstLane firstSlot (node.setScheduler handle middle)
        (.scheduled handle label) _ := .scheduled handle label later unarrived inside
    rw [here, unleft, List.append_nil, Function.update_eq_self] at next
    simp only [SequentialNode.setScheduler, Function.update_idem] at next ⊢
    exact .snoc induction ⟨plain_scheduled id handle label, next⟩

theorem pair_lane (id : NodeId) (key : FlowTree) : (pair id).laneOf firstLane key = 0 := by
  rw [NodeConfig.laneOf]
  cases key.losslessFecTreeId with
  | none => rfl
  | some treeId => rfl

/-- A node handles messages that leave its neighbors alone, and node 1 is told of node 2. -/
theorem equipped_by_messages {messages : List ProcessorMessage}
    (alone : ∀ neighbor handle, .addNode neighbor handle ∉ messages) (id : NodeId) :
    ∃ labels node, (plainNode id).Run (.new (pair id)) labels node ∧
      PairNode (messages.foldl Processor.handleMessage (.new defaultConfig)).routingTable [] [] [] []
        node := by
  have plain (message : ProcessorMessage)
      (named : ∀ neighbor handle, message = .addNode neighbor handle → handle = neighbor) :
      Plain id (.messageHandled 0 message) := by
    refine ⟨nofun, nofun, nofun, ?_, fun _ => rfl⟩
    intro index neighbor handle same
    cases same
    exact named neighbor handle rfl
  let after (processor : Processor) : SequentialNode (pair id) :=
    (SequentialNode.new (pair id)).setLane 0
      { processor := processor
        queued := []
        dispatching := [] }
  have handled (processor : Processor) (message : ProcessorMessage) :
      SequentialStep firstLane firstSlot (after processor) (.messageHandled 0 message)
        (after (processor.handleMessage message)) := by
    have step : SequentialStep firstLane firstSlot (after processor) (.messageHandled 0 message) _ :=
      .messageHandled 0 message rfl
    have changed : (after processor).setLane 0
        { (after processor).lane 0 with
          processor := ((after processor).lane 0).processor.handleMessage message } =
        after (processor.handleMessage message) := by
      simp only [after, SequentialNode.setLane, Function.update_idem, Function.update_self]
    rwa [changed] at step
  have run : (plainNode id).Run (.new (pair id))
      (messages.map (.messageHandled 0)) (after (messages.foldl Processor.handleMessage
        (.new defaultConfig))) := by
    induction messages using List.reverseRecOn with
    | nil =>
      have unchanged : Function.update (SequentialNode.new (pair id)).lane 0
          { processor := .new defaultConfig
            queued := []
            dispatching := [] } = (SequentialNode.new (pair id)).lane :=
        Function.update_eq_self 0 _
      have same : after (.new defaultConfig) = .new (pair id) := by
        simp only [after, SequentialNode.setLane, unchanged]
      rw [List.foldl_nil, same]
      exact .nil
    | append_singleton earlier last induction =>
      rw [List.map_append, List.foldl_append, List.foldl_cons, List.foldl_nil]
      have before := induction fun neighbor handle member =>
        alone neighbor handle (List.mem_append_left _ member)
      refine before.snoc ⟨plain last ?_, handled _ last⟩
      intro neighbor handle same
      rw [same] at alone
      exact absurd (List.mem_append_right _ (List.mem_singleton_self _)) (alone neighbor handle)
  by_cases first : id = 1
  · refine ⟨_, _, run.snoc ⟨plain (.addNode 2 2) ?_, handled _ (.addNode 2 2)⟩, ?_⟩
    · intro neighbor handle same
      cases same
      rfl
    · exact ⟨rfl, rfl, rfl, fun _ => Std.HashMap.getElem?_insert_self, rfl, ⟨false, rfl⟩,
        fun _ => rfl, rfl⟩
  · exact ⟨_, _, run, rfl, rfl, rfl, fun same => absurd same first, rfl, ⟨false, rfl⟩, fun _ => rfl,
      rfl⟩

theorem packet_submitted {id : NodeId} {node : SequentialNode (pair id)}
    (before : PairNode table submitted left [] [] node) (packet : Packet) :
    ∃ later, SequentialStep firstLane firstSlot node (.processed packet) later ∧
      PairNode table (submitted ++ [packet]) left [packet] [] later := by
  have given : node.processPacket firstLane packet =
      some (node.setLane 0 { node.lane 0 with queued := (node.lane 0).queued ++ [packet] }) := by
    have normal : (pair id).operatingMode = .normal := rfl
    simp only [SequentialNode.processPacket, normal, ite_self, SequentialNode.sendToProcessor,
      SequentialNode.sendBy, lane_of_packet, pair_lane]
    rfl
  have queued : (node.lane 0).queued ++ [packet] = [packet] := by
    rw [before.queued, List.nil_append]
  exact ⟨_, .processed packet _ given, before.table, queued, before.dispatching, before.scheduler,
    before.channel, before.rests, before.left, congrArg (· ++ [packet]) before.submitted⟩

theorem looked_up (admits : LetsThrough packet table guard) {later : RoutingTable}
    (looked : table.getNextHopsByFlowAndTree firstSlot packet.flowId packet.tag.losslessFecTreeId =
      some (later, .ok [2])) (state : NodeNetwork pair) {id : NodeId} (hop : id = 1 ∨ id = 2)
    (holding : PairNode table submitted left [packet] [] (state.node id)) :
    ∃ node, (pairNetwork guard).step state (.stepped id (.taken 0)) (state.setNode id node) ∧
      PairNode later submitted left [] [(packet, 2)] node := by
  rw [← holding.table] at looked
  have step : SequentialStep firstLane firstSlot (state.node id) (.taken 0) _ :=
    .taken 0 packet [] later (.ok [2]) holding.dispatching holding.queued looked
  have unnamed : ∀ index neighbor handle,
      SequentialLabel.taken 0 = .messageHandled index (.addNode neighbor handle) →
        handle = neighbor := by
    intro index neighbor handle same
    cases same
  have stepped := NetworkStep.stepped id (.taken 0) _ step unnamed
  have unhanded : (state.node id).handedOver (.taken 0) = [] := rfl
  rw [unhanded, deliver_nothing] at stepped
  exact ⟨_, ⟨admits.looked state id _ _ hop holding, stepped⟩,
    ⟨rfl, rfl, rfl, holding.scheduler, holding.channel, holding.rests, holding.left,
      holding.submitted⟩⟩

abbrev quietTasks : TransitionSystem (Scheduler (pair 1).queueCapacity) SchedulerLabel :=
  (scheduler (pair 1).queueCapacity .fifo true).restrict fun scheduler label =>
    label.arriving = [] ∧ scheduler.leaving label = []

def withPacket (packet : Packet) (queuesNotEmpty : Bool) : Scheduler (pair 1).queueCapacity :=
  { resting queuesNotEmpty with reader := .received packet }

def sendingPacket (packet : Packet) (queuesNotEmpty : Bool) : Scheduler (pair 1).queueCapacity :=
  { resting queuesNotEmpty with writer := .sending [packet] }

/-- The scheduler's tasks take the packet through the queue into a batch. -/
theorem packet_batched (packet : Packet) (queuesNotEmpty : Bool) : ∃ labels later,
    quietTasks.Run (withPacket packet queuesNotEmpty) labels (sendingPacket packet later) := by
  have batched : quietTasks.Run (withPacket packet queuesNotEmpty)
      [.acquired, .measured, .enqueued packet 0, .messagesHandled, .foundPackets, .popped, .ranEmpty,
        .credited] { sendingPacket packet queuesNotEmpty with
          reader := if packet.notifies 0 then .notifying else .receiving } :=
    .cons ⟨⟨rfl, rfl⟩, .acquired packet (some 15) rfl rfl⟩
      (.cons ⟨⟨rfl, rfl⟩, .measured packet rfl⟩
        (.cons ⟨⟨rfl, rfl⟩, .enqueued packet 0 _ rfl rfl⟩
          (.cons ⟨⟨rfl, rfl⟩, .messagesHandled rfl⟩
            (.cons ⟨⟨rfl, rfl⟩, .foundPackets rfl rfl⟩
              (.cons ⟨⟨rfl, rfl⟩, .popped _ _ packet [] rfl rfl rfl⟩
                (.cons ⟨⟨rfl, rfl⟩, .ranEmpty _ [packet] rfl rfl rfl⟩
                  (.single ⟨⟨rfl, rfl⟩, .credited [packet] rfl⟩)))))))
  cases notifies : packet.notifies 0 with
  | true =>
    rw [notifies] at batched
    exact ⟨_, true, batched.snoc ⟨⟨rfl, rfl⟩, .notified rfl⟩⟩
  | false =>
    rw [notifies] at batched
    exact ⟨_, queuesNotEmpty, batched⟩

theorem packet_sent {node : SequentialNode (pair 1)}
    (before : PairNode table submitted left [] [(packet, 2)] node) :
    ∃ labels later, (plainNode 1).Run node labels later ∧
      PairNode table submitted (left ++ [packet]) [] [] later := by
  rcases before.rests with ⟨queuesNotEmpty, rests⟩
  rcases packet_batched packet queuesNotEmpty with ⟨_, later, batched⟩
  have plain (label : SequentialLabel) (known : label = .sent 0 ∨ label = .received 2) :
      Plain 1 label := by
    rcases known with rfl | rfl
    · exact ⟨nofun, nofun, nofun, nofun, fun _ => rfl⟩
    · exact ⟨nofun, nofun, nofun, nofun, fun _ => rfl⟩
  have leads : (node.lane 0).processor.schedulerFor 1 2 = some 2 := by
    rw [Processor.schedulerFor, if_neg (by decide)]
    exact before.scheduler rfl
  have room : (pair 1).sendToScheduler (node.channel 2) packet = some [packet] := by
    rw [before.channel]
    rfl
  let sent := (node.setLane 0 { node.lane 0 with dispatching := [] }).setChannel 2 [packet]
  have first : (plainNode 1).step node (.sent 0) sent :=
    ⟨plain _ (.inl rfl), .sent 0 packet 2 [] 2 _ before.dispatching leads room⟩
  have accepted : SchedulerStep (sent.scheduler 2) (.received packet)
      (withPacket packet queuesNotEmpty) := by
    have same : sent.scheduler 2 = resting queuesNotEmpty := rests
    rw [same]
    exact .received packet rfl
  let received := (sent.setChannel 2 []).setScheduler 2 (withPacket packet queuesNotEmpty)
  have second : (plainNode 1).step sent (.received 2) received :=
    ⟨plain _ (.inr rfl), .received 2 packet [] (withPacket packet queuesNotEmpty) rfl accepted⟩
  have third := @scheduled_plain_run 1 received 2 _ _ batched
  have fourth : (plainNode 1).step (received.setScheduler 2 (sendingPacket packet later))
      (.scheduled 2 .sent) _ :=
    ⟨plain_scheduled 1 2 .sent, .scheduled 2 .sent _ rfl (.sent [packet] rfl)⟩
  have run := (TransitionSystem.Run.cons first (.cons second third)).snoc fourth
  refine ⟨_, _, run, before.table, before.queued, rfl, before.scheduler, rfl, ⟨later, rfl⟩,
    fun same => ?_, before.submitted⟩
  exact congrArg (· ++ [packet]) (before.left same)

/-- The packets were taken from node 1 to node 2 and handed over there. -/
structure Carried (table : RoutingTable) (packets : List Packet) (state : NodeNetwork pair) : Prop where
  source : PairNode table packets packets [] [] (state.node 1)
  target : PairNode table packets [] [] [] (state.node 2)
  read : state.read 1 2 = packets.length
  delivered : state.delivered 2 = packets

theorem packet_carried (admits : LetsThrough packet table guard) {later : RoutingTable}
    (looked : table.getNextHopsByFlowAndTree firstSlot packet.flowId packet.tag.losslessFecTreeId =
      some (later, .ok [2])) {state : NodeNetwork pair} {packets : List Packet}
    (carried : Carried table packets state) :
    ∃ labels next, (pairNetwork guard).Run state labels next ∧
      Carried later (packets ++ [packet]) next := by
  rcases packet_submitted carried.source packet with ⟨first, entering, holding⟩
  have entered : (plainNode 1).Run (state.node 1) [.processed packet] first :=
    .single ⟨⟨nofun, nofun, nofun, nofun, fun outside => absurd rfl outside⟩, entering⟩
  let start := state.setNode 1 first
  have started : (pairNetwork guard).Run state _ start := plain_run admits entered
  rcases looked_up admits looked start (.inl rfl) holding with ⟨taker, taking, dispatching⟩
  rcases packet_sent dispatching with ⟨_, sender, sending, source⟩
  let sent := (start.setNode 1 taker).setNode 1 sender
  have sentRun : (pairNetwork guard).Run (start.setNode 1 taker) _ sent :=
    @plain_run _ _ _ admits (start.setNode 1 taker) 1 _ sender sending
  have front : sent.onWire 1 2 = [packet] := by
    change (sender.left 2).drop (state.read 1 2) = [packet]
    rw [source.left rfl, carried.read, List.drop_left]
  have target : PairNode table packets [] [] [] (sent.node 2) := carried.target
  rcases packet_submitted target packet with ⟨second, arriving, arrived⟩
  let given := (sent.setNode 2 second).readOn 1 2
  have giving : (pairNetwork guard).step sent (.relayed 1 2) given :=
    ⟨admits.unlooked _ _ ⟨nofun, nofun, nofun, nofun⟩, .relayed 1 2 packet [] second front arriving⟩
  rcases looked_up admits looked given (.inr rfl) arrived with ⟨keeper, keeping, kept⟩
  have leads : (keeper.lane 0).processor.schedulerFor (pair 2).nodeId 2 = none := if_pos rfl
  have unsubmitted : ∀ id inner, NetworkLabel.stepped 2 (.kept 0) = .stepped id inner → id ≠ 1 →
      inner.submitted = [] := by
    intro id inner same _
    cases same
    rfl
  have keeps : (pairNetwork guard).step (given.setNode 2 keeper) (.stepped 2 (.kept 0)) _ :=
    ⟨admits.unlooked _ _ ⟨nofun, nofun, unsubmitted, nofun⟩,
      .stepped 2 (.kept 0) _ (.kept 0 packet 2 [] kept.dispatching leads) nofun⟩
  have run := ((((started.snoc taking).append sentRun).snoc giving).snoc keeping).snoc keeps
  have handed : (((keeper.lane 0).dispatching.take 1).filter fun copy =>
      copy.2 = (pair 2).nodeId).map Prod.fst = [packet] := by
    rw [kept.dispatching]
    rfl
  refine ⟨_, _, run, source, ?_, ?_, ?_⟩
  · exact ⟨kept.table, kept.queued, rfl, kept.scheduler, kept.channel, kept.rests, nofun,
      kept.submitted⟩
  · change state.read 1 2 + 1 = (packets ++ [packet]).length
    rw [carried.read, List.length_append, List.length_singleton]
  · change state.delivered 2 ++ _ = packets ++ [packet]
    rw [carried.delivered]
    exact congrArg (packets ++ ·) handed

theorem pair_equipped (traffic : PairTraffic packet table guard) :
    ∃ labels state, (pairNetwork guard).Run (.new pair) labels state ∧ Carried table [] state := by
  rcases traffic.equips 1 with ⟨_, source, starting, equipped⟩
  rcases traffic.equips 2 with ⟨_, target, installing, ready⟩
  have started := @plain_run _ _ _ traffic.toLetsThrough (.new pair) 1 _ source starting
  have installed := @plain_run _ _ _ traffic.toLetsThrough ((NodeNetwork.new pair).setNode 1 source) 2 _
    target installing
  exact ⟨_, _, started.append installed, equipped, ready, rfl, rfl⟩

theorem pair_packet_delivered (traffic : PairTraffic packet table guard) :
    ∃ labels state, (pairNetwork guard).Run (.new pair) labels state ∧
      state.delivered 2 = [packet] := by
  rcases pair_equipped traffic with ⟨_, _, equipping, ready⟩
  rcases traffic.leads with ⟨later, looked⟩
  rcases packet_carried traffic.toLetsThrough looked ready with ⟨_, state, carrying, carried⟩
  exact ⟨_, state, equipping.append carrying, carried.delivered⟩

theorem LetsThrough.and {other : NodeNetwork pair → NetworkLabel → Prop}
    (admits : LetsThrough packet table guard) (also : LetsThrough packet table other) :
    LetsThrough packet table fun state label => guard state label ∧ other state label where
  unlooked state label unlooked :=
    ⟨admits.unlooked state label unlooked, also.unlooked state label unlooked⟩
  looked state id submitted left hop holding :=
    ⟨admits.looked state id submitted left hop holding, also.looked state id submitted left hop holding⟩

theorem admits_on_route (leads : ∃ later, table.getNextHopsByFlowAndTree firstSlot packet.flowId
    packet.tag.losslessFecTreeId = some (later, .ok [2])) :
    LetsThrough packet table (OnRoute firstSlot packet.flowTree pairHops 1) := by
  refine ⟨?_, ?_⟩
  · intro state label unlooked
    refine ⟨?_, ?_⟩
    · intro id inner same index _ _ _ _ taken
      rw [taken] at same
      exact absurd same (unlooked.unlooked id index)
    · intro id inner same outside
      rw [unlooked.entered id inner same outside, FlowTree.of_nil]
  · intro state id _ _ hop holding
    refine ⟨?_, ?_⟩
    · intro other inner same index front rest later answer taken queued _ found
      cases same
      cases taken
      rw [holding.queued] at queued
      cases queued
      rcases leads with ⟨reached, looked⟩
      rw [holding.table, looked] at found
      cases found
      exact (if_pos hop).symm
    · intro other inner same _
      cases same
      rfl

theorem tree_leads : ∃ later, (treeProcessor [2]).routingTable.getNextHopsByFlowAndTree firstSlot
    treePacket.flowId treePacket.tag.losslessFecTreeId = some (later, .ok [2]) := by
  have usable : invalidNode ∉ [2] := by decide
  rcases tree_looked_up usable with ⟨later, looked⟩
  exact ⟨later, looked⟩

theorem tree_traffic {guard : NodeNetwork pair → NetworkLabel → Prop}
    (admits : LetsThrough treePacket (treeProcessor [2]).routingTable guard) :
    PairTraffic treePacket (treeProcessor [2]).routingTable guard where
  toLetsThrough := admits
  equips id := by
    have alone : ∀ neighbor handle, ProcessorMessage.addNode neighbor handle ∉
        [.updateGroupDirectory [⟨7, 0xefff0001⟩],
          .updateGroupRoutes 7 1 [⟨7 * 65536, [2]⟩]] := by
      intro neighbor handle member
      simp at member
    exact equipped_by_messages alone id
  leads := tree_leads

end Pair

end Nextmini.Node
