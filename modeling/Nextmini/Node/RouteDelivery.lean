import Nextmini.Node.NodeNetwork

/-!
# Delivery along the routes of a flow

What the nodes of a network deliver of a flow and FEC tree whose lookups follow a tree of routes. In
any interleaving and under any loss each node gets packets of the source in the source's order and none
twice, and only nodes that the routes name deliver them. Where senders wait for room and every next hop
has a scheduler, no packet is lost: what a node has not delivered yet is on the way to it.
-/

namespace Nextmini.Node

open Nextmini.Library Nextmini.Library.PipeChain Nextmini.Routing

set_option autoImplicit false

variable {slots : LaneSlots} {slot : JumpSlot} {key : FlowTree} {hops : NodeId → List NodeId}
  {source : NodeId} {config : NodeId → NodeConfig} {state next : NodeNetwork config}
  {label : NetworkLabel}

/-! ## Order -/

theorem any_loss : LosesOnly slots key hops True state label :=
  ⟨fun _ _ _ _ => trivial, fun _ _ _ _ _ _ _ => trivial, fun _ _ _ _ _ _ _ => trivial,
    fun _ _ _ _ _ _ _ => trivial⟩

/-- No node has been given more of the flow and tree than the source, or in another order. -/
def KeptOrder (key : FlowTree) (source : NodeId) (state : NodeNetwork config) : Prop :=
  ∀ id, (key.of (state.node id).submitted).Sublist (key.of (state.node source).submitted)

/-- What has been read from a connection on the routes left the node before. -/
theorem arrived_submitted (traced : Traced slots key hops True state) {first second : NodeId}
    (onRoute : second ∈ hops first) (away : second ≠ first) :
    (key.of (state.arrived first second)).Sublist (key.of (state.node first).submitted) := by
  have left : (key.of (state.arrived first second)).Sublist
      (key.of ((state.node first).left second)) :=
    FlowTree.of_sublist (List.take_sublist _ _) key
  have line := (traced.lines first second onRoute away).sublist
  simp only [SequentialNode.line, List.append_assoc] at line
  exact left.trans ((List.sublist_append_left _ _).trans line)

theorem in_order_stepped {id : NodeId} {node : SequentialNode (config id)} {more : List Packet}
    (ordered : KeptOrder key source state) (entered : id ≠ source → key.of more = [])
    (submitted : node.submitted = (state.node id).submitted ++ more) :
    KeptOrder key source (state.setNode id node) := by
  intro other
  simp only [NodeNetwork.setNode]
  by_cases root : id = source
  · subst root
    rw [Function.update_self, submitted, FlowTree.of_append]
    by_cases here : other = id
    · subst here
      rw [Function.update_self, submitted, FlowTree.of_append]
    · rw [Function.update_of_ne here]
      exact (ordered other).trans (List.sublist_append_left _ _)
  · rw [Function.update_of_ne (Ne.symm root)]
    by_cases here : other = id
    · subst here
      rw [Function.update_self, submitted, FlowTree.of_append, entered root, List.append_nil]
      exact ordered other
    · rw [Function.update_of_ne here]
      exact ordered other

theorem in_order_relayed (tree : RouteTree hops source) (traced : Traced slots key hops True state)
    (ordered : KeptOrder key source state) {first second : NodeId} {packet : Packet}
    {rest : List Packet} {node : SequentialNode (config second)}
    (front : state.onWire first second = packet :: rest)
    (later : Traced slots key hops True ((state.setNode second node).readOn first second))
    (submitted : node.submitted = (state.node second).submitted ++ [packet]) :
    KeptOrder key source (state.setNode second node) := by
  by_cases own : packet.flowTree = key
  · rcases wire_on_route traced.toRouted front own with ⟨onRoute, away⟩
    have inner : second ≠ source := by
      rintro rfl
      exact away (tree.rooted first onRoute).symm
    have outer : first ≠ second := Ne.symm away
    intro other
    simp only [NodeNetwork.setNode, Function.update_of_ne (Ne.symm inner)]
    by_cases here : other = second
    · subst here
      rw [Function.update_self]
      have read := (later.links first other onRoute away).sublist
      have sent := arrived_submitted later onRoute away
      have before : ((state.setNode other node).readOn first other).node first = state.node first :=
        Function.update_of_ne outer _ _
      have after : ((state.setNode other node).readOn first other).node other = node :=
        Function.update_self _ _ _
      rw [before] at sent
      rw [after] at read
      exact read.trans (sent.trans (ordered first))
    · rw [Function.update_of_ne here]
      exact ordered other
  · exact in_order_stepped ordered (fun _ => of_other own) submitted

theorem in_order_step (named : ∀ id, (config id).nodeId = id) (tree : RouteTree hops source)
    (traced : Traced slots key hops True state) (ordered : KeptOrder key source state)
    (onRoute : OnRoute slot key hops source state label)
    (step : NetworkStep slots slot state label next) : KeptOrder key source next := by
  have later : Traced slots key hops True next :=
    traced_step named tree traced onRoute any_loss step
  cases step with
  | stepped id inner node stepped announces =>
    exact in_order_stepped ordered (onRoute.entered id inner rfl) (submitted_step stepped)
  | relayed first second packet rest node front stepped =>
    exact in_order_relayed tree traced ordered front later (submitted_step stepped)
  | lost first second packet rest front => exact ordered

/-- Each next hop has a scheduler by the time it is looked up, a packet that does not wait for room
finds some, and no packet of the flow and tree is lost on a connection. -/
structure Served (slots : LaneSlots) (key : FlowTree) (hops : NodeId → List NodeId)
    (state : NodeNetwork config) (label : NetworkLabel) : Prop where
  known : ∀ id packet rest, label = .stepped id (.taken ((config id).laneOf slots key)) →
    ((state.node id).lane ((config id).laneOf slots key)).queued = packet :: rest →
      packet.flowTree = key → ∀ handle ∈ hops id, handle ≠ id →
        ((state.node id).lane ((config id).laneOf slots key)).processor.schedulerFor (config id).nodeId
          handle = some handle
  accepted : ∀ id packet, label = .stepped id (.tryProcessed packet) → packet.flowTree = key →
    ((state.node id).lane ((config id).laneOf slots key)).queued.length < (config id).channelCapacity
  intact : ∀ first second packet rest, label = .lost first second →
    state.onWire first second = packet :: rest → packet.flowTree ≠ key

theorem processed_accepted {id : NodeId} (waits : SequentialNode.Waits (config id)) (packet : Packet) :
    ¬(state.node id).refuses slots key (.processed packet) := by
  intro refused
  exact refused.2 ⟨waits.normal, waits.backpressure⟩

theorem served_loses_nothing (waits : ∀ id, SequentialNode.Waits (config id))
    (balanced : ∀ id handle, Balanced ((state.node id).scheduler handle))
    (served : Served slots key hops state label) (step : NetworkStep slots slot state label next) :
    LosesOnly slots key hops False state label := by
  have refused : ∀ id inner, label = .stepped id inner →
      ¬(state.node id).refuses slots key inner := by
    intro id inner same refused
    cases inner with
    | processed packet => exact processed_accepted (waits id) packet refused
    | tryProcessed packet =>
      exact refused.2 ⟨(waits id).normal, served.accepted id packet same refused.1⟩
    | _ => exact refused
  refine ⟨refused, ?_, ?_, ?_⟩
  · intro id inner same handle onRoute away loss
    cases loss with
    | inl loses =>
      cases step with
      | stepped stepping label node stepped announces =>
        cases same
        rw [SequentialNode.loses_nothing (waits _) (balanced _) stepped] at loses
        cases loses
      | _ => cases same
    | inr others =>
      cases others with
      | inl turned => exact refused id inner same turned
      | inr taken =>
        rcases taken with ⟨rfl, ⟨packet, rest, queued, own⟩, unknown⟩
        exact unknown (served.known id packet rest same queued own handle onRoute away)
  · intro first second packet rest _ _ turned
    exact processed_accepted (waits second) packet turned
  · intro first second packet rest same front own
    exact served.intact first second packet rest same front own

theorem network_balanced_step (balanced : ∀ id handle, Balanced ((state.node id).scheduler handle))
    (step : NetworkStep slots slot state label next) :
    ∀ id handle, Balanced ((next.node id).scheduler handle) := by
  have updated {id : NodeId} {inner : SequentialLabel} {node : SequentialNode (config id)}
      (stepped : SequentialStep slots slot (state.node id) inner node) :
      ∀ other handle, Balanced (((state.setNode id node).node other).scheduler handle) := by
    apply (Function.forall_update_iff state.node fun _ node =>
      ∀ handle, Balanced (node.scheduler handle)).mpr
    exact ⟨SequentialNode.balanced_of_step (balanced id) stepped, fun other _ => balanced other⟩
  cases step with
  | stepped id inner node stepped announces => exact updated stepped
  | relayed first second packet rest node front stepped => exact updated stepped
  | lost first second packet rest front => exact balanced

namespace NodeNetwork

/-- The packets on the way from the lanes of a node to a neighbor's. -/
def underway (slots : LaneSlots) (key : FlowTree) (state : NodeNetwork config) (first second : NodeId) :
    List Packet :=
  key.of (state.onWire first second) ++ (((state.node first).scheduler second).inside key ++
    (key.of ((state.node first).channel second) ++
      ((state.node first).lane ((config first).laneOf slots key)).line (config first).nodeId second key))

/-- Those on the way along a path, the furthest ones first. -/
def underwayAlong (slots : LaneSlots) (key : FlowTree) (state : NodeNetwork config) :
    List NodeId → List Packet
  | first :: second :: rest =>
      underwayAlong slots key state (second :: rest) ++ state.underway slots key first second
  | _ => []

end NodeNetwork

theorem hop_exact (traced : Traced slots key hops False state) {first second : NodeId}
    (onRoute : second ∈ hops first) (away : second ≠ first) :
    key.of (state.node second).submitted ++ state.underway slots key first second =
      key.of (state.node first).submitted := by
  have line := (traced.lines first second onRoute away).exact not_false
  have read := (traced.links first second onRoute away).exact not_false
  have split : key.of ((state.node first).left second) =
      key.of (state.arrived first second) ++ key.of (state.onWire first second) := by
    rw [← FlowTree.of_append, NodeNetwork.arrived, NodeNetwork.onWire, List.take_append_drop]
  rw [← line, read, SequentialNode.line, split, NodeNetwork.underway]
  simp only [List.append_assoc]

theorem path_exact (traced : Traced slots key hops False state) {path : List NodeId}
    {first last : NodeId}
    (chain : (first :: path).IsChain fun node neighbor => neighbor ∈ hops node ∧ neighbor ≠ node)
    (ends : (first :: path).getLast? = some last) :
    key.of (state.node last).submitted ++ state.underwayAlong slots key (first :: path) =
      key.of (state.node first).submitted := by
  induction path generalizing first with
  | nil =>
    cases ends
    exact List.append_nil _
  | cons second rest induction =>
    rw [List.isChain_cons_cons] at chain
    rw [List.getLast?_cons_cons] at ends
    rw [NodeNetwork.underwayAlong, ← List.append_assoc, induction chain.2 ends]
    exact hop_exact traced chain.1.1 chain.1.2

/-- What a node at the end of a path has handed over, keeps or has waiting, and what is on the way to
it along the path, is what the source submitted. -/
theorem delivered_exact (traced : Traced slots key hops False state) {path : List NodeId}
    {member : NodeId}
    (chain : (source :: path).IsChain fun node neighbor => neighbor ∈ hops node ∧ neighbor ≠ node)
    (ends : (source :: path).getLast? = some member) (delivers : member ∈ hops member) :
    key.of (state.delivered member) ++ ((state.node member).keeping slots key ++
      (state.node member).waiting slots key ++ state.underwayAlong slots key (source :: path)) =
        key.of (state.node source).submitted := by
  have kept := (traced.kept member delivers).exact not_false
  rw [← path_exact traced chain ends, ← kept]
  simp only [List.append_assoc]

theorem traced_of_run (named : ∀ id, (config id).nodeId = id)
    (waits : ∀ id, SequentialNode.Waits (config id)) (tree : RouteTree hops source)
    {labels : List NetworkLabel}
    (run : ((network slots slot config).restrict fun state label =>
      OnRoute slot key hops source state label ∧ Served slots key hops state label).Run (.new config)
        labels state) : Traced slots key hops False state := by
  have reached : Traced slots key hops False state ∧
      ∀ id handle, Balanced ((state.node id).scheduler handle) := by
    apply TransitionSystem.run_preserves (motive := fun state =>
      Traced slots key hops False state ∧
        ∀ id handle, Balanced ((state.node id).scheduler handle)) _ run
    · refine ⟨traced_new, ?_⟩
      intro id handle
      have started := balanced_new (config id).schedulerType (waits id).room
      rw [← (waits id).backpressure] at started
      exact started
    · intro state label next known step
      rcases known with ⟨traced, balanced⟩
      rcases step with ⟨⟨onRoute, served⟩, step⟩
      exact ⟨traced_step named tree traced onRoute
        (served_loses_nothing waits balanced served step) step, network_balanced_step balanced step⟩
  exact reached.1

end Nextmini.Node
