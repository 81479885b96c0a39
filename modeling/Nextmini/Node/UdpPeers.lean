import Nextmini.Node.UdpDatagrams

/-!
# Registration of UDP peers

What the receive workers of a UDP server keep to in any order of their steps: how many interfaces an
address has, which of them the processors know, and where its datagrams go. The check for a known
peer and its entry into the map are steps apart, so the first two hold where no two workers are
between them for one address, or for one node.
-/

namespace Nextmini.Node

open Nextmini.Library Nextmini.Library.BigEndian Nextmini.Routing

set_option autoImplicit false

/-- The address and the node that a worker registers, once it has found the address unknown. -/
def WorkerTask.registers : WorkerTask → Option (SocketAddr × NodeId)
  | .opening remoteAddr remoteNodeId => some (remoteAddr, remoteNodeId)
  | .adding remoteAddr remoteNodeId _ => some (remoteAddr, remoteNodeId)
  | .inserting remoteAddr remoteNodeId _ => some (remoteAddr, remoteNodeId)
  | _ => none

/-- The interface that a worker has opened and not yet registered. -/
def WorkerTask.opened : WorkerTask → Option (SocketAddr × Handle)
  | .adding remoteAddr _ interface => some (remoteAddr, interface)
  | .inserting remoteAddr _ interface => some (remoteAddr, interface)
  | _ => none

namespace UdpServer

variable {Index : Type*}

/-! ## What registration is to keep -/

/-- An interface of an address: registered, or about to be. -/
def Live (server : UdpServer Index) (remoteAddr : SocketAddr) (interface : Handle) : Prop :=
  (server.peers remoteAddr).map PeerState.sender = some interface ∨
    ∃ index, (server.worker index).opened = some (remoteAddr, interface)

def OneInterface (server : UdpServer Index) : Prop :=
  ∀ remoteAddr first second, server.Live remoteAddr first → server.Live remoteAddr second →
    first = second

/-- The scheduler that processors hold for a node once they have applied all messages. -/
def announced (server : UdpServer Index) (nodeId : NodeId) : Option Handle :=
  (server.messages.foldl schedulersAfter ∅)[nodeId]?

/-- The processors hold for the node of each registered peer the interface whose queue the map
feeds. -/
def OneRoute (server : UdpServer Index) : Prop :=
  ∀ remoteAddr peer, server.peers remoteAddr = some peer →
    server.announced peer.remoteNodeId = some peer.sender

/-- No address is found unknown while another worker registers it. -/
def ChecksAlone (server : UdpServer Index) : UdpEvent Index → Prop
  | .resumed index => ∀ remoteAddr remoteNodeId,
      server.worker index = .checking remoteAddr remoteNodeId → server.peers remoteAddr = none →
        ∀ other nodeId, (server.worker other).registers ≠ some (remoteAddr, nodeId)
  | _ => True

/-- No handshake of a node is let through while another worker registers the node, or another address
has it. -/
def NodeFree (server : UdpServer Index) : UdpEvent Index → Prop
  | .resumed index => ∀ remoteAddr remoteNodeId,
      server.worker index = .checking remoteAddr remoteNodeId → server.peers remoteAddr = none →
        (∀ other address, (server.worker other).registers ≠ some (address, remoteNodeId)) ∧
          ∀ address peer, server.peers address = some peer → peer.remoteNodeId ≠ remoteNodeId
  | _ => True

/-! ## One interface for an address -/

/-- An address is registered by one worker at most, and by none once the map has it. -/
structure RegisteredOnce (server : UdpServer Index) : Prop where
  alone : ∀ first second remoteAddr firstNode secondNode,
    (server.worker first).registers = some (remoteAddr, firstNode) →
      (server.worker second).registers = some (remoteAddr, secondNode) → first = second
  absent : ∀ index remoteAddr remoteNodeId,
    (server.worker index).registers = some (remoteAddr, remoteNodeId) →
      server.peers remoteAddr = none

theorem registered_once_start (subscribed : Bool) :
    (start subscribed : UdpServer Index).RegisteredOnce where
  alone _ _ _ _ _ registers := by cases registers
  absent _ _ _ registers := by cases registers

theorem opened_registers {task : WorkerTask} {remoteAddr : SocketAddr} {interface : Handle}
    (opened : task.opened = some (remoteAddr, interface)) :
    ∃ remoteNodeId, task.registers = some (remoteAddr, remoteNodeId) := by
  cases task with
  | adding address nodeId handle | inserting address nodeId handle =>
    cases opened
    exact ⟨nodeId, rfl⟩
  | _ => cases opened

theorem one_interface_of_once {server : UdpServer Index} (once : server.RegisteredOnce) :
    server.OneInterface := by
  have apart : ∀ remoteAddr first second index,
      (server.peers remoteAddr).map PeerState.sender = some first →
        (server.worker index).opened ≠ some (remoteAddr, second) := by
    intro remoteAddr first second index registered opened
    rcases opened_registers opened with ⟨remoteNodeId, registers⟩
    rw [once.absent _ _ _ registers] at registered
    cases registered
  intro remoteAddr first second firstLive secondLive
  rcases firstLive with registered | ⟨index, opened⟩
  · rcases secondLive with again | ⟨index, opened⟩
    · rw [registered] at again
      exact Option.some.inj again
    · exact absurd opened (apart _ _ _ _ registered)
  · rcases secondLive with registered | ⟨other, again⟩
    · exact absurd opened (apart _ _ _ _ registered)
    · rcases opened_registers opened with ⟨_, registers⟩
      rcases opened_registers again with ⟨_, registersToo⟩
      rw [once.alone _ _ _ _ _ registers registersToo, again] at opened
      cases opened
      rfl

/-! ## The interface that the processors hold -/

theorem announced_added (server : UdpServer Index) (messages : List ProcessorMessage)
    (interface : Handle) (remoteNodeId nodeId : NodeId)
    (same : messages = server.messages ++ [.addNode remoteNodeId interface]) :
    (messages.foldl schedulersAfter ∅)[nodeId]? =
      if nodeId = remoteNodeId then some interface else server.announced nodeId := by
  rw [same, List.foldl_append, List.foldl_cons, List.foldl_nil, schedulersAfter,
    Std.HashMap.getElem?_insert]
  by_cases own : nodeId = remoteNodeId
  · simp [own]
  · simp [own, Ne.symm own, announced]

/-- A node is registered by one worker at most and by none once the map has it, and the processors
hold what a worker is about to insert and what the map has. -/
structure Followed (server : UdpServer Index) : Prop where
  alone : ∀ first second firstAddr secondAddr remoteNodeId,
    (server.worker first).registers = some (firstAddr, remoteNodeId) →
      (server.worker second).registers = some (secondAddr, remoteNodeId) → first = second
  free : ∀ index remoteAddr remoteNodeId,
    (server.worker index).registers = some (remoteAddr, remoteNodeId) →
      ∀ address peer, server.peers address = some peer → peer.remoteNodeId ≠ remoteNodeId
  inserting : ∀ index remoteAddr remoteNodeId interface,
    server.worker index = .inserting remoteAddr remoteNodeId interface →
      server.announced remoteNodeId = some interface
  route : server.OneRoute

theorem followed_start (subscribed : Bool) : (start subscribed : UdpServer Index).Followed where
  alone _ _ _ _ _ registers := by cases registers
  free _ _ _ registers := by cases registers
  inserting _ _ _ _ task := by cases task
  route _ _ present := by cases present

variable [DecidableEq Index]

/-! ## Steps of a registration -/

/-- The registration that a step leaves with a worker is the one it had, or a new one of the worker
that found an address unknown. -/
theorem moves_registers {server next : UdpServer Index} {event : UdpEvent Index}
    (moves : server.Moves event next) {index : Index} {remoteAddr : SocketAddr}
    {remoteNodeId : NodeId}
    (registers : (next.worker index).registers = some (remoteAddr, remoteNodeId)) :
    (server.worker index).registers = some (remoteAddr, remoteNodeId) ∨
      event = .resumed index ∧ server.worker index = .checking remoteAddr remoteNodeId ∧
        server.peers remoteAddr = none ∧ next.peers = server.peers := by
  cases moves with
  | other _ _ _ _ same => exact .inl (same ▸ registers)
  | unknown acting address nodeId task absent =>
    simp only [setWorker, Function.update_apply] at registers
    split_ifs at registers with own
    · cases registers
      subst own
      exact .inr ⟨rfl, task, absent, rfl⟩
    · exact .inl registers
  | opened acting address nodeId task | added acting address nodeId _ task =>
    simp only [setWorker, Function.update_apply] at registers
    split_ifs at registers with own
    · subst own
      rw [task]
      exact .inl registers
    · exact .inl registers
  | _ =>
    simp only [setWorker, Function.update_apply] at registers
    split_ifs at registers with own
    · cases registers
    · exact .inl registers

/-- A peer that the map has after a step was there, or its worker was about to insert it. -/
theorem moves_peers {server next : UdpServer Index} {event : UdpEvent Index}
    (moves : server.Moves event next) {remoteAddr : SocketAddr} {peer : PeerState}
    (present : next.peers remoteAddr = some peer) :
    server.peers remoteAddr = some peer ∨
      ∃ index, server.worker index = .inserting remoteAddr peer.remoteNodeId peer.sender ∧
        next.worker index = .receiving := by
  cases moves with
  | other _ _ same => exact .inl (same ▸ present)
  | inserted acting address nodeId interface task =>
    simp only [Function.update_apply] at present
    split_ifs at present with own
    · cases present
      subst own
      exact .inr ⟨acting, task, by simp [setWorker]⟩
    · exact .inl present
  | removed acting address =>
    simp only [Function.update_apply] at present
    split_ifs at present
    exact .inl present
  | _ => exact .inl present

theorem registered_once_step {server next : UdpServer Index} {event : UdpEvent Index}
    (once : server.RegisteredOnce) (guarded : server.ChecksAlone event)
    (moves : server.Moves event next) : next.RegisteredOnce := by
  constructor
  · intro first second remoteAddr firstNode secondNode firstRegisters secondRegisters
    rcases moves_registers moves firstRegisters with before | ⟨rfl, task, absent, _⟩
    · rcases moves_registers moves secondRegisters with earlier | ⟨rfl, task, absent, _⟩
      · exact once.alone _ _ _ _ _ before earlier
      · exact absurd before (guarded _ _ task absent _ _)
    · rcases moves_registers moves secondRegisters with earlier | ⟨same, _⟩
      · exact absurd earlier (guarded _ _ task absent _ _)
      · cases same
        rfl
  · intro index remoteAddr remoteNodeId registers
    rcases moves_registers moves registers with before | ⟨_, _, absent, same⟩
    · have absent := once.absent _ _ _ before
      cases present : next.peers remoteAddr with
      | none => rfl
      | some peer =>
        rcases moves_peers moves present with earlier | ⟨inserter, task, done⟩
        · rw [absent] at earlier
          cases earlier
        · have own : (server.worker inserter).registers = some (remoteAddr, peer.remoteNodeId) := by
            rw [task]
            rfl
          rw [once.alone _ _ _ _ _ before own, done] at registers
          cases registers
    · rw [same]
      exact absent

/-- A worker about to insert was so before, with no new message, or it has just sent its message. -/
theorem moves_inserting {server next : UdpServer Index} {event : UdpEvent Index}
    (moves : server.Moves event next) :
    (next.messages = server.messages ∧ ∀ index remoteAddr remoteNodeId interface,
      next.worker index = .inserting remoteAddr remoteNodeId interface →
        server.worker index = .inserting remoteAddr remoteNodeId interface) ∨
      ∃ index remoteAddr remoteNodeId interface,
        server.worker index = .adding remoteAddr remoteNodeId interface ∧
          next = { server.setWorker index (.inserting remoteAddr remoteNodeId interface) with
            messages := server.messages ++ [.addNode remoteNodeId interface] } := by
  cases moves with
  | other _ _ _ messages same =>
    left
    rw [same]
    exact ⟨messages, fun _ _ _ _ task => task⟩
  | added acting address nodeId interface task =>
    exact .inr ⟨acting, address, nodeId, interface, task, rfl⟩
  | _ =>
    refine .inl ⟨rfl, ?_⟩
    intro index remoteAddr remoteNodeId interface task
    simp only [setWorker, Function.update_apply] at task
    split_ifs at task with own
    exact task

theorem followed_step {server next : UdpServer Index} {event : UdpEvent Index}
    (followed : server.Followed) (guarded : server.NodeFree event)
    (moves : server.Moves event next) : next.Followed := by
  have alone : ∀ first second firstAddr secondAddr remoteNodeId,
      (next.worker first).registers = some (firstAddr, remoteNodeId) →
        (next.worker second).registers = some (secondAddr, remoteNodeId) → first = second := by
    intro first second firstAddr secondAddr remoteNodeId firstRegisters secondRegisters
    rcases moves_registers moves firstRegisters with before | ⟨rfl, task, absent, _⟩
    · rcases moves_registers moves secondRegisters with earlier | ⟨rfl, task, absent, _⟩
      · exact followed.alone _ _ _ _ _ before earlier
      · exact absurd before ((guarded _ _ task absent).1 _ _)
    · rcases moves_registers moves secondRegisters with earlier | ⟨same, _⟩
      · exact absurd earlier ((guarded _ _ task absent).1 _ _)
      · cases same
        rfl
  have free : ∀ index remoteAddr remoteNodeId,
      (next.worker index).registers = some (remoteAddr, remoteNodeId) →
        ∀ address peer, next.peers address = some peer → peer.remoteNodeId ≠ remoteNodeId := by
    intro index remoteAddr remoteNodeId registers address peer present
    rcases moves_registers moves registers with before | ⟨rfl, task, absent, same⟩
    · rcases moves_peers moves present with earlier | ⟨inserter, task, done⟩
      · exact followed.free _ _ _ before _ _ earlier
      · rintro rfl
        have own : (server.worker inserter).registers = some (address, peer.remoteNodeId) := by
          rw [task]
          rfl
        rw [followed.alone _ _ _ _ _ before own, done] at registers
        cases registers
    · rw [same] at present
      exact (guarded _ _ task absent).2 _ _ present
  rcases moves_inserting moves with ⟨messages, kept⟩ | ⟨acting, address, nodeId, handle, adding, rfl⟩
  · have announced : next.announced = server.announced := by
      funext nodeId
      rw [UdpServer.announced, messages]
      rfl
    refine ⟨alone, free, ?_, ?_⟩
    · intro index remoteAddr remoteNodeId interface task
      rw [announced]
      exact followed.inserting _ _ _ _ (kept _ _ _ _ task)
    · intro remoteAddr peer present
      rw [announced]
      rcases moves_peers moves present with earlier | ⟨inserter, task, _⟩
      · exact followed.route _ _ earlier
      · exact followed.inserting _ _ _ _ task
  · have own : (server.worker acting).registers = some (address, nodeId) := by
      rw [adding]
      rfl
    refine ⟨alone, free, ?_, ?_⟩
    · intro index remoteAddr remoteNodeId interface task
      rw [UdpServer.announced, announced_added server _ handle nodeId remoteNodeId rfl]
      simp only [setWorker, Function.update_apply] at task
      split_ifs at task with same
      · cases task
        exact if_pos rfl
      · have registers : (server.worker index).registers = some (remoteAddr, remoteNodeId) := by
          rw [task]
          rfl
        have apart : remoteNodeId ≠ nodeId := by
          rintro rfl
          exact same (followed.alone _ _ _ _ _ registers own)
        rw [if_neg apart]
        exact followed.inserting _ _ _ _ task
    · intro remoteAddr peer present
      rw [UdpServer.announced, announced_added server _ handle nodeId peer.remoteNodeId rfl,
        if_neg (followed.free _ _ _ own _ _ present)]
      exact followed.route _ _ present

end UdpServer

/-- In any order of the workers' steps an address has one interface where no two workers register it
at once, the processors hold the interface that the map feeds where no two handshakes of a node are
let through, and a datagram from a registered address is put once into the queue found unless its
reader was gone. -/
theorem udp_registration (Index : Type*) [DecidableEq Index] (capacity : Nat) :
    (∀ server, ((udpServer Index capacity).restrict UdpServer.ChecksAlone).Reachable server →
      server.OneInterface) ∧
    (∀ server, ((udpServer Index capacity).restrict UdpServer.NodeFree).Reachable server →
      server.OneRoute) ∧
    ∀ server, (udpServer Index capacity).Reachable server → server.EachOnce := by
  refine ⟨?_, ?_, ?_⟩
  · intro server reachable
    apply UdpServer.one_interface_of_once
    apply TransitionSystem.invariant_of_reachable (motive := UdpServer.RegisteredOnce) _ _ reachable
    · rintro _ ⟨subscribed, rfl⟩
      exact UdpServer.registered_once_start subscribed
    · rintro before event after once ⟨guarded, step⟩
      exact UdpServer.registered_once_step once guarded (UdpServer.step_moves step)
  · intro server reachable
    apply UdpServer.Followed.route
    apply TransitionSystem.invariant_of_reachable (motive := UdpServer.Followed) _ _ reachable
    · rintro _ ⟨subscribed, rfl⟩
      exact UdpServer.followed_start subscribed
    · rintro before event after followed ⟨guarded, step⟩
      exact UdpServer.followed_step followed guarded (UdpServer.step_moves step)
  · intro server reachable
    exact UdpServer.each_once reachable

/-! ### Handshakes that arrive twice -/

/-- The workers of a node with two packet processors. -/
abbrev TwoWorkers : Type := Fin (determineWorkerCount 2)

def firstWorker : TwoWorkers := ⟨0, by decide⟩

def secondWorker : TwoWorkers := ⟨1, by decide⟩

def handshakeOfSeven : List Byte := handshakeMagic :: encodeBE 8 7

/-- One worker registers the address; the other one finds it known and passes on its datagram. -/
theorem handshake_registers_once : ∃ server : UdpServer TwoWorkers, server.peers 5 = some ⟨0, 7⟩ ∧
    server.queue 0 = [⟨2, 5, [1]⟩] ∧ server.OneInterface ∧ server.OneRoute ∧ server.EachOnce := by
  let guard (server : UdpServer TwoWorkers) (event : UdpEvent TwoWorkers) : Prop :=
    server.ChecksAlone event ∧ server.NodeFree event
  have started : ((udpServer TwoWorkers 8).restrict guard).Reachable (.start true) :=
    TransitionSystem.reachable_of_initial ⟨true, rfl⟩
  have shook := started.step (show guard _ (.received firstWorker 5 handshakeOfSeven) ∧
    UdpServer.step 8 _ _ = some _ from ⟨⟨trivial, trivial⟩, rfl⟩)
  have unknown := shook.step (show guard _ (.resumed firstWorker) ∧
    UdpServer.step 8 _ _ = some _ from by
      refine ⟨⟨?_, ?_⟩, rfl⟩
      · intro remoteAddr remoteNodeId _ _ other nodeId registers
        match other with
        | ⟨0, _⟩ | ⟨1, _⟩ => cases registers
      · intro remoteAddr remoteNodeId _ _
        refine ⟨?_, nofun⟩
        intro other address registers
        match other with
        | ⟨0, _⟩ | ⟨1, _⟩ => cases registers)
  have opened := unknown.step (show guard _ (.resumed firstWorker) ∧
    UdpServer.step 8 _ _ = some _ from ⟨⟨nofun, nofun⟩, rfl⟩)
  have added := opened.step (show guard _ (.resumed firstWorker) ∧
    UdpServer.step 8 _ _ = some _ from ⟨⟨nofun, nofun⟩, rfl⟩)
  have inserted := added.step (show guard _ (.resumed firstWorker) ∧
    UdpServer.step 8 _ _ = some _ from ⟨⟨nofun, nofun⟩, rfl⟩)
  have again := inserted.step (show guard _ (.received secondWorker 5 handshakeOfSeven) ∧
    UdpServer.step 8 _ _ = some _ from ⟨⟨trivial, trivial⟩, rfl⟩)
  have known := again.step (show guard _ (.resumed secondWorker) ∧
    UdpServer.step 8 _ _ = some _ from by
      refine ⟨⟨?_, ?_⟩, rfl⟩
      · intro remoteAddr remoteNodeId task absent
        cases task
        cases absent
      · intro remoteAddr remoteNodeId task absent
        cases task
        cases absent)
  have arrived := known.step (show guard _ (.received secondWorker 5 [1]) ∧
    UdpServer.step 8 _ _ = some _ from ⟨⟨trivial, trivial⟩, rfl⟩)
  have found := arrived.step (show guard _ (.resumed secondWorker) ∧
    UdpServer.step 8 _ _ = some _ from ⟨⟨nofun, nofun⟩, rfl⟩)
  have queued := found.step (show guard _ (.resumed secondWorker) ∧
    UdpServer.step 8 _ _ = some _ from ⟨⟨nofun, nofun⟩, rfl⟩)
  rcases queued with ⟨start, labels, initial, run⟩
  have registration := udp_registration TwoWorkers 8
  refine ⟨_, rfl, rfl, registration.1 _ ⟨start, labels, initial, ?_⟩,
    registration.2.1 _ ⟨start, labels, initial, ?_⟩,
    registration.2.2 _ ⟨start, labels, initial, run.unrestricted⟩⟩
  · exact run.restrict_mono fun _ _ both => both.1
  · exact run.restrict_mono fun _ _ both => both.2
def racingEvents : List (UdpEvent TwoWorkers) :=
  [.received firstWorker 5 handshakeOfSeven, .received secondWorker 5 handshakeOfSeven,
    .resumed firstWorker, .resumed secondWorker, .resumed firstWorker, .resumed secondWorker]

def crossingEvents : List (UdpEvent TwoWorkers) :=
  [.resumed firstWorker, .resumed secondWorker, .resumed secondWorker, .resumed firstWorker]

def raced (events : List (UdpEvent TwoWorkers)) :
    Option (UdpServer TwoWorkers × List (UdpEvent TwoWorkers × Unit)) :=
  TransitionSystem.execute (fun server event => (server.step 8 event).map fun next => (next, ()))
    (.start true) events

theorem raced_reachable {events : List (UdpEvent TwoWorkers)} {Value : Type}
    (read : UdpServer TwoWorkers → Value) {value : Value}
    (evaluated : (raced events).map (fun result => read result.1) = some value) :
    ∃ server, (udpServer TwoWorkers 8).Reachable server ∧ read server = value := by
  rcases Option.map_eq_some_iff.mp evaluated with ⟨⟨server, outputs⟩, finished, same⟩
  have run := @TransitionSystem.run_of_silent_execute _ _ (udpServer TwoWorkers 8) _
    (fun _ _ _ stepped => stepped) _ _ _ _ finished
  exact ⟨server, ⟨.start true, _, ⟨true, rfl⟩, run⟩, same⟩

/-- Two interfaces are opened for one address, and in the end the map feeds the one and the
processors hold the other. -/
theorem duplicate_handshake_splits_peer :
    (∃ server, (udpServer TwoWorkers 8).Reachable server ∧ ¬server.OneInterface) ∧
    ∃ server, (udpServer TwoWorkers 8).Reachable server ∧
      server.peers 5 = some ⟨0, 7⟩ ∧ server.announced 7 = some 1 ∧ ¬server.OneRoute := by
  constructor
  · have evaluated : (raced racingEvents).map (fun result =>
        ((result.1.worker firstWorker).opened, (result.1.worker secondWorker).opened)) =
          some (some (5, 0), some (5, 1)) := by
      decide +kernel
    rcases raced_reachable
      (fun server => ((server.worker firstWorker).opened, (server.worker secondWorker).opened))
      evaluated with ⟨server, reachable, same⟩
    rcases Prod.mk.inj same with ⟨first, second⟩
    refine ⟨server, reachable, ?_⟩
    intro one
    have equal := one 5 0 1 (.inr ⟨firstWorker, first⟩) (.inr ⟨secondWorker, second⟩)
    cases equal
  · have evaluated : (raced (racingEvents ++ crossingEvents)).map (fun result =>
        (result.1.peers 5, result.1.messages)) =
          some (some ⟨0, 7⟩, [.addNode 7 0, .addNode 7 1]) := by
      rfl
    rcases raced_reachable (fun server => (server.peers 5, server.messages)) evaluated with
      ⟨server, reachable, same⟩
    rcases Prod.mk.inj same with ⟨fed, messages⟩
    have held : server.announced 7 = some 1 := by
      rw [UdpServer.announced, messages]
      simp [schedulersAfter]
    refine ⟨server, reachable, fed, held, ?_⟩
    intro route
    have followed := route 5 _ fed
    rw [held] at followed
    cases followed

end Nextmini.Node
