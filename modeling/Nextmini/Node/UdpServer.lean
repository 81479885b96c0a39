import Mathlib.Logic.Function.Basic
import Nextmini.Library.BigEndian
import Nextmini.Library.TransitionSystem
import Nextmini.Node.Processors

/-!
# UDP server

The receive workers of a UDP server, which share its socket and its map of peers. A handshake from an
address that the map does not have gets an interface, which is announced to the processors and then
put into the map; a datagram from an address that the map has goes into the queue of its interface.
Every use of the map is a step of its own. Interfaces are known by number, each with its queue, and
datagrams by the number of their arrival. An error of the socket changes nothing and is left out.
-/

namespace Nextmini.Node

open Nextmini.Library Nextmini.Library.BigEndian Nextmini.Routing

set_option autoImplicit false

def handshakeMagic : Byte := 0xAA

def handshakeLen : Nat := 9

def defaultUdpWorkers : Nat := 2

def receiveBufSize : Nat := 9004

def determineWorkerCount (numPacketProcessors : Nat) : Nat :=
  max (if numPacketProcessors = 0 then defaultUdpWorkers else numPacketProcessors) 1

abbrev SocketAddr := Nat

structure PeerState where
  sender : Handle
  remoteNodeId : NodeId
  deriving DecidableEq

structure Datagram where
  number : Nat
  remoteAddr : SocketAddr
  frame : List Byte
  deriving DecidableEq

/-- The node id of a handshake; `none`: the frame is none. -/
def handshakeNodeId : List Byte → Option NodeId
  | [] => none
  | magic :: nodeIdBytes =>
      if magic = handshakeMagic ∧ (magic :: nodeIdBytes).length = handshakeLen then
        some (decodeBE nodeIdBytes)
      else none

/-- An interface with all that was put into its queue, and how much of it its reader has taken. -/
structure PeerInterface where
  remoteAddr : SocketAddr
  remoteNodeId : NodeId
  queued : List Datagram
  taken : Nat
  reading : Bool

/-- What a worker does next. -/
inductive WorkerTask where
  | receiving
  | checking (remoteAddr : SocketAddr) (remoteNodeId : NodeId)
  | opening (remoteAddr : SocketAddr) (remoteNodeId : NodeId)
  | adding (remoteAddr : SocketAddr) (remoteNodeId : NodeId) (interface : Handle)
  | inserting (remoteAddr : SocketAddr) (remoteNodeId : NodeId) (interface : Handle)
  | looking (datagram : Datagram)
  | sending (datagram : Datagram) (peer : PeerState)
  | removing (remoteAddr : SocketAddr)
  deriving DecidableEq

/-- The map of peers, the interfaces created so far, the messages to the processors and whether any
processor still takes them, and the workers. Two lists record what lookups have found and what could
not be sent; no step reads them. -/
structure UdpServer (Index : Type*) where
  peers : SocketAddr → Option PeerState
  interfaces : List PeerInterface
  messages : List ProcessorMessage
  subscribed : Bool
  worker : Index → WorkerTask
  received : Nat
  found : List (Datagram × PeerState)
  lost : List Datagram

inductive UdpEvent (Index : Type*) where
  | received (index : Index) (remoteAddr : SocketAddr) (bytes : List Byte)
  | resumed (index : Index)
  | taken (interface : Handle)
  | readerStopped (interface : Handle)
  | processorsStopped

namespace UdpServer

variable {Index : Type*} [DecidableEq Index]

def start (subscribed : Bool) : UdpServer Index where
  peers _ := none
  interfaces := []
  messages := []
  subscribed := subscribed
  worker _ := .receiving
  received := 0
  found := []
  lost := []

def setWorker (server : UdpServer Index) (index : Index) (task : WorkerTask) : UdpServer Index :=
  { server with worker := Function.update server.worker index task }

def setInterface (server : UdpServer Index) (handle : Handle) (interface : PeerInterface) :
    UdpServer Index :=
  { server with interfaces := server.interfaces.set handle interface }

/-- A received datagram, cut to the buffer; an empty one is skipped. -/
def receive (server : UdpServer Index) (index : Index) (remoteAddr : SocketAddr)
    (bytes : List Byte) : UdpServer Index :=
  let frame := bytes.take receiveBufSize
  let counted := { server with received := server.received + 1 }
  if frame = [] then counted
  else
    match handshakeNodeId frame with
    | some remoteNodeId => counted.setWorker index (.checking remoteAddr remoteNodeId)
    | none => counted.setWorker index (.looking ⟨server.received, remoteAddr, frame⟩)

/-- `none`: the worker has nothing to go on with, or waits for room in a queue. -/
def resume (capacity : Nat) (server : UdpServer Index) (index : Index) : Option (UdpServer Index) :=
  match server.worker index with
  | .receiving => none
  | .checking remoteAddr remoteNodeId =>
      if (server.peers remoteAddr).isSome then some (server.setWorker index .receiving)
      else some (server.setWorker index (.opening remoteAddr remoteNodeId))
  | .opening remoteAddr remoteNodeId =>
      some
        { server.setWorker index (.adding remoteAddr remoteNodeId server.interfaces.length) with
          interfaces := server.interfaces ++ [⟨remoteAddr, remoteNodeId, [], 0, true⟩] }
  | .adding remoteAddr remoteNodeId interface =>
      if server.subscribed then
        some
          { server.setWorker index (.inserting remoteAddr remoteNodeId interface) with
            messages := server.messages ++ [.addNode remoteNodeId interface] }
      else some (server.setWorker index .receiving)
  | .inserting remoteAddr remoteNodeId interface =>
      some
        { server.setWorker index .receiving with
          peers := Function.update server.peers remoteAddr (some ⟨interface, remoteNodeId⟩) }
  | .looking datagram =>
      match server.peers datagram.remoteAddr with
      | none => some (server.setWorker index .receiving)
      | some peer =>
          some
            { server.setWorker index (.sending datagram peer) with
              found := server.found ++ [(datagram, peer)] }
  | .sending datagram peer =>
      match server.interfaces[peer.sender]? with
      | none => none
      | some interface =>
          if interface.reading then
            if interface.queued.length - interface.taken < capacity then
              some
                ((server.setInterface peer.sender
                  { interface with queued := interface.queued ++ [datagram] }).setWorker index
                    .receiving)
            else none
          else
            some
              { server.setWorker index (.removing datagram.remoteAddr) with
                lost := server.lost ++ [datagram] }
  | .removing remoteAddr =>
      some
        { server.setWorker index .receiving with
          peers := Function.update server.peers remoteAddr none }

/-- `none`: the event does not happen here. -/
def step (capacity : Nat) (server : UdpServer Index) : UdpEvent Index → Option (UdpServer Index)
  | .received index remoteAddr bytes =>
      if server.worker index = .receiving then some (server.receive index remoteAddr bytes) else none
  | .resumed index => server.resume capacity index
  | .taken handle =>
      match server.interfaces[handle]? with
      | none => none
      | some interface =>
          if interface.reading ∧ interface.taken < interface.queued.length then
            some (server.setInterface handle { interface with taken := interface.taken + 1 })
          else none
  | .readerStopped handle =>
      match server.interfaces[handle]? with
      | none => none
      | some interface => some (server.setInterface handle { interface with reading := false })
  | .processorsStopped => some { server with subscribed := false }

end UdpServer

/-- The server from its start, with processors that take messages or without. -/
def udpServer (Index : Type*) [DecidableEq Index] (capacity : Nat) :
    TransitionSystem (UdpServer Index) (UdpEvent Index) where
  initial server := ∃ subscribed, server = .start subscribed
  step server event next := server.step capacity event = some next

namespace UdpServer

variable {Index : Type*}

/-! ## Queues -/

def queue (server : UdpServer Index) (handle : Handle) : List Datagram :=
  ((server.interfaces[handle]?).map PeerInterface.queued).getD []

theorem queue_set (server : UdpServer Index) {handle : Handle} {interface : PeerInterface}
    (present : server.interfaces[handle]? = some interface) (later : PeerInterface) :
    (server.setInterface handle later).queue =
      Function.update server.queue handle later.queued := by
  funext other
  have inside : handle < server.interfaces.length := by
    rw [List.getElem?_eq_some_iff] at present
    exact present.1
  simp only [queue, setInterface, Function.update_apply, List.getElem?_set]
  by_cases same : other = handle
  · simp [same, inside]
  · simp [same, Ne.symm same]

theorem queue_set_same (server : UdpServer Index) {handle : Handle} {interface : PeerInterface}
    (present : server.interfaces[handle]? = some interface) {later : PeerInterface}
    (same : later.queued = interface.queued) :
    (server.setInterface handle later).queue = server.queue := by
  have stored : interface.queued = server.queue handle := by
    rw [queue, present]
    rfl
  rw [queue_set server present, same, stored, Function.update_eq_self]

theorem queue_opened (server : UdpServer Index) (remoteAddr : SocketAddr) (remoteNodeId : NodeId)
    (handle : Handle) :
    (((server.interfaces ++ [⟨remoteAddr, remoteNodeId, [], 0, true⟩])[handle]?).map
      PeerInterface.queued).getD [] = server.queue handle := by
  rw [queue, List.getElem?_append]
  split_ifs with inside
  · rfl
  · rw [List.getElem?_eq_none (Nat.not_lt.mp inside)]
    cases handle - server.interfaces.length <;> rfl

/-! ## What a step can do -/

variable [DecidableEq Index]

/-- The ways of a step. The first four are those of a handshake, the next ones those of a datagram;
what the reader of a queue or the processors do is left to the last. -/
inductive Moves (server : UdpServer Index) : UdpEvent Index → UdpServer Index → Prop
  | shook (index : Index) (remoteAddr : SocketAddr) (bytes : List Byte) (remoteNodeId : NodeId) :
      server.worker index = .receiving →
        Moves server (.received index remoteAddr bytes)
          { server.setWorker index (.checking remoteAddr remoteNodeId) with
            received := server.received + 1 }
  | unknown (index : Index) (remoteAddr : SocketAddr) (remoteNodeId : NodeId) :
      server.worker index = .checking remoteAddr remoteNodeId → server.peers remoteAddr = none →
        Moves server (.resumed index) (server.setWorker index (.opening remoteAddr remoteNodeId))
  | opened (index : Index) (remoteAddr : SocketAddr) (remoteNodeId : NodeId) :
      server.worker index = .opening remoteAddr remoteNodeId →
        Moves server (.resumed index)
          { server.setWorker index (.adding remoteAddr remoteNodeId server.interfaces.length) with
            interfaces := server.interfaces ++ [⟨remoteAddr, remoteNodeId, [], 0, true⟩] }
  | added (index : Index) (remoteAddr : SocketAddr) (remoteNodeId : NodeId) (interface : Handle) :
      server.worker index = .adding remoteAddr remoteNodeId interface →
        Moves server (.resumed index)
          { server.setWorker index (.inserting remoteAddr remoteNodeId interface) with
            messages := server.messages ++ [.addNode remoteNodeId interface] }
  | inserted (index : Index) (remoteAddr : SocketAddr) (remoteNodeId : NodeId)
      (interface : Handle) :
      server.worker index = .inserting remoteAddr remoteNodeId interface →
        Moves server (.resumed index)
          { server.setWorker index .receiving with
            peers := Function.update server.peers remoteAddr (some ⟨interface, remoteNodeId⟩) }
  | arrived (index : Index) (remoteAddr : SocketAddr) (bytes frame : List Byte) :
      server.worker index = .receiving →
        Moves server (.received index remoteAddr bytes)
          { server.setWorker index (.looking ⟨server.received, remoteAddr, frame⟩) with
            received := server.received + 1 }
  | found (index : Index) (datagram : Datagram) (peer : PeerState) :
      server.worker index = .looking datagram → server.peers datagram.remoteAddr = some peer →
        Moves server (.resumed index)
          { server.setWorker index (.sending datagram peer) with
            found := server.found ++ [(datagram, peer)] }
  | sent (index : Index) (datagram : Datagram) (peer : PeerState) (interface : PeerInterface) :
      server.worker index = .sending datagram peer →
      server.interfaces[peer.sender]? = some interface →
        Moves server (.resumed index)
          ((server.setInterface peer.sender
            { interface with queued := interface.queued ++ [datagram] }).setWorker index .receiving)
  | failed (index : Index) (datagram : Datagram) (peer : PeerState) :
      server.worker index = .sending datagram peer →
        Moves server (.resumed index)
          { server.setWorker index (.removing datagram.remoteAddr) with
            lost := server.lost ++ [datagram] }
  | removed (index : Index) (remoteAddr : SocketAddr) :
      server.worker index = .removing remoteAddr →
        Moves server (.resumed index)
          { server.setWorker index .receiving with
            peers := Function.update server.peers remoteAddr none }
  | dropped (index : Index) :
      (∀ datagram peer, server.worker index ≠ .sending datagram peer) →
        Moves server (.resumed index) (server.setWorker index .receiving)
  | other (event : UdpEvent Index) (next : UdpServer Index) :
      next.peers = server.peers → next.messages = server.messages → next.worker = server.worker →
      server.received ≤ next.received → next.found = server.found → next.lost = server.lost →
      next.queue = server.queue → Moves server event next

theorem resume_cases {capacity : Nat} {server next : UdpServer Index} {index : Index}
    (resumed : server.resume capacity index = some next) : server.Moves (.resumed index) next := by
  unfold resume at resumed
  cases task : server.worker index with
  | receiving => simp [task] at resumed
  | checking remoteAddr remoteNodeId =>
    simp only [task] at resumed
    split at resumed
    · cases resumed
      exact .dropped index (by simp [task])
    · rename_i absent
      cases resumed
      exact .unknown index remoteAddr remoteNodeId task (by simpa using absent)
  | opening remoteAddr remoteNodeId =>
    simp only [task, Option.some.injEq] at resumed
    subst resumed
    exact .opened index remoteAddr remoteNodeId task
  | adding remoteAddr remoteNodeId interface =>
    simp only [task] at resumed
    split at resumed
    · cases resumed
      exact .added index remoteAddr remoteNodeId interface task
    · cases resumed
      exact .dropped index (by simp [task])
  | inserting remoteAddr remoteNodeId interface =>
    simp only [task, Option.some.injEq] at resumed
    subst resumed
    exact .inserted index remoteAddr remoteNodeId interface task
  | looking datagram =>
    simp only [task] at resumed
    split at resumed
    · cases resumed
      exact .dropped index (by simp [task])
    · rename_i peer known
      cases resumed
      exact .found index datagram peer task known
  | sending datagram peer =>
    simp only [task] at resumed
    split at resumed
    · cases resumed
    · rename_i interface present
      split at resumed
      · split at resumed
        · cases resumed
          exact .sent index datagram peer interface task present
        · cases resumed
      · cases resumed
        exact .failed index datagram peer task
  | removing remoteAddr =>
    simp only [task, Option.some.injEq] at resumed
    subst resumed
    exact .removed index remoteAddr task

theorem receive_cases (server : UdpServer Index) {index : Index} (remoteAddr : SocketAddr)
    (bytes : List Byte) (receiving : server.worker index = .receiving) :
    server.Moves (.received index remoteAddr bytes) (server.receive index remoteAddr bytes) := by
  simp only [receive]
  split
  · exact .other _ _ rfl rfl rfl (Nat.le_succ _) rfl rfl rfl
  · split
    · rename_i remoteNodeId _
      exact .shook index remoteAddr bytes remoteNodeId receiving
    · exact .arrived index remoteAddr bytes _ receiving

theorem step_moves {capacity : Nat} {server next : UdpServer Index} {event : UdpEvent Index}
    (stepped : server.step capacity event = some next) : server.Moves event next := by
  cases event with
  | received index remoteAddr bytes =>
    simp only [step] at stepped
    split at stepped
    · rename_i receiving
      cases stepped
      exact receive_cases server remoteAddr bytes receiving
    · cases stepped
  | resumed index => exact resume_cases stepped
  | taken handle =>
    simp only [step] at stepped
    split at stepped
    · cases stepped
    · rename_i interface present
      split at stepped
      · cases stepped
        exact .other _ _ rfl rfl rfl (Nat.le_refl _) rfl rfl (queue_set_same server present rfl)
      · cases stepped
  | readerStopped handle =>
    simp only [step] at stepped
    split at stepped
    · cases stepped
    · rename_i interface present
      cases stepped
      exact .other _ _ rfl rfl rfl (Nat.le_refl _) rfl rfl (queue_set_same server present rfl)
  | processorsStopped =>
    cases stepped
    exact .other _ _ rfl rfl rfl (Nat.le_refl _) rfl rfl rfl

end UdpServer

end Nextmini.Node
