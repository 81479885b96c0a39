import Nextmini.Node.UdpServer

/-!
# Datagrams of UDP peers

The way of a datagram through the receive workers of a UDP server. Its worker looks its address up
and puts it into the queue found; what other workers do in between touches neither it nor that.
-/

namespace Nextmini.Node

open Nextmini.Library

set_option autoImplicit false

/-- The datagram that a worker is to find the queue of, or to put there. -/
def WorkerTask.holds : WorkerTask → Option Datagram
  | .looking datagram => some datagram
  | .sending datagram _ => some datagram
  | _ => none

namespace UdpServer

variable {Index : Type*}

/-- A datagram whose address was found registered is, once it is out of its worker's hands, once in
the queue found and in no other, or it was lost and is in none. -/
def EachOnce (server : UdpServer Index) : Prop :=
  ∀ datagram peer, (datagram, peer) ∈ server.found →
    (∀ index, (server.worker index).holds ≠ some datagram) →
      ∀ interface, (server.queue interface).count datagram =
        if interface = peer.sender ∧ datagram ∉ server.lost then 1 else 0

/-! ## Invariant -/

/-- Numbers tell datagrams apart, and one that a worker holds is nowhere else yet. -/
structure Accounted (server : UdpServer Index) : Prop where
  numbered : ∀ index datagram, (server.worker index).holds = some datagram →
    datagram.number < server.received
  apart : ∀ first second datagram other, (server.worker first).holds = some datagram →
    (server.worker second).holds = some other → datagram.number = other.number → first = second
  foundNumbered : ∀ datagram peer, (datagram, peer) ∈ server.found →
    datagram.number < server.received
  oneFinding : ∀ datagram peer other second, (datagram, peer) ∈ server.found →
    (other, second) ∈ server.found → datagram.number = other.number → datagram = other ∧ peer = second
  looking : ∀ index datagram, server.worker index = .looking datagram →
    ∀ other peer, (other, peer) ∈ server.found → other.number ≠ datagram.number
  sending : ∀ index datagram peer, server.worker index = .sending datagram peer →
    (datagram, peer) ∈ server.found
  untouched : ∀ index datagram, (server.worker index).holds = some datagram →
    datagram ∉ server.lost ∧ ∀ interface, datagram ∉ server.queue interface
  lostNumbered : ∀ datagram ∈ server.lost, datagram.number < server.received
  queueNumbered : ∀ interface, ∀ datagram ∈ server.queue interface,
    datagram.number < server.received
  once : server.EachOnce

theorem accounted_start (subscribed : Bool) : (start subscribed : UdpServer Index).Accounted where
  numbered _ _ holds := by cases holds
  apart _ _ _ _ holds := by cases holds
  foundNumbered _ _ member := by cases member
  oneFinding _ _ _ _ member := by cases member
  looking _ _ task := by cases task
  sending _ _ _ task := by cases task
  untouched _ _ holds := by cases holds
  lostNumbered _ member := by cases member
  queueNumbered _ _ member := by cases member
  once _ _ member := by cases member

theorem accounted_kept {server next : UdpServer Index} (accounted : server.Accounted)
    (received : server.received ≤ next.received) (found : next.found = server.found)
    (lost : next.lost = server.lost) (queue : next.queue = server.queue)
    (held : ∀ index datagram, (next.worker index).holds = some datagram →
      next.worker index = server.worker index)
    (sending : ∀ index datagram peer, server.worker index = .sending datagram peer →
      next.worker index = server.worker index) : next.Accounted := by
  have before : ∀ index datagram, (next.worker index).holds = some datagram →
      (server.worker index).holds = some datagram := by
    intro index datagram holds
    rw [← held index datagram holds]
    exact holds
  constructor
  case numbered =>
    intro index datagram holds
    exact Nat.lt_of_lt_of_le (accounted.numbered _ _ (before _ _ holds)) received
  case apart =>
    intro first second datagram other firstHolds secondHolds same
    exact accounted.apart _ _ _ _ (before _ _ firstHolds) (before _ _ secondHolds) same
  case foundNumbered =>
    rw [found]
    intro datagram peer member
    exact Nat.lt_of_lt_of_le (accounted.foundNumbered _ _ member) received
  case oneFinding =>
    rw [found]
    exact accounted.oneFinding
  case looking =>
    intro index datagram task
    have same := held index datagram (by rw [task]; rfl)
    rw [task] at same
    rw [found]
    exact accounted.looking index datagram same.symm
  case sending =>
    intro index datagram peer task
    have same := held index datagram (by rw [task]; rfl)
    rw [task] at same
    rw [found]
    exact accounted.sending index datagram peer same.symm
  case untouched =>
    rw [lost, queue]
    intro index datagram holds
    exact accounted.untouched _ _ (before _ _ holds)
  case lostNumbered =>
    rw [lost]
    intro datagram member
    exact Nat.lt_of_lt_of_le (accounted.lostNumbered _ member) received
  case queueNumbered =>
    rw [queue]
    intro interface datagram member
    exact Nat.lt_of_lt_of_le (accounted.queueNumbered _ _ member) received
  case once =>
    intro datagram peer member free
    rw [found] at member
    rw [queue, lost]
    apply accounted.once datagram peer member
    intro index holds
    -- A worker that dropped the datagram had not found its queue.
    cases task : server.worker index with
    | looking waiting =>
      rw [task] at holds
      cases holds
      exact accounted.looking index datagram task datagram peer member rfl
    | sending waiting toward =>
      apply free index
      rw [sending index waiting toward task]
      exact holds
    | _ =>
      rw [task] at holds
      cases holds

variable [DecidableEq Index]

/-! ## What a step does to datagrams -/

/-- What a step does to datagrams: nothing but perhaps to drop one that is not found yet, or one of
them arrives, finds its queue, or leaves the hands of its worker. -/
inductive Carries (server next : UdpServer Index) : Prop
  | kept :
      server.received ≤ next.received → next.found = server.found → next.lost = server.lost →
      next.queue = server.queue →
      (∀ index datagram, (next.worker index).holds = some datagram →
        next.worker index = server.worker index) →
      (∀ index datagram peer, server.worker index = .sending datagram peer →
        next.worker index = server.worker index) → Carries server next
  | arrived (index : Index) (datagram : Datagram) :
      datagram.number = server.received → next.received = server.received + 1 →
      next.found = server.found → next.lost = server.lost → next.queue = server.queue →
      server.worker index = .receiving →
      next.worker = Function.update server.worker index (.looking datagram) → Carries server next
  | found (index : Index) (datagram : Datagram) (peer : PeerState) :
      server.worker index = .looking datagram → next.received = server.received →
      next.found = server.found ++ [(datagram, peer)] → next.lost = server.lost →
      next.queue = server.queue →
      next.worker = Function.update server.worker index (.sending datagram peer) →
        Carries server next
  | settled (index : Index) (datagram : Datagram) (peer : PeerState) (task : WorkerTask) :
      server.worker index = .sending datagram peer → next.received = server.received →
      next.found = server.found → task.holds = none →
      next.worker = Function.update server.worker index task →
      (next.lost = server.lost ∧ next.queue = Function.update server.queue peer.sender
          (server.queue peer.sender ++ [datagram]) ∨
        next.lost = server.lost ++ [datagram] ∧ next.queue = server.queue) → Carries server next

/-- A worker that was not sending and holds no datagram after the step. -/
theorem carries_quiet {server next : UdpServer Index} {index : Index} {task : WorkerTask}
    (idle : ∀ datagram peer, server.worker index ≠ .sending datagram peer)
    (empty : task.holds = none) (worker : next.worker = Function.update server.worker index task)
    (received : server.received ≤ next.received) (found : next.found = server.found)
    (lost : next.lost = server.lost) (queue : next.queue = server.queue) : server.Carries next := by
  refine .kept received found lost queue ?_ ?_
  · intro other datagram holds
    rw [worker, Function.update_apply] at holds ⊢
    split_ifs at holds ⊢ with own
    · rw [empty] at holds
      cases holds
    · rfl
  · intro other datagram peer sending
    rw [worker, Function.update_apply]
    split_ifs with own
    · rw [own] at sending
      exact absurd sending (idle datagram peer)
    · rfl

theorem moves_carries {server next : UdpServer Index} {event : UdpEvent Index}
    (moves : server.Moves event next) : server.Carries next := by
  cases moves with
  | shook acting address bytes nodeId task =>
    exact carries_quiet (by simp [task]) rfl rfl (Nat.le_succ _) rfl rfl rfl
  | unknown acting address nodeId task absent =>
    exact carries_quiet (by simp [task]) rfl rfl (Nat.le_refl _) rfl rfl rfl
  | opened acting address nodeId task =>
    refine carries_quiet (by simp [task]) rfl rfl (Nat.le_refl _) rfl rfl ?_
    funext handle
    exact queue_opened server address nodeId handle
  | added acting address nodeId interface task =>
    exact carries_quiet (by simp [task]) rfl rfl (Nat.le_refl _) rfl rfl rfl
  | inserted acting address nodeId interface task =>
    exact carries_quiet (by simp [task]) rfl rfl (Nat.le_refl _) rfl rfl rfl
  | arrived acting address bytes frame task => exact .arrived acting _ rfl rfl rfl rfl rfl task rfl
  | found acting datagram peer task known =>
    exact .found acting datagram peer task rfl rfl rfl rfl rfl
  | sent acting datagram peer interface task present =>
    have stored : interface.queued = server.queue peer.sender := by
      rw [queue, present]
      rfl
    refine .settled acting datagram peer .receiving task rfl rfl rfl rfl (.inl ⟨rfl, ?_⟩)
    rw [← stored]
    exact queue_set server present _
  | failed acting datagram peer task =>
    exact .settled acting datagram peer _ task rfl rfl rfl rfl (.inr ⟨rfl, rfl⟩)
  | removed acting address task =>
    exact carries_quiet (by simp [task]) rfl rfl (Nat.le_refl _) rfl rfl rfl
  | dropped acting idle => exact carries_quiet idle rfl rfl (Nat.le_refl _) rfl rfl rfl
  | other _ _ _ _ worker received found lost queue =>
    refine .kept received found lost queue ?_ ?_
    · intro index datagram holds
      rw [worker]
    · intro index datagram peer sending
      rw [worker]

theorem accounted_arrived {server next : UdpServer Index} (accounted : server.Accounted)
    {index : Index} {datagram : Datagram} (number : datagram.number = server.received)
    (received : next.received = server.received + 1) (found : next.found = server.found)
    (lost : next.lost = server.lost) (queue : next.queue = server.queue)
    (idle : server.worker index = .receiving)
    (worker : next.worker = Function.update server.worker index (.looking datagram)) :
    next.Accounted := by
  have cases : ∀ other held, (next.worker other).holds = some held →
      other = index ∧ held = datagram ∨
        other ≠ index ∧ (server.worker other).holds = some held := by
    intro other held holds
    rw [worker, Function.update_apply] at holds
    split_ifs at holds with own
    · cases holds
      exact .inl ⟨own, rfl⟩
    · exact .inr ⟨own, holds⟩
  constructor
  case numbered =>
    intro other held holds
    rcases cases other held holds with ⟨_, rfl⟩ | ⟨_, before⟩
    · omega
    · have := accounted.numbered _ _ before
      omega
  case apart =>
    intro first second one other firstHolds secondHolds same
    rcases cases _ _ firstHolds with ⟨rfl, rfl⟩ | ⟨_, before⟩
    · rcases cases _ _ secondHolds with ⟨rfl, rfl⟩ | ⟨_, earlier⟩
      · rfl
      · have := accounted.numbered _ _ earlier
        omega
    · rcases cases _ _ secondHolds with ⟨rfl, rfl⟩ | ⟨_, earlier⟩
      · have := accounted.numbered _ _ before
        omega
      · exact accounted.apart _ _ _ _ before earlier same
  case foundNumbered =>
    rw [found, received]
    intro other peer member
    exact Nat.lt_succ_of_lt (accounted.foundNumbered _ _ member)
  case oneFinding =>
    rw [found]
    exact accounted.oneFinding
  case looking =>
    intro other held task
    rw [found]
    rw [worker, Function.update_apply] at task
    split_ifs at task with own
    · cases task
      intro one peer member
      have := accounted.foundNumbered _ _ member
      omega
    · exact accounted.looking other held task
  case sending =>
    intro other held peer task
    rw [worker, Function.update_apply] at task
    split_ifs at task with own
    rw [found]
    exact accounted.sending other held peer task
  case untouched =>
    rw [lost, queue]
    intro other held holds
    rcases cases other held holds with ⟨_, rfl⟩ | ⟨_, before⟩
    · constructor
      · intro member
        have := accounted.lostNumbered _ member
        omega
      · intro interface member
        have := accounted.queueNumbered _ _ member
        omega
    · exact accounted.untouched _ _ before
  case lostNumbered =>
    rw [lost, received]
    intro other member
    exact Nat.lt_succ_of_lt (accounted.lostNumbered _ member)
  case queueNumbered =>
    rw [queue, received]
    intro interface other member
    exact Nat.lt_succ_of_lt (accounted.queueNumbered _ _ member)
  case once =>
    intro other peer member free
    rw [found] at member
    rw [queue, lost]
    apply accounted.once other peer member
    intro holder holds
    have apart : holder ≠ index := by
      rintro rfl
      rw [idle] at holds
      cases holds
    apply free holder
    rw [worker, Function.update_of_ne apart]
    exact holds

theorem accounted_found {server next : UdpServer Index} (accounted : server.Accounted)
    {index : Index} {datagram : Datagram} {peer : PeerState}
    (task : server.worker index = .looking datagram) (received : next.received = server.received)
    (found : next.found = server.found ++ [(datagram, peer)]) (lost : next.lost = server.lost)
    (queue : next.queue = server.queue)
    (worker : next.worker = Function.update server.worker index (.sending datagram peer)) :
    next.Accounted := by
  have held : (server.worker index).holds = some datagram := by
    rw [task]
    rfl
  have same : ∀ other, (next.worker other).holds = (server.worker other).holds := by
    intro other
    rw [worker, Function.update_apply]
    split_ifs with own
    · rw [own, held]
      rfl
    · rfl
  have members : ∀ other second, (other, second) ∈ next.found →
      (other, second) ∈ server.found ∨ other = datagram ∧ second = peer := by
    intro other second member
    rw [found, List.mem_append, List.mem_singleton, Prod.mk.injEq] at member
    exact member
  constructor
  case numbered =>
    simp only [same, received]
    exact accounted.numbered
  case apart =>
    simp only [same]
    exact accounted.apart
  case foundNumbered =>
    rw [received]
    intro other second member
    rcases members other second member with before | ⟨rfl, rfl⟩
    · exact accounted.foundNumbered _ _ before
    · exact accounted.numbered _ _ held
  case oneFinding =>
    have fresh := accounted.looking index datagram task
    intro one first other second oneMember otherMember alike
    rcases members _ _ oneMember with before | ⟨rfl, rfl⟩
    · rcases members _ _ otherMember with earlier | ⟨rfl, rfl⟩
      · exact accounted.oneFinding _ _ _ _ before earlier alike
      · exact absurd alike (fresh _ _ before)
    · rcases members _ _ otherMember with earlier | ⟨rfl, rfl⟩
      · exact absurd alike.symm (fresh _ _ earlier)
      · exact ⟨rfl, rfl⟩
  case looking =>
    intro other waiting looks one second member alike
    rw [worker, Function.update_apply] at looks
    split_ifs at looks with own
    rcases members _ _ member with before | ⟨rfl, rfl⟩
    · exact accounted.looking other waiting looks _ _ before alike
    · apply own
      apply accounted.apart other index waiting one _ held alike.symm
      rw [looks]
      rfl
  case sending =>
    intro other waiting second sends
    rw [worker, Function.update_apply] at sends
    rw [found, List.mem_append]
    split_ifs at sends with own
    · cases sends
      exact .inr (List.mem_singleton_self _)
    · exact .inl (accounted.sending other waiting second sends)
  case untouched =>
    simp only [same, lost, queue]
    exact accounted.untouched
  case lostNumbered =>
    rw [lost, received]
    exact accounted.lostNumbered
  case queueNumbered =>
    rw [queue, received]
    exact accounted.queueNumbered
  case once =>
    intro other second member free
    simp only [same] at free
    rw [queue, lost]
    rcases members _ _ member with before | ⟨rfl, rfl⟩
    · exact accounted.once _ _ before free
    · exact absurd held (free index)

theorem accounted_settled {server next : UdpServer Index} (accounted : server.Accounted)
    {index : Index} {datagram : Datagram} {peer : PeerState} {task : WorkerTask}
    (sending : server.worker index = .sending datagram peer)
    (received : next.received = server.received) (found : next.found = server.found)
    (empty : task.holds = none) (worker : next.worker = Function.update server.worker index task)
    (settled : next.lost = server.lost ∧ next.queue = Function.update server.queue peer.sender
        (server.queue peer.sender ++ [datagram]) ∨
      next.lost = server.lost ++ [datagram] ∧ next.queue = server.queue) : next.Accounted := by
  have held : (server.worker index).holds = some datagram := by
    rw [sending]
    rfl
  have before : ∀ other waiting, (next.worker other).holds = some waiting →
      other ≠ index ∧ next.worker other = server.worker other := by
    intro other waiting holds
    rw [worker, Function.update_apply] at holds ⊢
    split_ifs at holds ⊢ with own
    · rw [empty] at holds
      cases holds
    · exact ⟨own, rfl⟩
  have inLost : ∀ other, other ∈ next.lost → other ∈ server.lost ∨ other = datagram := by
    intro other member
    rcases settled with ⟨lost, _⟩ | ⟨lost, _⟩
    · rw [lost] at member
      exact .inl member
    · rw [lost, List.mem_append, List.mem_singleton] at member
      exact member
  have inQueue : ∀ interface other, other ∈ next.queue interface →
      other ∈ server.queue interface ∨ other = datagram := by
    intro interface other member
    rcases settled with ⟨_, queue⟩ | ⟨_, queue⟩
    · rw [queue, Function.update_apply] at member
      split_ifs at member with own
      · rw [own]
        rw [List.mem_append, List.mem_singleton] at member
        exact member
      · exact .inl member
    · rw [queue] at member
      exact .inl member
  constructor
  case numbered =>
    intro other waiting holds
    rw [(before other waiting holds).2] at holds
    rw [received]
    exact accounted.numbered _ _ holds
  case apart =>
    intro first second one other firstHolds secondHolds same
    rw [(before _ _ firstHolds).2] at firstHolds
    rw [(before _ _ secondHolds).2] at secondHolds
    exact accounted.apart _ _ _ _ firstHolds secondHolds same
  case foundNumbered =>
    rw [found, received]
    exact accounted.foundNumbered
  case oneFinding =>
    rw [found]
    exact accounted.oneFinding
  case looking =>
    intro other waiting looks
    rw [(before other waiting (by rw [looks]; rfl)).2] at looks
    rw [found]
    exact accounted.looking other waiting looks
  case sending =>
    intro other waiting second sends
    rw [(before other waiting (by rw [sends]; rfl)).2] at sends
    rw [found]
    exact accounted.sending other waiting second sends
  case untouched =>
    intro other waiting holds
    rcases before other waiting holds with ⟨own, same⟩
    rw [same] at holds
    have apart : waiting ≠ datagram := by
      rintro rfl
      exact own (accounted.apart _ _ _ _ holds held rfl)
    rcases accounted.untouched _ _ holds with ⟨notLost, notQueued⟩
    constructor
    · intro member
      exact (inLost _ member).elim notLost apart
    · intro interface member
      exact (inQueue _ _ member).elim (notQueued interface) apart
  case lostNumbered =>
    rw [received]
    intro other member
    rcases inLost _ member with earlier | rfl
    · exact accounted.lostNumbered _ earlier
    · exact accounted.numbered _ _ held
  case queueNumbered =>
    rw [received]
    intro interface other member
    rcases inQueue _ _ member with earlier | rfl
    · exact accounted.queueNumbered _ _ earlier
    · exact accounted.numbered _ _ held
  case once =>
    intro other second member free interface
    rw [found] at member
    by_cases own : other = datagram
    · subst own
      have toward := (accounted.oneFinding _ _ _ _ member (accounted.sending _ _ _ sending) rfl).2
      subst toward
      rcases accounted.untouched _ _ held with ⟨notLost, notQueued⟩
      rcases settled with ⟨lost, queue⟩ | ⟨lost, queue⟩
      · rw [lost, queue, Function.update_apply]
        split_ifs with here also also
        · rw [List.count_append, List.count_eq_zero_of_not_mem (notQueued _)]
          simp
        · exact absurd ⟨here, notLost⟩ also
        · exact absurd also.1 here
        · exact List.count_eq_zero_of_not_mem (notQueued _)
      · rw [lost, queue, if_neg (by simp)]
        exact List.count_eq_zero_of_not_mem (notQueued _)
    · have freeBefore : ∀ holder, (server.worker holder).holds ≠ some other := by
        intro holder holds
        have apart : holder ≠ index := by
          rintro rfl
          rw [held] at holds
          cases holds
          exact own rfl
        apply free holder
        rw [worker, Function.update_of_ne apart]
        exact holds
      have counted := accounted.once other second member freeBefore interface
      rcases settled with ⟨lost, queue⟩ | ⟨lost, queue⟩
      · rw [lost, queue, ← counted, Function.update_apply]
        split_ifs with here
        · rw [here, List.count_append, List.count_singleton]
          simp [Ne.symm own]
        · rfl
      · rw [lost, queue, counted]
        simp [own]

theorem accounted_step {server next : UdpServer Index} {event : UdpEvent Index}
    (accounted : server.Accounted) (moves : server.Moves event next) : next.Accounted := by
  cases moves_carries moves with
  | kept received found lost queue held sending =>
    exact accounted_kept accounted received found lost queue held sending
  | arrived index datagram number received found lost queue idle worker =>
    exact accounted_arrived accounted number received found lost queue idle worker
  | found index datagram peer task received found lost queue worker =>
    exact accounted_found accounted task received found lost queue worker
  | settled index datagram peer task sending received found empty worker settled =>
    exact accounted_settled accounted sending received found empty worker settled

theorem each_once {capacity : Nat} {server : UdpServer Index}
    (reachable : (udpServer Index capacity).Reachable server) : server.EachOnce := by
  apply Accounted.once
  apply TransitionSystem.invariant_of_reachable (motive := Accounted) _ _ reachable
  · rintro _ ⟨subscribed, rfl⟩
    exact accounted_start subscribed
  · intro before event after accounted step
    exact accounted_step accounted (step_moves step)

end UdpServer

end Nextmini.Node
