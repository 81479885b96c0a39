import Nextmini.Library.TransitionSystem
import Nextmini.Node.SchedulerQueue

/-!
# Schedulers

A scheduler's two tasks, which share its queue, the permits of the capacity semaphore and one stored
notification. Each access to one of them is a step of its own, so the steps of the tasks interleave
in every order. Waiting on the notification is a step that takes the stored one. The semaphore is
never closed. Without it, the drop strategy may decide on each packet either way.
-/

namespace Nextmini.Node

open Nextmini.Library Nextmini.Routing

set_option autoImplicit false

/-! ## The tasks -/

inductive ReaderPhase where
  | receiving
  | received (packet : Packet)
  | acquired (packet : Packet)
  | measured (packet : Packet) (queueLen : Nat)
  | notifying
  deriving DecidableEq

inductive WriterPhase where
  | handlingMessages
  | checking
  | waiting
  | popping (batch : List Packet)
  | scanning
  | visiting (visits : List FlowId) (batch : List Packet)
  | collected (batch : List Packet)
  | sending (batch : List Packet)
  | panicked
  deriving DecidableEq

/-- Rate limits and probe packets do nothing to the queue. -/
inductive SchedulerWriterMessage where
  | rateLimit (rate bucketSize : Nat)
  | setFlowWeight (flowId : FlowId) (weight : Nat)
  | linkProbePackets (packets : List Packet)

structure Scheduler (capacity : Nat) where
  queue : SchedulerQueue capacity
  capacitySemaphore : Option Nat
  queuesNotEmpty : Bool
  reader : ReaderPhase
  writer : WriterPhase
  packetsDropped : Nat

def Scheduler.new (capacity : Nat) (schedulerType : SchedulingDiscipline)
    (channelBackpressure : Bool) : Scheduler capacity where
  queue := .new capacity schedulerType
  capacitySemaphore := if channelBackpressure ∧ 0 < capacity then some capacity else none
  queuesNotEmpty := false
  reader := .receiving
  writer := .handlingMessages
  packetsDropped := 0

/-- Without a semaphore there is nothing to wait for. -/
def acquire : Option Nat → Option (Option Nat)
  | none => some none
  | some 0 => none
  | some (permits + 1) => some (some permits)

def addPermits (capacitySemaphore : Option Nat) (count : Nat) : Option Nat :=
  capacitySemaphore.map (· + count)

/-- Whether a packet is announced to the writer, by the length read before it was enqueued. -/
def Packet.notifies (packet : Packet) (queueLen : Nat) : Bool :=
  !packet.isTcpData || (queueLen == 0 || decide (2 < queueLen + 1))

variable {capacity : Nat}

def SchedulerQueue.handleMessage (queue : SchedulerQueue capacity) :
    SchedulerWriterMessage → SchedulerQueue capacity
  | .setFlowWeight flowId weight => queue.setFlowWeight flowId weight
  | .rateLimit _ _ => queue
  | .linkProbePackets _ => queue

def SchedulerQueue.collectPackets : SchedulerQueue capacity → WriterPhase
  | .fifo _ => .popping []
  | .wrr _ => .scanning

/-- The flows with packets, in the order in which the map gives them. -/
structure Scanned (queue : WrrQueue capacity) (flowIds : List FlowId) : Prop where
  distinct : flowIds.Nodup
  waiting : ∀ flowId, flowId ∈ flowIds ↔
    flowId ∈ queue.flows ∧ (queue.flowQueues flowId).isEmpty = false

/-- The visits of all rounds; with no packets at all the writer panics. -/
def WrrQueue.plan (queue : WrrQueue capacity) (flowIds : List FlowId) : WriterPhase :=
  match queue.minRounds flowIds with
  | none => .panicked
  | some rounds => .visiting (List.replicate rounds flowIds).flatten []

/-! ## Steps -/

inductive SchedulerLabel where
  | received (packet : Packet)
  | acquired
  | measured
  | dropped
  | enqueued (packet : Packet) (queueLen : Nat)
  | rejected
  | notified
  | messageHandled (message : SchedulerWriterMessage)
  | messagesHandled
  | foundEmpty
  | foundPackets
  | woken
  | wokenByMessage (message : Option SchedulerWriterMessage)
  | popped
  | ranEmpty
  | scanned
  | visited
  | roundsDone
  | credited
  | sent

inductive SchedulerStep (state : Scheduler capacity) :
    SchedulerLabel → Scheduler capacity → Prop
  | received (packet : Packet) :
      state.reader = .receiving →
        SchedulerStep state (.received packet) { state with reader := .received packet }
  | acquired (packet : Packet) (left : Option Nat) :
      state.reader = .received packet → acquire state.capacitySemaphore = some left →
        SchedulerStep state .acquired
          { state with
            capacitySemaphore := left
            reader := .acquired packet }
  | measured (packet : Packet) :
      state.reader = .acquired packet →
        SchedulerStep state .measured
          { state with reader := .measured packet (state.queue.queueLen packet.flowId) }
  | dropped (packet : Packet) (queueLen : Nat) :
      state.reader = .measured packet queueLen → state.capacitySemaphore = none →
        SchedulerStep state .dropped
          { state with
            reader := .receiving
            packetsDropped := state.packetsDropped + 1 }
  | enqueued (packet : Packet) (queueLen : Nat) (later : SchedulerQueue capacity) :
      state.reader = .measured packet queueLen → state.queue.enqueue packet = some later →
        SchedulerStep state (.enqueued packet queueLen)
          { state with
            queue := later
            reader := if packet.notifies queueLen then .notifying else .receiving }
  | rejected (packet : Packet) (queueLen : Nat) :
      state.reader = .measured packet queueLen → state.queue.enqueue packet = none →
        SchedulerStep state .rejected
          { state with
            capacitySemaphore := addPermits state.capacitySemaphore 1
            reader := .receiving
            packetsDropped := state.packetsDropped + 1 }
  | notified :
      state.reader = .notifying →
        SchedulerStep state .notified
          { state with
            queuesNotEmpty := true
            reader := .receiving }
  | messageHandled (message : SchedulerWriterMessage) :
      state.writer = .handlingMessages →
        SchedulerStep state (.messageHandled message)
          { state with queue := state.queue.handleMessage message }
  | messagesHandled :
      state.writer = .handlingMessages →
        SchedulerStep state .messagesHandled { state with writer := .checking }
  | foundEmpty :
      state.writer = .checking → state.queue.isEmpty = true →
        SchedulerStep state .foundEmpty { state with writer := .waiting }
  | foundPackets :
      state.writer = .checking → state.queue.isEmpty = false →
        SchedulerStep state .foundPackets { state with writer := state.queue.collectPackets }
  | woken :
      state.writer = .waiting → state.queuesNotEmpty = true →
        SchedulerStep state .woken
          { state with
            queuesNotEmpty := false
            writer := .checking }
  | wokenByMessage (message : Option SchedulerWriterMessage) :
      state.writer = .waiting →
        SchedulerStep state (.wokenByMessage message)
          { state with
            queue := message.elim state.queue state.queue.handleMessage
            writer := .checking }
  | popped (queue later : ArrayQueue Packet capacity) (packet : Packet) (batch : List Packet) :
      state.writer = .popping batch → state.queue = .fifo queue → queue.pop = some (packet, later) →
        SchedulerStep state .popped
          { state with
            queue := .fifo later
            writer := .popping (batch ++ [packet]) }
  | ranEmpty (queue : ArrayQueue Packet capacity) (batch : List Packet) :
      state.writer = .popping batch → state.queue = .fifo queue → queue.pop = none →
        SchedulerStep state .ranEmpty { state with writer := .collected batch }
  | scanned (queue : WrrQueue capacity) (flowIds : List FlowId) :
      state.writer = .scanning → state.queue = .wrr queue → Scanned queue flowIds →
        SchedulerStep state .scanned { state with writer := queue.plan flowIds }
  | visited (queue : WrrQueue capacity) (flowId : FlowId) (visits : List FlowId)
      (batch : List Packet) :
      state.writer = .visiting (flowId :: visits) batch → state.queue = .wrr queue →
        SchedulerStep state .visited
          { state with
            queue := .wrr (queue.visit flowId).2
            writer := .visiting visits (batch ++ (queue.visit flowId).1) }
  | roundsDone (batch : List Packet) :
      state.writer = .visiting [] batch →
        SchedulerStep state .roundsDone { state with writer := .collected batch }
  | credited (batch : List Packet) :
      state.writer = .collected batch →
        SchedulerStep state .credited
          { state with
            capacitySemaphore := addPermits state.capacitySemaphore batch.length
            writer := .sending batch }
  | sent (batch : List Packet) :
      state.writer = .sending batch →
        SchedulerStep state .sent { state with writer := .handlingMessages }

def scheduler (capacity : Nat) (schedulerType : SchedulingDiscipline) (channelBackpressure : Bool) :
    TransitionSystem (Scheduler capacity) SchedulerLabel where
  initial state := state = .new capacity schedulerType channelBackpressure
  step := SchedulerStep

/-! ## Permits -/

def ReaderPhase.held : ReaderPhase → Nat
  | .acquired _ => 1
  | .measured _ _ => 1
  | _ => 0

/-- The packets taken from the queue for which no permits have been added. -/
def WriterPhase.uncredited : WriterPhase → Nat
  | .popping batch => batch.length
  | .visiting _ batch => batch.length
  | .collected batch => batch.length
  | _ => 0

/-- The permits left, the packets in the queue, the packet the reader holds a permit for and the
packets not yet credited make up the capacity; no enqueue fails and no packet was dropped; and all
permits are back once there are no such packets. -/
structure PermitsConserved (state : Scheduler capacity) : Prop where
  balance : ∃ permits, state.capacitySemaphore = some permits ∧
    permits + state.queue.size + state.reader.held + state.writer.uncredited = capacity
  accepted : ∀ packet queueLen, state.reader = .measured packet queueLen →
    ∃ later, state.queue.enqueue packet = some later
  undropped : state.packetsDropped = 0
  returned : state.queue.size = 0 → state.reader.held = 0 → state.writer.uncredited = 0 →
    state.capacitySemaphore = some capacity
  running : state.writer ≠ .panicked

/-! ### Invariant -/

/-- A writer that scans the flows has found packets, and the reader alone has been at the queue
since. -/
structure Balanced (state : Scheduler capacity) : Prop where
  balance : ∃ permits, state.capacitySemaphore = some permits ∧
    permits + state.queue.size + state.reader.held + state.writer.uncredited = capacity
  scanning : state.writer = .scanning → state.queue.size ≠ 0
  undropped : state.packetsDropped = 0
  running : state.writer ≠ .panicked

@[simp] theorem size_handle_message (queue : SchedulerQueue capacity)
    (message : SchedulerWriterMessage) : (queue.handleMessage message).size = queue.size := by
  cases message with
  | setFlowWeight flowId weight => exact SchedulerQueue.size_set_flow_weight queue flowId weight
  | rateLimit rate bucketSize => rfl
  | linkProbePackets packets => rfl

@[simp] theorem uncredited_collect_packets (queue : SchedulerQueue capacity) :
    queue.collectPackets.uncredited = 0 := by
  cases queue <;> rfl

theorem collect_packets_running (queue : SchedulerQueue capacity) :
    queue.collectPackets ≠ .panicked := by
  cases queue <;> nofun

theorem acquire_some {permits : Nat} {left : Option Nat}
    (acquired : acquire (some permits) = some left) :
    ∃ rest, permits = rest + 1 ∧ left = some rest := by
  cases permits with
  | zero => cases acquired
  | succ rest =>
    cases acquired
    exact ⟨rest, rfl, rfl⟩

/-- With a packet in some ring the scan finds a flow, and the rounds are planned. -/
theorem plan_visiting {queue : WrrQueue capacity} {flowIds : List FlowId}
    (scanned : Scanned queue flowIds) (some : queue.size ≠ 0) :
    ∃ visits, queue.plan flowIds = .visiting visits [] := by
  have nonempty : flowIds ≠ [] := by
    rintro rfl
    apply some
    rw [WrrQueue.size, Finset.sum_eq_zero_iff]
    intro flowId member
    have empty : (queue.flowQueues flowId).isEmpty ≠ false := by
      intro waiting
      exact List.not_mem_nil ((scanned.waiting flowId).mpr ⟨member, waiting⟩)
    exact ArrayQueue.is_empty_iff.mp (Bool.not_eq_false _ ▸ empty)
  rcases queue.min_rounds_some nonempty with ⟨rounds, planned⟩
  rw [WrrQueue.plan, planned]
  exact ⟨_, rfl⟩

theorem balanced_new (schedulerType : SchedulingDiscipline) (positive : 0 < capacity) :
    Balanced (Scheduler.new capacity schedulerType true) where
  balance := by
    refine ⟨capacity, if_pos ⟨rfl, positive⟩, ?_⟩
    simp [Scheduler.new, ReaderPhase.held, WriterPhase.uncredited]
  scanning := nofun
  undropped := rfl
  running := nofun

variable {state next : Scheduler capacity} {label : SchedulerLabel}

theorem room_of_balanced (balanced : Balanced state) {packet : Packet} {queueLen : Nat}
    (measured : state.reader = .measured packet queueLen) :
    ∃ later, state.queue.enqueue packet = some later := by
  rcases balanced.balance with ⟨permits, _, sum⟩
  rw [measured] at sum
  apply SchedulerQueue.enqueue_of_room
  simp only [ReaderPhase.held] at sum
  omega

theorem balanced_step (balanced : Balanced state) (step : SchedulerStep state label next) :
    Balanced next := by
  have room : ∀ packet queueLen, state.reader = .measured packet queueLen →
      ∃ later, state.queue.enqueue packet = some later := fun _ _ => room_of_balanced balanced
  rcases balanced with ⟨⟨permits, held, sum⟩, scanning, undropped, running⟩
  cases step with
  | received packet reader =>
    rw [reader] at sum
    exact ⟨⟨permits, held, sum⟩, scanning, undropped, running⟩
  | acquired packet left reader taken =>
    rw [held] at taken
    rcases acquire_some taken with ⟨rest, rfl, rfl⟩
    refine ⟨⟨rest, rfl, ?_⟩, scanning, undropped, running⟩
    rw [reader] at sum
    simp only [ReaderPhase.held] at sum ⊢
    omega
  | measured packet reader =>
    rw [reader] at sum
    exact ⟨⟨permits, held, sum⟩, scanning, undropped, running⟩
  | dropped packet queueLen reader absent =>
    rw [held] at absent
    cases absent
  | enqueued packet queueLen later reader added =>
    have longer := SchedulerQueue.size_enqueue added
    refine ⟨⟨permits, held, ?_⟩, ?_, undropped, running⟩
    · rw [reader] at sum
      simp only [ReaderPhase.held] at sum
      have released : (if packet.notifies queueLen then ReaderPhase.notifying
          else ReaderPhase.receiving).held = 0 := by split_ifs <;> rfl
      simp only [released, longer]
      omega
    · intro _
      simp only [longer]
      exact Nat.succ_ne_zero _
  | rejected packet queueLen reader refused =>
    rcases room packet queueLen reader with ⟨later, added⟩
    rw [refused] at added
    cases added
  | notified reader =>
    rw [reader] at sum
    exact ⟨⟨permits, held, sum⟩, scanning, undropped, running⟩
  | messageHandled message writer =>
    refine ⟨⟨permits, held, ?_⟩, ?_, undropped, running⟩
    · simpa only [size_handle_message] using sum
    · simpa only [size_handle_message] using scanning
  | messagesHandled writer =>
    rw [writer] at sum
    exact ⟨⟨permits, held, sum⟩, nofun, undropped, nofun⟩
  | foundEmpty writer empty =>
    rw [writer] at sum
    exact ⟨⟨permits, held, sum⟩, nofun, undropped, nofun⟩
  | foundPackets writer nonempty =>
    rw [writer] at sum
    refine ⟨⟨permits, held, ?_⟩, ?_, undropped, collect_packets_running state.queue⟩
    · simp only [uncredited_collect_packets]
      exact sum
    · intro _ empty
      rw [SchedulerQueue.is_empty_iff.mpr empty] at nonempty
      cases nonempty
  | woken writer stored =>
    rw [writer] at sum
    exact ⟨⟨permits, held, sum⟩, nofun, undropped, nofun⟩
  | wokenByMessage message writer =>
    rw [writer] at sum
    refine ⟨⟨permits, held, ?_⟩, nofun, undropped, nofun⟩
    cases message with
    | none => exact sum
    | some message =>
      simp only [Option.elim_some, size_handle_message]
      exact sum
  | popped queue later packet batch writer fifo taken =>
    have shorter := ArrayQueue.length_pop taken
    refine ⟨⟨permits, held, ?_⟩, nofun, undropped, nofun⟩
    simp only [writer, fifo, SchedulerQueue.size, WriterPhase.uncredited, List.length_append,
      List.length_singleton] at sum ⊢
    omega
  | ranEmpty queue batch writer fifo empty =>
    rw [writer] at sum
    exact ⟨⟨permits, held, sum⟩, nofun, undropped, nofun⟩
  | scanned queue flowIds writer wrr flows =>
    have nonempty := scanning writer
    rw [wrr] at nonempty
    rcases plan_visiting flows nonempty with ⟨visits, planned⟩
    rw [writer] at sum
    rw [planned]
    exact ⟨⟨permits, held, sum⟩, nofun, undropped, nofun⟩
  | visited queue flowId visits batch writer wrr =>
    have moved := queue.size_visit flowId
    refine ⟨⟨permits, held, ?_⟩, nofun, undropped, nofun⟩
    simp only [writer, wrr, SchedulerQueue.size, WriterPhase.uncredited,
      List.length_append] at sum ⊢
    omega
  | roundsDone batch writer =>
    rw [writer] at sum
    exact ⟨⟨permits, held, sum⟩, nofun, undropped, nofun⟩
  | credited batch writer =>
    refine ⟨⟨permits + batch.length, ?_, ?_⟩, nofun, undropped, nofun⟩
    · simp only [addPermits, held, Option.map_some]
    · simp only [writer, WriterPhase.uncredited] at sum ⊢
      omega
  | sent batch writer =>
    rw [writer] at sum
    exact ⟨⟨permits, held, sum⟩, nofun, undropped, nofun⟩

/-- With backpressure and a positive capacity, permits are conserved over every interleaving of the
reader and the writer. -/
theorem permits_conserved (schedulerType : SchedulingDiscipline) (positive : 0 < capacity)
    (reachable : (scheduler capacity schedulerType true).Reachable state) :
    PermitsConserved state := by
  have balanced : Balanced state := by
    apply TransitionSystem.invariant_of_reachable (motive := Balanced) _ _ reachable
    · rintro _ rfl
      exact balanced_new schedulerType positive
    · intro _ _ _ balanced step
      exact balanced_step balanced step
  refine ⟨balanced.balance, ?_, balanced.undropped, ?_, balanced.running⟩
  · intro packet queueLen measured
    exact room_of_balanced balanced measured
  · intro drained released credited
    rcases balanced.balance with ⟨permits, held, sum⟩
    rw [drained, released, credited] at sum
    rw [held]
    exact congrArg some sum

/-- The reader holds one of sixteen permits. -/
theorem held_permit_conserved :
    PermitsConserved
      { Scheduler.new 16 .wrr true with
        capacitySemaphore := some 15
        reader := .acquired ⟨0, true⟩ } := by
  have received : SchedulerStep (Scheduler.new 16 .wrr true) (.received ⟨0, true⟩)
      { Scheduler.new 16 .wrr true with reader := .received ⟨0, true⟩ } := .received _ rfl
  have acquired : SchedulerStep
      { Scheduler.new 16 .wrr true with reader := .received ⟨0, true⟩ } .acquired
      { Scheduler.new 16 .wrr true with
        capacitySemaphore := some 15
        reader := .acquired ⟨0, true⟩ } := .acquired _ _ rfl rfl
  have run : (scheduler 16 .wrr true).Run (.new 16 .wrr true) [.received ⟨0, true⟩, .acquired] _ :=
    .cons received (.single acquired)
  exact permits_conserved .wrr (by decide) ⟨_, _, rfl, run⟩

end Nextmini.Node
