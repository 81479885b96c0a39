import Nextmini.Node.Scheduler

/-!
# Wake-ups of the scheduler's writer

The reader announces a packet by the length it read before it enqueued the packet. When the writer
empties the queue between the two and waits, a packet that is not announced stays in the queue.
-/

namespace Nextmini.Node

open Nextmini.Library Nextmini.Routing

set_option autoImplicit false

variable {capacity : Nat} {state next : Scheduler capacity} {label : SchedulerLabel}

/-- There are packets, but the writer waits, nothing wakes it, and the reader is done. -/
structure LostWakeup (state : Scheduler capacity) : Prop where
  packets : state.queue.isEmpty = false
  waiting : state.writer = .waiting
  unnotified : state.queuesNotEmpty = false
  done : state.reader = .receiving

/-- A packet that its length does not announce is not enqueued while the writer waits and no
notification is stored. -/
def AnnouncesToWaiting (state : Scheduler capacity) (label : SchedulerLabel) : Prop :=
  ∀ packet queueLen, label = .enqueued packet queueLen → packet.notifies queueLen = false →
    state.writer = .waiting → state.queuesNotEmpty = true

/-- A writer that waits on a queue with packets is about to be notified, or has been. -/
def Covered (state : Scheduler capacity) : Prop :=
  state.writer = .waiting →
    state.queue.size = 0 ∨ state.queuesNotEmpty = true ∨ state.reader = .notifying

theorem not_lost_of_covered (covered : Covered state) : ¬LostWakeup state := by
  rintro ⟨packets, waiting, unnotified, done⟩
  rcases covered waiting with empty | stored | notifying
  · rw [SchedulerQueue.is_empty_iff.mpr empty] at packets
    cases packets
  · rw [unnotified] at stored
    cases stored
  · rw [done] at notifying
    cases notifying

/-- A reader that goes on without notifying leaves the writer as it was. -/
theorem covered_reader (covered : Covered state) (reading : state.reader ≠ .notifying)
    (sameQueue : next.queue = state.queue) (sameStored : next.queuesNotEmpty = state.queuesNotEmpty)
    (sameWriter : next.writer = state.writer) : Covered next := by
  intro waiting
  rw [sameWriter] at waiting
  rw [sameQueue, sameStored]
  rcases covered waiting with empty | stored | notifying
  · exact .inl empty
  · exact .inr (.inl stored)
  · exact absurd notifying reading

theorem collect_packets_busy (queue : SchedulerQueue capacity) :
    queue.collectPackets ≠ .waiting := by
  cases queue <;> nofun

theorem plan_busy (queue : WrrQueue capacity) (flowIds : List FlowId) :
    queue.plan flowIds ≠ .waiting := by
  intro waiting
  rw [WrrQueue.plan] at waiting
  cases rounds : queue.minRounds flowIds <;> rw [rounds] at waiting <;> cases waiting

theorem covered_step (covered : Covered state) (announced : AnnouncesToWaiting state label)
    (step : SchedulerStep state label next) : Covered next := by
  cases step with
  | received packet reader =>
    exact covered_reader covered (by rw [reader]; nofun) rfl rfl rfl
  | acquired packet left reader taken =>
    exact covered_reader covered (by rw [reader]; nofun) rfl rfl rfl
  | measured packet reader =>
    exact covered_reader covered (by rw [reader]; nofun) rfl rfl rfl
  | dropped packet queueLen reader absent =>
    exact covered_reader covered (by rw [reader]; nofun) rfl rfl rfl
  | enqueued packet queueLen later reader added =>
    intro waiting
    cases notifies : packet.notifies queueLen with
    | true => exact .inr (.inr rfl)
    | false => exact .inr (.inl (announced packet queueLen rfl notifies waiting))
  | rejected packet queueLen reader refused =>
    exact covered_reader covered (by rw [reader]; nofun) rfl rfl rfl
  | notified reader => exact fun _ => .inr (.inl rfl)
  | messageHandled message writer =>
    intro waiting
    rw [writer] at waiting
    cases waiting
  | foundEmpty writer empty => exact fun _ => .inl (SchedulerQueue.is_empty_iff.mp empty)
  | foundPackets writer nonempty =>
    intro waiting
    exact absurd waiting (collect_packets_busy state.queue)
  | scanned queue flowIds writer wrr flows =>
    intro waiting
    exact absurd waiting (plan_busy queue flowIds)
  | _ => nofun

/-- The packet that is not announced stays in the queue. -/
theorem lost_of_unannounced (step : SchedulerStep state label next)
    (unannounced : ¬AnnouncesToWaiting state label) : LostWakeup next := by
  simp only [AnnouncesToWaiting, not_forall] at unannounced
  rcases unannounced with ⟨packet, queueLen, rfl, silent, waiting, unnotified⟩
  cases step with
  | enqueued _ _ later reader added =>
    refine ⟨?_, waiting, Bool.eq_false_iff.mpr unnotified, ?_⟩
    · apply Bool.eq_false_iff.mpr
      intro empty
      have longer := SchedulerQueue.size_enqueue added
      rw [SchedulerQueue.is_empty_iff.mp empty] at longer
      cases longer
    · simp only [silent, Bool.false_eq_true, if_false]

/-- Over every interleaving, a run goes through no state with a lost wake-up exactly when every packet
is enqueued with an announcement, unless the writer does not wait or has a notification stored. -/
theorem wakeups_kept_iff (schedulerType : SchedulingDiscipline) (channelBackpressure : Bool)
    (labels : List SchedulerLabel) (finish : Scheduler capacity) :
    ((scheduler capacity schedulerType channelBackpressure).through
        fun state => ¬LostWakeup state).Run (.new capacity schedulerType channelBackpressure)
          labels finish ↔
      ((scheduler capacity schedulerType channelBackpressure).restrict AnnouncesToWaiting).Run
        (.new capacity schedulerType channelBackpressure) labels finish := by
  apply TransitionSystem.through_iff_restrict (motive := Covered)
  · intro state label next covered step
    constructor
    · intro kept
      by_contra unannounced
      exact kept (lost_of_unannounced step unannounced)
    · intro announced
      exact not_lost_of_covered (covered_step covered announced step)
  · intro state label next covered announced step
    exact covered_step covered announced step
  · nofun

def leftInQueue : Scheduler 16 :=
  { Scheduler.new 16 .fifo true with
    queue := .fifo
      { items := [⟨0, true⟩]
        bounded := by decide }
    capacitySemaphore := some 15
    writer := .waiting }

/-- Two TCP data packets: the writer takes the first one after the reader has read the length for the
second, and waits. -/
theorem second_packet_unannounced :
    (∃ labels, (scheduler 16 .fifo true).Run (.new 16 .fifo true) labels leftInQueue) ∧
      LostWakeup leftInQueue := by
  let packet : Packet := ⟨0, true⟩
  refine ⟨⟨[.messagesHandled, .foundEmpty, .received packet, .acquired, .measured,
    .enqueued packet 0, .notified, .woken, .received packet, .acquired, .measured, .foundPackets,
    .popped, .ranEmpty, .credited, .sent, .messagesHandled, .foundEmpty, .enqueued packet 1], ?_⟩, ?_⟩
  · refine .cons (.messagesHandled rfl) (.cons (.foundEmpty rfl rfl) ?_)
    refine .cons (.received packet rfl) (.cons (.acquired packet _ rfl rfl) ?_)
    refine .cons (.measured packet rfl) (.cons (.enqueued packet 0 _ rfl rfl) ?_)
    refine .cons (.notified rfl) (.cons (.woken rfl rfl) ?_)
    refine .cons (.received packet rfl) (.cons (.acquired packet _ rfl rfl) ?_)
    refine .cons (.measured packet rfl) (.cons (.foundPackets rfl rfl) ?_)
    refine .cons (.popped _ _ packet [] rfl rfl rfl) (.cons (.ranEmpty _ _ rfl rfl rfl) ?_)
    refine .cons (.credited _ rfl) (.cons (.sent _ rfl) ?_)
    refine .cons (.messagesHandled rfl) (.cons (.foundEmpty rfl rfl) ?_)
    exact .single (.enqueued packet 1 _ rfl rfl)
  · exact ⟨rfl, rfl, rfl, rfl⟩

end Nextmini.Node
