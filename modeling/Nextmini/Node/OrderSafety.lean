import Mathlib.Data.List.Perm.Basic
import Nextmini.Node.StrandedFlows

/-!
# Order of the reorder buffer

What the consumer writes of one flow, byte by byte, while any other flows are handled beside it. The
packets are known by their places in the stream, which the sequence numbers only give up to their wrap;
and so are the numbers that the tasks hold: the expected one, the one that the consumer has read and the
one that it is about to set. No gap is skipped here, by neither a timeout nor a backlog.
-/

namespace Nextmini.Node

open Nextmini.Library Nextmini.Routing

set_option autoImplicit false

/-! ## Bytes -/

/-- A data packet with its place in the stream. The bytes are counted from the number behind the SYN. -/
structure Positioned where
  packet : TcpPacket
  place : Nat
  deriving DecidableEq, Repr

def Positioned.final (positioned : Positioned) : Nat :=
  positioned.place + positioned.packet.tcpPayloadLen

def numberAt (syn : TcpPacket) (place : Nat) : UInt32 := syn.seqNum + 1 + UInt32.ofNat place

def Wrote (written : List Positioned) (byte : Nat) : Prop :=
  ∃ positioned ∈ written, positioned.place ≤ byte ∧ byte < positioned.final

def WroteUpTo (written : List Positioned) (total : Nat) : Prop := ∀ byte < total, Wrote written byte

/-- Every packet is written behind all bytes before it, or it repeats bytes written before. -/
def InOrder (written : List Positioned) : Prop :=
  ∀ before positioned after, written = before ++ positioned :: after →
    WroteUpTo before positioned.place ∨
      ∀ byte, positioned.place ≤ byte → byte < positioned.final → Wrote before byte

/-! ## What happens to a flow -/

/-- The writer, and of one flow: whether its SYN has arrived, its heap and what was written of it, the
places of the expected number, of the number read and of the number to set, and the place of the FIN or
RST that moved the expected number first. -/
structure Tracked where
  writer : LocalWriter
  started : Bool
  heap : List Positioned
  written : List Positioned
  expectedAt : Nat
  readAt : Nat
  nextAt : Nat
  finished : Option Nat

inductive FlowEvent where
  | silent
  | arrived (positioned : Positioned)
  | seeded
  | raised (place : Nat)
  | read
  | stale (positioned : Positioned)
  | taken (positioned : Positioned)
  | dropped (positioned : Positioned)
  | reread (length : UInt32)
  | moved

/-- What a packet popped in order adds to the expected number. -/
def advance (packet : TcpPacket) : UInt32 :=
  UInt32.ofNat packet.tcpPayloadLen + if packet.isTcpFinOrRst then 1 else 0

def Positioned.closes (positioned : Positioned) : Option Nat :=
  if positioned.packet.isTcpFinOrRst then some positioned.final else none

def Tracked.after (state : Tracked) (writer : LocalWriter) : FlowEvent → Tracked
  | .silent => { state with writer := writer }
  | .arrived positioned =>
      { state with
        writer := writer
        heap := positioned :: state.heap }
  | .seeded =>
      { state with
        writer := writer
        started := true
        expectedAt := 0 }
  | .raised place =>
      { state with
        writer := writer
        expectedAt := place + 1
        finished := state.finished.or (some place) }
  | .read =>
      { state with
        writer := writer
        readAt := state.expectedAt }
  | .stale positioned =>
      { state with
        writer := writer
        heap := state.heap.erase positioned
        written := state.written ++ [positioned] }
  | .taken positioned =>
      { state with
        writer := writer
        heap := state.heap.erase positioned
        written := state.written ++ [positioned]
        finished := state.finished.or positioned.closes }
  | .dropped positioned =>
      { state with
        writer := writer
        heap := state.heap.erase positioned }
  | .reread length =>
      { state with
        writer := writer
        nextAt := state.expectedAt + length.toNat }
  | .moved =>
      { state with
        writer := writer
        expectedAt := state.nextAt }

def LocalWriter.visited (writer : LocalWriter) : Option FlowId :=
  match writer.consumer with
  | .visiting round _ => some round.flowId
  | _ => none

def Raises (known : Option UInt32) (next : UInt32) : Prop :=
  ∀ expected ∈ known, seqLess expected next = true

/-- A packet of the flow leaves its heap. -/
structure Pops (syn : TcpPacket) (state : Tracked) (writer : LocalWriter) (positioned : Positioned) :
    Prop where
  member : positioned ∈ state.heap
  erased : writer.queueMap syn.flowId =
    (state.writer.queueMap syn.flowId).erase positioned.packet

/-- What a step of the tasks does to the flow of the SYN. -/
def Observes (syn : TcpPacket) (state : Tracked) (writer : LocalWriter) (event : FlowEvent) :
    WriterLabel → Prop
  | .pushed packet =>
      packet.flowId ≠ syn.flowId ∧ event = .silent ∨
        packet.flowId = syn.flowId ∧ ∃ place, packet.seqNum = numberAt syn place ∧
          event = .arrived ⟨packet, place⟩
  | .seeded packet =>
      packet.flowId ≠ syn.flowId ∧ event = .silent ∨ packet.flowId = syn.flowId ∧ event = .seeded
  | .raised packet =>
      packet.flowId ≠ syn.flowId ∧ event = .silent ∨
        packet.flowId = syn.flowId ∧ ∃ place, packet.seqNum = numberAt syn place ∧
          (Raises (state.writer.expectedSeqMap syn.flowId) (packet.seqNum + 1) ∧
              event = .raised place ∨
            ¬Raises (state.writer.expectedSeqMap syn.flowId) (packet.seqNum + 1) ∧ event = .silent)
  | .expectedRead =>
      state.writer.visited ≠ some syn.flowId ∧ event = .silent ∨
        state.writer.visited = some syn.flowId ∧ event = .read
  | .stalePopped =>
      state.writer.visited ≠ some syn.flowId ∧ event = .silent ∨
        state.writer.visited = some syn.flowId ∧ ∃ positioned, Pops syn state writer positioned ∧
          event = .stale positioned
  | .popped =>
      state.writer.visited ≠ some syn.flowId ∧ event = .silent ∨
        state.writer.visited = some syn.flowId ∧ ∃ positioned, Pops syn state writer positioned ∧
          event = .taken positioned
  | .topPopped =>
      state.writer.visited ≠ some syn.flowId ∧ event = .silent ∨
        state.writer.visited = some syn.flowId ∧ ∃ positioned, Pops syn state writer positioned ∧
          event = .dropped positioned
  | .expectedReread =>
      state.writer.visited ≠ some syn.flowId ∧ event = .silent ∨
        state.writer.visited = some syn.flowId ∧ ∃ round packet expected,
          state.writer.consumer = .visiting round (.popped packet expected) ∧
            event = .reread (advance packet)
  | .expectedRaised =>
      state.writer.visited ≠ some syn.flowId ∧ event = .silent ∨
        state.writer.visited = some syn.flowId ∧ ∃ round next,
          state.writer.consumer = .visiting round (.raising next) ∧
            (Raises (state.writer.expectedSeqMap syn.flowId) next ∧ event = .moved ∨
              ¬Raises (state.writer.expectedSeqMap syn.flowId) next ∧ event = .silent)
  | _ => event = .silent

structure TrackedStep (config : WriterConfig) (syn : TcpPacket) (state : Tracked)
    (label : WriterLabel × FlowEvent) (next : Tracked) : Prop where
  taken : WriterStep config state.writer label.1 next.writer
  observes : Observes syn state next.writer label.2 label.1
  tracked : next = state.after next.writer label.2

def trackedWriter (config : WriterConfig) (syn : TcpPacket) :
    TransitionSystem Tracked (WriterLabel × FlowEvent) where
  initial state := state = ⟨.new config, false, [], [], 0, 0, 0, none⟩
  step := TrackedStep config syn

def patient (segmentationOffload : Bool) : WriterConfig := ⟨true, none, 0, segmentationOffload⟩

/-- The SYN of the flow comes before its other packets, and it may come again. -/
def SynFirst (syn : TcpPacket) (state : Tracked) : WriterLabel → Prop
  | .pushed packet => packet.flowId = syn.flowId → state.started = true
  | .raised packet => packet.flowId = syn.flowId → state.started = true
  | .seeded packet => packet.flowId = syn.flowId → packet.seqNum = syn.seqNum
  | _ => True

/-- The first FIN or RST that moves the expected number has all bytes before it written. Until then a
packet popped in order begins at the number that was read, and one popped as stale less than half of the
sequence space ahead of it; from then on no packet is popped that begins behind the FIN or RST. -/
def KeepsPlaces (state : Tracked) : FlowEvent → Prop
  | .raised place => state.finished = none → WroteUpTo state.written place
  | .stale positioned =>
      match state.finished with
      | none => positioned.place < state.readAt + 2 ^ 31
      | some final => positioned.place ≤ final
  | .taken positioned =>
      match state.finished with
      | none => positioned.place = state.readAt
      | some final => positioned.place ≤ final
  | _ => True

/-! ## Bytes written -/

section Bytes

variable {written : List Positioned} {positioned : Positioned} {total : Nat}

theorem WroteUpTo.mono {fewer : Nat} (wrote : WroteUpTo written total) (less : fewer ≤ total) :
    WroteUpTo written fewer :=
  fun byte inside => wrote byte (Nat.lt_of_lt_of_le inside less)

theorem WroteUpTo.append (wrote : WroteUpTo written total) (more : List Positioned) :
    WroteUpTo (written ++ more) total := by
  intro byte inside
  rcases wrote byte inside with ⟨other, member, holds⟩
  exact ⟨other, List.mem_append_left more member, holds⟩

theorem WroteUpTo.extend (wrote : WroteUpTo written positioned.place) :
    WroteUpTo (written ++ [positioned]) positioned.final := by
  intro byte inside
  rcases Nat.lt_or_ge byte positioned.place with before | own
  · exact wrote.append [positioned] byte before
  · exact ⟨positioned, List.mem_append_right _ (List.mem_singleton.mpr rfl), own, inside⟩

theorem InOrder.extend (order : InOrder written) (wrote : WroteUpTo written positioned.place) :
    InOrder (written ++ [positioned]) := by
  intro before other after same
  rcases List.eq_nil_or_concat after with rfl | ⟨rest, last, rfl⟩
  · rcases List.append_inj_right' same rfl with ⟨⟩
    rw [List.append_cancel_right same] at wrote
    exact .inl wrote
  · rw [List.concat_eq_append, ← List.cons_append, ← List.append_assoc] at same
    exact order before other rest (List.append_inj_left' same rfl)

theorem number_at_zero (syn : TcpPacket) : numberAt syn 0 = syn.seqNum + 1 := by
  rw [numberAt]
  exact UInt32.add_zero _

theorem number_at_add (syn : TcpPacket) (place : Nat) (length : UInt32) :
    numberAt syn (place + length.toNat) = numberAt syn place + length := by
  rw [numberAt, numberAt, UInt32.ofNat_add, UInt32.ofNat_toNat, ← UInt32.add_assoc]

/-- A number that compares as less is behind, unless it is half of the sequence space ahead. -/
theorem place_lt_of_less {syn : TcpPacket} {place other : Nat}
    (less : seqLess (numberAt syn place) (numberAt syn other) = true)
    (near : place < other + 2 ^ 31) : place < other := by
  by_contra ahead
  obtain ⟨distance, rfl⟩ : ∃ distance, place = other + distance := ⟨place - other, by omega⟩
  have difference : numberAt syn (other + distance) - numberAt syn other = UInt32.ofNat distance := by
    rw [numberAt, numberAt, UInt32.ofNat_add, ← UInt32.add_assoc,
      UInt32.add_comm _ (UInt32.ofNat distance), UInt32.add_sub_cancel]
  rw [seqLess, difference, UInt32.toNat_ofNat', decide_eq_true_eq] at less
  omega

theorem advance_le (packet : TcpPacket) (notLast : packet.isTcpFinOrRst = false) :
    (advance packet).toNat ≤ packet.tcpPayloadLen := by
  rw [advance, notLast, if_neg Bool.false_ne_true, UInt32.add_zero, UInt32.toNat_ofNat']
  exact Nat.mod_le _ _

end Bytes

/-! ## Invariant -/

/-- The phases that leave the expected number to the packets popped in order. -/
def VisitPhase.Regular : VisitPhase → Prop
  | .measuring _ _ => False
  | .forgiving _ _ => False
  | .advancing _ _ => False
  | .skipping _ => False
  | _ => True

/-- The number that the consumer has read, with all bytes before it written. -/
structure Tracked.Read (syn : TcpPacket) (state : Tracked) (expected : UInt32) : Prop where
  started : state.started = true
  number : expected = numberAt syn state.readAt
  ahead : state.expectedAt ≤ state.readAt
  wrote : WroteUpTo state.written state.readAt

/-- What the consumer carries along on its visit of the flow. -/
def VisitPhase.Tracks (syn : TcpPacket) (state : Tracked) : VisitPhase → Prop
  | .reading _ => state.started = true
  | .checkingStale _ expected => state.Read syn expected
  | .popping expected => state.Read syn expected
  | .popped packet _ => state.started = true ∧
      WroteUpTo state.written (state.expectedAt + (advance packet).toNat)
  | .raising next => state.started = true ∧ next = numberAt syn state.nextAt ∧
      WroteUpTo state.written state.nextAt
  | _ => True

def ConsumerPhase.Tracks (syn : TcpPacket) (state : Tracked) (consumer : ConsumerPhase) : Prop :=
  ∀ round phase, consumer = .visiting round phase →
    phase.Regular ∧ (round.flowId = syn.flowId → phase.Tracks syn state)

/-- Before a FIN or RST, all bytes before the expected number are written. -/
structure FlowFollowed (syn : TcpPacket) (state : Tracked) : Prop where
  unstarted : state.started = false → state.writer.queueMap syn.flowId = []
  deadlines : ∀ flowId, state.writer.gapDeadlines flowId = none
  number : state.started = true →
    state.writer.expectedSeqMap syn.flowId = some (numberAt syn state.expectedAt)
  wrote : WroteUpTo state.written state.expectedAt
  visit : state.writer.consumer.Tracks syn state

structure Tracking (syn : TcpPacket) (state : Tracked) : Prop where
  account : (state.heap.map Positioned.packet).Perm (state.writer.queueMap syn.flowId)
  places : ∀ positioned ∈ state.heap,
    positioned.packet.seqNum = numberAt syn positioned.place
  order : InOrder state.written
  closed : ∀ final, state.finished = some final → WroteUpTo state.written final
  follows : state.finished = none → FlowFollowed syn state

section Invariant

variable {syn : TcpPacket} {state : Tracked}

theorem tracking_start (config : WriterConfig) :
    Tracking syn ⟨.new config, false, [], [], 0, 0, 0, none⟩ where
  account := .refl []
  places := nofun
  order before positioned after same := absurd same (by simp)
  closed := nofun
  follows _ := by
    refine ⟨fun _ => rfl, fun _ => rfl, nofun, nofun, ?_⟩
    intro round phase visiting
    simp only [LocalWriter.new] at visiting
    split at visiting
    · cases visiting
    · cases visiting

theorem tracks_at {round : Round} {phase : VisitPhase} (regular : phase.Regular)
    (tracks : round.flowId = syn.flowId → phase.Tracks syn state) :
    (ConsumerPhase.visiting round phase).Tracks syn state := by
  intro other current same
  cases same
  exact ⟨regular, tracks⟩

theorem next_tracks (round : Round) : round.next.Tracks syn state := by
  rcases round with ⟨flowId, rest, progressedAny⟩
  cases rest with
  | nil => cases progressedAny <;> nofun
  | cons first rest => exact tracks_at trivial fun _ => trivial

theorem start_round_tracks (flowIds : List FlowId) : (startRound flowIds).Tracks syn state := by
  cases flowIds with
  | nil => nofun
  | cons first rest => exact tracks_at trivial fun _ => trivial

theorem after_stale_tracks {segmentationOffload : Bool} {round : Round} {topSeq expected : UInt32}
    (read : round.flowId = syn.flowId → state.Read syn expected) :
    (round.afterStale (patient segmentationOffload) topSeq expected).Tracks syn state := by
  rw [Round.afterStale, if_neg (fun backlog => Nat.not_lt_zero _ backlog.1), Round.afterBacklog]
  split
  · exact tracks_at trivial read
  · split
    · exact tracks_at trivial fun _ => trivial
    · split
      · exact tracks_at trivial fun _ => trivial
      · exact next_tracks round

/-- The flow's SYN stays, no expected number moves up and the numbers held stay. -/
structure Carries (state later : Tracked) : Prop where
  started : state.started = true → later.started = true
  expected : later.expectedAt ≤ state.expectedAt
  read : later.readAt = state.readAt
  next : later.nextAt = state.nextAt
  wrote : ∀ total, WroteUpTo state.written total → WroteUpTo later.written total

theorem Carries.silent (state : Tracked) (writer : LocalWriter) :
    Carries state (state.after writer .silent) :=
  ⟨id, Nat.le_refl _, rfl, rfl, fun _ => id⟩

theorem Carries.arrived (state : Tracked) (writer : LocalWriter) (positioned : Positioned) :
    Carries state (state.after writer (.arrived positioned)) :=
  ⟨id, Nat.le_refl _, rfl, rfl, fun _ => id⟩

theorem Carries.seeded (state : Tracked) (writer : LocalWriter) :
    Carries state (state.after writer .seeded) :=
  ⟨fun _ => rfl, Nat.zero_le _, rfl, rfl, fun _ => id⟩

theorem Carries.tracks {later : Tracked} (carries : Carries state later) {consumer : ConsumerPhase}
    (tracks : consumer.Tracks syn state) : consumer.Tracks syn later := by
  have holdsRead (expected : UInt32) (read : state.Read syn expected) : later.Read syn expected := by
    refine ⟨carries.started read.started, ?_, ?_, ?_⟩
    · rw [carries.read]
      exact read.number
    · rw [carries.read]
      exact Nat.le_trans carries.expected read.ahead
    · rw [carries.read]
      exact carries.wrote _ read.wrote
  intro round phase visiting
  rcases tracks round phase visiting with ⟨regular, tracks⟩
  refine ⟨regular, fun own => ?_⟩
  have here := tracks own
  cases phase with
  | reading topSeq => exact carries.started here
  | checkingStale topSeq expected => exact holdsRead expected here
  | popping expected => exact holdsRead expected here
  | popped packet expected =>
    exact ⟨carries.started here.1,
      (carries.wrote _ here.2).mono (Nat.add_le_add_right carries.expected _)⟩
  | raising next =>
    refine ⟨carries.started here.1, ?_, ?_⟩
    · rw [carries.next]
      exact here.2.1
    · rw [carries.next]
      exact carries.wrote _ here.2.2
  | _ => trivial

/-- What the phases say depends on the writer only through the consumer. -/
theorem FlowFollowed.goes (following : FlowFollowed syn state) {writer : LocalWriter}
    (queue : writer.queueMap syn.flowId = state.writer.queueMap syn.flowId)
    (known : writer.expectedSeqMap syn.flowId = state.writer.expectedSeqMap syn.flowId)
    (deadlines : ∀ flowId, writer.gapDeadlines flowId = none)
    (visit : writer.consumer.Tracks syn state) : FlowFollowed syn (state.after writer .silent) where
  unstarted waiting := queue.trans (following.unstarted waiting)
  deadlines := deadlines
  number started := known.trans (following.number started)
  wrote := following.wrote
  visit := (Carries.silent state writer).tracks visit

theorem Tracking.silent (tracking : Tracking syn state) {writer : LocalWriter}
    (queue : writer.queueMap syn.flowId = state.writer.queueMap syn.flowId)
    (follows : FlowFollowed syn state → FlowFollowed syn (state.after writer .silent)) :
    Tracking syn (state.after writer .silent) where
  account := by
    rw [Tracked.after]
    exact queue ▸ tracking.account
  places := tracking.places
  order := tracking.order
  closed := tracking.closed
  follows unfinished := follows (tracking.follows unfinished)

theorem FlowFollowed.cleared (following : FlowFollowed syn state) (flowId other : FlowId) :
    state.writer.setDeadline flowId none other = none := by
  rw [LocalWriter.setDeadline]
  rcases eq_or_ne other flowId with rfl | different
  · exact Function.update_self _ _ _
  · rw [Function.update_of_ne different]
    exact following.deadlines other

theorem Tracking.moves (tracking : Tracking syn state) {writer : LocalWriter}
    (queue : writer.queueMap syn.flowId = state.writer.queueMap syn.flowId)
    (known : writer.expectedSeqMap syn.flowId = state.writer.expectedSeqMap syn.flowId)
    (deadlines : FlowFollowed syn state → ∀ flowId, writer.gapDeadlines flowId = none)
    (visit : FlowFollowed syn state → writer.consumer.Tracks syn state) :
    Tracking syn (state.after writer .silent) :=
  tracking.silent queue fun following =>
    following.goes queue known (deadlines following) (visit following)

/-! ## The producer -/

theorem raise_to_raises {known : Option UInt32} {next : UInt32} (raises : Raises known next) :
    raiseTo known next = next := by
  cases known with
  | none => rfl
  | some expected => exact if_pos (raises expected rfl)

theorem raise_to_stays {known : Option UInt32} {next : UInt32} (stays : ¬Raises known next) :
    some (raiseTo known next) = known := by
  cases known with
  | none => exact absurd nofun stays
  | some expected =>
    rw [raiseTo, if_neg]
    intro less
    apply stays
    intro number same
    cases same
    exact less

theorem producer_tracks {config : WriterConfig} {label : WriterLabel} {writer : LocalWriter}
    {event : FlowEvent} (tracking : Tracking syn state)
    (step : ProducerStep config state.writer label writer)
    (observes : Observes syn state writer event label) (first : SynFirst syn state label)
    (keeps : KeepsPlaces state event) : Tracking syn (state.after writer event) := by
  cases step with
  | pushed packet receiving data enforced =>
    rcases observes with ⟨other, rfl⟩ | ⟨own, place, number, rfl⟩
    · have queue : state.writer.setQueue packet.flowId
          (packet :: state.writer.queueMap packet.flowId) syn.flowId =
            state.writer.queueMap syn.flowId := Function.update_of_ne other.symm _ _
      exact tracking.moves queue rfl FlowFollowed.deadlines FlowFollowed.visit
    · have started := first own
      have queue : state.writer.setQueue packet.flowId
          (packet :: state.writer.queueMap packet.flowId) syn.flowId =
            packet :: state.writer.queueMap syn.flowId := by
        rw [LocalWriter.setQueue, own, Function.update_self]
      refine ⟨?_, ?_, tracking.order, tracking.closed, ?_⟩
      · change (packet :: state.heap.map _).Perm (state.writer.setQueue _ _ _)
        rw [queue]
        exact tracking.account.cons packet
      · intro positioned member
        rcases List.mem_cons.mp member with rfl | member
        · exact number
        · exact tracking.places positioned member
      · intro unfinished
        have following := tracking.follows unfinished
        refine ⟨fun waiting => ?_, following.deadlines, following.number, following.wrote,
          (Carries.arrived state _ _).tracks following.visit⟩
        exact nomatch started.symm.trans waiting
  | inserted flowId pushed opened =>
    cases observes
    exact tracking.moves rfl rfl FlowFollowed.deadlines FlowFollowed.visit
  | notified flowId inserted =>
    cases observes
    exact tracking.moves rfl rfl FlowFollowed.deadlines FlowFollowed.visit
  | seeded packet receiving control enforced isSyn =>
    rcases observes with ⟨other, rfl⟩ | ⟨own, rfl⟩
    · have known : (state.writer.seed packet).expectedSeqMap syn.flowId =
          state.writer.expectedSeqMap syn.flowId := Function.update_of_ne other.symm _ _
      exact tracking.moves rfl known FlowFollowed.deadlines FlowFollowed.visit
    · refine ⟨tracking.account, tracking.places, tracking.order, tracking.closed, ?_⟩
      intro unfinished
      have following := tracking.follows unfinished
      refine ⟨nofun, following.deadlines, fun _ => ?_, nofun, ?_⟩
      · change state.writer.setExpected packet.flowId (packet.seqNum + 1) syn.flowId =
          some (numberAt syn 0)
        rw [LocalWriter.setExpected, own, Function.update_self, first own, number_at_zero]
      · exact (Carries.seeded state _).tracks following.visit
  | seedInserted flowId seeded opened =>
    cases observes
    exact tracking.moves rfl rfl FlowFollowed.deadlines FlowFollowed.visit
  | seedCleared flowId inserted =>
    cases observes
    exact tracking.moves rfl rfl (fun following => following.cleared flowId) FlowFollowed.visit
  | raised packet receiving control enforced noSyn last =>
    rcases observes with ⟨other, rfl⟩ | ⟨own, place, number, ⟨raises, rfl⟩ | ⟨stays, rfl⟩⟩
    · have known : (state.writer.raise packet).expectedSeqMap syn.flowId =
          state.writer.expectedSeqMap syn.flowId := Function.update_of_ne other.symm _ _
      exact tracking.moves rfl known FlowFollowed.deadlines FlowFollowed.visit
    · refine ⟨tracking.account, tracking.places, tracking.order, ?_, ?_⟩
      · intro final finished
        rcases Option.or_eq_some_iff.mp finished with before | ⟨unfinished, same⟩
        · exact tracking.closed final before
        · cases same
          exact keeps unfinished
      · intro unfinished
        exact nomatch (Option.or_eq_none_iff.mp unfinished).2
    · have queue : (state.writer.raise packet).queueMap syn.flowId =
          state.writer.queueMap syn.flowId := rfl
      apply tracking.silent queue
      intro following
      have kept : (state.writer.raise packet).expectedSeqMap syn.flowId =
          state.writer.expectedSeqMap syn.flowId := by
        change Function.update _ _ _ _ = _
        rw [own, Function.update_self, raise_to_stays stays]
      exact following.goes queue kept following.deadlines following.visit
  | raiseCleared flowId raised =>
    cases observes
    exact tracking.moves rfl rfl (fun following => following.cleared flowId) FlowFollowed.visit
  | forwarded packet receiving passes =>
    cases observes
    exact tracking.moves rfl rfl FlowFollowed.deadlines FlowFollowed.visit

/-! ## The consumer -/

theorem visited_of {writer : LocalWriter} {round : Round} {phase : VisitPhase}
    (visiting : writer.consumer = .visiting round phase) : writer.visited = some round.flowId := by
  rw [LocalWriter.visited, visiting]

theorem own_of {writer : LocalWriter} {round : Round} {phase : VisitPhase}
    (visiting : writer.consumer = .visiting round phase)
    (visits : writer.visited = some syn.flowId) : round.flowId = syn.flowId :=
  Option.some.inj ((visited_of visiting).symm.trans visits)

theorem other_of {writer : LocalWriter} {round : Round} {phase : VisitPhase}
    (visiting : writer.consumer = .visiting round phase)
    (visits : writer.visited ≠ some syn.flowId) : syn.flowId ≠ round.flowId := by
  intro own
  exact visits ((visited_of visiting).trans (congrArg some own.symm))

theorem erase_unique {heap : List TcpPacket} {first second : TcpPacket} (member : first ∈ heap)
    (same : heap.erase first = heap.erase second) : first = second := by
  by_contra different
  have once := List.count_erase_self (a := first) (l := heap)
  have kept := List.count_erase_of_ne different (l := heap)
  have positive := List.count_pos_iff.mpr member
  rw [same] at once
  omega

variable {writer : LocalWriter} {positioned : Positioned}

theorem Pops.packet_eq (tracking : Tracking syn state) (pops : Pops syn state writer positioned)
    {packet : TcpPacket} (erased : writer.queueMap syn.flowId =
      (state.writer.queueMap syn.flowId).erase packet) : positioned.packet = packet := by
  have member := tracking.account.mem_iff.mp (List.mem_map_of_mem pops.member)
  exact erase_unique member (pops.erased.symm.trans erased)

theorem Pops.account (tracking : Tracking syn state) (pops : Pops syn state writer positioned) :
    ((state.heap.erase positioned).map Positioned.packet).Perm (writer.queueMap syn.flowId) := by
  have split := (List.perm_cons_erase pops.member).map Positioned.packet
  have whole := tracking.account.symm.trans split
  have popped := whole.erase positioned.packet
  rw [List.map_cons, List.erase_cons_head] at popped
  rw [pops.erased]
  exact popped.symm

theorem Pops.unstarted (pops : Pops syn state writer positioned)
    (following : FlowFollowed syn state) (waiting : state.started = false) : writer.queueMap syn.flowId = [] := by
  rw [pops.erased, following.unstarted waiting]
  rfl

theorem popped_queue {round : Round} {packet : TcpPacket} (own : round.flowId = syn.flowId) :
    state.writer.setQueue round.flowId ((state.writer.queueMap round.flowId).erase packet)
      syn.flowId = (state.writer.queueMap syn.flowId).erase packet := by
  rw [LocalWriter.setQueue, own, Function.update_self]

/-- A packet that is popped as stale is written behind the bytes before it. -/
theorem Pops.stale (tracking : Tracking syn state) (pops : Pops syn state writer positioned)
    (keeps : KeepsPlaces state (.stale positioned)) {expected : UInt32}
    (read : state.finished = none → state.Read syn expected)
    (less : seqLess positioned.packet.seqNum expected = true) :
    WroteUpTo state.written positioned.place := by
  rcases finished : state.finished with _ | final
  · have here := read finished
    simp only [KeepsPlaces, finished] at keeps
    rw [tracking.places positioned pops.member, here.number] at less
    exact here.wrote.mono (Nat.le_of_lt (place_lt_of_less less keeps))
  · simp only [KeepsPlaces, finished] at keeps
    exact (tracking.closed final finished).mono keeps

theorem Pops.taken (tracking : Tracking syn state) (keeps : KeepsPlaces state (.taken positioned))
    {expected : UInt32} (read : state.finished = none → state.Read syn expected) :
    WroteUpTo state.written positioned.place := by
  rcases finished : state.finished with _ | final
  · have here := read finished
    simp only [KeepsPlaces, finished] at keeps
    rw [keeps]
    exact here.wrote
  · simp only [KeepsPlaces, finished] at keeps
    exact (tracking.closed final finished).mono keeps

variable {segmentationOffload : Bool} {event : FlowEvent}

theorem expected_read_tracks (tracking : Tracking syn state)
    (step : ConsumerStep (patient segmentationOffload) state.writer .expectedRead writer)
    (observes : Observes syn state writer event .expectedRead) :
    Tracking syn (state.after writer event) := by
  cases step with
  | expectedRead round topSeq expected visiting free known =>
    rcases observes with ⟨visits, rfl⟩ | ⟨visits, rfl⟩
    · have other := other_of visiting visits
      exact tracking.moves rfl (Function.update_of_ne other _ _) FlowFollowed.deadlines
        fun _ => tracks_at trivial fun own => absurd own.symm other
    · have own := own_of visiting visits
      refine ⟨tracking.account, tracking.places, tracking.order, tracking.closed, ?_⟩
      intro unfinished
      have following := tracking.follows unfinished
      have started : state.started = true := (following.visit round _ visiting).2 own
      have read : expected = numberAt syn state.expectedAt := by
        rw [known, own, following.number started, Option.getD_some]
      have held : state.writer.setExpected round.flowId expected syn.flowId =
          some (numberAt syn state.expectedAt) := by
        rw [LocalWriter.setExpected, own, Function.update_self, read]
      exact ⟨following.unstarted, following.deadlines, fun _ => held, following.wrote,
        tracks_at trivial fun _ => ⟨started, read, Nat.le_refl _, following.wrote⟩⟩

theorem stale_popped_tracks (tracking : Tracking syn state)
    (step : ConsumerStep (patient segmentationOffload) state.writer .stalePopped writer)
    (observes : Observes syn state writer event .stalePopped)
    (keeps : KeepsPlaces state event) :
    Tracking syn (state.after writer event) := by
  cases step with
  | stalePopped round topSeq expected packet visiting isTop less =>
    rcases observes with ⟨visits, rfl⟩ | ⟨visits, positioned, pops, rfl⟩
    · have other := other_of visiting visits
      exact tracking.moves (Function.update_of_ne other _ _) rfl FlowFollowed.deadlines
        fun _ => tracks_at trivial fun _ => trivial
    · have own := own_of visiting visits
      have same := pops.packet_eq tracking (popped_queue own)
      have wrote := pops.stale tracking keeps
        (fun unfinished => ((tracking.follows unfinished).visit round _ visiting).2 own) (same ▸ less)
      refine ⟨pops.account tracking, ?_, tracking.order.extend wrote, ?_, ?_⟩
      · exact fun other member => tracking.places other (List.mem_of_mem_erase member)
      · exact fun final finished => (tracking.closed final finished).append [positioned]
      · intro unfinished
        have following := tracking.follows unfinished
        exact ⟨pops.unstarted following, following.deadlines, following.number,
          following.wrote.append [positioned], tracks_at trivial fun _ => trivial⟩

theorem popped_tracks (tracking : Tracking syn state)
    (step : ConsumerStep (patient segmentationOffload) state.writer .popped writer)
    (observes : Observes syn state writer event .popped)
    (keeps : KeepsPlaces state event) :
    Tracking syn (state.after writer event) := by
  cases step with
  | popped round expected packet visiting isTop =>
    rcases observes with ⟨visits, rfl⟩ | ⟨visits, positioned, pops, rfl⟩
    · have other := other_of visiting visits
      exact tracking.moves (Function.update_of_ne other _ _) rfl FlowFollowed.deadlines
        fun _ => tracks_at trivial fun own => absurd own.symm other
    · have own := own_of visiting visits
      have same := pops.packet_eq tracking (popped_queue own)
      have read (unfinished : state.finished = none) : state.Read syn expected :=
        ((tracking.follows unfinished).visit round _ visiting).2 own
      have wrote := Pops.taken tracking keeps read
      refine ⟨pops.account tracking, ?_, tracking.order.extend wrote, ?_, ?_⟩
      · exact fun other member => tracking.places other (List.mem_of_mem_erase member)
      · intro final finished
        rcases Option.or_eq_some_iff.mp finished with before | ⟨_, closes⟩
        · exact (tracking.closed final before).append [positioned]
        · rw [Positioned.closes, Option.ite_none_right_eq_some] at closes
          cases closes.2
          exact wrote.extend
      · intro unfinished
        rcases Option.or_eq_none_iff.mp unfinished with ⟨before, closes⟩
        have following := tracking.follows before
        have notLast : packet.isTcpFinOrRst = false := by
          rw [← same, ← Bool.not_eq_true]
          intro last
          rw [Positioned.closes, if_pos last] at closes
          exact nomatch closes
        have here := read before
        refine ⟨pops.unstarted following, following.deadlines, following.number,
          following.wrote.append [positioned], tracks_at trivial fun _ => ⟨here.started, ?_⟩⟩
        apply wrote.extend.mono
        simp only [KeepsPlaces, before] at keeps
        have added := advance_le packet notLast
        have ahead := here.ahead
        change state.expectedAt + (advance packet).toNat ≤ positioned.place + _
        rw [same]
        omega

theorem expected_reread_tracks (tracking : Tracking syn state)
    (step : ConsumerStep (patient segmentationOffload) state.writer .expectedReread writer)
    (observes : Observes syn state writer event .expectedReread) :
    Tracking syn (state.after writer event) := by
  cases step with
  | expectedReread round packet expected visiting free =>
    rcases observes with ⟨visits, rfl⟩ | ⟨visits, otherRound, other, number, same, rfl⟩
    · have other := other_of visiting visits
      exact tracking.moves rfl rfl FlowFollowed.deadlines
        fun _ => tracks_at trivial fun own => absurd own.symm other
    · have own := own_of visiting visits
      rw [visiting] at same
      cases same
      refine ⟨tracking.account, tracking.places, tracking.order, tracking.closed, ?_⟩
      intro unfinished
      have following := tracking.follows unfinished
      rcases (following.visit round _ visiting).2 own with ⟨started, wrote⟩
      refine ⟨following.unstarted, following.deadlines, following.number, following.wrote,
        tracks_at trivial fun _ => ⟨started, ?_, wrote⟩⟩
      rw [own, following.number started, Option.getD_some]
      exact (number_at_add syn state.expectedAt (advance packet)).symm

theorem expected_raised_tracks (tracking : Tracking syn state)
    (step : ConsumerStep (patient segmentationOffload) state.writer .expectedRaised writer)
    (observes : Observes syn state writer event .expectedRaised) :
    Tracking syn (state.after writer event) := by
  cases step with
  | expectedRaised round next visiting free =>
    rcases observes with ⟨visits, rfl⟩ | ⟨visits, otherRound, number, same, observed⟩
    · have other := other_of visiting visits
      exact tracking.moves rfl (Function.update_of_ne other _ _) FlowFollowed.deadlines
        fun _ => tracks_at trivial fun _ => trivial
    · have own := own_of visiting visits
      rw [visiting] at same
      cases same
      rcases observed with ⟨raises, rfl⟩ | ⟨stays, rfl⟩
      · refine ⟨tracking.account, tracking.places, tracking.order, tracking.closed, ?_⟩
        intro unfinished
        have following := tracking.follows unfinished
        rcases (following.visit round _ visiting).2 own with ⟨started, placed, wrote⟩
        refine ⟨following.unstarted, following.deadlines, fun _ => ?_, wrote,
          tracks_at trivial fun _ => trivial⟩
        change state.writer.setExpected _ _ _ = some (numberAt syn state.nextAt)
        rw [LocalWriter.setExpected, own, Function.update_self, raise_to_raises raises, placed]
      · refine tracking.moves rfl ?_ FlowFollowed.deadlines fun _ => tracks_at trivial fun _ => trivial
        change state.writer.setExpected _ _ _ = _
        rw [LocalWriter.setExpected, own, Function.update_self, raise_to_stays stays]

theorem consumer_tracks {label : WriterLabel} (tracking : Tracking syn state)
    (step : ConsumerStep (patient segmentationOffload) state.writer label writer)
    (observes : Observes syn state writer event label) (keeps : KeepsPlaces state event) :
    Tracking syn (state.after writer event) := by
  have taken := step
  cases step with
  | woken waiting stored =>
    cases observes
    exact tracking.moves rfl rfl FlowFollowed.deadlines fun _ => nofun
  | collected flowIds collecting free distinct members =>
    cases observes
    exact tracking.moves rfl rfl FlowFollowed.deadlines fun _ => start_round_tracks flowIds
  | peeked round top visiting isTop =>
    cases observes
    refine tracking.moves rfl rfl FlowFollowed.deadlines fun following => ?_
    refine tracks_at trivial fun own => ?_
    change state.started = true
    rw [← Bool.not_eq_false]
    intro waiting
    have member := isTop.member
    rw [own, following.unstarted waiting] at member
    exact nomatch member
  | peekedNone round visiting empty =>
    cases observes
    exact tracking.moves rfl rfl FlowFollowed.deadlines fun _ => tracks_at trivial fun _ => trivial
  | deactivated round delivered visiting free =>
    cases observes
    exact tracking.moves rfl rfl FlowFollowed.deadlines fun _ => tracks_at trivial fun _ => trivial
  | deadlineDropped round delivered visiting =>
    cases observes
    refine tracking.moves rfl rfl (fun following => following.cleared round.flowId) fun following => ?_
    cases delivered with
    | true => exact tracks_at trivial fun _ => trivial
    | false => exact next_tracks round
  | expectedRead => exact expected_read_tracks tracking taken observes
  | stalePopped => exact stale_popped_tracks tracking taken observes keeps
  | freshKept round topSeq expected visiting fresh =>
    cases observes
    refine tracking.moves rfl rfl FlowFollowed.deadlines fun following => ?_
    exact after_stale_tracks (following.visit round _ visiting).2
  | backlogMeasured round topSeq expected visiting =>
    cases observes
    refine tracking.moves rfl rfl FlowFollowed.deadlines fun following => ?_
    exact (following.visit round _ visiting).1.elim
  | backlogForgiven round topSeq expected visiting =>
    cases observes
    refine tracking.moves rfl rfl (fun following => following.cleared round.flowId) fun following => ?_
    exact (following.visit round _ visiting).1.elim
  | expectedAdvanced round topSeq expected visiting free =>
    cases observes
    refine tracking.silent rfl fun following => ?_
    exact (following.visit round _ visiting).1.elim
  | popped => exact popped_tracks tracking taken observes keeps
  | poppedNone round expected visiting empty =>
    cases observes
    exact tracking.moves rfl rfl FlowFollowed.deadlines fun _ => next_tracks round
  | expectedReread => exact expected_reread_tracks tracking taken observes
  | expectedRaised => exact expected_raised_tracks tracking taken observes
  | deadlineCleared round visiting =>
    cases observes
    exact tracking.moves rfl rfl (fun following => following.cleared round.flowId)
      fun _ => tracks_at trivial fun _ => trivial
  | emptyChecked round visiting =>
    cases observes
    refine tracking.moves rfl rfl FlowFollowed.deadlines fun following => ?_
    change ConsumerPhase.Tracks syn state (.visiting round (if _ then _ else _))
    split
    · exact tracks_at trivial fun _ => trivial
    · exact tracks_at trivial fun _ => trivial
  | topPopped round packet visiting isTop =>
    rcases observes with ⟨visits, rfl⟩ | ⟨visits, positioned, pops, rfl⟩
    · have other := other_of visiting visits
      exact tracking.moves (Function.update_of_ne other _ _) rfl FlowFollowed.deadlines
        fun _ => tracks_at trivial fun _ => trivial
    · refine ⟨pops.account tracking, ?_, tracking.order, tracking.closed, ?_⟩
      · exact fun other member => tracking.places other (List.mem_of_mem_erase member)
      · intro unfinished
        have following := tracking.follows unfinished
        exact ⟨pops.unstarted following, following.deadlines, following.number,
          following.wrote, tracks_at trivial fun _ => trivial⟩
  | topMissing round visiting empty =>
    cases observes
    exact tracking.moves rfl rfl FlowFollowed.deadlines fun _ => tracks_at trivial fun _ => trivial
  | deadlineReached round topSeq now deadline visiting armed reached =>
    cases observes
    refine tracking.moves rfl rfl (fun following => following.cleared round.flowId) fun following => ?_
    rw [following.deadlines] at armed
    exact nomatch armed
  | deadlineAhead round topSeq now deadline visiting armed ahead =>
    cases observes
    exact tracking.moves rfl rfl FlowFollowed.deadlines fun _ => next_tracks round
  | timerArmed round topSeq now visiting unarmed =>
    cases observes
    exact tracking.moves rfl rfl (fun following => following.cleared round.flowId)
      fun _ => next_tracks round
  | gapSkipped round topSeq visiting free =>
    cases observes
    refine tracking.silent rfl fun following => ?_
    exact (following.visit round _ visiting).1.elim

theorem step_tracks {label : WriterLabel} (tracking : Tracking syn state)
    (step : WriterStep (patient segmentationOffload) state.writer label writer)
    (observes : Observes syn state writer event label) (first : SynFirst syn state label)
    (keeps : KeepsPlaces state event) : Tracking syn (state.after writer event) := by
  cases step with
  | producer step => exact producer_tracks tracking step observes first keeps
  | consumer step => exact consumer_tracks tracking step observes keeps
  | slept sleepers sleeping =>
    cases observes
    exact tracking.moves rfl rfl FlowFollowed.deadlines FlowFollowed.visit

/-! ## Every step is observed -/

theorem after_writer (event : FlowEvent) : (state.after writer event).writer = writer := by
  cases event <;> rfl

theorem exists_place (syn : TcpPacket) (seqNum : UInt32) : ∃ place, seqNum = numberAt syn place := by
  refine ⟨(seqNum - (syn.seqNum + 1)).toNat, ?_⟩
  rw [numberAt, UInt32.ofNat_toNat, UInt32.add_comm, UInt32.sub_add_cancel]

theorem exists_pops (tracking : Tracking syn state) {packet : TcpPacket}
    (member : packet ∈ state.writer.queueMap syn.flowId)
    (erased : writer.queueMap syn.flowId = (state.writer.queueMap syn.flowId).erase packet) :
    ∃ positioned, Pops syn state writer positioned := by
  rcases List.mem_map.mp (tracking.account.mem_iff.mpr member) with ⟨positioned, held, rfl⟩
  exact ⟨positioned, held, erased⟩

/-- The places take no step of the tasks away. -/
theorem step_observed {config : WriterConfig} {label : WriterLabel} (tracking : Tracking syn state)
    (step : WriterStep config state.writer label writer) :
    ∃ event, TrackedStep config syn state (label, event) (state.after writer event) := by
  suffices observed : ∃ event, Observes syn state writer event label by
    rcases observed with ⟨event, observes⟩
    refine ⟨event, ?_, ?_, ?_⟩
    · rwa [after_writer]
    · rwa [after_writer]
    · rw [after_writer]
  have popped {round : Round} {phase : VisitPhase} {packet : TcpPacket}
      (visiting : state.writer.consumer = .visiting round phase)
      (visits : state.writer.visited = some syn.flowId)
      (isTop : IsTop (state.writer.queueMap round.flowId) packet)
      (queue : writer.queueMap =
        state.writer.setQueue round.flowId ((state.writer.queueMap round.flowId).erase packet)) :
      ∃ positioned, Pops syn state writer positioned := by
    have own := own_of visiting visits
    apply exists_pops tracking (own ▸ isTop.member)
    rw [queue]
    exact popped_queue own
  cases step with
  | slept sleepers sleeping => exact ⟨.silent, rfl⟩
  | producer step =>
    cases step with
    | pushed packet receiving data enforced =>
      by_cases own : packet.flowId = syn.flowId
      · rcases exists_place syn packet.seqNum with ⟨place, number⟩
        exact ⟨_, .inr ⟨own, place, number, rfl⟩⟩
      · exact ⟨_, .inl ⟨own, rfl⟩⟩
    | seeded packet receiving control enforced isSyn =>
      by_cases own : packet.flowId = syn.flowId
      · exact ⟨_, .inr ⟨own, rfl⟩⟩
      · exact ⟨_, .inl ⟨own, rfl⟩⟩
    | raised packet receiving control enforced noSyn last =>
      by_cases own : packet.flowId = syn.flowId
      · rcases exists_place syn packet.seqNum with ⟨place, number⟩
        by_cases raises : Raises (state.writer.expectedSeqMap syn.flowId) (packet.seqNum + 1)
        · exact ⟨_, .inr ⟨own, place, number, .inl ⟨raises, rfl⟩⟩⟩
        · exact ⟨_, .inr ⟨own, place, number, .inr ⟨raises, rfl⟩⟩⟩
      · exact ⟨_, .inl ⟨own, rfl⟩⟩
    | _ => exact ⟨.silent, rfl⟩
  | consumer step =>
    cases step with
    | expectedRead round topSeq expected visiting free known =>
      by_cases visits : state.writer.visited = some syn.flowId
      · exact ⟨_, .inr ⟨visits, rfl⟩⟩
      · exact ⟨_, .inl ⟨visits, rfl⟩⟩
    | stalePopped round topSeq expected packet visiting isTop less =>
      by_cases visits : state.writer.visited = some syn.flowId
      · rcases popped visiting visits isTop rfl with ⟨positioned, pops⟩
        exact ⟨_, .inr ⟨visits, positioned, pops, rfl⟩⟩
      · exact ⟨_, .inl ⟨visits, rfl⟩⟩
    | popped round expected packet visiting isTop =>
      by_cases visits : state.writer.visited = some syn.flowId
      · rcases popped visiting visits isTop rfl with ⟨positioned, pops⟩
        exact ⟨_, .inr ⟨visits, positioned, pops, rfl⟩⟩
      · exact ⟨_, .inl ⟨visits, rfl⟩⟩
    | topPopped round packet visiting isTop =>
      by_cases visits : state.writer.visited = some syn.flowId
      · rcases popped visiting visits isTop rfl with ⟨positioned, pops⟩
        exact ⟨_, .inr ⟨visits, positioned, pops, rfl⟩⟩
      · exact ⟨_, .inl ⟨visits, rfl⟩⟩
    | expectedReread round packet expected visiting free =>
      by_cases visits : state.writer.visited = some syn.flowId
      · exact ⟨_, .inr ⟨visits, round, packet, expected, visiting, rfl⟩⟩
      · exact ⟨_, .inl ⟨visits, rfl⟩⟩
    | expectedRaised round next visiting free =>
      by_cases visits : state.writer.visited = some syn.flowId
      · by_cases raises : Raises (state.writer.expectedSeqMap syn.flowId) next
        · exact ⟨_, .inr ⟨visits, round, next, visiting, .inl ⟨raises, rfl⟩⟩⟩
        · exact ⟨_, .inr ⟨visits, round, next, visiting, .inr ⟨raises, rfl⟩⟩⟩
      · exact ⟨_, .inl ⟨visits, rfl⟩⟩
    | _ => exact ⟨.silent, rfl⟩

end Invariant

/-! ## Runs -/

/-- In every run whose steps keep the places, the packets of the flow are written in order, whatever
other flows do. -/
theorem flow_written_in_order (segmentationOffload : Bool) (syn : TcpPacket) (state : Tracked)
    (reachable : ((trackedWriter (patient segmentationOffload) syn).restrict fun state label =>
      SynFirst syn state label.1 ∧ KeepsPlaces state label.2).Reachable state) :
    InOrder state.written := by
  have tracking : Tracking syn state := by
    apply TransitionSystem.invariant_of_reachable _ _ reachable
    · rintro _ rfl
      exact tracking_start _
    · rintro state ⟨label, event⟩ next tracking ⟨⟨first, keeps⟩, step⟩
      rw [step.tracked]
      exact step_tracks tracking step.taken step.observes first keeps
  exact tracking.order

/-- Steps that a guard allows lead to a state that meets the target. -/
def TrackedLeads (guard : Tracked → WriterLabel × FlowEvent → Prop) (target : Tracked → Prop)
    (state : Tracked) : Prop :=
  ((trackedWriter (patient false) (control 0 true false)).restrict guard).Leads target state

section Leads

variable {guard : Tracked → WriterLabel × FlowEvent → Prop} {target : Tracked → Prop}
  {state : Tracked}

theorem tracked_leads_after {label : WriterLabel} {writer : LocalWriter} (event : FlowEvent)
    (taken : WriterStep (patient false) state.writer label writer)
    (observes : Observes (control 0 true false) state writer event label)
    (allowed : guard state (label, event))
    (leads : TrackedLeads guard target (state.after writer event)) :
    TrackedLeads guard target state := by
  have step : TrackedStep (patient false) (control 0 true false) state (label, event)
      (state.after writer event) := by
    refine ⟨?_, ?_, ?_⟩
    · rwa [after_writer]
    · rwa [after_writer]
    · rw [after_writer]
  exact .after ⟨allowed, step⟩ leads

end Leads

/-- The byte behind the SYN is written in order, then a FIN comes with the number behind it. -/
theorem byte_before_fin_in_order : ∃ state : Tracked, state.written = [⟨segment 1, 0⟩] ∧
    state.finished = some 1 ∧ InOrder state.written := by
  suffices leads : TrackedLeads (fun state label => SynFirst (control 0 true false) state label.1 ∧
      KeepsPlaces state label.2)
      (fun state => state.written = [⟨segment 1, 0⟩] ∧ state.finished = some 1)
      ⟨.new (patient false), false, [], [], 0, 0, 0, none⟩ by
    rcases leads with ⟨labels, finish, run, written, finished⟩
    exact ⟨finish, written, finished,
      flow_written_in_order false (control 0 true false) finish ⟨_, labels, rfl, run⟩⟩
  refine tracked_leads_after .seeded (.producer (.seeded (control 0 true false) rfl rfl rfl rfl))
    (.inr ⟨rfl, rfl⟩) ⟨fun _ => rfl, trivial⟩ ?_
  refine tracked_leads_after .silent (.producer (.seedInserted 7 rfl nofun)) rfl
    ⟨trivial, trivial⟩ ?_
  refine tracked_leads_after .silent (.producer (.seedCleared 7 rfl)) rfl ⟨trivial, trivial⟩ ?_
  refine tracked_leads_after (.arrived ⟨segment 1, 0⟩)
    (.producer (.pushed (segment 1) rfl rfl rfl)) (.inr ⟨rfl, 0, rfl, rfl⟩)
    ⟨fun _ => rfl, trivial⟩ ?_
  refine tracked_leads_after .silent (.producer (.inserted 7 rfl nofun)) rfl ⟨trivial, trivial⟩ ?_
  refine tracked_leads_after .silent (.producer (.notified 7 rfl)) rfl ⟨trivial, trivial⟩ ?_
  refine tracked_leads_after .silent (.consumer (.woken rfl rfl)) rfl ⟨trivial, trivial⟩ ?_
  refine tracked_leads_after .silent
    (.consumer (.collected [7] rfl nofun (by decide) (listed rfl))) rfl ⟨trivial, trivial⟩ ?_
  refine tracked_leads_after .silent (.consumer (.peeked _ (segment 1) rfl (sole_top _))) rfl
    ⟨trivial, trivial⟩ ?_
  refine tracked_leads_after .read
    (.consumer (.expectedRead _ _ 1 rfl (fun _ => ⟨nofun, nofun, nofun⟩) rfl)) (.inr ⟨rfl, rfl⟩)
    ⟨trivial, trivial⟩ ?_
  refine tracked_leads_after .silent
    (.consumer (.freshKept _ _ _ rfl (.inr ⟨_, sole_top (segment 1), rfl⟩))) rfl
    ⟨trivial, trivial⟩ ?_
  refine tracked_leads_after (.taken ⟨segment 1, 0⟩)
    (.consumer (.popped _ 1 (segment 1) rfl (sole_top _)))
    (.inr ⟨rfl, _, ⟨List.mem_singleton.mpr rfl, rfl⟩, rfl⟩) ⟨trivial, rfl⟩ ?_
  refine tracked_leads_after (.raised 1)
    (.producer (.raised (control 2 false true) rfl rfl rfl rfl rfl))
    (.inr ⟨rfl, 1, rfl, .inl ⟨?_, rfl⟩⟩) ⟨fun _ => rfl, ?_⟩ ?_
  · rintro _ ⟨⟩
    rfl
  · intro _ byte inside
    exact ⟨⟨segment 1, 0⟩, List.mem_singleton.mpr rfl, Nat.zero_le _, inside⟩
  · exact ⟨[], _, .nil, rfl, rfl⟩

/-- A FIN overtakes the data: the byte before it is written as stale, the hundred bytes between the SYN
and that byte never were. -/
theorem overtaking_fin_breaks_order : ∃ state,
    ((trackedWriter (patient false) (control 0 true false)).restrict fun state label =>
      SynFirst (control 0 true false) state label.1).Reachable state ∧
    state.written = [⟨segment 101, 100⟩] ∧ ¬InOrder state.written := by
  suffices leads : TrackedLeads (fun state label => SynFirst (control 0 true false) state label.1)
      (fun state => state.written = [⟨segment 101, 100⟩])
      ⟨.new (patient false), false, [], [], 0, 0, 0, none⟩ by
    rcases leads with ⟨labels, finish, run, written⟩
    refine ⟨finish, ⟨_, labels, rfl, run⟩, written, ?_⟩
    intro order
    rcases order [] ⟨segment 101, 100⟩ [] written with before | repeated
    · rcases before 0 (by decide) with ⟨_, member, _⟩
      exact nomatch member
    · rcases repeated 100 (by decide) (by decide) with ⟨_, member, _⟩
      exact nomatch member
  refine tracked_leads_after .seeded (.producer (.seeded (control 0 true false) rfl rfl rfl rfl))
    (.inr ⟨rfl, rfl⟩) (fun _ => rfl) ?_
  refine tracked_leads_after .silent (.producer (.seedInserted 7 rfl nofun)) rfl trivial ?_
  refine tracked_leads_after .silent (.producer (.seedCleared 7 rfl)) rfl trivial ?_
  refine tracked_leads_after (.raised 101)
    (.producer (.raised (control 102 false true) rfl rfl rfl rfl rfl))
    (.inr ⟨rfl, 101, rfl, .inl ⟨?_, rfl⟩⟩) (fun _ => rfl) ?_
  · rintro _ ⟨⟩
    rfl
  refine tracked_leads_after .silent (.producer (.raiseCleared 7 rfl)) rfl trivial ?_
  refine tracked_leads_after (.arrived ⟨segment 101, 100⟩)
    (.producer (.pushed (segment 101) rfl rfl rfl)) (.inr ⟨rfl, 100, rfl, rfl⟩) (fun _ => rfl) ?_
  refine tracked_leads_after .silent (.producer (.inserted 7 rfl nofun)) rfl trivial ?_
  refine tracked_leads_after .silent (.producer (.notified 7 rfl)) rfl trivial ?_
  refine tracked_leads_after .silent (.consumer (.woken rfl rfl)) rfl trivial ?_
  refine tracked_leads_after .silent
    (.consumer (.collected [7] rfl nofun (by decide) (listed rfl))) rfl trivial ?_
  refine tracked_leads_after .silent (.consumer (.peeked _ (segment 101) rfl (sole_top _))) rfl
    trivial ?_
  refine tracked_leads_after .read
    (.consumer (.expectedRead _ _ 103 rfl (fun _ => ⟨nofun, nofun, nofun⟩) rfl)) (.inr ⟨rfl, rfl⟩)
    trivial ?_
  refine tracked_leads_after (.stale ⟨segment 101, 100⟩)
    (.consumer (.stalePopped _ _ _ _ rfl (sole_top (segment 101)) rfl))
    (.inr ⟨rfl, _, ⟨List.mem_singleton.mpr rfl, rfl⟩, rfl⟩) trivial ?_
  exact ⟨[], _, .nil, rfl⟩

end Nextmini.Node
