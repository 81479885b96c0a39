import Nextmini.Session.ReceiverContent
import Nextmini.Session.ReceiverRounds
import Nextmini.Session.SenderSource

/-!
# A sender and its receivers

One sender session and the receiver sessions of its peers, over a network that may lose, repeat
and reorder frames. What was sent once stays on the wire and may arrive any number of times, or
never; nothing else arrives. A frame reaches the sender under the id of the peer it comes from, or
under none.
-/

namespace Nextmini.Session

open Nextmini.Library Nextmini.Library.BigEndian
open Nextmini.Messages

set_option autoImplicit false

/-- A frame that was sent; `none` is the sender's own. -/
structure WireFrame where
  origin : Option Nat
  bytes : List Byte
  deriving DecidableEq, Repr

structure Network (Mode : Type) where
  sender : SenderTask Mode
  receivers : Nat → ReceiverTask
  wire : List WireFrame

inductive NetworkEvent where
  | sender (event : SenderEvent)
  | receiver (peerId : Nat) (host : Host) (event : ReceiverEvent)

namespace Network

def sentBySender (sessionId : UInt64) (frames : List SessionFrame) : List WireFrame :=
  frames.filterMap fun frame => (frame.encode sessionId).map (⟨none, ·⟩)

def sentByReceiver (sessionId : UInt64) (peerId : Nat) (sent : List LosslessSessionControl) :
    List WireFrame :=
  sent.filterMap fun control => (encodeControl sessionId control).map (⟨some peerId, ·⟩)

variable {Mode : Type}

/-- Only what was sent arrives. -/
def arrives (net : Network Mode) : NetworkEvent → Bool
  | .sender (.control frame) => net.wire.any fun sent =>
      sent.bytes = frame.bytes ∧ (frame.peerId = none ∨ frame.peerId = sent.origin)
  | .receiver _ _ (.frame frame) => net.wire.any fun sent => sent.bytes = frame.bytes
  | _ => true

variable [SenderLoop Mode]

def afterSender (net : Network Mode) (sender : SenderTask Mode) (frames : List SessionFrame) :
    Network Mode :=
  { net with
    sender := sender
    wire := net.wire ++ sentBySender net.sender.shared.sessionId frames }

def afterReceiver (net : Network Mode) (peerId : Nat) (task : ReceiverTask)
    (sent : List LosslessSessionControl) : Network Mode :=
  { net with
    receivers := Function.update net.receivers peerId task
    wire := net.wire ++
      sentByReceiver (net.receivers peerId).receiver.shared.sessionId peerId sent }

/-- `none`: the event does not happen here, or handling it panics. -/
def step (crate : FountainCrate) (net : Network Mode) (event : NetworkEvent) :
    Option (Network Mode) :=
  if net.arrives event then
    match event with
    | .sender event =>
        (net.sender.step crate event).map fun (next, frames) => net.afterSender next frames
    | .receiver peerId host event =>
        ((net.receivers peerId).step crate host event).map fun (next, sent) =>
          net.afterReceiver peerId next sent
  else none

/-- Any number of receivers of the sender's session, each with a sink of its own or with none. -/
def system (crate : FountainCrate) (senders : SenderTask Mode → Prop) :
    TransitionSystem (Network Mode) NetworkEvent where
  initial net := senders net.sender ∧
    (∀ peerId, ∃ cfg : ReceiverConfig, cfg.sessionId = net.sender.shared.sessionId ∧
      net.receivers peerId = .new cfg) ∧
    net.wire = []
  step net event next := net.step crate event = some next

/-- Where the event leaves the decoding of a block to the crate, the crate knows the symbol size. -/
def Uncut (net : Network Mode) : NetworkEvent → Prop
  | .receiver peerId host (.frame frame) =>
      ∀ attempt ∈ (net.receivers peerId).receiver.frameAttempt host frame.bytes,
        attempt.params.symbolSize < 2 ^ 16
  | _ => True

/-- Whenever the sender ends completed, every peer of the frozen quorum holds what the sender was
started with. -/
def Lossless (system : TransitionSystem (Network Mode) NetworkEvent) : Prop :=
  ∀ start events finish, system.initial start → system.Run start events finish →
    finish.sender.stage = .finished .completed →
      finish.sender.shared.activeQuorum.frozen ∧
        ∀ peerId ∈ finish.sender.shared.activeQuorum.active,
          Delivered start.sender.shared.transfer
            (start.receivers peerId).receiver.shared.sinkBuffer
            (finish.receivers peerId).receiver

/-! ## What is known of a network -/

/-- The receivers' answers so far, and the rounds of the sender, explain all that is on the wire and
all that the parties hold. -/
structure Tracked {Mode : Type} [RoundView Mode] (crate : FountainCrate)
    (tracked : RoundLog → SenderShared → Mode → Prop) (sourced : Transfer → Mode → Prop)
    (transfer : Transfer) (given : Nat → Option (List Byte)) (log : RoundLog)
    (answers : Nat → List Answer) (net : Network Mode) : Prop where
  task : TaskTracked tracked log net.sender
  transferIs : net.sender.shared.transfer = transfer
  source : sourced transfer net.sender.mode
  answering : ∀ peerId, Answering (answers peerId) (net.receivers peerId)
  holding : ∀ peerId, Holding crate transfer (given peerId) (net.receivers peerId).receiver
  genuine : ∀ sent ∈ net.wire, Carries crate transfer sent.bytes
  reported : ∀ sent ∈ net.wire, ∀ peerId header roundId report, sent.origin = some peerId →
    decodeControl sent.bytes = some (header, .need roundId report) →
      (roundId, report) ∈ answers peerId
  heard : ∀ roundId peerId report, log.Heard roundId peerId report →
    (roundId, report) ∈ answers peerId

section Steps

variable {Mode : Type} [RoundView Mode] {crate : FountainCrate}
  {tracked : RoundLog → SenderShared → Mode → Prop} {sourced : Transfer → Mode → Prop}
  {transfer : Transfer} {given : Nat → Option (List Byte)} {log : RoundLog}
  {answers : Nat → List Answer} {net : Network Mode}

theorem sent_by_sender_mem {sessionId : UInt64} {frames : List SessionFrame} {sent : WireFrame}
    (member : sent ∈ sentBySender sessionId frames) :
    sent.origin = none ∧ ∃ frame ∈ frames, frame.encode sessionId = some sent.bytes := by
  obtain ⟨frame, inList, carried⟩ := List.mem_filterMap.mp member
  obtain ⟨bytes, encoded, rfl⟩ := Option.map_eq_some_iff.mp carried
  exact ⟨rfl, frame, inList, encoded⟩

theorem sent_by_receiver_mem {sessionId : UInt64} {peerId : Nat}
    {controls : List LosslessSessionControl} {sent : WireFrame}
    (member : sent ∈ sentByReceiver sessionId peerId controls) :
    sent.origin = some peerId ∧
      ∃ control ∈ controls, encodeControl sessionId control = some sent.bytes := by
  obtain ⟨control, inList, carried⟩ := List.mem_filterMap.mp member
  obtain ⟨bytes, encoded, rfl⟩ := Option.map_eq_some_iff.mp carried
  exact ⟨rfl, control, inList, encoded⟩

omit [RoundView Mode] in
theorem arrives_control {frame : InboundFrame}
    (arrived : net.arrives (.sender (.control frame))) {peerId : Nat}
    (named : frame.peerId = some peerId) :
    ∃ sent ∈ net.wire, sent.bytes = frame.bytes ∧ sent.origin = some peerId := by
  obtain ⟨sent, member, same⟩ := List.any_eq_true.mp arrived
  rw [decide_eq_true_eq, named] at same
  obtain ⟨bytes, impossible | origin⟩ := same
  · cases impossible
  · exact ⟨sent, member, bytes, origin.symm⟩

theorem sender_step_tracked (modes : ModeTracking crate Mode tracked)
    (source : ModeSource crate Mode tracked sourced)
    (before : Tracked crate tracked sourced transfer given log answers net)
    {event : SenderEvent} (arrived : net.arrives (.sender event)) {next : SenderTask Mode}
    {frames : List SessionFrame} (stepped : net.sender.step crate event = some (next, frames)) :
    Tracked crate tracked sourced transfer given (log.observe ⟨event, frames⟩) answers
      (net.afterSender next frames) := by
  have step := task_step_cases stepped
  have held := before.source
  rw [← before.transferIs] at held
  obtain ⟨same, sourcedNext, genuine⟩ := task_step_source modes source before.task held step
  rw [before.transferIs] at same sourcedNext genuine
  refine ⟨task_step_tracked modes before.task step, same, sourcedNext, before.answering,
    before.holding, ?_, ?_, ?_⟩
  · intro sent member
    rcases List.mem_append.mp member with earlier | now
    · exact before.genuine sent earlier
    · obtain ⟨_, frame, inList, encoded⟩ := sent_by_sender_mem now
      have session : net.sender.shared.sessionId = transfer.sessionId := by
        rw [← before.transferIs]
        rfl
      exact ⟨frame, genuine frame inList, session ▸ encoded⟩
  · intro sent member peerId header roundId report origin decoded
    rcases List.mem_append.mp member with earlier | now
    · exact before.reported sent earlier peerId header roundId report origin decoded
    · rw [(sent_by_sender_mem now).1] at origin
      cases origin
  · intro roundId peerId report heard
    rcases RoundLog.heard_observe heard with earlier | ⟨frame, header, control, named, decoded⟩
    · exact before.heard roundId peerId report earlier
    · simp only at control
      subst control
      obtain ⟨sent, member, bytes, origin⟩ := arrives_control arrived named
      exact before.reported sent member peerId header roundId report origin (bytes ▸ decoded)

/-- A receiver sends nothing but Ready and reports. -/
theorem task_step_sends {host : Host} {task next : ReceiverTask} {event : ReceiverEvent}
    {sent : List LosslessSessionControl}
    (stepped : task.step crate host event = some (next, sent)) :
    ∀ control ∈ sent, control = .ready ∨ ∃ roundId report, control = .need roundId report := by
  cases event with
  | frame frame =>
    simp only [ReceiverTask.step] at stepped
    split_ifs at stepped
    · obtain ⟨⟨receiver, out⟩, received, same⟩ := Option.bind_eq_some_iff.mp stepped
      cases same
      obtain ⟨middle, step, _⟩ := SessionReceiver.receive_frame_cases received
      cases step with
      | ignore => simp
      | readyAgain decoded installed => simp
      | install decoded fresh planned chosen grown => simp
      | answer decoded running answered =>
        cases answer_source_done_cases answered with
        | stale last lower => simp
        | silent remembered first => simp
        | repeated last remembered valid => simp
        | taken later snapshot valid => simp
      | block running installed decoded valid fresh => simp
      | symbol running step => simp
    · obtain ⟨⟨out, answered⟩, replied, same⟩ := Option.bind_eq_some_iff.mp stepped
      cases same
      rcases replay_cases replied with ⟨rfl, _⟩ | ⟨kept, header, _, _, _, rfl⟩
      · simp
      · simp
  | passiveTimeout =>
    simp only [ReceiverTask.step] at stepped
    split_ifs at stepped
    cases stepped
    simp
  | channelClosed =>
    simp only [ReceiverTask.step] at stepped
    split_ifs at stepped
    cases stepped
    simp

theorem receiver_step_tracked
    (sound : ∀ fec, transfer.manifest.mode = .fec fec → DecodesGenuine crate)
    (planned : BlockPlan.new transfer.manifest.totalBytes transfer.manifest.blockSize.toNat =
      .ok transfer.plan)
    (before : Tracked crate tracked sourced transfer given log answers net) {peerId : Nat}
    {host : Host} {event : ReceiverEvent} (arrived : net.arrives (.receiver peerId host event))
    (uncut : ∀ fec, transfer.manifest.mode = .fec fec → net.Uncut (.receiver peerId host event))
    {next : ReceiverTask} {sent : List LosslessSessionControl}
    (stepped : (net.receivers peerId).step crate host event = some (next, sent)) :
    Tracked crate tracked sourced transfer given log
      (Function.update answers peerId (answers peerId ++ sent.filterMap answerOf))
      (net.afterReceiver peerId next sent) := by
  have answering := task_step_answering (before.answering peerId) stepped
  have carried : ∀ frame, event = .frame frame → Carries crate transfer frame.bytes := by
    rintro frame rfl
    obtain ⟨entry, member, same⟩ := List.any_eq_true.mp arrived
    rw [decide_eq_true_eq] at same
    exact same ▸ before.genuine entry member
  have known : ∀ fec, transfer.manifest.mode = .fec fec → ∀ frame, event = .frame frame →
      ∀ attempt ∈ (net.receivers peerId).receiver.frameAttempt host frame.bytes,
        attempt.params.symbolSize < 2 ^ 16 := by
    rintro fec kind frame rfl
    exact uncut fec kind
  have holding := task_step_holding sound planned (before.answering peerId).consistent
    (before.holding peerId) carried known stepped
  have grows (other : Nat) (answer : Answer) (member : answer ∈ answers other) :
      answer ∈ Function.update answers peerId
        (answers peerId ++ sent.filterMap answerOf) other := by
    by_cases same : other = peerId
    · subst same
      rw [Function.update_self]
      exact List.mem_append_left _ member
    · rwa [Function.update_of_ne same]
  refine ⟨before.task, before.transferIs, before.source, ?_, ?_, ?_, ?_, ?_⟩
  · intro other
    by_cases same : other = peerId
    · subst same
      simpa only [afterReceiver, Function.update_self] using answering
    · simpa only [afterReceiver, Function.update_of_ne same] using before.answering other
  · intro other
    by_cases same : other = peerId
    · subst same
      simpa only [afterReceiver, Function.update_self] using holding
    · simpa only [afterReceiver, Function.update_of_ne same] using before.holding other
  · intro entry member
    rcases List.mem_append.mp member with earlier | now
    · exact before.genuine entry earlier
    · obtain ⟨_, control, inList, encoded⟩ := sent_by_receiver_mem now
      rw [(before.holding peerId).session] at encoded
      refine ⟨.control control, ?_, encoded⟩
      rcases task_step_sends stepped control inList with rfl | ⟨roundId, report, rfl⟩
      · trivial
      · trivial
  · intro entry member other header roundId report origin decoded
    rcases List.mem_append.mp member with earlier | now
    · exact grows _ _ (before.reported entry earlier other header roundId report origin decoded)
    · obtain ⟨named, control, inList, encoded⟩ := sent_by_receiver_mem now
      obtain rfl : peerId = other := Option.some.inj (named.symm.trans origin)
      rw [decode_control_encode encoded] at decoded
      rcases task_step_sends stepped control inList with rfl | ⟨round, answer, rfl⟩
      · cases decoded
      · have given : (round, answer) ∈ answers peerId ++ sent.filterMap answerOf :=
          List.mem_append_right _ (List.mem_filterMap.mpr ⟨_, inList, rfl⟩)
        have canonical : answer.canonical = answer := answering.canonical _ given
        cases decoded
        rw [Function.update_self, canonical]
        exact given
  · intro roundId other report heard
    exact grows _ _ (before.heard roundId other report heard)

theorem step_tracked (modes : ModeTracking crate Mode tracked)
    (source : ModeSource crate Mode tracked sourced)
    (sound : ∀ fec, transfer.manifest.mode = .fec fec → DecodesGenuine crate)
    (planned : BlockPlan.new transfer.manifest.totalBytes transfer.manifest.blockSize.toNat =
      .ok transfer.plan) {event : NetworkEvent} {next : Network Mode}
    (before : ∃ log answers, Tracked crate tracked sourced transfer given log answers net)
    (uncut : ∀ fec, transfer.manifest.mode = .fec fec → net.Uncut event)
    (stepped : net.step crate event = some next) :
    ∃ log answers, Tracked crate tracked sourced transfer given log answers next := by
  obtain ⟨log, answers, holds⟩ := before
  unfold step at stepped
  split_ifs at stepped with arrived
  cases event with
  | sender event =>
    obtain ⟨⟨sender, frames⟩, taken, rfl⟩ := Option.map_eq_some_iff.mp stepped
    exact ⟨_, _, sender_step_tracked modes source holds arrived taken⟩
  | receiver peerId host event =>
    obtain ⟨⟨task, sent⟩, taken, rfl⟩ := Option.map_eq_some_iff.mp stepped
    exact ⟨_, _, receiver_step_tracked sound planned holds arrived uncut taken⟩

theorem initial_tracked {senders : SenderTask Mode → Prop} {start : Network Mode}
    (initial : (system crate senders).initial start)
    (task : TaskTracked tracked ⟨[], []⟩ start.sender)
    (source : sourced start.sender.shared.transfer start.sender.mode) :
    Tracked crate tracked sourced start.sender.shared.transfer
      (fun peerId => (start.receivers peerId).receiver.shared.sinkBuffer) ⟨[], []⟩ (fun _ => [])
      start := by
  obtain ⟨_, receivers, none⟩ := initial
  refine ⟨task, rfl, source, ?_, ?_, by simp [none], by simp [none], ?_⟩
  · intro peerId
    obtain ⟨cfg, _, new⟩ := receivers peerId
    rw [new]
    exact new_receiver_answering cfg
  · intro peerId
    obtain ⟨cfg, session, new⟩ := receivers peerId
    rw [new]
    exact new_receiver_holds session
  · rintro roundId peerId report ⟨_, member, _⟩
    cases member

/-- A completed sender has heard `Complete` from every quorum peer, and a receiver that says so holds
all blocks. -/
theorem lossless_of_tracking {senders : SenderTask Mode → Prop}
    {guard : Network Mode → NetworkEvent → Prop}
    (modes : ModeTracking crate Mode tracked) (source : ModeSource crate Mode tracked sourced)
    (initially : ∀ task, senders task → TaskTracked tracked ⟨[], []⟩ task ∧
      sourced task.shared.transfer task.mode ∧ Geometry task.shared ∧
      ∀ fec, task.shared.manifest.mode = .fec fec → DecodesGenuine crate ∧
        ∀ net event, guard net event → net.Uncut event) :
    Lossless ((system crate senders).restrict guard) := by
  intro start events finish initial run completed
  obtain ⟨task, sourcedStart, geometry, fecSound⟩ := initially start.sender initial.1
  have preserved : ∀ net event next,
      (∃ log answers, Tracked crate tracked sourced start.sender.shared.transfer
        (fun peerId => (start.receivers peerId).receiver.shared.sinkBuffer) log answers net) →
      ((system crate senders).restrict guard).step net event next →
        ∃ log answers, Tracked crate tracked sourced start.sender.shared.transfer
          (fun peerId => (start.receivers peerId).receiver.shared.sinkBuffer) log answers next := by
    rintro net event next holds ⟨allowed, stepped⟩
    exact step_tracked modes source (fun fec kind => (fecSound fec kind).1) geometry.planned holds
      (fun fec kind => (fecSound fec kind).2 net event allowed) stepped
  obtain ⟨log, answers, holds⟩ := TransitionSystem.run_preserves preserved run
    ⟨_, _, initial_tracked initial task sourcedStart⟩
  refine ⟨holds.task.frozen (by rw [completed]; rfl), ?_⟩
  intro peerId member
  obtain ⟨roundId, _, empty | complete⟩ :=
    modes.ends holds.task.mode (holds.task.finished completed)
  · rw [empty] at member
    cases member
  · have answered := holds.heard roundId peerId .complete (complete peerId member)
    have answering := holds.answering peerId
    rcases answering.consistent with fresh | ⟨manifest, plan, mode, installed⟩
    · rw [answering.silentBefore fresh.modeIs] at answered
      cases answered
    · exact (holds.holding peerId).delivered geometry.planned installed
        (answering.full _ answered rfl plan installed.planIs)

end Steps

end Network

end Nextmini.Session
