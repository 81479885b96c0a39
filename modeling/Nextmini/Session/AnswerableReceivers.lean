import Nextmini.Session.RoundDiscipline
import Nextmini.Session.SessionStarts
import Nextmini.Session.StandingTasks

/-!
# Answerable receivers

What becomes of a `SourceDone` for a receiver that has reported completion, over every run of a
runtime that leaves the session alone. The task answers while it is in its loop, also for new
rounds. After that the runtime answers, for the last round the receiver heard of and for no other,
and the sender of a later round waits in vain.
-/

namespace Nextmini.Session

open Nextmini.Library Nextmini.Library.BigEndian
open Nextmini.Messages

set_option autoImplicit false

/-- The session has had no task, or its only task stands. -/
def Held (sessionId : UInt64) (runtime : LosslessRuntime) : Prop :=
  (∀ id, runtime.owner id ≠ some sessionId) ∨ ∃ id task, Stands sessionId runtime id task

/-- The runs in which no abort of the session is handled, and no second start of it gets through. -/
def undisturbedSystem (crate : FountainCrate) (config : LosslessConfig) (sessionId : UInt64) :
    TransitionSystem LosslessRuntime RuntimeLabel :=
  (runtimeSystem crate config).restrict fun runtime label =>
    Undisturbed sessionId runtime label.event

def ReadsFrame (id : TaskId) (task : SessionTask) (frame : InboundFrame) (event : RuntimeEvent) :
    Prop :=
  event = .task id .received ∧ ∃ rest, task.inbox.pop = some (frame, rest)

/-- The runtime answers the frame itself: the session is not active, or its task has ended while the
frame waited for room in the inbox. -/
inductive AnswersFrame (runtime : LosslessRuntime) (sessionId : UInt64) (frame : InboundFrame) :
    RuntimeEvent → Prop
  | inactive : runtime.sessions sessionId = none →
      runtime.messages.head? = some (.deliver sessionId frame) →
        AnswersFrame runtime sessionId frame .handled
  | refused {id : TaskId} : runtime.delivering = some ⟨id, sessionId, frame⟩ →
      AnswersFrame runtime sessionId frame .refused

section Answers

variable {crate : FountainCrate} {config : LosslessConfig} {host : RuntimeHost}
  {runtime next : LosslessRuntime} {event : RuntimeEvent} {output : RuntimeOutput}
  {sessionId : UInt64} {id : TaskId} {task : SessionTask}

theorem held_new (sessionId : UInt64) : Held sessionId .new := by
  left
  intro id owned
  cases owned

/-- The first task of a session has posted nothing. -/
theorem stands_spawned {message : RuntimeMessage} {rest : List RuntimeMessage} {body : TaskBody}
    (owned : Owned runtime) (unowned : ∀ id, runtime.owner id ≠ some sessionId)
    (spawned : Spawned config runtime next sessionId message rest body)
    (sole : ∀ other, next.owner other = some sessionId → other = runtime.tasks.length) :
    Stands sessionId next runtime.tasks.length (.spawn sessionId body) := by
  have before : ∀ message ∈ next.messages, message ∈ runtime.messages := by
    intro other member
    rw [spawned.front]
    rw [spawned.result] at member
    exact List.mem_cons_of_mem _ member
  have unposted {message : RuntimeMessage} {id : TaskId} (member : message ∈ next.messages)
      (sender : message.sender = some (sessionId, id)) : False :=
    unowned id (owned.senders message (before message member) sessionId id sender)
  have tasks : next.tasks = runtime.tasks ++ [.spawn sessionId body] := by
    rw [spawned.result]
    rfl
  refine ⟨?_, rfl, sole, rfl, ?_, ?_, ?_, nofun, ?_⟩
  · rw [tasks, List.getElem?_concat_length]
  · intro _
    rw [spawned.result]
    simp [LosslessRuntime.spawn, LosslessRuntime.forgetReplay]
  · intro replay member
    exact (unposted member rfl).elim
  · intro outcome member
    exact (unposted member rfl).elim
  · intro receiver _ _ started
    exact absurd rfl started

theorem held_step (owned : Owned runtime) (held : Held sessionId runtime)
    (quiet : Undisturbed sessionId runtime event)
    (step : RuntimeStep crate config host runtime event next output) : Held sessionId next := by
  rcases held with unowned | ⟨id, task, stands⟩
  · by_cases first : ∃ id, next.owner id = some sessionId
    · rcases first with ⟨id, first⟩
      rcases owner_after step id with same | ⟨_, new, started, message, rest, body, spawned⟩
      · rw [same] at first
        exact absurd first (unowned id)
      · rw [new, spawned_owner spawned] at first
        cases first
        right
        refine ⟨_, _, stands_spawned owned unowned spawned ?_⟩
        intro other another
        rcases owner_after step other with same | ⟨_, new, _⟩
        · rw [same] at another
          exact absurd another (unowned other)
        · exact new
    · left
      intro id again
      exact first ⟨id, again⟩
  · rcases stands_step owned stands quiet step with ⟨later, stands, _⟩
    exact .inr ⟨id, later, stands⟩

theorem held_of_reachable (reachable : (undisturbedSystem crate config sessionId).Reachable runtime) :
    Owned runtime ∧ Held sessionId runtime := by
  apply TransitionSystem.invariant_of_reachable (motive := fun runtime =>
    Owned runtime ∧ Held sessionId runtime) _ _ reachable
  · intro state initial
    cases initial
    exact ⟨owned_new, held_new sessionId⟩
  · intro state label next before taken
    rcases before with ⟨owned, held⟩
    rcases taken with ⟨quiet, host, stepped⟩
    have step := step_cases stepped
    exact ⟨owned_step owned step, held_step owned held quiet step⟩

theorem stands_of_found (held : Held sessionId runtime) (found : runtime.tasks[id]? = some task)
    (session : task.sessionId = sessionId) : Stands sessionId runtime id task := by
  have owned := owner_of_found found
  rw [session] at owned
  rcases held with unowned | ⟨place, other, stands⟩
  · exact absurd owned (unowned id)
  · have here := stands.sole id owned
    subst here
    rw [stands.found] at found
    cases found
    exact stands

/-! ## Who answers -/

theorem supported_of_decoded {frame : InboundFrame} {header : LosslessSessionHeader}
    {control : LosslessSessionControl} (decoded : decodeControl frame.bytes = some (header, control)) :
    LosslessRuntime.unsupportedVersion frame = false := by
  simp only [decodeControl, Option.bind_eq_bind, Option.bind_eq_some_iff] at decoded
  rcases decoded with ⟨⟨front, off⟩, head, _⟩
  simp only [LosslessSessionHeader.decodeFrom, Option.bind_eq_bind, Option.bind_eq_some_iff] at head
  rcases head with ⟨raw, peeked, head⟩
  split_ifs at head with version
  simp only [LosslessRuntime.unsupportedVersion, peeked]
  simpa using version

theorem task_answers {receiver : SessionReceiver} {roundId asked : UInt32}
    {manifest : LosslessSessionManifest} {plan : BlockPlan} {mode : ReceiverMode}
    {frame : InboundFrame} {header : LosslessSessionHeader}
    (owned : Owned runtime) (stands : Stands sessionId runtime id task)
    (body : task.body = .receiver receiver)
    (completed : Completed receiver roundId manifest plan mode)
    (decoded : decodeControl frame.bytes = some (header, .sourceDone asked))
    (step : RuntimeStep crate config host runtime event next output)
    (reads : ReadsFrame id task frame event) :
    output = .ofSent sessionId (completeAnswer roundId asked) := by
  rcases reads with ⟨rfl, rest, front⟩
  cases step with
  | moved found moved =>
    rw [stands.found] at found
    cases found
    cases moved with
    | skipped running other => rw [body] at other; cases other
    | @received other later read remaining sent running same popped received =>
      rw [body] at same
      cases same
      rw [front] at popped
      cases popped
      have sound := owned.sound task (List.mem_of_getElem? stands.found) receiver body
      rcases sound.answering with ⟨given, answering⟩
      have session := received_session answering received
      rcases completed_hears_source_done crate host.toHost completed decoded with
        ⟨expected, taken, _⟩
      rw [taken] at received
      cases received
      rw [session, sound.session, stands.session]
    | panicked running same popped panicked =>
      rw [body] at same
      cases same
      rw [front] at popped
      cases popped
      rcases completed_hears_source_done crate host.toHost completed decoded with
        ⟨expected, taken, _⟩
      rw [taken] at panicked
      cases panicked
    | left running same leaves => cases leaves
  | handedOver found running same leaves => cases leaves

/-- Where the runtime answers, the task has handed its replay over. -/
theorem runtime_answers {receiver : SessionReceiver} {roundId asked : UInt32}
    {manifest : LosslessSessionManifest} {plan : BlockPlan} {mode : ReceiverMode}
    {frame : InboundFrame} {header : LosslessSessionHeader}
    (owned : Owned runtime) (stands : Stands sessionId runtime id task)
    (body : task.body = .receiver receiver)
    (completed : Completed receiver roundId manifest plan mode)
    (decoded : decodeControl frame.bytes = some (header, .sourceDone asked))
    (step : RuntimeStep crate config host runtime event next output)
    (answers : AnswersFrame runtime sessionId frame event) :
    output = .ofSent sessionId (replayAnswer roundId asked) := by
  rcases completed_replay completed with ⟨replay, stored, sameRound, complete⟩
  have reported := reported_of_completed completed
  have replayed {sent : List LosslessSessionControl} {answered : Bool}
      (started : task.stage ≠ .running) (handed : task.stage ≠ .awaitingAck)
      (answer : replayCompletedReceiver sessionId (runtime.completedReceivers sessionId) frame =
        some (sent, answered)) : sent = replayAnswer roundId asked := by
    rw [stands.registered receiver body reported started handed, stored] at answer
    rcases @replay_answered sessionId replay complete frame header asked decoded with
      ⟨_, expected⟩
    rw [expected, sameRound] at answer
    cases answer
    rfl
  cases answers with
  | inactive unlisted front =>
    have exited : task.stage = .reported := by
      by_contra unreported
      rw [stands.entry unreported] at unlisted
      cases unlisted
    cases step with
    | handled idle first handled =>
      rw [first] at front
      cases front
      cases handled with
      | dropped unsupported =>
        rw [supported_of_decoded decoded] at unsupported
        cases unsupported
      | sending supported active =>
        rw [unlisted] at active
        cases active
      | replayed supported inactive answer =>
        rw [replayed (by rw [exited]; nofun) (by rw [exited]; nofun) answer]
      | alreadyActive requested => cases requested
      | preflight requested => cases requested
      | started starts => cases starts
  | @refused place waiting =>
    cases step with
    | refused sending found closed answer =>
      rw [waiting] at sending
      cases sending
      have here := stands.sole place (owned.delivery _ waiting)
      subst here
      rw [stands.found] at found
      cases found
      rcases stage_of_closed closed with ⟨started, handed⟩
      rw [replayed started handed answer]

/-- A receiver that has reported completion still has after every step that leaves its session alone,
and it does not panic. Each `SourceDone` that it reads while it is in its loop is answered, unless the
round is older than the last one it has heard of. Each that the runtime answers itself is answered
for that round alone. -/
theorem completed_receiver_answers {label : RuntimeLabel} {receiver : SessionReceiver}
    (reachable : (undisturbedSystem crate config sessionId).Reachable runtime)
    (taken : (undisturbedSystem crate config sessionId).step runtime label next)
    (found : runtime.tasks[id]? = some task) (session : task.sessionId = sessionId)
    (body : task.body = .receiver receiver) (reported : receiver.reportedComplete = true) :
    ∃ roundId, receiver.lastRound = some roundId ∧
      (∃ later after laterRoundId, next.tasks[id]? = some later ∧ later.stage ≠ .ended .aborted ∧
        later.body = .receiver after ∧ after.reportedComplete = true ∧
        after.lastRound = some laterRoundId ∧ roundId ≤ laterRoundId) ∧
      ∀ frame header asked, decodeControl frame.bytes = some (header, .sourceDone asked) →
        (ReadsFrame id task frame label.event →
          label.output = .ofSent sessionId (completeAnswer roundId asked)) ∧
        (AnswersFrame runtime sessionId frame label.event →
          label.output = .ofSent sessionId (replayAnswer roundId asked)) := by
  rcases held_of_reachable reachable with ⟨owned, held⟩
  rcases taken with ⟨quiet, host, stepped⟩
  have step := step_cases stepped
  have stands := stands_of_found held found session
  have sound := owned.sound task (List.mem_of_getElem? found)
  rcases completed_of_task sound body reported with ⟨roundId, manifest, plan, mode, completed⟩
  have last := last_round_of_completed completed
  refine ⟨roundId, last, ?_, ?_⟩
  · rcases stands_step owned stands quiet step with ⟨later, after, stays⟩
    rcases stays receiver roundId body reported last with
      ⟨other, laterRoundId, sameBody, stillReported, laterLast, above⟩
    refine ⟨later, other, laterRoundId, after.found, ?_, sameBody, stillReported, laterLast, above⟩
    intro aborted
    have complete : later.reportedComplete = true := by
      rw [SessionTask.reportedComplete, sameBody]
      exact stillReported
    cases after.ended .aborted aborted complete
  · intro frame header asked decoded
    exact ⟨task_answers owned stands body completed decoded step,
      runtime_answers owned stands body completed decoded step⟩

end Answers

instance (sessionId : UInt64) (runtime : LosslessRuntime) (event : RuntimeEvent) :
    Decidable (Undisturbed sessionId runtime event) :=
  inferInstanceAs (Decidable (_ → _))

/-- The steps that leave session 7 alone. -/
def undisturbedStep (runtime : LosslessRuntime) (event : RuntimeEvent) :
    Option (LosslessRuntime × RuntimeOutput) :=
  if Undisturbed 7 runtime event then runtime.step idleCrate plainConfig grantingHost event else none

theorem undisturbed_step_taken {runtime next : LosslessRuntime} {event : RuntimeEvent}
    {output : RuntimeOutput} (stepped : undisturbedStep runtime event = some (next, output)) :
    (undisturbedSystem idleCrate plainConfig 7).step runtime ⟨event, output⟩ next := by
  rw [undisturbedStep] at stepped
  split_ifs at stepped with quiet
  exact ⟨quiet, grantingHost, stepped⟩

theorem undisturbed_run {start finish : LosslessRuntime} {events : List RuntimeEvent}
    {outputs : List (RuntimeEvent × RuntimeOutput)}
    (executed : TransitionSystem.execute undisturbedStep start events = some (finish, outputs)) :
    (undisturbedSystem idleCrate plainConfig 7).Run start
      (outputs.map fun output => ⟨output.1, output.2⟩) finish :=
  TransitionSystem.run_of_execute RuntimeLabel.mk (fun _ _ _ _ => undisturbed_step_taken) executed

/-- The receiver of the first task, with the frame it would read next. -/
def firstReceiver (runtime : LosslessRuntime) :
    Option (UInt64 × Bool × Option UInt32 × Option InboundFrame) :=
  runtime.tasks[0]?.bind fun task =>
    match task.body with
    | .sender .. => none
    | .receiver receiver => some (task.sessionId, receiver.reportedComplete, receiver.lastRound,
        task.inbox.pop.map Prod.fst)

/-- The receiver is still in its loop when the next round is opened. -/
def nextRoundEvents : List RuntimeEvent :=
  completionEvents ++ [.submitted (.deliver 7 (controlFrame (.sourceDone 1))), .handled, .accepted]

/-- A completed receiver in its loop answers for the next round. -/
theorem next_round_answered : ∃ runtime label next,
    (undisturbedSystem idleCrate plainConfig 7).Reachable runtime ∧
      (undisturbedSystem idleCrate plainConfig 7).step runtime label next ∧
      label.event = .task 0 .received ∧
      firstReceiver runtime = some (7, true, some 0, some (controlFrame (.sourceDone 1))) ∧
      label.output = .ofSent 7 [.need 1 .complete] := by
  have first : (TransitionSystem.execute undisturbedStep .new nextRoundEvents).bind (fun result =>
      firstReceiver result.1) = some (7, true, some 0, some (controlFrame (.sourceDone 1))) := by
    decide +kernel
  have steps : ((TransitionSystem.execute undisturbedStep .new nextRoundEvents).bind fun result =>
      undisturbedStep result.1 (.task 0 .received)).isSome := by
    decide +kernel
  have frame : (decodeControl (controlFrame (.sourceDone 1)).bytes).map Prod.snd =
      some (.sourceDone 1) := by
    decide +kernel
  rcases Option.bind_eq_some_iff.mp first with ⟨⟨runtime, outputs⟩, executed, first⟩
  rw [executed] at steps
  rcases Option.isSome_iff_exists.mp steps with ⟨⟨next, output⟩, stepped⟩
  rcases Option.map_eq_some_iff.mp frame with ⟨⟨header, control⟩, decoded, rfl⟩
  have reachable : (undisturbedSystem idleCrate plainConfig 7).Reachable runtime :=
    ⟨.new, _, rfl, undisturbed_run executed⟩
  have taken := undisturbed_step_taken stepped
  refine ⟨runtime, ⟨.task 0 .received, output⟩, next, reachable, taken, rfl, first, ?_⟩
  rcases Option.bind_eq_some_iff.mp first with ⟨task, found, shown⟩
  split at shown
  next => cases shown
  next receiver body =>
    simp only [Option.some.injEq, Prod.mk.injEq, Option.map_eq_some_iff, Prod.exists] at shown
    rcases shown with ⟨session, reported, last, _, rest, popped, rfl⟩
    rcases completed_receiver_answers reachable taken found session body reported with
      ⟨roundId, lastRound, _, answers⟩
    rw [last] at lastRound
    cases lastRound
    exact (answers _ _ _ decoded).1 ⟨rfl, rest, popped⟩

/-! ## A repair that outlasts a passive timeout -/

def slowPeerRequest : SenderRequest where
  sessionId := 7
  blockSize := 1
  receiverIds := [2, 3]
  totalBytes := 1
  sourceBuffer := [5]
  readyGraceMs := 1
  peerReportTimeoutMs := 10000

def slowPeerSender : SenderTask PlainSender where
  shared := senderShared ⟨7, [2, 3], [5], soleBlockManifest, 1, 10000⟩ soleBlockPlan
  mode := .default
  stage := .starting

theorem slow_peer_starts : plainSenders slowPeerSender :=
  ⟨plainConfig, false, slowPeerRequest, ⟨7, [2, 3], [5], soleBlockManifest, 1, 10000⟩, rfl, rfl⟩

def reportOf (peerId : Nat) (control : LosslessSessionControl) : SenderEvent :=
  .control { controlFrame control with peerId := some peerId }

/-- Peer 2 has the block after round 0. The repair for peer 3 takes forty seconds. -/
def slowPeerEvents : List SenderEvent :=
  [.turn 0 closedIngress, .turn 0 closedIngress, reportOf 2 .ready, .turn 0 closedIngress,
    reportOf 3 .ready, .turn 0 closedIngress, .turn 0 closedIngress, .turn 0 closedIngress,
    reportOf 2 (.need 0 .complete), reportOf 3 (.need 0 (.plain [⟨0, 1⟩])),
    .turn 40000 closedIngress, .turn 40000 closedIngress, .turn 40000 closedIngress,
    reportOf 3 (.need 1 .complete), .turn 40000 closedIngress, .wake 50000]

/-- The runtime of peer 2, which takes the second copy of the block and the next `SourceDone` after the
receiver's passive timeout. -/
def fastPeerEvents : List RuntimeEvent :=
  let taken (frame : InboundFrame) : List RuntimeEvent :=
    [.submitted (.deliver 7 frame), .handled, .accepted, .task 0 .received]
  let late (frame : InboundFrame) : List RuntimeEvent := [.submitted (.deliver 7 frame), .handled]
  [.submitted (.startReceiver ⟨7, none⟩), .handled] ++
    taken (controlFrame (.manifest soleBlockManifest)) ++ taken (blockFrame 0 [5]) ++
    taken (controlFrame (.sourceDone 0)) ++ handoverEvents ++ late (blockFrame 0 [5]) ++
    late (controlFrame (.sourceDone 1))

def heardFrom (peerId : Nat) (labels : List SenderLabel) : List (List Byte) :=
  labels.filterMap fun label =>
    match label.event with
    | .control frame => if frame.peerId = some peerId then some frame.bytes else none
    | _ => none

def deliveredTo (labels : List RuntimeLabel) : List (List Byte) :=
  labels.filterMap fun label =>
    match label.event with
    | .submitted (.deliver _ frame) => some frame.bytes
    | _ => none

def answersOf (labels : List RuntimeLabel) : List (UInt64 × LosslessSessionControl) :=
  labels.flatMap fun label => label.output.sent

/-- All that the sender sends reaches peer 2 in order, and all that peer 2 sends reaches the sender.
Round 1, which is open for peer 3, gets no answer from peer 2, and the sender aborts. -/
theorem later_round_unanswered : ∃ start labels task notes runtime, plainSenders start ∧
    (senderSystem idleCrate plainSenders).Run start labels task ∧
    (undisturbedSystem idleCrate plainConfig 7).Run .new notes runtime ∧
    (labels.flatMap SenderLabel.frames).map (SessionFrame.encode 7) = (deliveredTo notes).map some ∧
    (answersOf notes).map (fun answer => encodeControl answer.1 answer.2) =
      (heardFrom 2 labels).map some ∧
    .control (.sourceDone 1) ∈ labels.flatMap SenderLabel.frames ∧
    runtime.messages = [] ∧ answersOf notes = [(7, .ready), (7, .need 0 .complete)] ∧
    task.stage = .finished .aborted := by
  have sending : (TransitionSystem.execute (SenderTask.step idleCrate) slowPeerSender
      slowPeerEvents).map (fun result =>
        ((result.2.map fun output => (⟨output.1, output.2⟩ : SenderLabel)).flatMap
            SenderLabel.frames,
          heardFrom 2 (result.2.map fun output => ⟨output.1, output.2⟩), result.1.stage)) =
      some ([.control (.manifest soleBlockManifest), .blockData 0 [5], .control (.sourceDone 0),
          .blockData 0 [5], .control (.sourceDone 1)],
        [(controlFrame .ready).bytes, (controlFrame (.need 0 .complete)).bytes],
        .finished .aborted) := by
    decide +kernel
  have receiving : (TransitionSystem.execute undisturbedStep .new fastPeerEvents).map (fun result =>
        (deliveredTo (result.2.map fun output => ⟨output.1, output.2⟩),
          answersOf (result.2.map fun output => ⟨output.1, output.2⟩), result.1.messages)) =
      some ([(controlFrame (.manifest soleBlockManifest)).bytes, (blockFrame 0 [5]).bytes,
          (controlFrame (.sourceDone 0)).bytes, (blockFrame 0 [5]).bytes,
          (controlFrame (.sourceDone 1)).bytes],
        [(7, .ready), (7, .need 0 .complete)], []) := by
    decide +kernel
  rcases Option.map_eq_some_iff.mp sending with ⟨⟨task, outputs⟩, sent, same⟩
  simp only [Prod.mk.injEq] at same
  rcases same with ⟨frames, heard, stage⟩
  rcases Option.map_eq_some_iff.mp receiving with ⟨⟨runtime, answered⟩, received, same⟩
  simp only [Prod.mk.injEq] at same
  rcases same with ⟨delivered, answers, handled⟩
  have run : (senderSystem idleCrate plainSenders).Run slowPeerSender _ task :=
    TransitionSystem.run_of_execute SenderLabel.mk (fun _ _ _ _ stepped => stepped) sent
  refine ⟨slowPeerSender, _, task, _, runtime, slow_peer_starts, run, undisturbed_run received, ?_, ?_,
    ?_, handled, answers, stage⟩
  · rw [frames, delivered]
    decide +kernel
  · rw [answers, heard]
    decide +kernel
  · rw [frames]
    decide

end Nextmini.Session
