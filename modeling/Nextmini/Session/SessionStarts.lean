import Nextmini.Session.ReceiverGuarantees
import Nextmini.Session.RuntimeSteps

/-!
# Failed session starts

What a rejected start leaves of the runtime's maps. A stored replay is dropped before the checks of
a sender are made.
-/

namespace Nextmini.Session

open Nextmini.Library
open Nextmini.Messages

set_option autoImplicit false

theorem forget_replay_same_iff (runtime : LosslessRuntime) (sessionId : UInt64) :
    (runtime.forgetReplay sessionId).completedReceivers = runtime.completedReceivers ↔
      runtime.completedReceivers sessionId = none := by
  rw [LosslessRuntime.forgetReplay, Function.update_eq_self_iff, eq_comm]

def plainConfig : LosslessConfig := ⟨false, 1, []⟩

def emptyBlocksRequest : SenderRequest where
  sessionId := 7
  blockSize := 0
  receiverIds := [2]
  totalBytes := 1
  sourceBuffer := [5]
  readyGraceMs := 0
  peerReportTimeoutMs := 0

/-- A start that fails leaves both maps as they were exactly when the session is active or no replay
is stored under its id. -/
theorem failed_start_atomic_iff {config : LosslessConfig} {treeVisible : Bool}
    {runtime next : LosslessRuntime} {message : RuntimeMessage} {sessionId : UInt64}
    {reason : StartError} (requested : message.requests = some sessionId)
    (failed : runtime.handleMessage config treeVisible message =
      some (next, ⟨[], some (.error reason)⟩)) :
    (next.sessions = runtime.sessions ∧ next.completedReceivers = runtime.completedReceivers) ↔
      (runtime.sessions sessionId).isSome ∨ runtime.completedReceivers sessionId = none := by
  have handled := handle_message_cases failed
  generalize shown : (⟨[], some (.error reason)⟩ : RuntimeOutput) = output at handled
  have replied : output.reply = some (.error reason) := by rw [← shown]
  cases handled with
  | alreadyActive same active =>
    rw [requested] at same
    cases same
    apply iff_of_true
    · exact ⟨rfl, rfl⟩
    · left
      rw [active]
      rfl
  | preflight same inactive =>
    rw [requested] at same
    cases same
    rw [forget_replay_same_iff, inactive]
    simp [LosslessRuntime.forgetReplay]
  | _ => cases replied

/-- Without a stored replay the refusal of the request changes nothing. -/
theorem empty_blocks_refused_new :
    let next := LosslessRuntime.new.forgetReplay 7
    (next.sessions = LosslessRuntime.new.sessions ∧
        next.completedReceivers = LosslessRuntime.new.completedReceivers) ↔
      (LosslessRuntime.new.sessions 7).isSome ∨ LosslessRuntime.new.completedReceivers 7 = none :=
  @failed_start_atomic_iff plainConfig true .new _ (.startSender emptyBlocksRequest) 7
    (.preflight (.invalidBlockSize 0)) rfl rfl

/-! ### A replay lost to a rejected request -/

def grantingHost : RuntimeHost where
  toHost := roomyHost
  treeVisible := true

def frameEvents (control : LosslessSessionControl) : List RuntimeEvent :=
  [.submitted (.deliver 7 (controlFrame control)), .handled, .accepted, .task 0 .received]

/-- A receiver of session 7 that completes an empty object in round 0. -/
def completionEvents : List RuntimeEvent :=
  [.submitted (.startReceiver ⟨7, none⟩), .handled] ++
    frameEvents (.manifest ⟨1, 0, 0, .plain⟩) ++ frameEvents (.sourceDone 0)

/-- It leaves its loop, and its replay is all that stays. -/
def handoverEvents : List RuntimeEvent :=
  [.task 0 .passiveTimeout, .handled, .task 0 .resumed, .task 0 .reported, .handled]

theorem run_of_events {crate : FountainCrate} {config : LosslessConfig} {host : RuntimeHost}
    {start finish : LosslessRuntime} {events : List RuntimeEvent}
    {outputs : List (RuntimeEvent × RuntimeOutput)}
    (executed : TransitionSystem.execute (fun runtime => runtime.step crate config host) start
      events = some (finish, outputs)) :
    (runtimeSystem crate config).Run start
      (outputs.map fun output => ⟨output.1, output.2⟩) finish := by
  apply TransitionSystem.run_of_execute (fun event output => RuntimeLabel.mk event output) _ executed
  intro runtime event next output stepped
  exact ⟨host, stepped⟩

def executed (events : List RuntimeEvent) :
    Option (LosslessRuntime × List (RuntimeEvent × RuntimeOutput)) :=
  TransitionSystem.execute
    (fun runtime : LosslessRuntime => runtime.step idleCrate plainConfig grantingHost) .new events

theorem executed_reaches {Value : Type} {events : List RuntimeEvent}
    (read : LosslessRuntime → Value) {value : Value}
    (evaluated : (executed events).map (fun result => read result.1) = some value) :
    ∃ runtime, (runtimeSystem idleCrate plainConfig).Reachable runtime ∧ read runtime = value := by
  rcases Option.map_eq_some_iff.mp evaluated with ⟨⟨runtime, outputs⟩, finished, same⟩
  exact ⟨runtime, ⟨.new, _, rfl, run_of_events finished⟩, same⟩

/-- The request is refused, and the replay of the receiver is gone. -/
theorem refused_sender_forgets : ∃ runtime next,
    (runtimeSystem idleCrate plainConfig).Reachable runtime ∧
      runtime.startSenderSession plainConfig true emptyBlocksRequest =
        (next, .error (.preflight (.invalidBlockSize 0))) ∧
      runtime.completedReceivers 7 = some (.plain 0 .complete) ∧
      next.completedReceivers 7 = none := by
  have evaluated : (executed (completionEvents ++ handoverEvents)).map (fun result =>
      (result.1.sessions 7, result.1.completedReceivers 7)) =
        some (none, some (.plain 0 .complete)) := by
    decide +kernel
  rcases executed_reaches (fun runtime => (runtime.sessions 7, runtime.completedReceivers 7))
    evaluated with ⟨runtime, reachable, same⟩
  rcases Prod.mk.inj same with ⟨inactive, stored⟩
  have refused : runtime.startSenderSession plainConfig true emptyBlocksRequest =
      (runtime.forgetReplay 7, .error (.preflight (.invalidBlockSize 0))) := by
    simp only [LosslessRuntime.startSenderSession, emptyBlocksRequest, inactive]
    rfl
  have forgotten : (runtime.forgetReplay 7).completedReceivers 7 = none := by
    simp [LosslessRuntime.forgetReplay]
  exact ⟨runtime, _, reachable, refused, stored, forgotten⟩

end Nextmini.Session
