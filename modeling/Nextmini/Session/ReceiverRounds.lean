import Nextmini.Session.NeedReports

/-!
# Answers of a receiver over a whole run

The reports a receiver sends, in the order it sends them. The cache of the mode is always the last
answer of the run, and every later answer follows it: its round is not lower, it is equal for an
equal round, and it is complete once an answer was.
-/

namespace Nextmini.Session

open Nextmini.Library
open Nextmini.Messages

set_option autoImplicit false

abbrev Answer := UInt32 × NeedReport

def answerOf : LosslessSessionControl → Option Answer
  | .need roundId report => some (roundId, report)
  | _ => none

def answers (labels : List ReceiverLabel) : List Answer :=
  labels.flatMap fun label => label.sent.filterMap answerOf

/-- What an answer leaves open for the answers after it. -/
structure Follows (earlier later : Answer) : Prop where
  round : earlier.1 ≤ later.1
  equal : earlier.1 = later.1 → earlier.2 = later.2
  complete : earlier.2 = .complete → later.2 = .complete

theorem Follows.refl (answer : Answer) : Follows answer answer :=
  ⟨UInt32.le_refl _, fun _ => rfl, id⟩

theorem Follows.trans {first second third : Answer} (before : Follows first second)
    (after : Follows second third) : Follows first third := by
  refine ⟨UInt32.le_trans before.round after.round, ?_, ?_⟩
  swap
  · exact fun done => after.complete (before.complete done)
  intro same
  have middle : first.1 = second.1 := UInt32.le_antisymm before.round (same ▸ after.round)
  exact (before.equal middle).trans (after.equal (middle ▸ same))

theorem answers_append_single (labels : List ReceiverLabel) (label : ReceiverLabel) :
    answers (labels ++ [label]) = answers labels ++ label.sent.filterMap answerOf := by
  simp [answers]

/-- In an ordered list of answers, what follows the last one follows all. -/
theorem ordered_snoc {before : List Answer} {next : Answer} (ordered : before.Pairwise Follows)
    (last : ∀ answer ∈ before.getLast?, Follows answer next) :
    (before ++ [next]).Pairwise Follows := by
  refine List.pairwise_append.mpr ⟨ordered, List.pairwise_singleton _ _, ?_⟩
  intro answer member later single
  obtain rfl := List.mem_singleton.mp single
  rcases List.eq_nil_or_concat before with rfl | ⟨front, final, rfl⟩
  · cases member
  · rw [List.concat_eq_append] at ordered last member
    have ending := last final (by simp)
    rcases List.mem_append.mp member with early | final
    · exact ((List.pairwise_append.mp ordered).2.2 answer early final
        (List.mem_singleton_self _)).trans ending
    · exact List.mem_singleton.mp final ▸ ending

/-! ## One answer -/

theorem send_control_some {sessionId : UInt64} {control : LosslessSessionControl}
    {sent : List LosslessSessionControl} (sending : sendControl sessionId control = some sent) :
    sent = [control] ∧ control.validate = .ok () := by
  obtain ⟨bytes, encoded, rfl⟩ := Option.map_eq_some_iff.mp sending
  exact ⟨rfl, ((encode_control_some_iff sessionId control bytes).mp encoded).1⟩

/-- The answer to one `SourceDone`: none, the remembered report, or a new snapshot. -/
inductive AnswerStep (snapshot : Option NeedReport) (cache : NeedCache) (roundId : UInt32) :
    NeedCache → List LosslessSessionControl → Prop
  | stale {lastRoundId : UInt32} : cache.lastSourceDoneRoundId = some lastRoundId →
      roundId < lastRoundId → AnswerStep snapshot cache roundId cache []
  | silent : (cache.lastSourceDoneRoundId = some roundId → cache.lastRoundNeed = none) →
      (cache.lastSourceDoneRoundId ≠ some roundId → snapshot = none) →
      AnswerStep snapshot cache roundId cache []
  | repeated {report : NeedReport} : cache.lastSourceDoneRoundId = some roundId →
      cache.lastRoundNeed = some report → report.validate = .ok () →
      AnswerStep snapshot cache roundId
        { cache with completeReported := report = .complete } [.need roundId report]
  | taken {report : NeedReport} : (∀ last ∈ cache.lastSourceDoneRoundId, last < roundId) →
      snapshot = some report → report.validate = .ok () →
      AnswerStep snapshot cache roundId ⟨report = .complete, some roundId, some report⟩
        [.need roundId report]

theorem answer_round_cases {sessionId : UInt64} {snapshot : Option NeedReport}
    {cache next : NeedCache} {roundId : UInt32} {sent : List LosslessSessionControl}
    (later : ∀ last ∈ cache.lastSourceDoneRoundId, last < roundId)
    (answered : answerRound sessionId snapshot cache roundId = some (next, sent)) :
    AnswerStep snapshot cache roundId next sent := by
  unfold answerRound at answered
  split at answered
  next =>
    cases answered
    refine .silent ?_ fun _ => rfl
    intro same
    exact absurd (later roundId same) (UInt32.lt_irrefl _)
  next report =>
    obtain ⟨out, sending, same⟩ := Option.bind_eq_some_iff.mp answered
    obtain ⟨rfl, valid⟩ := send_control_some sending
    cases same
    exact .taken later rfl valid

theorem answer_source_done_cases {sessionId : UInt64} {snapshot : Option NeedReport}
    {cache next : NeedCache} {roundId : UInt32} {sent : List LosslessSessionControl}
    (answered : answerSourceDone sessionId snapshot cache roundId = some (next, sent)) :
    AnswerStep snapshot cache roundId next sent := by
  unfold answerSourceDone at answered
  split at answered
  next first =>
    exact answer_round_cases (by simp [first]) answered
  next lastRoundId last =>
    split_ifs at answered with stale same
    · cases answered
      exact .stale last stale
    · subst same
      split at answered
      next none =>
        cases answered
        exact .silent (fun _ => none) fun other => absurd last other
      next report remembered =>
        obtain ⟨out, sending, same⟩ := Option.bind_eq_some_iff.mp answered
        obtain ⟨rfl, valid⟩ := send_control_some sending
        cases same
        exact .repeated last remembered valid
    · refine answer_round_cases ?_ answered
      intro other member
      rw [last] at member
      obtain rfl := Option.some.inj member
      exact UInt32.lt_of_le_of_ne (UInt32.not_lt.mp stale) (Ne.symm same)

theorem snapshot_complete_iff {receiver : SessionReceiver} {manifest : LosslessSessionManifest}
    {plan : BlockPlan} {mode : ReceiverMode} (installed : Installed receiver manifest plan mode) :
    mode.snapshot receiver.shared = some .complete ↔
      receiver.shared.completeBlocks = Finset.range plan.totalBlocks := by
  have bounded := installed.bounded
  have counted : receiver.shared.completeBlocks = Finset.range plan.totalBlocks ↔
      receiver.shared.completeBlocks.card = plan.totalBlocks := by
    constructor
    · intro full
      rw [full, Finset.card_range]
    · exact full_of_card bounded
  have empty (none : plan.totalBlocks = 0) :
      receiver.shared.completeBlocks.card = plan.totalBlocks := by
    rw [none, Finset.range_zero, Finset.subset_empty] at bounded
    rw [bounded, none, Finset.card_empty]
  rw [counted]
  cases mode with
  | plain mode =>
    simp only [ReceiverMode.snapshot, ReceiverShared.plainNeed, installed.planIs]
    split_ifs with none full
    · exact iff_of_true rfl (empty none)
    · exact iff_of_true rfl full
    · simp [full]
  | fec mode =>
    simp only [ReceiverMode.snapshot, FecReceiver.needReport, installed.planIs,
      ReceiverShared.hasAllBlocks, decide_eq_true_eq]
    split_ifs with full
    · refine iff_of_true rfl ?_
      rcases full with none | full
      · exact empty none
      · exact full
    · rw [not_or] at full
      simp [full.2]

/-! ## The cache is the last answer -/

def cacheOf (given : List Answer) : NeedCache :=
  match given.getLast? with
  | none => .empty
  | some (roundId, report) => ⟨report = .complete, some roundId, some report⟩

@[simp] theorem cache_of_snoc (given : List Answer) (answer : Answer) :
    cacheOf (given ++ [answer]) = ⟨answer.2 = .complete, some answer.1, some answer.2⟩ := by
  simp [cacheOf]

theorem cache_of_round {given : List Answer} {roundId : UInt32}
    (last : (cacheOf given).lastSourceDoneRoundId = some roundId) :
    ∃ report, given.getLast? = some (roundId, report) ∧
      cacheOf given = ⟨report = .complete, some roundId, some report⟩ := by
  unfold cacheOf at last ⊢
  split at last
  next => cases last
  next lastRoundId report ending =>
    obtain rfl := Option.some.inj last
    rw [ending]
    exact ⟨report, rfl, rfl⟩

/-- What a run's answers say about the receiver at its end. -/
structure Answering (given : List Answer) (task : ReceiverTask) : Prop where
  consistent : Consistent task.receiver
  ordered : given.Pairwise Follows
  cacheIs : ∀ mode ∈ task.receiver.mode, mode.cache = cacheOf given
  silentBefore : task.receiver.mode = none → given = []
  full : ∀ answer ∈ given, answer.2 = .complete → ∀ plan ∈ task.receiver.shared.plan,
    task.receiver.shared.completeBlocks = Finset.range plan.totalBlocks
  replayIs : ∀ replay ∈ task.replay, task.inLoop = false ∧ replay.report = .complete ∧
    given.getLast? = some (replay.roundId, .complete)
  valid : ∀ answer ∈ given, answer.2.validate = .ok ()
  canonical : ∀ answer ∈ given, answer.2.canonical = answer.2

section Steps

variable {crate : FountainCrate} {host : Host}

/-- A step either answers a `SourceDone`, or sends no report and leaves the cache alone; the mode
that an install brings in has the empty cache. -/
theorem receive_step_answers {receiver next : SessionReceiver} {frame : InboundFrame}
    {sent : List LosslessSessionControl} (consistent : Consistent receiver)
    (step : ReceiveStep crate host receiver frame next sent) :
    (sent.filterMap answerOf = [] ∧ (next.mode = none → receiver.mode = none) ∧
        ∀ mode ∈ next.mode, (receiver.mode = none ∧ mode.cache = .empty) ∨
          ∃ before ∈ receiver.mode, mode.cache = before.cache) ∨
      ∃ header roundId mode cache, decodeControl frame.bytes = some (header, .sourceDone roundId) ∧
        receiver.mode = some mode ∧
        answerSourceDone receiver.shared.sessionId (mode.snapshot receiver.shared) mode.cache
          roundId = some (cache, sent) ∧
        next = { receiver with mode := some (mode.withCache cache) } := by
  have unchanged : ∀ mode ∈ receiver.mode, (receiver.mode = none ∧ mode.cache = .empty) ∨
      ∃ before ∈ receiver.mode, mode.cache = before.cache :=
    fun mode member => .inr ⟨mode, member, rfl⟩
  cases step with
  | ignore => exact .inl ⟨rfl, id, unchanged⟩
  | readyAgain decoded installed => exact .inl ⟨rfl, id, unchanged⟩
  | install decoded fresh planned chosen grown =>
    rcases consistent with empty | ⟨manifest, plan, mode, installed⟩
    · refine .inl ⟨rfl, by simp, ?_⟩
      intro mode member
      obtain rfl := Option.some.inj member
      exact .inl ⟨empty.modeIs, (receiver_mode_matches chosen).2⟩
    · rw [installed.manifestIs] at fresh
      cases fresh
  | answer decoded running answered => exact .inr ⟨_, _, _, _, decoded, running, answered, rfl⟩
  | block running installed decoded valid fresh => exact .inl ⟨rfl, id, unchanged⟩
  | symbol running step =>
    obtain ⟨_, _, _, _, cache, _⟩ := symbol_step_shared step
    refine .inl ⟨rfl, by simp, ?_⟩
    intro mode member
    obtain rfl := Option.some.inj member
    exact .inr ⟨_, running, cache⟩

/-- Which answer follows the ones given so far, and what the cache is after it. -/
theorem answer_step_follows {given : List Answer} {receiver : SessionReceiver}
    {manifest : LosslessSessionManifest} {plan : BlockPlan} {mode : ReceiverMode}
    {roundId : UInt32} {cache : NeedCache} {sent : List LosslessSessionControl}
    (installed : Installed receiver manifest plan mode) (cacheIs : mode.cache = cacheOf given)
    (full : ∀ answer ∈ given, answer.2 = .complete →
      receiver.shared.completeBlocks = Finset.range plan.totalBlocks)
    (canonical : ∀ answer ∈ given, answer.2.canonical = answer.2)
    (step : AnswerStep (mode.snapshot receiver.shared) mode.cache roundId cache sent) :
    (sent = [] ∧ cache = cacheOf given) ∨
      ∃ report, sent = [.need roundId report] ∧ cache = cacheOf (given ++ [(roundId, report)]) ∧
        (∀ answer ∈ given.getLast?, Follows answer (roundId, report)) ∧
        (report = .complete →
          receiver.shared.completeBlocks = Finset.range plan.totalBlocks) ∧
        report.validate = .ok () ∧ report.canonical = report := by
  rw [cacheIs] at step
  cases step with
  | stale last lower => exact .inl ⟨rfl, rfl⟩
  | silent remembered first => exact .inl ⟨rfl, rfl⟩
  | @repeated report last remembered valid =>
    obtain ⟨other, ending, same⟩ := cache_of_round last
    rw [same] at remembered
    obtain rfl := Option.some.inj remembered
    refine .inr ⟨other, rfl, ?_, ?_, ?_, valid, canonical _ (List.mem_of_getLast? ending)⟩
    · rw [same, cache_of_snoc]
    · intro answer member
      rw [ending] at member
      obtain rfl := Option.some.inj member
      exact .refl _
    · exact full _ (List.mem_of_getLast? ending)
  | @taken report later snapshot valid =>
    refine .inr ⟨report, rfl, by rw [cache_of_snoc], ?_, ?_, valid,
      snapshot_canonical installed snapshot⟩
    · intro answer member
      have before : answer.1 < roundId := by
        apply later
        rw [Option.mem_def] at member ⊢
        simp [cacheOf, member]
      refine ⟨UInt32.le_of_lt before, ?_, ?_⟩
      · intro same
        exact absurd before (same ▸ UInt32.lt_irrefl _)
      · intro done
        have all := full answer (List.mem_of_getLast? member) done
        rw [(snapshot_complete_iff installed).mpr all] at snapshot
        exact (Option.some.inj snapshot).symm
    · rintro rfl
      exact (snapshot_complete_iff installed).mp snapshot

theorem answering_of_receiver {given : List Answer} {task : ReceiverTask}
    (answering : Answering given task) {receiver : SessionReceiver} {frame : InboundFrame}
    {sent : List LosslessSessionControl} (inLoop : task.inLoop)
    (received : task.receiver.receiveFrame crate host frame = some (receiver, sent)) :
    Answering (given ++ sent.filterMap answerOf) { task with receiver := receiver } := by
  have noReplay : task.replay = none := by
    cases present : task.replay with
    | none => rfl
    | some replay =>
      have ended := (answering.replayIs replay present).1
      rw [inLoop] at ended
      cases ended
  obtain ⟨consistentNext, extended⟩ := receive_frame_consistent answering.consistent received
  obtain ⟨middle, step, rfl⟩ := SessionReceiver.receive_frame_cases received
  obtain ⟨sharedSame, modeSame⟩ := mark_passive_shared middle
  have stillFull : ∀ answer ∈ given, answer.2 = .complete →
      ∀ plan ∈ middle.markPassive.shared.plan,
        middle.markPassive.shared.completeBlocks = Finset.range plan.totalBlocks := by
    intro answer member done plan planned
    rcases answering.consistent with empty | ⟨manifest, before, mode, installed⟩
    · rw [answering.silentBefore empty.modeIs] at member
      cases member
    · have kept := extended.planKept (by rw [installed.planIs]; rfl)
      rw [Option.mem_def, kept, installed.planIs] at planned
      obtain rfl := Option.some.inj planned
      have all := answering.full answer member done before installed.planIs
      apply subset_antisymm ?_ (all ▸ extended.blocksGrow)
      rcases consistentNext with empty | ⟨_, after, _, reinstalled⟩
      · rw [empty.planIs, installed.planIs] at kept
        cases kept
      · rw [reinstalled.planIs, installed.planIs] at kept
        obtain rfl := Option.some.inj kept
        exact reinstalled.bounded
  rcases receive_step_answers answering.consistent step with ⟨quiet, started, caches⟩ | answered
  · rw [quiet, List.append_nil]
    refine ⟨consistentNext, answering.ordered, ?_, ?_, stillFull, by simp [noReplay],
      answering.valid, answering.canonical⟩
    · intro mode member
      rw [modeSame] at member
      rcases caches mode member with ⟨fresh, empty⟩ | ⟨before, running, same⟩
      · rw [empty, answering.silentBefore fresh]
        rfl
      · rw [same]
        exact answering.cacheIs before running
    · intro none
      exact answering.silentBefore (started (modeSame ▸ none))
  · obtain ⟨header, roundId, mode, cache, decoded, running, answered, rfl⟩ := answered
    rcases answering.consistent with empty | ⟨manifest, plan, other, installed⟩
    · rw [empty.modeIs] at running
      cases running
    · obtain rfl : other = mode := Option.some.inj (installed.modeIs.symm.trans running)
      have follows := answer_step_follows installed (answering.cacheIs _ running)
        (fun answer member done => answering.full answer member done plan installed.planIs)
        answering.canonical (answer_source_done_cases answered)
      have cacheNext (after : List Answer) (same : cache = cacheOf after) :
          ∀ mode ∈ (SessionReceiver.markPassive
            { task.receiver with mode := some (other.withCache cache) }).mode,
            mode.cache = cacheOf after := by
        intro mode member
        rw [modeSame] at member
        obtain rfl := Option.some.inj member
        rw [cache_with_cache, same]
      have running : (SessionReceiver.markPassive
          { task.receiver with mode := some (other.withCache cache) }).mode ≠ none := by
        rw [modeSame]
        simp
      rcases follows with ⟨rfl, same⟩ | ⟨report, rfl, same, last, done, valid, canonical⟩
      · rw [List.filterMap_nil, List.append_nil]
        exact ⟨consistentNext, answering.ordered, cacheNext given same,
          fun none => absurd none running, stillFull, by simp [noReplay], answering.valid,
          answering.canonical⟩
      · refine ⟨consistentNext, ordered_snoc answering.ordered last, cacheNext _ same,
          fun none => absurd none running, ?_, by simp [noReplay], ?_, ?_⟩
        · intro answer member complete after planned
          rcases List.mem_append.mp member with early | new
          · exact stillFull answer early complete after planned
          · obtain rfl := List.mem_singleton.mp new
            have kept := extended.planKept (by rw [installed.planIs]; rfl)
            rw [Option.mem_def, kept, installed.planIs] at planned
            obtain rfl := Option.some.inj planned
            rw [sharedSame]
            exact done complete
        · exact List.forall_mem_append.mpr ⟨answering.valid, List.forall_mem_singleton.mpr valid⟩
        · exact List.forall_mem_append.mpr ⟨answering.canonical,
            List.forall_mem_singleton.mpr canonical⟩

theorem answering_leave {given : List Answer} {task : ReceiverTask}
    (answering : Answering given task) : Answering given task.leaveLoop := by
  have consistent : Consistent task.leaveLoop.receiver := by
    rcases answering.consistent with empty | ⟨manifest, plan, mode, installed⟩
    · exact .inl ⟨empty.manifestIs, empty.planIs, empty.modeIs, empty.noBlocks⟩
    · exact .inr ⟨manifest, plan, mode, ⟨installed.manifestIs, installed.planIs,
        installed.modeIs, installed.valid, installed.planned, installed.modeMatches,
        installed.bounded⟩⟩
  refine ⟨consistent, answering.ordered, answering.cacheIs, answering.silentBefore,
    answering.full, ?_, answering.valid, answering.canonical⟩
  intro replay member
  have last (roundId : UInt32) (cache : NeedCache) (cacheIs : cache = cacheOf given)
      (complete : cache.completeReported)
      (round : cache.lastSourceDoneRoundId = some roundId) :
      given.getLast? = some (roundId, .complete) := by
    subst cacheIs
    obtain ⟨report, ending, same⟩ := cache_of_round round
    rw [same, decide_eq_true_eq] at complete
    rw [ending, complete]
  refine ⟨rfl, ?_⟩
  simp only [ReceiverTask.leaveLoop, SessionReceiver.completedReplay,
    SessionReceiver.finishSession] at member
  split at member
  next mode running =>
    split_ifs at member with complete
    · obtain ⟨roundId, round, rfl⟩ := Option.map_eq_some_iff.mp member
      exact ⟨rfl, last roundId _ (answering.cacheIs _ running) complete round⟩
    · cases member
  next mode running =>
    split_ifs at member with complete
    · obtain ⟨roundId, round, rfl⟩ := Option.map_eq_some_iff.mp member
      exact ⟨rfl, last roundId _ (answering.cacheIs _ running) complete round⟩
    · cases member
  next => cases member

theorem replay_cases {sessionId : UInt64} {replay : Option CompletedReceiverReplay}
    {frame : InboundFrame} {sent : List LosslessSessionControl} {answered : Bool}
    (replied : replayCompletedReceiver sessionId replay frame = some (sent, answered)) :
    (sent = [] ∧ answered = false) ∨
      ∃ kept header, replay = some kept ∧ answered = true ∧
        decodeControl frame.bytes = some (header, .sourceDone kept.roundId) ∧
        sent = [.need kept.roundId kept.report] := by
  unfold replayCompletedReceiver at replied
  split at replied
  next kept header roundId decoded =>
    split_ifs at replied with other
    · cases replied
      exact .inl ⟨rfl, rfl⟩
    · obtain ⟨out, sending, same⟩ := Option.bind_eq_some_iff.mp replied
      obtain ⟨rfl, -⟩ := send_control_some sending
      cases same
      rw [not_not] at other
      subst other
      exact .inr ⟨kept, header, rfl, rfl, decoded, rfl⟩
  next =>
    cases replied
    exact .inl ⟨rfl, rfl⟩

theorem task_step_answering {given : List Answer} {task next : ReceiverTask}
    {event : ReceiverEvent} {sent : List LosslessSessionControl}
    (answering : Answering given task)
    (stepped : task.step crate host event = some (next, sent)) :
    Answering (given ++ sent.filterMap answerOf) next := by
  cases event with
  | frame frame =>
    simp only [ReceiverTask.step] at stepped
    split_ifs at stepped with inLoop
    · obtain ⟨⟨receiver, out⟩, received, same⟩ := Option.bind_eq_some_iff.mp stepped
      cases same
      exact answering_of_receiver answering inLoop received
    · obtain ⟨⟨out, answered⟩, replied, same⟩ := Option.bind_eq_some_iff.mp stepped
      cases same
      rcases replay_cases replied with ⟨rfl, _⟩ | ⟨kept, header, present, _, _, rfl⟩
      · rw [List.filterMap_nil, List.append_nil]
        exact answering
      · obtain ⟨ended, report, last⟩ := answering.replayIs kept present
        have same : ([LosslessSessionControl.need kept.roundId kept.report].filterMap answerOf) =
            [(kept.roundId, .complete)] := by
          simp [answerOf, report]
        rw [same]
        refine ⟨answering.consistent, ?_, ?_, ?_, ?_, ?_, ?_, ?_⟩
        · refine ordered_snoc answering.ordered ?_
          intro answer member
          rw [last] at member
          obtain rfl := Option.some.inj member
          exact .refl _
        · intro mode running
          rw [answering.cacheIs mode running, cache_of_snoc]
          simp [cacheOf, last]
        · intro none
          rw [answering.silentBefore none] at last
          cases last
        · intro answer member done
          rcases List.mem_append.mp member with early | new
          · exact answering.full answer early done
          · exact answering.full _ (List.mem_of_getLast? last) rfl
        · intro replay member
          rw [present] at member
          obtain rfl := Option.some.inj member
          exact ⟨ended, report, by simp⟩
        · exact List.forall_mem_append.mpr
            ⟨answering.valid, List.forall_mem_singleton.mpr rfl⟩
        · exact List.forall_mem_append.mpr
            ⟨answering.canonical, List.forall_mem_singleton.mpr rfl⟩
  | passiveTimeout =>
    simp only [ReceiverTask.step] at stepped
    split_ifs at stepped
    cases stepped
    rw [List.filterMap_nil, List.append_nil]
    exact answering_leave answering
  | channelClosed =>
    simp only [ReceiverTask.step] at stepped
    split_ifs at stepped
    cases stepped
    rw [List.filterMap_nil, List.append_nil]
    exact answering_leave answering

theorem new_receiver_answering (cfg : ReceiverConfig) : Answering [] (.new cfg) :=
  ⟨.inl ⟨rfl, rfl, rfl, rfl⟩, .nil, by simp [ReceiverTask.new, SessionReceiver.new], fun _ => rfl,
    by simp, by simp [ReceiverTask.new], by simp, by simp⟩

theorem run_answering {start task : ReceiverTask} {labels : List ReceiverLabel}
    (initial : (receiverSystem crate).initial start)
    (run : (receiverSystem crate).Run start labels task) :
    Answering (answers labels) task := by
  refine TransitionSystem.history_of_run
    (motive := fun labels task => Answering (answers labels) task) run ?_ ?_
  · obtain ⟨cfg, rfl⟩ := initial
    exact new_receiver_answering cfg
  · rintro before state label next _ answering ⟨host, step⟩
    rw [answers_append_single]
    exact task_step_answering answering step

end Steps

end Nextmini.Session
