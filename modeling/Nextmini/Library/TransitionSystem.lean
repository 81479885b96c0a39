import Mathlib.Data.List.Basic

/-!
# Labelled transition systems

Runs, reachable states and the induction rule for invariants, over arbitrary states and labels.
A run keeps its labels in the order in which the steps were taken, so a statement about what a
system has emitted is a statement about the labels of its runs.
-/

namespace Nextmini.Library

set_option autoImplicit false

structure TransitionSystem (State Label : Type*) where
  initial : State → Prop
  step : State → Label → State → Prop

namespace TransitionSystem

variable {State Label : Type*} (system : TransitionSystem State Label)

inductive Run (start : State) : List Label → State → Prop
  | nil : Run start [] start
  | snoc {labels : List Label} {middle finish : State} {label : Label} :
      Run start labels middle → system.step middle label finish →
        Run start (labels ++ [label]) finish

def Reachable (state : State) : Prop :=
  ∃ start labels, system.initial start ∧ system.Run start labels state

/-- The same system, taking only those steps that meet `guard`. -/
def restrict (guard : State → Label → Prop) : TransitionSystem State Label where
  initial := system.initial
  step state label next := guard state label ∧ system.step state label next

/-- The same system, going only through states that `allowed` holds of. -/
def through (allowed : State → Prop) : TransitionSystem State Label where
  initial := system.initial
  step state label next := allowed next ∧ system.step state label next

variable {system}

theorem Run.single {start finish : State} {label : Label}
    (step : system.step start label finish) : system.Run start [label] finish := by
  have run : system.Run start ([] ++ [label]) finish := .snoc .nil step
  exact run

theorem Run.append {start middle finish : State} {first second : List Label}
    (front : system.Run start first middle) (back : system.Run middle second finish) :
    system.Run start (first ++ second) finish := by
  induction back with
  | nil => simpa using front
  | snoc _ step induction =>
    rw [← List.append_assoc]
    exact .snoc induction step

theorem Run.cons {start middle finish : State} {label : Label} {labels : List Label}
    (step : system.step start label middle) (rest : system.Run middle labels finish) :
    system.Run start (label :: labels) finish :=
  Run.append (.single step) rest

/-- A run leads to a state that meets the target. -/
def Leads (system : TransitionSystem State Label) (target : State → Prop) (start : State) : Prop :=
  ∃ labels finish, system.Run start labels finish ∧ target finish

theorem Leads.here {target : State → Prop} {start : State} (met : target start) :
    system.Leads target start :=
  ⟨[], start, .nil, met⟩

theorem Leads.after {target : State → Prop} {start middle : State} {label : Label}
    (step : system.step start label middle) (leads : system.Leads target middle) :
    system.Leads target start := by
  rcases leads with ⟨labels, finish, run, met⟩
  exact ⟨_, finish, .cons step run, met⟩

theorem Leads.reachable {target : State → Prop} {start : State} (initial : system.initial start)
    (leads : system.Leads target start) : ∃ finish, system.Reachable finish ∧ target finish := by
  rcases leads with ⟨labels, finish, run, met⟩
  exact ⟨finish, ⟨start, labels, initial, run⟩, met⟩

theorem Reachable.run {start finish : State} {labels : List Label}
    (reachable : system.Reachable start) (run : system.Run start labels finish) :
    system.Reachable finish := by
  obtain ⟨first, before, initial, prefixRun⟩ := reachable
  exact ⟨first, before ++ labels, initial, prefixRun.append run⟩

theorem Reachable.step {state next : State} {label : Label} (reachable : system.Reachable state)
    (step : system.step state label next) : system.Reachable next :=
  reachable.run (.single step)

theorem reachable_of_initial {state : State} (initial : system.initial state) :
    system.Reachable state :=
  ⟨state, [], initial, .nil⟩

theorem Run.unrestricted {guard : State → Label → Prop} {start finish : State}
    {labels : List Label} (run : (system.restrict guard).Run start labels finish) :
    system.Run start labels finish := by
  induction run with
  | nil => exact .nil
  | snoc _ step induction => exact .snoc induction step.2

theorem Run.restrict_mono {guard weaker : State → Label → Prop} {start finish : State}
    {labels : List Label} (run : (system.restrict guard).Run start labels finish)
    (weakened : ∀ state label, guard state label → weaker state label) :
    (system.restrict weaker).Run start labels finish := by
  induction run with
  | nil => exact .nil
  | snoc _ step induction => exact .snoc induction ⟨weakened _ _ step.1, step.2⟩

theorem Run.guarded {guard : State → Label → Prop} {start finish : State} {labels : List Label}
    (run : system.Run start labels finish)
    (always : ∀ state label next, system.step state label next → guard state label) :
    (system.restrict guard).Run start labels finish := by
  induction run with
  | nil => exact .nil
  | snoc _ step induction => exact .snoc induction ⟨always _ _ _ step, step⟩

theorem run_preserves {motive : State → Prop}
    (preserved : ∀ state label next, motive state → system.step state label next → motive next)
    {start finish : State} {labels : List Label} (run : system.Run start labels finish)
    (holds : motive start) : motive finish := by
  induction run with
  | nil => exact holds
  | snoc _ step induction => exact preserved _ _ _ induction step

theorem invariant_of_reachable {motive : State → Prop}
    (initially : ∀ state, system.initial state → motive state)
    (preserved : ∀ state label next, motive state → system.step state label next → motive next)
    {state : State} (reachable : system.Reachable state) : motive state := by
  obtain ⟨start, labels, initial, run⟩ := reachable
  exact run_preserves preserved run (initially start initial)

/-- The rule for a statement about a run's labels together with the state they lead to. -/
theorem history_of_run {motive : List Label → State → Prop} {start finish : State}
    {labels : List Label} (run : system.Run start labels finish) (initially : motive [] start)
    (preserved : ∀ before state label next, system.Run start before state →
      motive before state → system.step state label next → motive (before ++ [label]) next) :
    motive labels finish := by
  induction run with
  | nil => exact initially
  | snoc run step induction => exact preserved _ _ _ _ run induction step

/-- The rule for a guard that holds of exactly those steps that lead to allowed states. -/
theorem through_iff_restrict {allowed : State → Prop} {guard : State → Label → Prop}
    {motive : State → Prop}
    (exactly : ∀ state label next, motive state → system.step state label next →
      (allowed next ↔ guard state label))
    (kept : ∀ state label next, motive state → guard state label →
      system.step state label next → motive next)
    {start finish : State} {labels : List Label} (holds : motive start) :
    (system.through allowed).Run start labels finish ↔
      (system.restrict guard).Run start labels finish := by
  have reached : ∀ {labels state}, (system.restrict guard).Run start labels state → motive state := by
    intro labels state run
    apply run_preserves (motive := motive) _ run holds
    rintro _ _ _ holds ⟨guarded, step⟩
    exact kept _ _ _ holds guarded step
  constructor
  · intro run
    induction run with
    | nil => exact .nil
    | snoc _ step induction =>
      exact .snoc induction ⟨(exactly _ _ _ (reached induction) step.2).mp step.1, step.2⟩
  · intro run
    induction run with
    | nil => exact .nil
    | snoc before step induction =>
      exact .snoc induction ⟨(exactly _ _ _ (reached before) step.2).mpr step.1, step.2⟩

/-! ## Termination -/

variable (system) in
/-- No run from the state goes on for ever. -/
def Terminates (state : State) : Prop :=
  Acc (fun next state => ∃ label, system.step state label next) state

/-- A run that cannot go on for ever can be continued to a state without steps. -/
theorem Terminates.run_to_end {state : State} (terminates : system.Terminates state) :
    ∃ labels finish, system.Run state labels finish ∧ ∀ label next, ¬system.step finish label next := by
  induction terminates with
  | intro state _ induction =>
    by_cases stuck : ∃ label next, system.step state label next
    · obtain ⟨label, next, step⟩ := stuck
      obtain ⟨labels, finish, run, ended⟩ := induction next ⟨label, step⟩
      exact ⟨label :: labels, finish, .cons step run, ended⟩
    · refine ⟨[], state, .nil, ?_⟩
      intro label next step
      exact stuck ⟨label, next, step⟩

/-- A system whose steps another one follows terminates where the other one does. -/
theorem Terminates.of_simulation {Other Note : Type*} {other : TransitionSystem Other Note}
    (related : State → Other → Prop)
    (follows : ∀ state label next matching, related state matching → system.step state label next →
      ∃ note later, other.step matching note later ∧ related next later)
    {state : State} {matching : Other} (start : related state matching)
    (terminates : other.Terminates matching) : system.Terminates state := by
  induction terminates generalizing state with
  | intro matching _ induction =>
    constructor
    rintro next ⟨label, step⟩
    obtain ⟨note, later, followed, kept⟩ := follows state label next matching start step
    exact induction later ⟨note, followed⟩ kept

/-- A system whose steps another one follows under the same labels is followed over whole runs. -/
theorem Run.followed {Other : Type*} {other : TransitionSystem Other Label}
    (related : State → Other → Prop)
    (follows : ∀ state label next matching, related state matching → system.step state label next →
      ∃ later, other.step matching label later ∧ related next later)
    {start finish : State} {labels : List Label} {matching : Other} (initially : related start matching)
    (run : system.Run start labels finish) :
    ∃ later, other.Run matching labels later ∧ related finish later := by
  induction run with
  | nil => exact ⟨matching, .nil, initially⟩
  | snoc _ step induction =>
    obtain ⟨middle, before, kept⟩ := induction
    obtain ⟨later, followed, related⟩ := follows _ _ _ middle kept step
    exact ⟨later, .snoc before followed, related⟩

/-- A system each of whose steps another one follows by a run is followed over whole runs. -/
theorem Run.matched {Other Note : Type*} {other : TransitionSystem Other Note}
    (related : State → Other → Prop)
    (follows : ∀ state label next matching, related state matching → system.step state label next →
      ∃ notes later, other.Run matching notes later ∧ related next later)
    {start finish : State} {labels : List Label} {matching : Other} (initially : related start matching)
    (run : system.Run start labels finish) :
    ∃ notes later, other.Run matching notes later ∧ related finish later := by
  induction run with
  | nil => exact ⟨[], matching, .nil, initially⟩
  | snoc _ step induction =>
    obtain ⟨before, middle, front, kept⟩ := induction
    obtain ⟨notes, later, back, related⟩ := follows _ _ _ middle kept step
    exact ⟨before ++ notes, later, front.append back, related⟩

/-! ## Executing a step function -/

/-- The events taken one after another, with what each step gives out. -/
def execute {Event Output : Type*} (step : State → Event → Option (State × Output)) :
    State → List Event → Option (State × List (Event × Output))
  | state, [] => some (state, [])
  | state, event :: rest =>
      (step state event).bind fun (next, output) =>
        (execute step next rest).map fun (finish, outputs) => (finish, (event, output) :: outputs)

/-- An execution of a step function is a run of each system that contains its steps. -/
theorem run_of_execute {Event Output : Type*} {step : State → Event → Option (State × Output)}
    (label : Event → Output → Label)
    (contained : ∀ state event next output, step state event = some (next, output) →
      system.step state (label event output) next)
    {start finish : State} {events : List Event} {outputs : List (Event × Output)}
    (executed : execute step start events = some (finish, outputs)) :
    system.Run start (outputs.map fun output => label output.1 output.2) finish := by
  induction events generalizing start outputs with
  | nil =>
    cases executed
    exact .nil
  | cons event rest induction =>
    obtain ⟨⟨next, output⟩, stepped, executed⟩ := Option.bind_eq_some_iff.mp executed
    obtain ⟨⟨last, later⟩, rest, same⟩ := Option.map_eq_some_iff.mp executed
    cases same
    exact Run.cons (contained _ _ _ _ stepped) (induction rest)

theorem run_of_silent_execute {Event : Type*} {system : TransitionSystem State Event}
    {step : State → Event → Option State}
    (contained : ∀ state event next, step state event = some next → system.step state event next)
    {start finish : State} {events : List Event} {outputs : List (Event × Unit)}
    (executed : execute (fun state event => (step state event).map fun next => (next, ())) start
      events = some (finish, outputs)) : system.Run start (outputs.map Prod.fst) finish := by
  apply run_of_execute (fun event _ => event) _ executed
  intro state event next output stepped
  obtain ⟨after, taken, same⟩ := Option.map_eq_some_iff.mp stepped
  cases same
  exact contained state event _ taken

/-- Step functions that answer alike from related states, and stay related, give the same outputs
over every list of events. -/
theorem execute_outputs_eq {Left Right Event Output : Type*}
    {left : Left → Event → Option (Left × Output)} {right : Right → Event → Option (Right × Output)}
    (related : Left → Right → Prop)
    (alike : ∀ first second event, related first second →
      Option.Rel (fun one other => related one.1 other.1 ∧ one.2 = other.2)
        (left first event) (right second event))
    {first : Left} {second : Right} (start : related first second) (events : List Event) :
    (execute left first events).map Prod.snd = (execute right second events).map Prod.snd := by
  induction events generalizing first second with
  | nil => rfl
  | cons event rest induction =>
    have step := alike first second event start
    simp only [execute]
    generalize left first event = one at step
    generalize right second event = other at step
    cases step with
    | none => rfl
    | some both =>
      rename_i answered expected
      rcases answered with ⟨next, output⟩
      rcases expected with ⟨later, same⟩
      rcases both with ⟨kept, rfl⟩
      have following := congrArg (Option.map (List.cons (event, output))) (induction kept)
      simp only [Option.bind_some, Option.map_map] at following ⊢
      exact following

/-- Every event that the execution comes to is allowed where it comes to it. -/
def Along {Event Output : Type*} (step : State → Event → Option (State × Output))
    (allowed : State → Event → Prop) : State → List Event → Prop
  | _, [] => True
  | state, event :: rest => allowed state event ∧
      ∀ next output, step state event = some (next, output) → Along step allowed next rest

/-- Conditions that agree wherever an invariant holds agree along every execution. -/
theorem along_iff {Event Output : Type*} {step : State → Event → Option (State × Output)}
    {allowed condition : State → Event → Prop} {motive : State → Prop}
    (exactly : ∀ state event, motive state → (allowed state event ↔ condition state event))
    (kept : ∀ state event next output, motive state → step state event = some (next, output) →
      motive next) {state : State} (holds : motive state) (events : List Event) :
    Along step allowed state events ↔ Along step condition state events := by
  induction events generalizing state with
  | nil => exact Iff.rfl
  | cons event rest induction =>
    refine and_congr (exactly state event holds) ?_
    refine forall_congr' fun next => forall_congr' fun output => forall_congr' fun stepped => ?_
    exact induction (kept state event next output holds stepped)

/-! ## The order of inputs -/

/-- Inputs that can be swapped wherever they are allowed lead to one state in any order. -/
theorem foldl_perm {Input : Type*} {step : State → Input → State}
    (allowed : State → List Input → Prop)
    (reorder : ∀ state first second, first.Perm second → allowed state first →
      allowed state second)
    (later : ∀ state input rest, allowed state (input :: rest) → allowed (step state input) rest)
    (swap : ∀ state input other rest, allowed state (input :: other :: rest) →
      step (step state input) other = step (step state other) input)
    {first second : List Input} (order : first.Perm second) {state : State}
    (start : allowed state first) : first.foldl step state = second.foldl step state := by
  induction order generalizing state with
  | nil => rfl
  | cons input _ induction =>
    simp only [List.foldl_cons]
    exact induction (later _ _ _ start)
  | swap input other rest =>
    simp only [List.foldl_cons]
    rw [swap _ _ _ _ start]
  | trans before after front back => exact (front start).trans (back (reorder _ _ _ before start))

end TransitionSystem

end Nextmini.Library
