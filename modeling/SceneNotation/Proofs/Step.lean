import Mathlib.Data.List.Basic
import SceneNotation.Compiler.Lines

/- How a step fares when it is logged, located or continued, where a run over
   several lines can fail, what is gathered on its way, and when two runs keep in
   step. Nothing here looks into how a line is processed. -/
namespace SceneNotation

@[simp] theorem Failure.foundIn_foundIn (inner outer : Text) (failure : Failure) :
    (failure.foundIn inner).foundIn outer = failure.foundIn inner := by
  cases failure with
  | diagnosed diagnostic => rfl
  | brokeOff breakdown => rfl

@[simp] theorem Failure.foundIn_eq_brokeOff {source : Text} {failure : Failure}
    {breakdown : Breakdown} :
    failure.foundIn source = .brokeOff breakdown ↔ failure = .brokeOff breakdown := by
  cases failure with
  | diagnosed diagnostic => simp [foundIn]
  | brokeOff other => rfl

namespace Compiler

namespace State

@[simp] theorem done_state (state : State) : state.done.state = state := rfl
@[simp] theorem done_failure (state : State) : state.done.failure = none := rfl

@[simp] theorem fail_failure (state : State) (line : Int) (fault : Fault) :
    (state.fail line fault).failure = some (.diagnosed ⟨fault, line, none⟩) := rfl

@[simp] theorem breakOff_failure (state : State) (breakdown : Breakdown) :
    (state.breakOff breakdown).failure = some (.brokeOff breakdown) := rfl

@[simp] theorem append_line (state : State) (emissions : List Emission) :
    (state.append emissions).line = state.line + 1 := rfl

@[simp] theorem blank_line (state : State) : state.blank.line = state.line + 1 := rfl

@[simp] theorem skipIf_line (state : State) (condition : Bool) :
    (state.skipIf condition).line = state.line := by
  cases condition <;> rfl

@[simp] theorem blank_skipDepth (state : State) : state.blank.skipDepth = state.skipDepth := rfl

end State

namespace Step

@[simp] theorem logging_state (entries : Log) (step : Step) :
    (step.logging entries).state = step.state := rfl

@[simp] theorem logging_failure (entries : Log) (step : Step) :
    (step.logging entries).failure = step.failure := rfl

@[simp] theorem logging_log (entries : Log) (step : Step) :
    (step.logging entries).log = entries ++ step.log := rfl

theorem logging_logging (first second : Log) (step : Step) :
    (step.logging second).logging first = step.logging (first ++ second) := by
  simp only [logging, List.append_assoc]

@[simp] theorem foundIn_state (source : Text) (step : Step) :
    (step.foundIn source).state = step.state := rfl

@[simp] theorem foundIn_log (source : Text) (step : Step) : (step.foundIn source).log = step.log := rfl

@[simp] theorem foundIn_failure (source : Text) (step : Step) :
    (step.foundIn source).failure = step.failure.map (Failure.foundIn source) := rfl

theorem foundIn_of_failed {step : Step} {own : Failure} (failed : step.failure = some own)
    (source : Text) : (step.foundIn source).failure = some (own.foundIn source) := by
  simp [failed]

theorem andThen_of_done {step : Step} (done : step.failure = none) (next : State → Step) :
    step.andThen next = (next step.state).logging step.log := by
  simp only [andThen, done]

theorem andThen_of_failed {step : Step} {failure : Failure} (failed : step.failure = some failure)
    (next : State → Step) : step.andThen next = step := by
  simp only [andThen, failed]

theorem andThen_done_iff {step : Step} {next : State → Step} :
    (step.andThen next).failure = none ↔ step.failure = none ∧ (next step.state).failure = none := by
  cases outcome : step.failure with
  | none => simp [andThen_of_done outcome]
  | some failure => simp [andThen_of_failed outcome, outcome]

theorem andThen_state_of_done {step : Step} (done : step.failure = none) (next : State → Step) :
    (step.andThen next).state = (next step.state).state := by
  simp [andThen_of_done done]

theorem andThen_assoc (step : Step) (first second : State → Step) :
    (step.andThen first).andThen second = step.andThen fun state => (first state).andThen second := by
  cases outcome : step.failure with
  | some failure => simp only [andThen_of_failed outcome]
  | none =>
      rw [andThen_of_done outcome, andThen_of_done outcome]
      cases later : (first step.state).failure with
      | some failure =>
          rw [andThen_of_failed later, andThen_of_failed (by simpa using later)]
      | none =>
          rw [andThen_of_done later, andThen_of_done (by simpa using later), logging_logging]
          rfl

end Step

section Runs

variable {process : State → Text → Step}

theorem runLines_cons (state : State) (line : Text) (rest : List Text) :
    runLines process state (line :: rest) =
      ((process state line).foundIn line).andThen fun next => runLines process next rest := rfl

theorem runLines_append (state : State) (before after : List Text) :
    runLines process state (before ++ after) =
      (runLines process state before).andThen fun next => runLines process next after := by
  induction before generalizing state with
  | nil =>
      rw [List.nil_append, runLines, Step.andThen_of_done rfl]
      rfl
  | cons line rest ih =>
      rw [List.cons_append, runLines_cons, runLines_cons, Step.andThen_assoc]
      congr 1
      funext next
      exact ih next

variable (process) in
/-- The lines all go through, from one state to the other. -/
structure GoesThrough (state : State) (lines : List Text) (next : State) : Prop where
  done : (runLines process state lines).failure = none
  ends : (runLines process state lines).state = next

namespace GoesThrough

variable {state middle next : State} {line : Text} {lines before after : List Text}

theorem nil : GoesThrough process state [] state := ⟨rfl, rfl⟩

theorem append (first : GoesThrough process state before middle)
    (second : GoesThrough process middle after next) :
    GoesThrough process state (before ++ after) next := by
  obtain ⟨done, rfl⟩ := first
  rw [← second.ends]
  constructor
  · rw [runLines_append, Step.andThen_done_iff]
    exact ⟨done, second.done⟩
  · rw [runLines_append, Step.andThen_state_of_done done]

theorem single (done : (process state line).failure = none) :
    GoesThrough process state [line] (process state line).state := by
  constructor
  · rw [runLines_cons, Step.andThen_done_iff]
    exact ⟨by simp [done], rfl⟩
  · rw [runLines_cons, Step.andThen_state_of_done (by simp [done])]
    rfl

theorem of_step {step : Step} (goes : process state line = step) (done : step.failure = none) :
    GoesThrough process state [line] step.state := by
  subst goes
  exact single done

theorem cons (done : (process state line).failure = none)
    (rest : GoesThrough process (process state line).state lines next) :
    GoesThrough process state (line :: lines) next :=
  (single done).append rest

theorem uncons (through : GoesThrough process state (line :: lines) next) :
    (process state line).failure = none ∧ GoesThrough process (process state line).state lines next := by
  obtain ⟨done, ends⟩ := through
  rw [runLines_cons] at done ends
  obtain ⟨first, later⟩ := Step.andThen_done_iff.mp done
  rw [Step.andThen_state_of_done first] at ends
  exact ⟨by simpa using first, later, ends⟩

theorem invariant_on {Holds : State → Prop}
    (keeps : ∀ state, ∀ line ∈ lines, Holds state → (process state line).failure = none →
      Holds (process state line).state)
    (through : GoesThrough process state lines next) (start : Holds state) : Holds next := by
  induction lines generalizing state with
  | nil =>
      rw [← through.ends]
      exact start
  | cons line rest ih =>
      obtain ⟨first, later⟩ := through.uncons
      exact ih (fun state other member => keeps state other (List.mem_cons_of_mem line member)) later
        (keeps state line List.mem_cons_self start first)

theorem invariant {Holds : State → Prop}
    (keeps : ∀ state line, Holds state → (process state line).failure = none →
      Holds (process state line).state)
    (through : GoesThrough process state lines next) (start : Holds state) : Holds next :=
  through.invariant_on (fun state line _ => keeps state line) start

theorem line_eq
    (advances : ∀ state line, (process state line).failure = none →
      (process state line).state.line = state.line + 1)
    (through : GoesThrough process state lines next) : next.line = state.line + lines.length := by
  induction lines generalizing state with
  | nil => rw [← through.ends]; rfl
  | cons line rest ih =>
      obtain ⟨first, later⟩ := through.uncons
      rw [ih later, advances state line first, List.length_cons]
      omega

end GoesThrough

/-- Where a run failed: everything before the line went through, and the failure is the line's
own, located there unless it already was. -/
theorem runLines_failed {state : State} {lines : List Text} {failure : Failure}
    (failed : (runLines process state lines).failure = some failure) :
    ∃ before line after middle own, lines = before ++ line :: after ∧
      GoesThrough process state before middle ∧ (process middle line).failure = some own ∧
      failure = own.foundIn line := by
  induction lines generalizing state with
  | nil => cases failed
  | cons line rest ih =>
      cases outcome : (process state line).failure with
      | some own =>
          have located := Step.foundIn_of_failed outcome line
          rw [runLines_cons, Step.andThen_of_failed located, located] at failed
          exact ⟨[], line, rest, state, own, rfl, .nil, outcome, (Option.some.inj failed).symm⟩
      | none =>
          rw [runLines_cons, Step.andThen_of_done (by simp [outcome])] at failed
          obtain ⟨before, next, after, middle, own, split, through, here, located⟩ := ih failed
          exact ⟨line :: before, next, after, middle, own, by rw [split, List.cons_append],
            .cons outcome through, here, located⟩

theorem GoesThrough.fails_at {state middle : State} {before : List Text} {line : Text} {own : Failure}
    (through : GoesThrough process state before middle)
    (here : (process middle line).failure = some own) (after : List Text) :
    (runLines process state (before ++ line :: after)).failure = some (own.foundIn line) := by
  have located := Step.foundIn_of_failed here line
  rw [runLines_append, Step.andThen_of_done through.done, Step.logging_failure, through.ends,
    runLines_cons, Step.andThen_of_failed located, located]

theorem GoesThrough.run_stopped {state middle : State} {before : List Text} {line : Text} {own : Failure}
    (through : GoesThrough process state before middle)
    (here : (process middle line).failure = some own) (after : List Text) :
    runLines process state (before ++ line :: after) =
      ((process middle line).foundIn line).logging (runLines process state before).log := by
  rw [runLines_append, Step.andThen_of_done through.done, through.ends, runLines_cons,
    Step.andThen_of_failed (Step.foundIn_of_failed here line)]

@[simp] theorem compileLines_state (state : State) (lines : List Text) :
    (compileLines process state lines).state = (runLines process state lines).state := by
  cases outcome : (runLines process state lines).failure with
  | none => simp [compileLines, Step.andThen_of_done outcome]
  | some failure => simp [compileLines, Step.andThen_of_failed outcome]

@[simp] theorem compileLines_failure (state : State) (lines : List Text) :
    (compileLines process state lines).failure = (runLines process state lines).failure := by
  cases outcome : (runLines process state lines).failure with
  | none => simp [compileLines, Step.andThen_of_done outcome]
  | some failure => simp [compileLines, Step.andThen_of_failed outcome, outcome]

/-- What each of the lines gives where it is come to, up to the first that fails. -/
def gatherLines {α : Type} (process : State → Text → Step) (gives : State → Text → List α) :
    State → List Text → List α
  | _, [] => []
  | state, line :: rest =>
      gives state line ++
        if (process state line).failure.isNone then
          gatherLines process gives (process state line).state rest
        else []

/-- The lines that give something are those that are come to, the failing one among them. -/
theorem mem_gatherLines {α : Type} {gives : State → Text → List α} {state : State}
    {lines : List Text} {item : α} :
    item ∈ gatherLines process gives state lines ↔
      ∃ before line after middle, lines = before ++ line :: after ∧
        GoesThrough process state before middle ∧ item ∈ gives middle line := by
  induction lines generalizing state with
  | nil => simp [gatherLines]
  | cons line rest ih =>
      rw [gatherLines, List.mem_append]
      constructor
      · rintro (here | later)
        · exact ⟨[], line, rest, state, rfl, .nil, here⟩
        · split at later
          · next done =>
              obtain ⟨before, next, after, middle, rfl, through, given⟩ := ih.mp later
              exact ⟨line :: before, next, after, middle, rfl,
                .cons (Option.isNone_iff_eq_none.mp done) through, given⟩
          · cases later
      · rintro ⟨before, next, after, middle, placed, through, given⟩
        cases before with
        | nil =>
            obtain ⟨rfl, rfl⟩ := List.cons.inj placed
            rw [← through.ends] at given
            exact Or.inl given
        | cons first before =>
            obtain ⟨rfl, rfl⟩ := List.cons.inj placed
            obtain ⟨done, later⟩ := through.uncons
            rw [if_pos (Option.isNone_iff_eq_none.mpr done)]
            exact Or.inr (ih.mpr ⟨before, next, after, middle, rfl, later, given⟩)

/-- The steps fail alike, if they fail, and leave states that are related. -/
structure Step.InStep (Related : State → State → Prop) (one other : Step) : Prop where
  failure : other.failure = one.failure
  state : Related one.state other.state

section InStep

variable {Related : State → State → Prop} {first second : State → Text → Step}

theorem Step.InStep.logging {one other : Step} (inStep : one.InStep Related other) (notes others : Log) :
    (one.logging notes).InStep Related (other.logging others) :=
  ⟨inStep.failure, inStep.state⟩

theorem Step.InStep.foundIn {one other : Step} (inStep : one.InStep Related other) (source : Text) :
    (one.foundIn source).InStep Related (other.foundIn source) :=
  ⟨by simp [inStep.failure], inStep.state⟩

/-- Two ways to process lines that keep in step at each line that the first one comes to keep in
step to the end. -/
theorem runLines_inStep {one other : State} {lines : List Text}
    (each : ∀ before line after state twin, lines = before ++ line :: after →
      GoesThrough first one before state → Related state twin →
      (first state line).InStep Related (second twin line))
    (start : Related one other) :
    (runLines first one lines).InStep Related (runLines second other lines) := by
  induction lines generalizing one other with
  | nil => exact ⟨rfl, start⟩
  | cons line rest ih =>
      have here := (each [] line rest one other rfl .nil start).foundIn line
      rw [runLines_cons, runLines_cons]
      cases outcome : ((first one line).foundIn line).failure with
      | some failure =>
          rw [Step.andThen_of_failed outcome, Step.andThen_of_failed (here.failure.trans outcome)]
          exact here
      | none =>
          rw [Step.andThen_of_done outcome, Step.andThen_of_done (here.failure.trans outcome)]
          have done : (first one line).failure = none := by simpa using outcome
          refine (ih ?_ here.state).logging _ _
          intro before next after state twin placed through related
          exact each (line :: before) next after state twin (by rw [placed, List.cons_append])
            (.cons done through) related

theorem compileLines_inStep {one other : State} {lines : List Text}
    (runs : (runLines first one lines).InStep Related (runLines second other lines)) :
    (compileLines first one lines).InStep Related (compileLines second other lines) :=
  ⟨by simpa using runs.failure, by simpa using runs.state⟩

end InStep

end Runs

end Compiler

end SceneNotation
