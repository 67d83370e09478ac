import SceneNotation.CommandLine.Stage
import SceneNotation.Proofs.Breakdown
import SceneNotation.Proofs.Deed

/- A warning is logged when it is issued, and collected by the compilation that
   issued it. A compilation that goes through hands what it collected to the one
   that included it; one that fails hands on only its failure, and its warnings stay
   in the log alone. What is logged is therefore what is collected, except where an
   inclusion fails after a warning. -/
namespace SceneNotation

namespace Log

theorem warned_warnings (warnings : List Warning) :
    warned (warnings.map fun warning => .warning warning.message) = warnings.map Warning.message := by
  induction warnings with
  | nil => rfl
  | cons warning rest ih => rw [List.map_cons, warned_warning, ih, List.map_cons]

theorem warned_shown {verbosity : Int} (listens : 1 ≤ verbosity) (log : Log) :
    (log.shown (some verbosity)).warned = log.warned := by
  induction log with
  | nil => rfl
  | cons entry rest ih =>
      cases entry with
      | note level message =>
          simp only [shown, List.filter_cons] at ih ⊢
          split <;> simpa using ih
      | warning message =>
          simp only [shown, List.filter_cons, Entry.level, listens] at ih ⊢
          simpa using ih

theorem warned_unshown {verbosity : Int} (quiet : verbosity < 1) (log : Log) :
    (log.shown (some verbosity)).warned = [] := by
  rw [List.eq_nil_iff_forall_not_mem]
  intro message told
  have listed := List.mem_filter.mp (mem_warned.mp told)
  have listens : 1 ≤ verbosity := of_decide_eq_true listed.2
  omega

end Log

namespace Compiler

/-- Texts that go through have collected what they logged. -/
def Accounts (nested : Text → Step) : Prop :=
  ∀ text, (nested text).failure = none →
    (nested text).log.warned = (nested text).state.warnings.map Warning.message

@[simp] theorem spliceStep_log (state : State) (included : Step) :
    (spliceStep state included).log = included.log := by
  cases outcome : included.failure with
  | none => simp [spliceStep, outcome]
  | some failure => simp [spliceStep, outcome]

section Deeds

variable {settings : Settings} {nested : Text → Step} {state : State} {deed : Deed}

theorem Deed.perform_warned_of_done (accounts : Accounts nested)
    (done : (deed.perform settings nested state).failure = none) :
    (deed.perform settings nested state).log.warned =
      (deed.warnings settings nested state.line).map Warning.message := by
  cases deed with
  | write memory level content => rfl
  | narrate message =>
      rw [perform_narrate_of_done done]
      exact Log.warned_warnings _
  | splice text =>
      have inner : (nested text).failure = none := by rwa [perform, spliceStep_failure] at done
      simp only [perform, spliceStep_log]
      exact accounts text inner
  | refuse fault => cases done
  | breakOff breakdown => cases done

theorem Deed.perform_warned_of_failed {failure : Failure}
    (failed : (deed.perform settings nested state).failure = some failure)
    (alone : ∀ text, deed ≠ .splice text) : (deed.perform settings nested state).log.warned = [] := by
  cases deed with
  | write memory level content => cases failed
  | narrate message =>
      rw [perform_narrate_of_failed failed]
      rfl
  | splice text => exact absurd rfl (alone text)
  | refuse fault => rfl
  | breakOff breakdown => rfl

end Deeds

section Runs

variable {settings : Settings} {files : Option FileAccess} {depth : Nat} {state next : State}
  {line text : Text} {lines : List Text}

theorem lineStep_warned_of_done (accounts : Accounts (compileIncluded settings files depth))
    (done : (lineStep settings files depth state line).failure = none) :
    (lineStep settings files depth state line).state.warnings.map Warning.message =
      state.warnings.map Warning.message ++ (lineStep settings files depth state line).log.warned := by
  rw [lineStep_state_of_done done]
  obtain ⟨notes, quiet, same⟩ := lineStep_performs settings files depth state line
  rw [same, Step.logging_failure] at done
  rw [same, Step.logging_log, Log.warned_append, quiet, List.nil_append,
    Deed.perform_warned_of_done accounts done]
  exact List.map_append

theorem lineStep_warned_of_alone {failure : Failure}
    (failed : (lineStep settings files depth state line).failure = some failure)
    (alone : ∀ path inner, ¬ Includes files state line path inner) :
    (lineStep settings files depth state line).log.warned = [] := by
  obtain ⟨notes, quiet, same⟩ := lineStep_performs settings files depth state line
  rw [same, Step.logging_failure] at failed
  rw [same, Step.logging_log, Log.warned_append, quiet, List.nil_append]
  apply Deed.perform_warned_of_failed failed
  intro inner read
  obtain ⟨path, includes⟩ := includes_of_deed read
  exact alone path inner includes

theorem lineStep_warned_of_includes {path inner : Text} (includes : Includes files state line path inner) :
    (lineStep settings files depth state line).log.warned =
      (compileIncluded settings files depth inner).log.warned := by
  obtain ⟨notes, quiet, same⟩ := lineStep_performs settings files depth state line
  rw [same, Step.logging_log, Log.warned_append, quiet, includes.deed_eq, Deed.perform, spliceStep_log,
    List.nil_append]

theorem GoesThrough.warned (accounts : Accounts (compileIncluded settings files depth))
    (through : GoesThrough (lineStep settings files depth) state lines next) :
    next.warnings.map Warning.message = state.warnings.map Warning.message ++
      (runLines (lineStep settings files depth) state lines).log.warned := by
  induction lines generalizing state with
  | nil =>
      rw [← through.ends]
      exact (List.append_nil _).symm
  | cons line rest ih =>
      obtain ⟨done, later⟩ := through.uncons
      rw [ih later, lineStep_warned_of_done accounts done, runLines_cons,
        Step.andThen_of_done (by simp [done])]
      simp only [Step.logging_log, Step.foundIn_log, Step.foundIn_state, Log.warned_append,
        List.append_assoc]

@[simp] theorem compileLines_warned (process : State → Text → Step) (state : State)
    (lines : List Text) :
    (compileLines process state lines).log.warned = (runLines process state lines).log.warned := by
  cases outcome : (runLines process state lines).failure with
  | none => simp [compileLines, Step.andThen_of_done outcome, startLog, endLog]
  | some failure => simp [compileLines, Step.andThen_of_failed outcome, startLog]

variable (settings files depth) in
theorem compileIncluded_accounts : Accounts (compileIncluded settings files depth) := by
  induction depth with
  | zero =>
      intro text done
      cases done
  | succ depth ih =>
      intro text done
      rw [compileIncluded_succ] at done ⊢
      rw [compileLines_failure] at done
      rw [compileLines_warned, compileLines_state, GoesThrough.warned ih ⟨done, rfl⟩]
      rfl

/-- A compilation that a line stops has collected what came before, and logged that and what the
line itself logged. -/
theorem compileIncluded_warned_of_stopped {before after : List Text} {own : Failure}
    (placed : Text.sourceLines text = before ++ line :: after)
    (through : GoesThrough (lineStep settings files depth) {} before state)
    (failed : (lineStep settings files depth state line).failure = some own) :
    (compileIncluded settings files (depth + 1) text).log.warned =
      (compileIncluded settings files (depth + 1) text).state.warnings.map Warning.message ++
        (lineStep settings files depth state line).log.warned := by
  have collected := through.warned (compileIncluded_accounts settings files depth)
  rw [compileIncluded_succ, compileLines_warned, compileLines_state, placed,
    through.run_stopped failed after]
  simp only [Step.logging_log, Step.logging_state, Step.foundIn_log, Step.foundIn_state,
    Log.warned_append, lineStep_state_of_failed failed]
  rw [show (state.boosted _).warnings = state.warnings from rfl, collected]
  rfl

theorem compileIncluded_uncollected (quiet : (compileIncluded settings files depth text).log.warned = []) :
    (compileIncluded settings files depth text).state.warnings = [] := by
  cases ended : (compileIncluded settings files depth text).failure with
  | none =>
      rw [compileIncluded_accounts settings files depth text ended] at quiet
      exact List.map_eq_nil_iff.mp quiet
  | some failure =>
      cases depth with
      | zero => rfl
      | succ depth =>
          rw [compileIncluded_succ, compileLines_failure] at ended
          obtain ⟨before, line, after, state, own, placed, through, failed, _⟩ := runLines_failed ended
          rw [compileIncluded_warned_of_stopped placed through failed] at quiet
          exact List.map_eq_nil_iff.mp (List.append_eq_nil_iff.mp quiet).1

end Runs

end Compiler

open Compiler

section Compilations

variable {settings : Settings} {files : Option FileAccess} {text : Text} {outcome : Outcome}

theorem compile_warned (settings : Settings) (files : Option FileAccess) (text : Text) :
    (compile settings files text).log.warned =
      (compileIncluded settings files (includeDepth files + 1) text).log.warned := by
  unfold compile Compilation.ofStep
  split <;> simp [failureLog]

theorem compile_warnings (returned : (compile settings files text).outcome = .ok outcome) :
    outcome.warnings =
      (compileIncluded settings files (includeDepth files + 1) text).state.warnings := by
  unfold compile Compilation.ofStep at returned
  split at returned <;> cases returned <;> rfl

theorem compile_compiled {script : Text} {warnings : List Warning}
    (compiled : (compile settings files text).outcome = .ok (.compiled script warnings)) :
    (compileIncluded settings files (includeDepth files + 1) text).failure = none := by
  unfold compile Compilation.ofStep at compiled
  split at compiled
  · next done => exact done
  · cases compiled
  · cases compiled

theorem compile_of_done
    (done : (compileIncluded settings files (includeDepth files + 1) text).failure = none) :
    (compile settings files text).outcome = .ok (.compiled
      ((compileIncluded settings files (includeDepth files + 1) text).state.output settings.indentUnit)
      (compileIncluded settings files (includeDepth files + 1) text).state.warnings) := by
  simp only [compile, Compilation.ofStep, done]

theorem compile_script {script : Text} {warnings : List Warning}
    (compiled : (compile settings files text).outcome = .ok (.compiled script warnings)) :
    script = (compileIncluded settings files (includeDepth files + 1) text).state.output
      settings.indentUnit := by
  rw [compile_of_done (compile_compiled compiled)] at compiled
  cases compiled
  rfl

theorem compile_settles (returned : (compile settings files text).outcome = .ok outcome) :
    Settles settings files (includeDepth files + 1) text := by
  intro endless
  rw [Step.Endless] at endless
  simp [compile, Compilation.ofStep, endless] at returned

theorem compile_uncollected (returned : (compile settings files text).outcome = .ok outcome)
    (quiet : (compile settings files text).log.warned = []) : outcome.warnings = [] := by
  rw [compile_warnings returned]
  exact compileIncluded_uncollected (compile_warned settings files text ▸ quiet)

variable (settings files text) in
/-- An inclusion in the text itself is executed that fails, and a warning was issued inside it. -/
def LosesWarning : Prop :=
  ∃ before line state path inner diagnostic warnings,
    Arrives settings files text before line state ∧ Includes files state line path inner ∧
    (compile settings files inner).outcome = .ok (.rejected diagnostic warnings) ∧
    (compile settings files inner).log.warned ≠ []

theorem LosesWarning.uncollected (returned : (compile settings files text).outcome = .ok outcome)
    (loses : LosesWarning settings files text) :
    (compile settings files text).log.warned ≠ outcome.warnings.map Warning.message := by
  obtain ⟨before, line, state, path, inner, diagnostic, warnings, arrives, includes, rejected, lost⟩ :=
    loses
  obtain ⟨depth, through⟩ := arrives.through
  obtain ⟨after, placed⟩ := arrives.placed
  -- one budget for the lines before the inclusion, for the inclusion, and for the whole
  have within := Nat.le_max_left depth (includeDepth files + 1)
  have enough := Nat.le_max_right depth (includeDepth files + 1)
  have nested := compileIncluded_mono enough (compile_settles rejected)
  have whole := compileIncluded_mono (Nat.le_succ_of_le enough) (compile_settles returned)
  have failed : (lineStep settings files (max depth (includeDepth files + 1)) state line).failure =
      some (.diagnosed diagnostic) := by
    rw [lineStep_failure_of_includes includes, nested, compile_rejected rejected]
  have logged := compileIncluded_warned_of_stopped placed (through.mono within) failed
  rw [lineStep_warned_of_includes includes, nested, whole, ← compile_warned, ← compile_warned,
    ← compile_warnings returned] at logged
  rw [logged]
  intro same
  exact lost (List.append_right_eq_self.mp same)

theorem compile_of_diagnosed {diagnostic : Diagnostic}
    (failed : (compileIncluded settings files (includeDepth files + 1) text).failure =
      some (.diagnosed diagnostic)) :
    (compile settings files text).outcome = .ok (.rejected diagnostic
      (compileIncluded settings files (includeDepth files + 1) text).state.warnings) := by
  simp only [compile, Compilation.ofStep, failed]

theorem included_rejected {state : State} {line path inner : Text} {own : Failure}
    (includes : Includes files state line path inner)
    (failed : (lineStep settings files (includeDepth files) state line).failure = some own)
    (returned : (compile settings files text).outcome = .ok outcome)
    (stopped : (compileIncluded settings files (includeDepth files + 1) text).failure =
      some (own.foundIn line)) :
    Settles settings files (includeDepth files) inner ∧ ∃ diagnostic warnings,
      (compile settings files inner).outcome = .ok (.rejected diagnostic warnings) := by
  rw [lineStep_failure_of_includes includes] at failed
  cases own with
  | brokeOff breakdown =>
      rw [compile_brokeOff_iff.mpr stopped] at returned
      cases returned
  | diagnosed diagnostic =>
      have settled : Settles settings files (includeDepth files) inner := by
        simp [Settles, Step.Endless, failed]
      rw [← compileIncluded_mono (Nat.le_succ _) settled] at failed
      exact ⟨settled, diagnostic, _, compile_of_diagnosed failed⟩

theorem collected_unless_lost (returned : (compile settings files text).outcome = .ok outcome)
    (kept : ¬ LosesWarning settings files text) :
    (compile settings files text).log.warned = outcome.warnings.map Warning.message := by
  rw [compile_warned, compile_warnings returned]
  cases ended : (compileIncluded settings files (includeDepth files + 1) text).failure with
  | none => exact compileIncluded_accounts settings files _ text ended
  | some failure =>
      have stopped := ended
      rw [compileIncluded_succ, compileLines_failure] at stopped
      obtain ⟨before, line, after, state, own, placed, through, failed, located⟩ :=
        runLines_failed stopped
      have quiet : (lineStep settings files (includeDepth files) state line).log.warned = [] := by
        rcases includes_or_alone files state line with ⟨path, inner, includes⟩ | alone
        · obtain ⟨settled, diagnostic, warnings, rejected⟩ :=
            included_rejected includes failed returned (located ▸ ended)
          rw [lineStep_warned_of_includes includes, ← compileIncluded_mono (Nat.le_succ _) settled,
            ← compile_warned]
          by_contra lost
          exact kept ⟨before, line, state, path, inner, diagnostic, warnings,
            ⟨⟨after, placed⟩, ⟨_, through⟩⟩, includes, rejected, lost⟩
        · exact lineStep_warned_of_alone failed alone
      rw [compileIncluded_warned_of_stopped placed through failed, quiet, List.append_nil]

end Compilations

namespace CommandLine

section Stages

variable (host : Host) (settings : Settings) (system : FileSystem) (job : Job)

theorem writeScript_warned (script : Text) :
    (writeScript host settings system job script).log.warned = [] := by
  unfold writeScript storing
  repeat' split
  all_goals rfl

/-- What is said about writing does not hang on who listens. -/
theorem writeScript_complaint (script : Text) (verbosity : Int) :
    (writeScript host settings system { job with verbosity := verbosity } script).complaint =
      (writeScript host settings system job script).complaint := by
  unfold writeScript storing
  simp only
  repeat' split
  all_goals rfl

theorem useOutcome_warned (outcome : Outcome) :
    (useOutcome host settings system job outcome).log.warned = [] := by
  cases outcome with
  | compiled script warnings => exact writeScript_warned host settings system _ script
  | rejected diagnostic warnings => rfl

theorem useOutcome_complaint (outcome : Outcome) :
    ∃ rest, ∀ verbosity,
      (useOutcome host settings system { job with verbosity := verbosity } outcome).complaint =
      showWarnings { job with verbosity := verbosity } outcome.warnings ++ rest := by
  cases outcome with
  | compiled script warnings =>
      refine ⟨(writeScript host settings system
        { job with outcome := some (.compiled script warnings) } script).complaint, fun verbosity => ?_⟩
      rw [← writeScript_complaint host settings system _ script verbosity]
      rfl
  | rejected diagnostic warnings => exact ⟨showDiagnostic diagnostic, fun _ => rfl⟩

end Stages

/-- The files that the compiling stage gives a compilation. -/
def siblings (host : Host) (settings : Settings) (system : FileSystem) (job : Job) : LocalFiles :=
  ⟨system, job.source.parent, settings.encoding, host.codecs⟩

theorem compileSource_of_returned {host : Host} {settings : Settings} {system : FileSystem} {job : Job}
    {text : Text} {outcome : Outcome} (given : job.sourceText = some text)
    (returned : (compile settings (some (siblings host settings system job).access) text).outcome =
      .ok outcome) :
    compileSource host settings system job =
      ((useOutcome host settings system job outcome).logging
        (compile settings (some (siblings host settings system job).access) text).log).logging
        (note 1 "Compiling scenario..." []) := by
  unfold siblings at returned ⊢
  simp only [compileSource, given, returned]

end CommandLine

open CommandLine

/-- Who listens is shown what is collected, unless an inclusion failed after a warning; and then
a run of the command line tells the same warnings at every verbosity, in one way or the other. -/
theorem warnings_surface_unless_lost (settings : Settings) (files : Option FileAccess) (text : Text)
    (outcome : Outcome) (returned : (compile settings files text).outcome = .ok outcome) :
    (∀ verbosity, 1 ≤ verbosity →
      (((compile settings files text).log.shown (some verbosity)).warned =
        outcome.warnings.map Warning.message ↔ ¬ LosesWarning settings files text)) ∧
    ∀ host system job, job.sourceText = some text → files = some (siblings host settings system job).access →
      ¬ LosesWarning settings files text →
      ∃ rest, ∀ verbosity : Int,
        let passage := compileSource host settings system { job with verbosity := verbosity }
        passage.complaint = (if verbosity < 1 then
          outcome.warnings.flatMap fun warning => warning.message ++ ['\n'] else []) ++ rest ∧
        (passage.log.shown (some verbosity)).warned =
          if verbosity < 1 then [] else outcome.warnings.map Warning.message := by
  constructor
  · intro verbosity listens
    rw [Log.warned_shown listens]
    exact ⟨fun told loses => loses.uncollected returned told, collected_unless_lost returned⟩
  · rintro host system job given rfl kept
    obtain ⟨rest, said⟩ := useOutcome_complaint host settings system job outcome
    refine ⟨rest, fun verbosity => ?_⟩
    have staged : compileSource host settings system { job with verbosity := verbosity } = _ :=
      compileSource_of_returned given returned
    have told : (compileSource host settings system { job with verbosity := verbosity }).log.warned =
        outcome.warnings.map Warning.message := by
      rw [staged]
      simp only [Passage.logging, note, Log.warned_append, Log.warned_note, Log.warned_nil,
        useOutcome_warned, List.append_nil, List.nil_append]
      exact collected_unless_lost returned kept
    constructor
    · rw [staged]
      exact said verbosity
    · split
      · next quiet => exact Log.warned_unshown quiet _
      · next listens => rw [Log.warned_shown (by omega), told]

/-- An inclusion that warned goes through, and the root warns before it fails: nothing is lost. -/
theorem warnings_surface_unless_lost_counted :
    let files : Option FileAccess := some (.ofBindings ⟨[("a".toList, .ok "#\n「one」".toList)]⟩)
    let text := "$include a\n「two」\n?".toList
    ¬ LosesWarning {} files text ∧
      ((compile {} files text).log.shown (some 1)).warned =
        [Warning.message ⟨2⟩, Warning.message ⟨2⟩] := by
  intro files text
  have returned : (compile {} files text).outcome =
      .ok (.rejected ⟨.invalidLine, 3, some "?".toList⟩ [⟨2⟩, ⟨2⟩]) := by decide +kernel
  have told : ((compile {} files text).log.shown (some 1)).warned =
      [Warning.message ⟨2⟩, Warning.message ⟨2⟩] := by decide +kernel
  have surfaces := (warnings_surface_unless_lost {} files text _ returned).1 1 (by decide)
  exact ⟨surfaces.mp told, told⟩

/-- A file that warns and then fails: the warning is logged, and the outcome has none. -/
theorem warning_lost_in_failing_inclusion :
    let files : Option FileAccess := some (.ofBindings ⟨[("a".toList, .ok "「x」\n?".toList)]⟩)
    let compilation := compile {} files "$include a".toList
    ∃ outcome, compilation.outcome = .ok outcome ∧ outcome.warnings = [] ∧
      (compilation.log.shown (some 1)).warned = [Warning.message ⟨1⟩] ∧
      (compilation.log.shown (some 1)).warned ≠ outcome.warnings.map Warning.message := by
  intro files compilation
  have returned : compilation.outcome = .ok (.rejected ⟨.invalidLine, 2, some "?".toList⟩ []) := by
    decide +kernel
  have told : (compilation.log.shown (some 1)).warned = [Warning.message ⟨1⟩] := by decide +kernel
  refine ⟨_, returned, rfl, told, ?_⟩
  rw [told]
  exact List.cons_ne_nil _ _

end SceneNotation
