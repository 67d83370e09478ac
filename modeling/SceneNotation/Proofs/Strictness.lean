import SceneNotation.Proofs.Reading
import SceneNotation.Proofs.Warning

/- Settings that differ only in strictness compile a text alike up to the first
   warning. There the lenient compilation goes on, and the strict one fails at the
   line that was warned of, however many inclusions deep that line stands. -/
namespace SceneNotation

def Settings.asLenient (settings : Settings) : Settings := { settings with strict := false }

def Settings.asStrict (settings : Settings) : Settings := { settings with strict := true }

@[simp] theorem Settings.asLenient_terminates (settings : Settings) (message : Text) :
    settings.asLenient.terminates message = settings.terminates message := rfl

@[simp] theorem Settings.asStrict_terminates (settings : Settings) (message : Text) :
    settings.asStrict.terminates message = settings.terminates message := rfl

namespace Compiler

/-- What a line that is read as notation narrates, if it is narration. -/
def narrated? (line : Text) : Option Text :=
  match Directive.ofLine (splitBoosts line).2 with
  | .dialogue body =>
      match Dialogue.ofLine body with
      | .ok (.narration message) => some message
      | _ => none
  | _ => none

theorem narrates_of_deed {files : Option FileAccess} {state : State} {line message : Text}
    (read : state.memory.deed files line = .narrate message) :
    state.ReadsNotation ∧ narrated? line = some message := by
  have rule := state.memory.reading_reads line
  unfold Memory.deed at read
  generalize state.memory.reading line = reading at rule read
  cases rule with
  | means reads _ means =>
      refine ⟨state.readsNotation_iff.mpr reads, ?_⟩
      cases means with
      | narration dialogue narrates =>
          cases read
          rw [narrated?, Directive.ofLine_dialogue dialogue.unlabelled dialogue.uncommented dialogue.opened]
          simp only [narrates]
      | @inclusion args =>
          have other : Reading.inclusion files args ≠ .narrate message :=
            Reading.inclusion_cases (motive := (· ≠ .narrate message)) files args
              (fun _ => Deed.noConfusion) (fun _ => Deed.noConfusion) fun _ => Deed.noConfusion
          exact absurd read other
      | _ => cases read
  | _ => cases read

section First

variable (settings : Settings) (files : Option FileAccess)

/-- The first warning in the order of processing, and across inclusions, is for this line with
this number: nothing was collected on the way to it. -/
inductive WarnsFirst : Text → Nat → Text → Prop
  | own {text line message : Text} {before : List Text} {state : State}
      (arrives : Arrives settings files text before line state) (quiet : state.warnings = [])
      (reads : state.ReadsNotation) (narrates : narrated? line = some message)
      (unended : settings.terminates message = false) :
      WarnsFirst text (before.length + 1) line
  | inner {text line path inner source : Text} {before : List Text} {state : State} {number : Nat}
      (arrives : Arrives settings files text before line state) (quiet : state.warnings = [])
      (includes : Includes files state line path inner) (first : WarnsFirst inner number source) :
      WarnsFirst text number source

/-- A line come to in this state is warned of, or has a text put in in which one is. -/
inductive WarnsAt (state : State) (line : Text) : Nat → Text → Prop
  | own {message : Text} (reads : state.ReadsNotation) (narrates : narrated? line = some message)
      (unended : settings.terminates message = false) : WarnsAt state line state.line line
  | inner {path inner source : Text} {number : Nat} (includes : Includes files state line path inner)
      (first : WarnsFirst settings files inner number source) : WarnsAt state line number source

variable {settings files}

theorem WarnsAt.first {text line source : Text} {before : List Text} {state : State} {number : Nat}
    (warns : WarnsAt settings files state line number source)
    (arrives : Arrives settings files text before line state) (quiet : state.warnings = []) :
    WarnsFirst settings files text number source := by
  cases warns with
  | own reads narrates unended =>
      rw [arrives.line_eq]
      exact .own arrives quiet reads narrates unended
  | inner includes first => exact .inner arrives quiet includes first

end First

/-- Neither step warns, and they come to the same. -/
structure Alike (lenient strict : Step) : Prop where
  quiet : lenient.log.warned = []
  silent : strict.log.warned = []
  state : strict.state = lenient.state
  failure : strict.failure = lenient.failure

/-- The lenient step warns, and the strict step fails with its first warning. -/
structure Parted (number : Nat) (source : Text) (lenient strict : Step) : Prop where
  warns : lenient.log.warned.head? = some (Warning.message ⟨number⟩)
  silent : strict.log.warned = []
  fails : strict.failure = some (.diagnosed ⟨.unendedNarration, number, some source⟩)

section Compared

variable {lenient strict : Step} {number : Nat} {source : Text}

theorem Alike.logging (alike : Alike lenient strict) {first second : Log} (quiet : first.warned = [])
    (silent : second.warned = []) : Alike (lenient.logging first) (strict.logging second) where
  quiet := by simp [quiet, alike.quiet]
  silent := by simp [silent, alike.silent]
  state := alike.state
  failure := alike.failure

theorem Alike.foundIn (alike : Alike lenient strict) (line : Text) :
    Alike (lenient.foundIn line) (strict.foundIn line) where
  quiet := alike.quiet
  silent := alike.silent
  state := alike.state
  failure := by simp [alike.failure]

theorem Alike.spliced (alike : Alike lenient strict) (state : State) :
    Alike (spliceStep state lenient) (spliceStep state strict) where
  quiet := by rw [spliceStep_log, alike.quiet]
  silent := by rw [spliceStep_log, alike.silent]
  state := by simp only [spliceStep, alike.state, alike.failure]; split <;> rfl
  failure := by rw [spliceStep_failure, spliceStep_failure, alike.failure]

theorem Parted.logging (parted : Parted number source lenient strict) {first second : Log}
    (quiet : first.warned = []) (silent : second.warned = []) :
    Parted number source (lenient.logging first) (strict.logging second) where
  warns := by simp [quiet, parted.warns]
  silent := by simp [silent, parted.silent]
  fails := parted.fails

theorem Parted.foundIn (parted : Parted number source lenient strict) (line : Text) :
    Parted number source (lenient.foundIn line) (strict.foundIn line) where
  warns := parted.warns
  silent := parted.silent
  fails := by rw [Step.foundIn_failure, parted.fails]; rfl

theorem Parted.spliced (parted : Parted number source lenient strict) (state : State) :
    Parted number source (spliceStep state lenient) (spliceStep state strict) where
  warns := by rw [spliceStep_log, parted.warns]
  silent := by rw [spliceStep_log, parted.silent]
  fails := by rw [spliceStep_failure, parted.fails]

/-- Once parted, the strict step stays where it failed, and what follows the lenient one comes
after its first warning. -/
theorem Parted.andThen (parted : Parted number source lenient strict) (first second : State → Step) :
    Parted number source (lenient.andThen first) (strict.andThen second) := by
  rw [Step.andThen_of_failed parted.fails]
  refine ⟨?_, parted.silent, parted.fails⟩
  cases outcome : lenient.failure with
  | some failure => rw [Step.andThen_of_failed outcome, parted.warns]
  | none =>
      rw [Step.andThen_of_done outcome, Step.logging_log, Log.warned_append, List.head?_append,
        parted.warns]
      rfl

end Compared

/-- Only unended narration parts the two by itself; a text that is put in hands on how it compares. -/
theorem Deed.perform_compared (settings : Settings) {First : Text → Nat → Text → Prop}
    {lenientNested strictNested : Text → Step}
    (nested : ∀ text, Alike (lenientNested text) (strictNested text) ∨ ∃ number source,
      First text number source ∧ Parted number source (lenientNested text) (strictNested text))
    (deed : Deed) (state : State) (line : Text) :
    let lenient := deed.perform settings.asLenient lenientNested state
    let strict := deed.perform settings.asStrict strictNested state
    Alike lenient strict ∨
      (∃ message, deed = .narrate message ∧ settings.terminates message = false ∧
        Parted state.line line (lenient.foundIn line) (strict.foundIn line)) ∨
      ∃ text number source, deed = .splice text ∧ First text number source ∧
        Parted number source lenient strict := by
  intro lenient strict
  cases deed with
  | write memory level content => exact Or.inl ⟨rfl, rfl, rfl, rfl⟩
  | refuse fault => exact Or.inl ⟨rfl, rfl, rfl, rfl⟩
  | breakOff breakdown => exact Or.inl ⟨rfl, rfl, rfl, rfl⟩
  | narrate message =>
      have goes : lenient = _ := perform_narrate settings.asLenient lenientNested state message
      have fails : strict = _ := perform_narrate settings.asStrict strictNested state message
      rw [goes, fails, Settings.asLenient_terminates, Settings.asStrict_terminates]
      cases ended : settings.terminates message with
      | true => exact Or.inl ⟨rfl, rfl, rfl, rfl⟩
      | false => exact Or.inr (Or.inl ⟨message, rfl, ended, ⟨rfl, rfl, rfl⟩⟩)
  | splice text =>
      rcases nested text with alike | ⟨number, source, first, parted⟩
      · exact Or.inl (alike.spliced state)
      · exact Or.inr (Or.inr ⟨text, number, source, rfl, first, parted.spliced state⟩)

/-- Two ways to process a line that compare at every line compare over every run: alike to the
end, or alike up to a line where they part. -/
theorem runLines_compared {lenient strict : State → Text → Step} {Warns : State → Text → Nat → Text → Prop}
    (compare : ∀ state line, Alike (lenient state line) (strict state line) ∨
      ∃ number source, Warns state line number source ∧
        Parted number source ((lenient state line).foundIn line) ((strict state line).foundIn line))
    (state : State) (lines : List Text) :
    Alike (runLines lenient state lines) (runLines strict state lines) ∨
      ∃ before line after middle number source, lines = before ++ line :: after ∧
        GoesThrough lenient state before middle ∧ (runLines lenient state before).log.warned = [] ∧
        Warns middle line number source ∧
        Parted number source (runLines lenient state lines) (runLines strict state lines) := by
  induction lines generalizing state with
  | nil => exact Or.inl ⟨rfl, rfl, rfl, rfl⟩
  | cons line rest ih =>
      rw [runLines_cons, runLines_cons]
      rcases compare state line with alike | ⟨number, source, warns, parted⟩
      · have located := alike.foundIn line
        cases outcome : ((lenient state line).foundIn line).failure with
        | some failure =>
            rw [Step.andThen_of_failed outcome, Step.andThen_of_failed (located.failure.trans outcome)]
            exact Or.inl located
        | none =>
            have done : (lenient state line).failure = none := by simpa using outcome
            rw [Step.andThen_of_done outcome, Step.andThen_of_done (located.failure.trans outcome),
              located.state]
            rcases ih ((lenient state line).foundIn line).state with
              later | ⟨before, next, after, middle, number, source, placed, through, quiet, warns, parted⟩
            · exact Or.inl (later.logging located.quiet located.silent)
            · refine Or.inr ⟨line :: before, next, after, middle, number, source,
                by rw [placed, List.cons_append], .cons done through, ?_, warns,
                parted.logging located.quiet located.silent⟩
              rw [runLines_cons, Step.andThen_of_done outcome, Step.logging_log, Log.warned_append,
                located.quiet, quiet]
              rfl
      · exact Or.inr ⟨[], line, rest, state, number, source, rfl, .nil, rfl, warns, parted.andThen _ _⟩

section Compilations

variable (settings : Settings) (files : Option FileAccess)

/-- A text compiled leniently and strictly with the same budget. -/
def Compares (depth : Nat) (text : Text) : Prop :=
  Alike (compileIncluded settings.asLenient files depth text)
      (compileIncluded settings.asStrict files depth text) ∨
    ∃ number source, WarnsFirst settings.asLenient files text number source ∧
      Parted number source (compileIncluded settings.asLenient files depth text)
        (compileIncluded settings.asStrict files depth text)

theorem lineStep_compared {depth : Nat} (nested : ∀ text, Compares settings files depth text)
    (state : State) (line : Text) :
    Alike (lineStep settings.asLenient files depth state line)
        (lineStep settings.asStrict files depth state line) ∨
      ∃ number source, WarnsAt settings.asLenient files state line number source ∧
        Parted number source ((lineStep settings.asLenient files depth state line).foundIn line)
          ((lineStep settings.asStrict files depth state line).foundIn line) := by
  obtain ⟨first, quiet, goes⟩ := lineStep_performs settings.asLenient files depth state line
  obtain ⟨second, silent, fails⟩ := lineStep_performs settings.asStrict files depth state line
  rw [goes, fails]
  rcases Deed.perform_compared settings nested (state.memory.deed files line)
      (state.boosted (state.memory.boosts line)) line with
    alike | ⟨message, read, unended, parted⟩ | ⟨text, number, source, read, warns, parted⟩
  · exact Or.inl (alike.logging quiet silent)
  · obtain ⟨reads, narrates⟩ := narrates_of_deed read
    exact Or.inr ⟨state.line, line, .own reads narrates unended, parted.logging quiet silent⟩
  · obtain ⟨path, includes⟩ := includes_of_deed read
    exact Or.inr ⟨number, source, .inner includes warns, (parted.logging quiet silent).foundIn line⟩

theorem compileIncluded_compared (depth : Nat) (text : Text) : Compares settings files depth text := by
  induction depth generalizing text with
  | zero => exact Or.inl ⟨rfl, rfl, rfl, rfl⟩
  | succ depth ih =>
      rw [Compares, compileIncluded_succ, compileIncluded_succ]
      rcases runLines_compared (lineStep_compared settings files ih) {} (Text.sourceLines text) with
        alike | ⟨before, line, after, state, number, source, placed, through, quiet, warns, parted⟩
      · exact Or.inl ⟨by simp [alike.quiet], by simp [alike.silent], by simp [alike.state],
          by simp [alike.failure]⟩
      · have collected := through.warned (compileIncluded_accounts settings.asLenient files depth)
        have none : state.warnings = [] := by
          rw [quiet] at collected
          exact List.map_eq_nil_iff.mp collected
        exact Or.inr ⟨number, source, warns.first ⟨⟨after, placed⟩, ⟨depth, through⟩⟩ none,
          by simp [parted.warns], by simp [parted.silent], by simp [parted.fails]⟩

end Compilations

end Compiler

open Compiler

section Outcomes

variable (settings : Settings) (files : Option FileAccess) (text : Text)

theorem strict_silent : (compile settings.asStrict files text).log.warned = [] := by
  rw [compile_warned]
  rcases compileIncluded_compared settings files (includeDepth files + 1) text with
    alike | ⟨_, _, _, parted⟩
  · exact alike.silent
  · exact parted.silent

theorem strict_eq_lenient (quiet : (compile settings.asLenient files text).log.warned = []) :
    (compile settings.asStrict files text).outcome = (compile settings.asLenient files text).outcome := by
  rcases compileIncluded_compared settings files (includeDepth files + 1) text with
    alike | ⟨number, source, _, parted⟩
  · exact Compilation.ofStep_outcome_congr settings.indentUnit alike.state alike.failure
  · have first := parted.warns
    rw [← compile_warned, quiet] at first
    cases first

theorem strict_rejected (warned : (compile settings.asLenient files text).log.warned ≠ []) :
    ∃ number source, WarnsFirst settings.asLenient files text number source ∧
      (compile settings.asLenient files text).log.warned.head? = some (Warning.message ⟨number⟩) ∧
      (compile settings.asStrict files text).outcome =
        .ok (.rejected ⟨.unendedNarration, number, some source⟩ []) := by
  rw [compile_warned] at warned ⊢
  rcases compileIncluded_compared settings files (includeDepth files + 1) text with
    alike | ⟨number, source, first, parted⟩
  · exact absurd alike.quiet warned
  · refine ⟨number, source, first, parted.warns, ?_⟩
    rw [compile_of_diagnosed parted.fails, compileIncluded_uncollected parted.silent]

theorem quiet_of_compiled {script : Text}
    (compiled : (compile settings files text).outcome = .ok (.compiled script [])) :
    (compile settings files text).log.warned = [] := by
  rw [compile_warned, compileIncluded_accounts settings files _ text (compile_compiled compiled),
    ← compile_warnings compiled]
  rfl

end Outcomes

/-- With strictness the first warning is fatal, and nothing else changes: without a warning the
outcomes are the same, and with one the strict outcome is the failure at the line that was warned
of first, whatever the lenient compilation went on to. -/
theorem strict_fails_at_first_warning (settings : Settings) (files : Option FileAccess) (text : Text) :
    let lenient := compile settings.asLenient files text
    let strict := compile settings.asStrict files text
    (lenient.log.warned = [] → strict.outcome = lenient.outcome) ∧
    (lenient.log.warned ≠ [] → ∃ number source,
      WarnsFirst settings.asLenient files text number source ∧
      lenient.log.warned.head? = some (Warning.message ⟨number⟩) ∧
      strict.outcome = .ok (.rejected ⟨.unendedNarration, number, some source⟩ [])) ∧
    (∀ script warnings, strict.outcome = .ok (.compiled script warnings) ↔
      warnings = [] ∧ lenient.outcome = .ok (.compiled script [])) ∧
    ∀ outcome, strict.outcome = .ok outcome → outcome.warnings = [] := by
  intro lenient strict
  have uncollected : ∀ outcome, strict.outcome = .ok outcome → outcome.warnings = [] :=
    fun outcome returned => compile_uncollected returned (strict_silent settings files text)
  refine ⟨strict_eq_lenient settings files text, strict_rejected settings files text, ?_, uncollected⟩
  intro script warnings
  constructor
  · intro compiled
    obtain rfl : warnings = [] := uncollected _ compiled
    by_cases quiet : lenient.log.warned = []
    · exact ⟨rfl, (strict_eq_lenient settings files text quiet).symm.trans compiled⟩
    · obtain ⟨_, _, _, _, rejected⟩ := strict_rejected settings files text quiet
      cases rejected.symm.trans compiled
  · rintro ⟨rfl, compiled⟩
    have quiet := quiet_of_compiled settings.asLenient files text compiled
    exact (strict_eq_lenient settings files text quiet).trans compiled

/-- The first warning stands in an inclusion, and the root warns and fails after it. -/
theorem strict_fails_at_first_warning_included :
    let files : Option FileAccess := some (.ofBindings ⟨[("a".toList, .ok "「ends。」\n「one」".toList)]⟩)
    let text := "$include a\n「two」\n?".toList
    (compile {} files text).outcome =
        .ok (.rejected ⟨.invalidLine, 3, some "?".toList⟩ [⟨2⟩, ⟨2⟩]) ∧
      WarnsFirst {} files text 2 "「one」".toList ∧
      (compile { strict := true } files text).outcome =
        .ok (.rejected ⟨.unendedNarration, 2, some "「one」".toList⟩ []) := by
  intro files text
  have warned : (compile {} files text).log.warned ≠ [] := by decide +kernel
  obtain ⟨number, source, first, _, rejected⟩ := (strict_fails_at_first_warning {} files text).2.1 warned
  have strict : (compile { strict := true } files text).outcome =
      .ok (.rejected ⟨.unendedNarration, 2, some "「one」".toList⟩ []) := by decide +kernel
  have same := rejected.symm.trans strict
  simp only [Except.ok.injEq, Outcome.rejected.injEq, Diagnostic.mk.injEq, Option.some.injEq] at same
  obtain ⟨⟨_, line, rfl⟩, _⟩ := same
  obtain rfl : number = 2 := by omega
  exact ⟨by decide +kernel, first, strict⟩

end SceneNotation
