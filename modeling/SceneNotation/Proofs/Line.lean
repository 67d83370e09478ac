import Mathlib.Data.List.Basic
import SceneNotation.Proofs.Notation
import SceneNotation.Proofs.Registry
import SceneNotation.Proofs.Step

/- A line either asks for another text that there is, and then everything about it
   but the splice is fixed by that text's own compilation; or it asks for none, and
   then it ends in one of three ways that no other compilation has a part in. Every
   fact about whole compilations starts from this split. -/
namespace SceneNotation.Compiler

open Instruction

/-- Neither a conditional nor a mode keeps the next line from being read as notation. -/
structure State.ReadsNotation (state : State) : Prop where
  awake : state.skipDepth = 0
  scenario : state.mode = .scenario

/-- The path can be read, and this is its text. -/
def Supplies (files : Option FileAccess) (path text : Text) : Prop :=
  ∃ access, files = some access ∧ access.contains path = true ∧ access.read path = .ok text

/-- The line, come to in this state, has the text compiled that stands under the path. -/
structure Includes (files : Option FileAccess) (state : State) (line path text : Text) : Prop where
  reads : state.ReadsNotation
  asks : mentionedPath? line = some path
  supplied : Supplies files path text

theorem includes_or_alone (files : Option FileAccess) (state : State) (line : Text) :
    (∃ path text, Includes files state line path text) ∨
      ∀ path text, ¬ Includes files state line path text := by
  by_cases included : ∃ path text, Includes files state line path text
  · exact Or.inl included
  · exact Or.inr fun path text includes => included ⟨path, text, includes⟩

/-- Where processing one thing at an output line can end: at the next output line, with a
diagnostic at this one, or with a breakdown of one of the given kinds. -/
inductive Step.EndsAt (line : Nat) (breaks : Breakdown → Prop) (step : Step) : Prop
  | written (done : step.failure = none) (advanced : step.state.line = line + 1)
  | refused (fault : Fault) (failed : step.failure = some (.diagnosed ⟨fault, line, none⟩))
  | broken (breakdown : Breakdown) (failed : step.failure = some (.brokeOff breakdown))
      (cause : breaks breakdown)

namespace Step.EndsAt

variable {line : Nat} {breaks wider : Breakdown → Prop} {step : Step}

theorem logging (ends : step.EndsAt line breaks) (entries : Log) :
    (step.logging entries).EndsAt line breaks := by
  cases ends with
  | written done advanced => exact .written done advanced
  | refused fault failed => exact .refused fault failed
  | broken breakdown failed cause => exact .broken breakdown failed cause

theorem weaken (ends : step.EndsAt line breaks) (wide : ∀ breakdown, breaks breakdown → wider breakdown) :
    step.EndsAt line wider := by
  cases ends with
  | written done advanced => exact .written done advanced
  | refused fault failed => exact .refused fault failed
  | broken breakdown failed cause => exact .broken breakdown failed (wide breakdown cause)

theorem failed (ends : step.EndsAt line breaks) {own : Failure} (failed : step.failure = some own) :
    (∃ fault, own = .diagnosed ⟨fault, line, none⟩) ∨
      ∃ breakdown, own = .brokeOff breakdown ∧ breaks breakdown := by
  cases ends with
  | written done _ =>
      rw [done] at failed
      cases failed
  | refused fault refused => exact Or.inl ⟨fault, Option.some.inj (failed.symm.trans refused)⟩
  | broken breakdown broken cause =>
      exact Or.inr ⟨breakdown, Option.some.inj (failed.symm.trans broken), cause⟩

end Step.EndsAt

section Instructions

variable (settings : Settings) {files : Option FileAccess}

/-- A file that is there cannot be asked for its text. -/
def Unread (files : Option FileAccess) (breakdown : Breakdown) : Prop :=
  ∃ access path cause, files = some access ∧ access.read path = .error cause ∧
    cause.isOfFile = false ∧ breakdown = .reading cause

theorem openMode_ends (state : State) (mode : Mode) (breaks : Breakdown → Prop) :
    (openMode state mode).EndsAt state.line breaks := by
  cases mode <;> exact .written rfl rfl

theorem styleCall_ends (state : State) (call : Call) (here : call.line = state.line)
    (breaks : Breakdown → Prop) : (styleCall state call).EndsAt state.line breaks := by
  unfold styleCall
  split
  · next name _ => exact .refused (.unknownDecoration name) (by rw [State.fail_failure, here])
  · exact .written rfl rfl

theorem includeCall_own (state : State) (call : Call) (here : call.line = state.line)
    (unsupplied : ∀ path text, call.args = [path] → ¬ Supplies files path text) :
    ∃ step : Step, step.EndsAt state.line (Unread files) ∧
      ∀ nested, includeCall { settings, files } nested state call = step := by
  unfold includeCall
  rw [here]
  cases files with
  | none => exact ⟨_, .refused .noFileAccess rfl, fun _ => rfl⟩
  | some access =>
      match arguments : call.args with
      | [] => exact ⟨_, .refused (.includeArguments 0) rfl, fun _ => rfl⟩
      | first :: second :: rest =>
          exact ⟨_, .refused (.includeArguments (first :: second :: rest).length) rfl, fun _ => rfl⟩
      | [path] =>
          by_cases found : access.contains path = true
          · cases reading : access.read path with
            | ok text => exact absurd ⟨access, rfl, found, reading⟩ (unsupplied path text arguments)
            | error cause =>
                simp only [includeFile, found, reading, if_true]
                cases blame : cause.isOfFile with
                | true =>
                    exact ⟨_, .logging (.refused (.includeUnreadable path cause) rfl) _, fun _ => rfl⟩
                | false =>
                    exact ⟨_, .logging (.broken (.reading cause) rfl
                      ⟨access, path, cause, rfl, reading, blame, rfl⟩) _, fun _ => rfl⟩
          · simp only [includeFile, found]
            exact ⟨_, .refused (.includeMissing path) rfl, fun _ => rfl⟩

theorem carryOut_own (state : State) (spec : Spec) (call : Call) (here : call.line = state.line)
    (silent : ∀ level?, spec.action ≠ .echo level?)
    (unsupplied : spec.action = .splice → ∀ path text, call.args = [path] → ¬ Supplies files path text) :
    ∃ step : Step, step.EndsAt state.line (Unread files) ∧
      ∀ nested, carryOut { settings, files } nested state spec call = step := by
  unfold carryOut
  rw [here]
  cases action : spec.action with
  | enter mode => exact ⟨_, openMode_ends state mode _, fun _ => rfl⟩
  | splice => exact includeCall_own settings state call here (unsupplied action)
  | style => exact ⟨_, styleCall_ends state call here _, fun _ => rfl⟩
  | endStyle => exact ⟨_, .written rfl rfl, fun _ => rfl⟩
  | endIf => exact ⟨_, .written rfl rfl, fun _ => rfl⟩
  | echo level? => exact absurd action (silent level?)
  | define =>
      match call.args with
      | [_, _] => exact ⟨_, .written rfl rfl, fun _ => rfl⟩
      | [] | [_] | _ :: _ :: _ :: _ => exact ⟨_, .refused _ rfl, fun _ => rfl⟩
  | ifDefined =>
      match call.args with
      | [token] => exact ⟨_, .written rfl (by simp), fun _ => rfl⟩
      | [] | _ :: _ :: _ => exact ⟨_, .refused _ rfl, fun _ => rfl⟩
  | ifUndefined =>
      match call.args with
      | [token] => exact ⟨_, .written rfl (by simp), fun _ => rfl⟩
      | [] | _ :: _ :: _ => exact ⟨_, .refused _ rfl, fun _ => rfl⟩

theorem dispatch_registered {context : Context} {call : Call} {spec : Spec}
    (registered : context.registry.find? call.command = some spec)
    (accepted : spec.arity.accepts call.args.length = true) (nested : Text → Step) (state : State) :
    dispatch context nested state call =
      (carryOut context nested state spec call).logging (callLog call) := by
  simp only [dispatch, resolveCall, registered, accepted, if_true]

theorem dispatch_own (state : State) (call : Call) (here : call.line = state.line)
    (unsupplied : call.command = "include".toList →
      ∀ path text, call.args = [path] → ¬ Supplies files path text) :
    ∃ step : Step, step.EndsAt state.line (Unread files) ∧
      ∀ nested, dispatch { settings, files } nested state call = step := by
  cases found : Registry.builtin.find? call.command with
  | none =>
      simp only [dispatch, resolveCall, found, here]
      exact ⟨_, .refused (.unknownInstruction call.command) rfl, fun _ => rfl⟩
  | some spec =>
      by_cases accepted : spec.arity.accepts call.args.length = true
      · obtain ⟨step, ends, same⟩ := carryOut_own settings state spec call here
          (Registry.builtin_silent found) fun splices => unsupplied (Registry.builtin_splice found splices)
        refine ⟨step.logging (callLog call), ends.logging _, fun nested => ?_⟩
        rw [dispatch_registered found accepted, same nested]
      · simp only [dispatch, resolveCall, found, accepted, here]
        exact ⟨_, .refused (.argumentCount spec.name spec.arity call.args.length) rfl, fun _ => rfl⟩

/-- An inclusion that finds its file hands on what the file's own compilation comes to. The log
in front does not depend on that. -/
theorem dispatch_include {context : Context} {access : FileAccess} {path text : Text}
    (registered : context.registry.find? "include".toList = some Registry.specSplice)
    (available : context.files = some access) (found : access.contains path = true)
    (reads : access.read path = .ok text) (call : Call) (command : call.command = "include".toList)
    (arguments : call.args = [path]) (state : State) :
    ∃ log, ∀ nested, dispatch context nested state call =
      (spliceStep state (nested text)).logging log := by
  refine ⟨callLog call ++ (access.announce path ++ [.note 2 ("Compiling include ".toList ++ path)]),
    fun nested => ?_⟩
  have carried : carryOut context nested state Registry.specSplice call =
      includeFile access nested state call.line path := by
    change includeCall context nested state call = _
    simp only [includeCall, available, arguments]
  rw [dispatch_registered (command ▸ registered) (by rw [arguments]; rfl), carried, includeFile,
    if_pos found, reads]
  simp only [includeText, Step.logging_logging]

end Instructions

section Lines

variable (settings : Settings) {files : Option FileAccess}

theorem processDialogue_ends (context : Context) (state : State) (line : Text) :
    (processDialogue context state line).EndsAt state.line
      fun breakdown => breakdown = .uncut ∧ Dialogue.ofLine line = .error .uncut := by
  unfold processDialogue
  split
  · exact .refused .unclosedDialogue rfl
  · next uncut => exact .broken .uncut rfl ⟨rfl, uncut⟩
  · next message _ =>
      unfold checkNarration warn
      split
      · exact .written rfl rfl
      · split
        · exact .refused .unendedNarration rfl
        · exact .written rfl rfl
  · exact .written rfl rfl

theorem processAlias_ends (state : State) (rest : Text) (breaks : Breakdown → Prop) :
    (processAlias state (';' :: rest)).EndsAt state.line breaks := by
  unfold processAlias
  split
  · exact .refused .malformedAlias rfl
  · next uncut => exact absurd uncut (CharacterAlias.ofLine_cuts rest)
  · exact .written rfl rfl

theorem mentionedPath?_of_call {line words path : Text} {number : Int}
    (directive : Directive.ofLine (splitBoosts line).2 = .instruction words)
    (command : (Call.ofText words number).command = "include".toList)
    (arguments : (Call.ofText words number).args = [path]) : mentionedPath? line = some path := by
  simp only [mentionedPath?, directive]
  unfold Call.ofText at command arguments
  split at command
  · cases command
  · next rest split =>
      simp only [split] at arguments ⊢
      rw [arguments]
      exact if_pos command

/-- Why a line that asks for no other text breaks a compilation off. -/
inductive Breaks (files : Option FileAccess) (state : State) (line : Text) : Breakdown → Prop
  | unsplit (reads : state.ReadsNotation) (unsplit : Unsplit (splitBoosts line).2) :
      Breaks files state line .uncut
  | unread {breakdown : Breakdown} (unread : Unread files breakdown) :
      Breaks files state line breakdown

theorem Breaks.not_endless {state : State} {line : Text} {breakdown : Breakdown}
    (breaks : Breaks files state line breakdown) : breakdown ≠ .endlessInclusion := by
  rintro rfl
  cases breaks with
  | unread unread =>
      obtain ⟨_, _, _, _, _, _, impossible⟩ := unread
      cases impossible

theorem processDirective_own {state : State} {line : Text} (reads : state.ReadsNotation)
    (alone : ∀ path text, ¬ Includes files state line path text) :
    ∃ step : Step, step.EndsAt state.line (Breaks files state line) ∧
      ∀ nested, processDirective { settings, files } nested state line = step := by
  simp only [processDirective, processBody]
  cases directive : Directive.ofLine (splitBoosts line).2 with
  | label name => exact ⟨_, .written rfl rfl, fun _ => rfl⟩
  | comment found => exact ⟨_, .written rfl rfl, fun _ => rfl⟩
  | verbatim content => exact ⟨_, .written rfl rfl, fun _ => rfl⟩
  | unknown => exact ⟨_, .refused .invalidLine rfl, fun _ => rfl⟩
  | dialogue found =>
      refine ⟨_, (processDialogue_ends _ (state.boosted _) found).weaken ?_, fun _ => rfl⟩
      rintro breakdown ⟨rfl, uncut⟩
      exact .unsplit reads (unsplit_of_uncut directive uncut)
  | aliasing found =>
      obtain ⟨rest, rfl, _⟩ := Directive.aliasing_ofLine directive
      exact ⟨_, processAlias_ends (state.boosted _) rest _, fun _ => rfl⟩
  | instruction words =>
      have unsupplied : (Call.ofText words state.line).command = "include".toList →
          ∀ path text, (Call.ofText words state.line).args = [path] → ¬ Supplies files path text := by
        intro command path text arguments supplied
        exact alone path text ⟨reads, mentionedPath?_of_call directive command arguments, supplied⟩
      obtain ⟨step, ends, same⟩ := dispatch_own settings (state.boosted (splitBoosts line).1)
        (Call.ofText words state.line) (Call.ofText_line words state.line) unsupplied
      exact ⟨step, ends.weaken fun breakdown unread => .unread unread, same⟩

/-- A line that has no other text compiled comes to the same whatever other texts come to. -/
theorem processLine_own {state : State} {line : Text}
    (alone : ∀ path text, ¬ Includes files state line path text) :
    ∃ step : Step, step.EndsAt state.line (Breaks files state line) ∧
      ∀ nested, processLine { settings, files } nested state line = step := by
  unfold processLine
  split
  · refine ⟨_, ?_, fun _ => rfl⟩
    unfold processSkipped
    split <;> exact .written rfl rfl
  · next awake =>
      split
      · refine ⟨_, ?_, fun _ => rfl⟩
        unfold processVerbatim
        split <;> exact .written rfl rfl
      · next scenario =>
          split
          · exact ⟨_, .written rfl rfl, fun _ => rfl⟩
          · exact processDirective_own settings ⟨by omega, not_not.mp scenario⟩ alone

/-- The failure of such a line is its own: a diagnostic at its output line, or a breakdown with a
cause in the line. -/
theorem processLine_own_failed {nested : Text → Step} {state : State} {line : Text} {own : Failure}
    (alone : ∀ path text, ¬ Includes files state line path text)
    (failed : (processLine { settings, files } nested state line).failure = some own) :
    (∀ other, (processLine { settings, files } other state line).failure = some own) ∧
      ((∃ fault, own = .diagnosed ⟨fault, state.line, none⟩) ∨
        ∃ breakdown, own = .brokeOff breakdown ∧ Breaks files state line breakdown) := by
  obtain ⟨step, ends, same⟩ := processLine_own settings alone
  rw [same] at failed
  exact ⟨fun other => by rw [same, failed], ends.failed failed⟩

theorem processLine_of_reads {context : Context} {nested : Text → Step} {state : State} {line : Text}
    (reads : state.ReadsNotation) (nonempty : line ≠ []) :
    processLine context nested state line = processDirective context nested state line := by
  simp [processLine, reads.awake, reads.scenario, nonempty]

theorem processLine_empty (context : Context) (nested : Text → Step) {state : State}
    (reads : state.ReadsNotation) : processLine context nested state [] = state.blank.done := by
  simp [processLine, reads.awake, reads.scenario]

theorem processLine_command {context : Context} {nested : Text → Step} {state : State}
    {command argument : Text} (boosts : Nat) (commandWord : Text.IsWord command)
    (argumentWord : Text.IsWord argument) (plainCommand : '「' ∉ command)
    (plainArgument : '「' ∉ argument) (reads : state.ReadsNotation) :
    processLine context nested state (boostText boosts ++ commandLine command argument) =
      dispatch context nested (state.boosted boosts) ⟨command, [argument], state.line⟩ := by
  have nonempty : boostText boosts ++ commandLine command argument ≠ [] := by simp [commandLine]
  have split : splitBoosts (boostText boosts ++ commandLine command argument) =
      (boosts, commandLine command argument) := by
    rw [splitBoosts_boostText, commandLine, splitBoosts_instruction, Nat.zero_add]
  have directive : Directive.ofLine (commandLine command argument) =
      .instruction (command ++ ' ' :: argument) := by
    apply Directive.ofLine_instruction
    simp [plainCommand, plainArgument]
  rw [processLine_of_reads reads nonempty, processDirective, split]
  simp only [processBody, directive]
  rw [Call.ofText_pair commandWord argumentWord]
  rfl

theorem processLine_bareCommand {context : Context} {nested : Text → Step} {state : State}
    {command : Text} (word : Text.IsWord command) (plain : '「' ∉ command)
    (reads : state.ReadsNotation) :
    processLine context nested state ('$' :: command) =
      dispatch context nested state ⟨command, [], state.line⟩ := by
  have call : Call.ofText command state.line = ⟨command, [], state.line⟩ := by
    simp only [Call.ofText, word.words_eq]
  rw [processLine_of_reads reads (List.cons_ne_nil _ _), processDirective, splitBoosts_instruction]
  simp only [processBody, Directive.ofLine_instruction plain]
  exact congrArg (dispatch context nested state) call

theorem processLine_includes {state : State} {line path text : Text}
    (includes : Includes files state line path text) :
    ∃ log, ∀ nested, processLine { settings, files } nested state line =
      (spliceStep (state.boosted (splitBoosts line).1) (nested text)).logging log := by
  obtain ⟨reads, asks, access, rfl, found, reading⟩ := includes
  have nonempty : line ≠ [] := by
    rintro rfl
    cases asks
  simp only [processLine_of_reads reads nonempty, processDirective, processBody]
  unfold mentionedPath? at asks
  split at asks
  · next words directive =>
      split at asks
      · next command argument split =>
          split at asks
          · next named =>
              cases asks
              simp only [directive]
              refine dispatch_include rfl rfl found reading _ ?_ ?_ _ <;>
                simp [Call.ofText, split, named]
          · cases asks
      · cases asks
  · cases asks

theorem processLine_unsplit {context : Context} {nested : Text → Step} {state : State} {line : Text}
    (reads : state.ReadsNotation) (unsplit : Unsplit (splitBoosts line).2) :
    (processLine context nested state line).failure = some (.brokeOff .uncut) := by
  have nonempty : line ≠ [] := by
    rintro rfl
    obtain ⟨speaker, split, _, _⟩ := unsplit.opensLast
    cases speaker <;> cases split
  rw [processLine_of_reads reads nonempty, processDirective, processBody]
  simp only [unsplit.dialogue, processDialogue, unsplit.uncut, State.breakOff_failure]

end Lines

end SceneNotation.Compiler
