import SceneNotation.Proofs.Budget

/- How a line is read depends on what the compilation remembers, never on what it
   has written. A line so read does one of five things, and doing it is the only
   part that looks at the output, the line counter, the settings, or at what other
   texts come to. Everything that two compilations can have in common is therefore
   decided by their memories.

   Notes in the log are left open here. Warnings are not. -/
namespace SceneNotation

namespace Log

def warned (log : Log) : List Text :=
  log.filterMap fun
    | .note _ _ => none
    | .warning message => some message

@[simp] theorem warned_nil : warned [] = [] := rfl

@[simp] theorem warned_note (level : Int) (message : Text) (rest : Log) :
    warned (.note level message :: rest) = warned rest := rfl

@[simp] theorem warned_warning (message : Text) (rest : Log) :
    warned (.warning message :: rest) = message :: warned rest := rfl

@[simp] theorem warned_append (first second : Log) :
    warned (first ++ second) = warned first ++ warned second :=
  List.filterMap_append

theorem mem_warned {log : Log} {message : Text} : message ∈ warned log ↔ .warning message ∈ log := by
  induction log with
  | nil => simp
  | cons entry rest ih => cases entry <;> simp [ih]

theorem warned_announce (access : FileAccess) (path : Text) : warned (access.announce path) = [] := by
  rw [List.eq_nil_iff_forall_not_mem]
  intro message logged
  exact access.announcesNotes path message (mem_warned.mp logged)

end Log

namespace Compiler

open Instruction

/-- What decides how the next line is read. -/
structure Memory where
  mode : Mode := .scenario
  aliases : Bindings Text := {}
  decorations : List Decoration := []
  substitutions : Bindings Text := {}
  skipDepth : Nat := 0
  deriving DecidableEq, Repr

namespace State

def memory (state : State) : Memory where
  mode := state.mode
  aliases := state.aliases
  decorations := state.decorations
  substitutions := state.substitutions
  skipDepth := state.skipDepth

/-- Remembers something else, with nothing else changed. -/
def recalling (state : State) (memory : Memory) : State :=
  { state with
    mode := memory.mode
    aliases := memory.aliases
    decorations := memory.decorations
    substitutions := memory.substitutions
    skipDepth := memory.skipDepth }

@[simp] theorem append_memory (state : State) (emissions : List Emission) :
    (state.append emissions).memory = state.memory := rfl

end State

/-- The next line is neither skipped nor passed through. -/
abbrev Memory.ReadsNotation (memory : Memory) : Prop :=
  memory.skipDepth = 0 ∧ memory.mode = .scenario

theorem State.readsNotation_iff (state : State) :
    state.ReadsNotation ↔ state.memory.ReadsNotation :=
  ⟨fun reads => ⟨reads.awake, reads.scenario⟩, fun reads => ⟨reads.1, reads.2⟩⟩

/-- A state with this memory that has written nothing. -/
def Memory.fresh (memory : Memory) : State :=
  ({} : State).recalling memory

/-- An empty line has no level of its own, only the boost. -/
def Emission.indented (boost : Nat) (level : Int) (content : Text) : Emission :=
  ⟨((if content.isEmpty then 0 else level) + boost).toNat, content⟩

def State.warning (state : State) : Warning := ⟨state.line⟩

def State.withWarning (state : State) : State :=
  { state with warnings := state.warnings ++ [state.warning] }

/-- What a line does, once it is read. -/
inductive Deed where
  /-- Writes a line and remembers what is given. -/
  | write (memory : Memory) (level : Int) (content : Text)
  | narrate (message : Text)
  /-- Puts in what another text comes to. -/
  | splice (text : Text)
  | refuse (fault : Fault)
  | breakOff (breakdown : Breakdown)

namespace Deed

def perform (settings : Settings) (nested : Text → Step) (state : State) : Deed → Step
  | .write memory level content => ((state.recalling memory).emitAt level content).done
  | .narrate message =>
      (checkNarration { settings } state message).andThen fun state =>
        (state.emit (narrationLine state message)).done
  | .splice text => spliceStep state (nested text)
  | .refuse fault => state.fail state.line fault
  | .breakOff breakdown => state.breakOff breakdown

/-- The memory that a deed leaves behind if it is done. -/
def recalled (memory : Memory) : Deed → Memory
  | .write next _ _ => next
  | _ => memory

/-- What a deed writes if it is done. -/
def emissions (nested : Text → Step) (memory : Memory) (boost : Nat) : Deed → List Emission
  | .write _ level content => [.indented boost level content]
  | .narrate message => [.indented boost memory.mode.level (narrationLine memory.fresh message)]
  | .splice text => Emission.spliced boost (nested text).state.emissions
  | .refuse _ | .breakOff _ => []

/-- The warnings that a deed adds if it is done. -/
def warnings (settings : Settings) (nested : Text → Step) (line : Nat) : Deed → List Warning
  | .narrate message => if settings.terminates message then [] else [⟨line⟩]
  | .splice text => (nested text).state.warnings
  | .write _ _ _ | .refuse _ | .breakOff _ => []

/-- What a deed fails with, if it does. Of what has been written it asks for the line alone. -/
def failure? (settings : Settings) (nested : Text → Step) (line : Nat) : Deed → Option Failure
  | .narrate message =>
      if settings.terminates message then none
      else if settings.strict then some (.diagnosed ⟨.unendedNarration, line, none⟩)
      else none
  | .splice text => (nested text).failure
  | .refuse fault => some (.diagnosed ⟨fault, line, none⟩)
  | .breakOff breakdown => some (.brokeOff breakdown)
  | .write _ _ _ => none

/-- What is gathered from the text that a deed puts in, if it does. -/
def spliced {α : Type} (gather : Text → List α) : Deed → List α
  | .splice text => gather text
  | .write _ _ _ | .narrate _ | .refuse _ | .breakOff _ => []

theorem mem_spliced {α : Type} {gather : Text → List α} {deed : Deed} {item : α} :
    item ∈ deed.spliced gather ↔ ∃ text, deed = .splice text ∧ item ∈ gather text := by
  cases deed <;> simp [spliced]

variable (settings : Settings) (nested : Text → Step) (state : State)

theorem perform_narrate (message : Text) :
    (narrate message).perform settings nested state =
      if settings.terminates message then (state.emit (narrationLine state message)).done
      else if settings.strict then state.fail state.line .unendedNarration
      else
        { state := state.withWarning.emit (narrationLine state message)
          log := [.warning state.warning.message] } := by
  simp only [perform, checkNarration, warn]
  split
  · rfl
  · split <;> rfl

theorem perform_failure (deed : Deed) :
    (deed.perform settings nested state).failure = deed.failure? settings nested state.line := by
  cases deed with
  | write memory level content => rfl
  | narrate message =>
      rw [perform_narrate, failure?]
      split
      · rfl
      · split <;> rfl
  | splice text => rw [perform, spliceStep_failure, failure?]
  | refuse fault => rfl
  | breakOff breakdown => rfl

variable {settings nested state} {deed : Deed}

theorem perform_narrate_of_done {message : Text}
    (done : ((narrate message).perform settings nested state).failure = none) :
    let added := (narrate message).warnings settings nested state.line
    (narrate message).perform settings nested state =
      { state := ({ state with warnings := state.warnings ++ added } : State).emit
          (narrationLine state message)
        log := added.map fun warning => .warning warning.message } := by
  simp only [warnings]
  rw [perform_narrate] at done ⊢
  split at done
  · next ended =>
      simp only [ended, if_true, List.append_nil]
      rfl
  · next unended =>
      split at done
      · cases done
      · next lenient =>
          simp only [unended, lenient]
          rfl

theorem perform_narrate_of_failed {message : Text} {failure : Failure}
    (failed : ((narrate message).perform settings nested state).failure = some failure) :
    (narrate message).perform settings nested state = state.fail state.line .unendedNarration := by
  rw [perform_narrate] at failed ⊢
  split at failed
  · cases failed
  · next unended =>
      split at failed
      · next strict => simp only [unended, strict, if_true, Bool.false_eq_true, if_false]
      · cases failed

theorem perform_state_of_done (done : (deed.perform settings nested state).failure = none) :
    (deed.perform settings nested state).state =
      { (state.recalling (deed.recalled state.memory)).append
          (deed.emissions nested state.memory state.boost) with
        warnings := state.warnings ++ deed.warnings settings nested state.line } := by
  cases deed with
  | write memory level content =>
      simp only [warnings, List.append_nil]
      rfl
  | narrate message =>
      rw [perform_narrate_of_done done]
      rfl
  | splice text =>
      have inner : (nested text).failure = none := by rwa [perform, spliceStep_failure] at done
      simp only [perform, spliceStep, inner]
      rfl
  | refuse fault => cases done
  | breakOff breakdown => cases done

theorem perform_state_of_failed {failure : Failure}
    (failed : (deed.perform settings nested state).failure = some failure) :
    (deed.perform settings nested state).state = state := by
  cases deed with
  | write memory level content => cases failed
  | narrate message =>
      rw [perform_narrate_of_failed failed]
      rfl
  | splice text =>
      have inner : (nested text).failure = some failure := by rwa [perform, spliceStep_failure] at failed
      simp only [perform, spliceStep, inner]
  | refuse fault => rfl
  | breakOff breakdown => rfl

/-- Of what other texts come to, only a text that is put in matters. -/
theorem perform_inStep (settings : Settings) {nested others : Text → Step} {deed : Deed}
    (inStep : ∀ text, deed = .splice text → (nested text).InStep Eq (others text)) (state : State) :
    (deed.perform settings nested state).InStep Eq (deed.perform settings others state) := by
  cases deed with
  | write memory level content => exact ⟨rfl, rfl⟩
  | narrate message => exact ⟨rfl, rfl⟩
  | refuse fault => exact ⟨rfl, rfl⟩
  | breakOff breakdown => exact ⟨rfl, rfl⟩
  | splice text =>
      obtain ⟨failure, same⟩ := inStep text rfl
      constructor
      · rw [perform, perform, spliceStep_failure, spliceStep_failure, failure]
      · simp only [perform, spliceStep, failure, ← same]
        split <;> rfl

end Deed

/-- How a line is read, before any file is asked for. -/
inductive Reading where
  | does (deed : Deed)
  /-- Asks for the file that the arguments name, if they name one. -/
  | asks (args : List Text)

namespace Reading

def ofFile (access : FileAccess) (path : Text) : Deed :=
  if access.contains path then
    match access.read path with
    | .ok text => .splice text
    | .error cause =>
        if cause.isOfFile then .refuse (.includeUnreadable path cause) else .breakOff (.reading cause)
  else .refuse (.includeMissing path)

def inclusion (files : Option FileAccess) (args : List Text) : Deed :=
  match files with
  | none => .refuse .noFileAccess
  | some access =>
      match args with
      | [path] => ofFile access path
      | args => .refuse (.includeArguments args.length)

def deed (files : Option FileAccess) : Reading → Deed
  | .does deed => deed
  | .asks args => inclusion files args

theorem inclusion_cases {motive : Deed → Prop} (files : Option FileAccess) (args : List Text)
    (splice : ∀ text, motive (.splice text)) (refuse : ∀ fault, motive (.refuse fault))
    (breakOff : ∀ breakdown, motive (.breakOff breakdown)) : motive (inclusion files args) := by
  unfold inclusion ofFile
  repeat' split
  all_goals first | exact splice _ | exact refuse _ | exact breakOff _

end Reading

namespace Memory

def keep (memory : Memory) : Deed := .write memory 0 []

def skipIf (memory : Memory) (condition : Bool) : Memory :=
  if condition then { memory with skipDepth := memory.skipDepth + 1 } else memory

def readDialogue (memory : Memory) (line : Text) : Deed :=
  match Dialogue.ofLine line with
  | .error .unclosed => .refuse .unclosedDialogue
  | .error .uncut => .breakOff .uncut
  | .ok (.narration message) => .narrate message
  | .ok (.speech speaker message) =>
      .write memory memory.mode.level (speechLine memory.fresh speaker message)

def readAlias (memory : Memory) (line : Text) : Deed :=
  match CharacterAlias.ofLine line with
  | .error .malformed => .refuse .malformedAlias
  | .error .uncut => .breakOff .uncut
  | .ok given => keep { memory with aliases := memory.aliases.bind given.name given.shown }

def readMode (memory : Memory) (mode : Mode) : Deed :=
  match mode.headerLevel? with
  | some level => .write { memory with mode := mode } level blockHeader
  | none => keep { memory with mode := mode }

def readStyle (memory : Memory) (names : List Text) : Deed :=
  match lookupDecorations names with
  | .error name => .refuse (.unknownDecoration name)
  | .ok decorations => keep { memory with decorations := memory.decorations ++ decorations }

/-- No instruction that is built in echoes its arguments. -/
def readAction (memory : Memory) (spec : Spec) (args : List Text) : Reading :=
  match spec.action, args with
  | .enter mode, _ => .does (memory.readMode mode)
  | .splice, _ => .asks args
  | .style, _ => .does (memory.readStyle args)
  | .endStyle, _ => .does (keep { memory with decorations := [] })
  | .define, [token, replacement] =>
      .does (keep { memory with substitutions := memory.substitutions.bind token replacement })
  | .ifDefined, [token] => .does (keep (memory.skipIf (!memory.substitutions.binds token)))
  | .ifUndefined, [token] => .does (keep (memory.skipIf (memory.substitutions.binds token)))
  | .endIf, _ => .does (keep memory)
  | _, args => .does (.refuse (.argumentCount spec.name spec.arity args.length))

def readCall (memory : Memory) (call : Call) : Reading :=
  match resolveCall Registry.builtin call with
  | .error fault => .does (.refuse fault)
  | .ok spec => memory.readAction spec call.args

def readBody (memory : Memory) (body : Text) : Reading :=
  match Directive.ofLine body with
  | .label name => .does (.write memory 0 (labelLine name))
  | .comment line => .does (.write memory memory.mode.level line)
  | .dialogue line => .does (memory.readDialogue line)
  | .aliasing line => .does (memory.readAlias line)
  | .verbatim content => .does (.write memory 0 content)
  | .instruction text => memory.readCall (.ofText text 0)
  | .unknown => .does (.refuse .invalidLine)

def readSkipped (memory : Memory) (line : Text) : Deed :=
  if line = conditionalEnd then keep { memory with skipDepth := memory.skipDepth - 1 }
  else keep memory

def readVerbatim (memory : Memory) (line : Text) : Deed :=
  if memory.mode.closing? = some line then keep { memory with mode := .scenario }
  else .write memory memory.mode.level line

def reading (memory : Memory) (line : Text) : Reading :=
  if 0 < memory.skipDepth then .does (memory.readSkipped line)
  else if memory.mode ≠ .scenario then .does (memory.readVerbatim line)
  else if line.isEmpty then .does (keep memory)
  else memory.readBody (splitBoosts line).2

def deed (files : Option FileAccess) (memory : Memory) (line : Text) : Deed :=
  (memory.reading line).deed files

/-- The boosts of a line count only where it is read as notation. -/
def boosts (memory : Memory) (line : Text) : Nat :=
  if memory.ReadsNotation then (splitBoosts line).1 else 0

theorem reading_of_skips {memory : Memory} (skips : 0 < memory.skipDepth) (line : Text) :
    memory.reading line = .does (memory.readSkipped line) :=
  if_pos skips

theorem reading_of_passes {memory : Memory} (awake : memory.skipDepth = 0)
    (passes : memory.mode ≠ .scenario) (line : Text) :
    memory.reading line = .does (memory.readVerbatim line) := by
  simp only [reading, awake, Nat.lt_irrefl, if_false, if_pos passes]

theorem ReadsNotation.reading_empty {memory : Memory} (reads : memory.ReadsNotation) :
    memory.reading [] = .does memory.keep := by
  simp [reading, reads.1, reads.2]

theorem ReadsNotation.reading {memory : Memory} (reads : memory.ReadsNotation) {line : Text}
    (nonempty : line ≠ []) : memory.reading line = memory.readBody (splitBoosts line).2 := by
  simp [Memory.reading, reads.1, reads.2, nonempty]

end Memory

theorem State.ReadsNotation.boosts_eq {state : State} (reads : state.ReadsNotation) (line : Text) :
    state.memory.boosts line = (splitBoosts line).1 :=
  if_pos ((State.readsNotation_iff state).mp reads)

theorem State.ReadsNotation.deed_eq {state : State} (reads : state.ReadsNotation)
    (files : Option FileAccess) {line : Text} (nonempty : line ≠ []) :
    state.memory.deed files line = (state.memory.readBody (splitBoosts line).2).deed files := by
  rw [Memory.deed, ((State.readsNotation_iff state).mp reads).reading nonempty]

section Performing

variable (settings : Settings) (files : Option FileAccess) (state : State)

/-- Processing a thing comes to doing the deed, with no warning but the deed's own. -/
def Performs (process : (Text → Step) → Step) (deed : Deed) : Prop :=
  ∃ notes : Log, notes.warned = [] ∧
    ∀ nested, process nested = (deed.perform settings nested state).logging notes

variable {settings files state}

theorem Performs.of_eq {process : (Text → Step) → Step} {deed : Deed}
    (same : ∀ nested, process nested = deed.perform settings nested state) :
    Performs settings state process deed :=
  ⟨[], rfl, same⟩

theorem Performs.logging {process : (Text → Step) → Step} {deed : Deed} {entries : Log}
    (performs : Performs settings state process deed) (quiet : entries.warned = []) :
    Performs settings state (fun nested => (process nested).logging entries) deed := by
  obtain ⟨notes, silent, same⟩ := performs
  refine ⟨entries ++ notes, by simp [quiet, silent], fun nested => ?_⟩
  simp only [same, Step.logging_logging]

variable (settings files state)

theorem processDialogue_performs (line : Text) :
    Performs settings state (fun _ => processDialogue { settings, files } state line)
      (state.memory.readDialogue line) := by
  apply Performs.of_eq
  intro nested
  unfold processDialogue Memory.readDialogue
  match Dialogue.ofLine line with
  | .error .unclosed | .error .uncut | .ok (.narration _) | .ok (.speech _ _) => rfl

theorem processAlias_performs (line : Text) :
    Performs settings state (fun _ => processAlias state line) (state.memory.readAlias line) := by
  apply Performs.of_eq
  intro nested
  unfold processAlias Memory.readAlias
  match CharacterAlias.ofLine line with
  | .error .malformed | .error .uncut | .ok _ => rfl

theorem openMode_performs (mode : Mode) :
    Performs settings state (fun _ => openMode state mode) (state.memory.readMode mode) := by
  refine ⟨(openMode state mode).log, ?_, fun _ => ?_⟩ <;> cases mode <;> rfl

theorem includeFile_performs (access : FileAccess) (path : Text) :
    Performs settings state (fun nested => includeFile access nested state state.line path)
      (Reading.ofFile access path) := by
  unfold includeFile Reading.ofFile
  by_cases found : access.contains path = true
  · simp only [found, if_true]
    apply Performs.logging _ (Log.warned_announce access path)
    cases access.read path with
    | ok text => exact ⟨[.note 2 ("Compiling include ".toList ++ path)], rfl, fun _ => rfl⟩
    | error cause =>
        apply Performs.of_eq
        intro nested
        cases blame : cause.isOfFile <;> simp [blame, Deed.perform]
  · simp only [found]
    exact .of_eq fun _ => rfl

theorem includeCall_performs (call : Call) (here : call.line = state.line) :
    Performs settings state (fun nested => includeCall { settings, files } nested state call)
      (Reading.inclusion files call.args) := by
  unfold includeCall Reading.inclusion
  rw [here]
  cases files with
  | none => exact .of_eq fun _ => rfl
  | some access =>
      match call.args with
      | [path] => exact includeFile_performs settings state access path
      | [] | _ :: _ :: _ => exact .of_eq fun _ => rfl

theorem styleCall_performs (call : Call) (here : call.line = state.line) :
    Performs settings state (fun _ => styleCall state call) (state.memory.readStyle call.args) := by
  apply Performs.of_eq
  intro nested
  unfold styleCall Memory.readStyle
  rw [here]
  cases lookupDecorations call.args <;> rfl

theorem skipIf_recalled (state : State) (condition : Bool) :
    state.skipIf condition = state.recalling (state.memory.skipIf condition) := by
  cases condition <;> rfl

theorem carryOut_performs (spec : Spec) (call : Call) (here : call.line = state.line)
    (silent : ∀ level?, spec.action ≠ .echo level?) :
    Performs settings state (fun nested => carryOut { settings, files } nested state spec call)
      ((state.memory.readAction spec call.args).deed files) := by
  unfold carryOut Memory.readAction
  rw [here]
  cases action : spec.action with
  | enter mode => exact openMode_performs settings state mode
  | splice => exact includeCall_performs settings files state call here
  | style => exact styleCall_performs settings state call here
  | endStyle => exact .of_eq fun _ => rfl
  | endIf => exact .of_eq fun _ => rfl
  | echo level? => exact absurd action (silent level?)
  | define =>
      match call.args with
      | [] | [_] | [_, _] | _ :: _ :: _ :: _ => exact .of_eq fun _ => rfl
  | ifDefined =>
      match call.args with
      | [token] => simp only [skipIf_recalled]; exact .of_eq fun _ => rfl
      | [] | _ :: _ :: _ => exact .of_eq fun _ => rfl
  | ifUndefined =>
      match call.args with
      | [token] => simp only [skipIf_recalled]; exact .of_eq fun _ => rfl
      | [] | _ :: _ :: _ => exact .of_eq fun _ => rfl

theorem resolveCall_found {registry : Registry} {call : Call} {spec : Spec}
    (resolved : resolveCall registry call = .ok spec) : registry.find? call.command = some spec := by
  unfold resolveCall at resolved
  split at resolved
  · cases resolved
  · next found =>
      split at resolved
      · cases resolved
        exact found
      · cases resolved

theorem dispatch_performs (call : Call) (here : call.line = state.line) :
    Performs settings state (fun nested => dispatch { settings, files } nested state call)
      ((state.memory.readCall call).deed files) := by
  unfold dispatch Memory.readCall
  cases resolved : resolveCall Registry.builtin call with
  | error fault =>
      simp only [here]
      exact .of_eq fun _ => rfl
  | ok spec =>
      have found := resolveCall_found resolved
      exact (carryOut_performs settings files state spec call here
        (Registry.builtin_silent found)).logging rfl

theorem readCall_ofText (memory : Memory) (text : Text) (line : Int) :
    memory.readCall (.ofText text line) = memory.readCall (.ofText text 0) := by
  unfold Call.ofText
  split <;> rfl

theorem processBody_performs (body : Text) :
    Performs settings state (fun nested => processBody { settings, files } nested state body)
      ((state.memory.readBody body).deed files) := by
  unfold processBody Memory.readBody
  cases Directive.ofLine body with
  | label name => exact .of_eq fun _ => rfl
  | comment line => exact .of_eq fun _ => rfl
  | verbatim content => exact .of_eq fun _ => rfl
  | unknown => exact .of_eq fun _ => rfl
  | dialogue line => exact processDialogue_performs settings files state line
  | aliasing line => exact processAlias_performs settings state line
  | instruction text =>
      have performs := dispatch_performs settings files state (Call.ofText text state.line)
        (Call.ofText_line text state.line)
      rwa [readCall_ofText] at performs

theorem processSkipped_performs (line : Text) :
    Performs settings state (fun _ => processSkipped state line) (state.memory.readSkipped line) := by
  unfold processSkipped Memory.readSkipped
  split <;> exact .of_eq fun _ => rfl

theorem processVerbatim_performs (line : Text) :
    Performs settings state (fun _ => processVerbatim state line)
      (state.memory.readVerbatim line) := by
  unfold processVerbatim Memory.readVerbatim
  by_cases closes : state.mode.closing? = some line
  · rw [if_pos closes, if_pos (show state.memory.mode.closing? = some line from closes)]
    exact ⟨(state.enterMode .scenario).log, rfl, fun _ => rfl⟩
  · rw [if_neg closes, if_neg (show ¬ state.memory.mode.closing? = some line from closes)]
    exact .of_eq fun _ => rfl

/-- A line does what it is read as, with the boosts in front of it. -/
theorem processLine_performs (line : Text) :
    ∃ notes : Log, notes.warned = [] ∧ ∀ nested, processLine { settings, files } nested state line =
      ((state.memory.deed files line).perform settings nested
        (state.boosted (state.memory.boosts line))).logging notes := by
  by_cases skipping : 0 < state.skipDepth
  · have processing : ∀ nested, processLine { settings, files } nested state line =
        processSkipped state line := fun _ => if_pos skipping
    have reading := @Memory.reading_of_skips state.memory skipping line
    have unread : state.memory.boosts line = 0 :=
      if_neg fun reads => absurd reads.1 (Nat.ne_of_gt skipping)
    simp only [processing, Memory.deed, reading, unread]
    exact processSkipped_performs settings state line
  · by_cases scenario : state.mode = .scenario
    · have reads : state.ReadsNotation := ⟨Nat.eq_zero_of_not_pos skipping, scenario⟩
      rw [reads.boosts_eq]
      cases line with
      | nil =>
          have reading := Memory.ReadsNotation.reading_empty (state.readsNotation_iff.mp reads)
          simp only [processLine_empty _ _ reads, Memory.deed, reading]
          exact ⟨[], rfl, fun _ => rfl⟩
      | cons c rest =>
          have nonempty : c :: rest ≠ [] := List.cons_ne_nil c rest
          simp only [processLine_of_reads reads nonempty, reads.deed_eq files nonempty]
          exact processBody_performs settings files (state.boosted _) _
    · have processing : ∀ nested, processLine { settings, files } nested state line =
          processVerbatim state line := fun _ => (if_neg skipping).trans (if_pos scenario)
      have reading : state.memory.reading line = .does (state.memory.readVerbatim line) :=
        Memory.reading_of_passes (Nat.eq_zero_of_not_pos skipping) scenario line
      have unread : state.memory.boosts line = 0 := if_neg fun reads => scenario reads.2
      simp only [processing, Memory.deed, reading, unread]
      exact processVerbatim_performs settings state line

end Performing

section Lines

variable {settings : Settings} {files : Option FileAccess} {depth : Nat} {state : State} {line : Text}

variable (settings files depth state line) in
theorem lineStep_performs :
    ∃ notes : Log, notes.warned = [] ∧ lineStep settings files depth state line =
      ((state.memory.deed files line).perform settings (compileIncluded settings files depth)
        (state.boosted (state.memory.boosts line))).logging notes := by
  obtain ⟨notes, quiet, same⟩ := processLine_performs settings files state line
  exact ⟨notes, quiet, same _⟩

theorem lineStep_state_of_done (done : (lineStep settings files depth state line).failure = none) :
    (lineStep settings files depth state line).state =
      { (state.recalling ((state.memory.deed files line).recalled state.memory)).append
          ((state.memory.deed files line).emissions (compileIncluded settings files depth) state.memory
            (state.boost + state.memory.boosts line)) with
        warnings := state.warnings ++
          (state.memory.deed files line).warnings settings (compileIncluded settings files depth)
            state.line } := by
  obtain ⟨notes, _, same⟩ := lineStep_performs settings files depth state line
  rw [same, Step.logging_failure] at done
  rw [same, Step.logging_state, Deed.perform_state_of_done done]
  rfl

theorem lineStep_unboosted (done : (lineStep settings files depth state line).failure = none) :
    (lineStep settings files depth state line).state.boost = 0 := by
  rw [lineStep_state_of_done done]
  rfl

theorem lineStep_state_of_failed {failure : Failure}
    (failed : (lineStep settings files depth state line).failure = some failure) :
    (lineStep settings files depth state line).state = state.boosted (state.memory.boosts line) := by
  obtain ⟨notes, _, same⟩ := lineStep_performs settings files depth state line
  rw [same, Step.logging_failure] at failed
  rw [same, Step.logging_state, Deed.perform_state_of_failed failed]

end Lines

section Inclusions

variable {files : Option FileAccess} {state : State} {line path text : Text}

/-- Only a deed that puts the text in can come to whatever the text comes to. -/
theorem Deed.eq_splice_of_failure (settings : Settings) {deed : Deed}
    (hands : ∀ nested, (deed.perform settings nested state).failure = (nested text).failure) :
    deed = .splice text := by
  have success := hands fun _ => ({} : State).done
  have trouble := hands fun _ => ({} : State).breakOff .endlessInclusion
  cases deed with
  | write memory level content => cases trouble
  | narrate message =>
      -- narration never asks what another text comes to
      rw [perform_narrate] at success trouble
      rw [success] at trouble
      cases trouble
  | splice other =>
      by_cases same : other = text
      · rw [same]
      · have probed := hands fun asked =>
          if asked = text then ({} : State).done else ({} : State).breakOff .endlessInclusion
        simp [perform, same] at probed
  | refuse fault => cases success
  | breakOff breakdown => cases success

theorem Includes.deed_eq (includes : Includes files state line path text) :
    state.memory.deed files line = .splice text := by
  obtain ⟨log, spliced⟩ := processLine_includes {} includes
  obtain ⟨notes, _, same⟩ := processLine_performs {} files state line
  apply Deed.eq_splice_of_failure {}
  intro nested
  have both := (same nested).symm.trans (spliced nested)
  rw [← Step.logging_failure notes, both, Step.logging_failure, spliceStep_failure]

theorem includes_of_deed (read : state.memory.deed files line = .splice text) :
    ∃ path, Includes files state line path text := by
  rcases includes_or_alone files state line with ⟨path, other, includes⟩ | alone
  · obtain rfl : other = text := Deed.splice.inj (includes.deed_eq.symm.trans read)
    exact ⟨path, includes⟩
  · obtain ⟨notes, _, same⟩ := processLine_performs {} files state line
    obtain ⟨step, _, fixed⟩ := processLine_own {} alone
    have hands : ∀ nested : Text → Step, (nested text).failure = step.failure := by
      intro nested
      rw [← fixed nested, same nested, read, Step.logging_failure]
      exact (spliceStep_failure _ _).symm
    have success := hands fun _ => ({} : State).done
    have trouble := hands fun _ => ({} : State).breakOff .endlessInclusion
    rw [← success] at trouble
    cases trouble

end Inclusions

end Compiler

end SceneNotation
