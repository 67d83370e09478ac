import SceneNotation.Proofs.Reading
import SceneNotation.Proofs.Splice

/- Where nothing is remembered, including a file writes what its own lines would
   write in its place with a blank line after them, or fails as they would but for
   the line number. The fresh compilation of the file and the outer one are followed
   side by side: they remember the same, so they read every line alike, and each
   adds the same to what it had before. -/
namespace SceneNotation

namespace Failure

/-- The failure with its line number left out. -/
def unnumbered : Failure → Failure
  | .diagnosed diagnostic => .diagnosed { diagnostic with line := 0 }
  | .brokeOff breakdown => .brokeOff breakdown

theorem unnumbered_foundIn (source : Text) (failure : Failure) :
    (failure.foundIn source).unnumbered = failure.unnumbered.foundIn source := by
  cases failure <;> rfl

end Failure

namespace Compiler

theorem failed_of_unnumbered {one other : Option Failure} {failure : Failure}
    (alike : other.map Failure.unnumbered = one.map Failure.unnumbered) (failed : one = some failure) :
    ∃ another, other = some another := by
  cases other with
  | some another => exact ⟨another, rfl⟩
  | none =>
      rw [failed] at alike
      cases alike

/-- The states remember the same, and have written the same after what each had before. -/
structure Alongside (first second : List Emission) (one other : State) : Prop where
  memory : other.memory = one.memory
  boost : other.boost = one.boost
  written : ∃ added, one.emissions = first ++ added ∧ other.emissions = second ++ added

/-- The steps fail alike but for line numbers, and leave states that are side by side. -/
structure Matches (first second : List Emission) (one other : Step) : Prop where
  failure : other.failure.map Failure.unnumbered = one.failure.map Failure.unnumbered
  state : Alongside first second one.state other.state

section Sides

variable {first second : List Emission}

theorem Alongside.append {one other : State} (alongside : Alongside first second one other)
    (memory : Memory) (emissions : List Emission) (ones others : List Warning) :
    Alongside first second { (one.recalling memory).append emissions with warnings := ones }
      { (other.recalling memory).append emissions with warnings := others } where
  memory := rfl
  boost := rfl
  written := by
    obtain ⟨added, one_eq, other_eq⟩ := alongside.written
    refine ⟨added ++ emissions, ?_, ?_⟩
    · rw [← List.append_assoc, ← one_eq]
      rfl
    · rw [← List.append_assoc, ← other_eq]
      rfl

theorem Alongside.boosted {one other : State} (alongside : Alongside first second one other)
    (count : Nat) : Alongside first second (one.boosted count) (other.boosted count) where
  memory := alongside.memory
  boost := congrArg (· + count) alongside.boost
  written := alongside.written

theorem Alongside.emissions_eq {one other : State} (alongside : Alongside first first one other) :
    other.emissions = one.emissions := by
  obtain ⟨added, one_eq, other_eq⟩ := alongside.written
  rw [one_eq, other_eq]

theorem Matches.done_iff {one other : Step} (matched : Matches first second one other) :
    other.failure = none ↔ one.failure = none := by
  rw [← Option.map_eq_none_iff (f := Failure.unnumbered), matched.failure, Option.map_eq_none_iff]

theorem Matches.foundIn {one other : Step} (matched : Matches first second one other) (source : Text) :
    Matches first second (one.foundIn source) (other.foundIn source) where
  state := matched.state
  failure := by
    have located := congrArg (Option.map (Failure.foundIn source)) matched.failure
    simpa [Function.comp_def, Failure.unnumbered_foundIn] using located

/-- The number of the line a deed fails at is all that it takes from elsewhere than the memory. -/
theorem Deed.perform_unnumbered (settings : Settings) (nested : Text → Step) (deed : Deed)
    (one other : State) :
    (deed.perform settings nested other).failure.map Failure.unnumbered =
      (deed.perform settings nested one).failure.map Failure.unnumbered := by
  cases deed with
  | write memory level content => rfl
  | narrate message =>
      rw [perform_narrate, perform_narrate]
      split
      · rfl
      · split <;> rfl
  | splice text => simp only [perform, spliceStep_failure]
  | refuse fault => rfl
  | breakOff breakdown => rfl

variable (settings : Settings) (files : Option FileAccess) (depth : Nat) {one other : State}

theorem lineStep_matches (alongside : Alongside first second one other) (line : Text) :
    Matches first second (lineStep settings files depth one line)
      (lineStep settings files depth other line) := by
  have failure : (lineStep settings files depth other line).failure.map Failure.unnumbered =
      (lineStep settings files depth one line).failure.map Failure.unnumbered := by
    obtain ⟨_, _, performed⟩ := lineStep_performs settings files depth one line
    obtain ⟨_, _, repeated⟩ := lineStep_performs settings files depth other line
    rw [performed, repeated, Step.logging_failure, Step.logging_failure, alongside.memory]
    exact Deed.perform_unnumbered settings _ _ _ _
  refine ⟨failure, ?_⟩
  cases outcome : (lineStep settings files depth one line).failure with
  | none =>
      have done : (lineStep settings files depth other line).failure = none := by
        simpa [outcome] using failure
      rw [lineStep_state_of_done outcome, lineStep_state_of_done done, alongside.memory,
        alongside.boost]
      exact alongside.append _ _ _ _
  | some own =>
      obtain ⟨another, failed⟩ := failed_of_unnumbered failure outcome
      rw [lineStep_state_of_failed outcome, lineStep_state_of_failed failed, alongside.memory]
      exact alongside.boosted _

/-- Side by side at the start, two runs over the same lines stay so to their ends. -/
theorem runLines_matches (alongside : Alongside first second one other) (lines : List Text) :
    Matches first second (runLines (lineStep settings files depth) one lines)
      (runLines (lineStep settings files depth) other lines) := by
  induction lines generalizing one other with
  | nil => exact ⟨rfl, alongside⟩
  | cons line rest ih =>
      have matched := (lineStep_matches settings files depth alongside line).foundIn line
      rw [runLines_cons, runLines_cons]
      cases outcome : ((lineStep settings files depth one line).foundIn line).failure with
      | none =>
          rw [Step.andThen_of_done outcome, Step.andThen_of_done (matched.done_iff.mpr outcome)]
          obtain ⟨failure, state⟩ := ih matched.state
          exact ⟨failure, state⟩
      | some own =>
          obtain ⟨another, failed⟩ := failed_of_unnumbered matched.failure outcome
          rw [Step.andThen_of_failed outcome, Step.andThen_of_failed failed]
          exact matched

end Sides

theorem Emission.spliced_unboosted (emissions : List Emission) :
    spliced 0 emissions = emissions ++ [⟨0, []⟩] := by
  cases emissions <;> rfl

theorem Memory.deed_empty (files : Option FileAccess) (memory : Memory) :
    ∃ level, memory.deed files [] = .write memory level [] := by
  have rule := memory.reading_reads []
  unfold deed
  generalize memory.reading [] = reading at rule
  cases rule with
  | resumes _ ends => exact absurd ends (by decide)
  | skips | empty => exact ⟨0, rfl⟩
  | leaves _ closes => exact absurd closes (by cases memory.mode <;> decide)
  | copies => exact ⟨memory.mode.level, rfl⟩
  | means _ nonempty => exact absurd rfl nonempty

section Blank

variable (settings : Settings) (files : Option FileAccess) (depth : Nat) (state : State)

theorem lineStep_empty :
    (lineStep settings files depth state []).failure = none ∧
      (lineStep settings files depth state []).state = state.append [⟨state.boost, []⟩] := by
  obtain ⟨notes, _, same⟩ := lineStep_performs settings files depth state []
  obtain ⟨level, read⟩ := state.memory.deed_empty files
  have unboosted : state.memory.boosts [] = 0 := ite_self _
  rw [same, read, unboosted]
  exact ⟨rfl, by simp [Deed.perform, State.recalling, State.memory, State.emitAt, State.boosted]⟩

theorem runLines_blank_failure (lines : List Text) :
    (runLines (lineStep settings files depth) state (lines ++ [[]])).failure =
      (runLines (lineStep settings files depth) state lines).failure := by
  rw [runLines_append]
  cases outcome : (runLines (lineStep settings files depth) state lines).failure with
  | some failure => rw [Step.andThen_of_failed outcome, outcome]
  | none =>
      rw [Step.andThen_of_done outcome, Step.logging_failure]
      exact (GoesThrough.single (lineStep_empty settings files depth _).1).done

variable {settings files depth state} {lines : List Text} {next : State}

theorem GoesThrough.blank (through : GoesThrough (lineStep settings files depth) state lines next)
    (unboosted : state.boost = 0) :
    GoesThrough (lineStep settings files depth) state (lines ++ [[]]) (next.append [⟨0, []⟩]) := by
  have spends : ∀ state line, state.boost = 0 → (lineStep settings files depth state line).failure = none →
      (lineStep settings files depth state line).state.boost = 0 :=
    fun _ _ _ done => lineStep_unboosted done
  have level : next.boost = 0 := through.invariant spends unboosted
  obtain ⟨done, written⟩ := lineStep_empty settings files depth next
  rw [level] at written
  exact through.append (written ▸ .single done)

theorem lineStep_included {line path text : Text} (includes : Includes files state line path text)
    (plain : (splitBoosts line).1 = 0) (unboosted : state.boost = 0)
    (done : (compileIncluded settings files depth text).failure = none) :
    (lineStep settings files depth state line).state.memory = state.memory ∧
      (lineStep settings files depth state line).state.emissions =
        state.emissions ++ ((compileIncluded settings files depth text).state.emissions ++ [⟨0, []⟩]) := by
  have went : (lineStep settings files depth state line).failure = none := by
    rw [lineStep_failure_of_includes includes, done]
  have level : state.boost + state.memory.boosts line = 0 := by
    rw [unboosted, Memory.boosts, if_pos ((State.readsNotation_iff state).mp includes.reads), plain]
  rw [lineStep_state_of_done went, includes.deed_eq, level, ← Emission.spliced_unboosted]
  exact ⟨rfl, rfl⟩

end Blank

section Inlined

variable (settings : Settings) {files : Option FileAccess} {state : State} {line path text : Text}

theorem included_eq_run (bounded : FilesBounded files) (supplied : Supplies files path text) :
    let included := compileIncluded settings files (includeDepth files) text
    let fresh := runLines (lineStep settings files (includeDepth files)) {} (Text.sourceLines text)
    included.failure = fresh.failure ∧ (fresh.failure = none → included.state = fresh.state) := by
  intro included fresh
  let session : Session := { context := { settings, files } }
  have compiled : (session.fresh text).compile =
      compileLines (lineStep settings files (includeDepth files)) {} (Text.sourceLines text) := rfl
  constructor
  · rw [← compileLines_failure, ← compiled]
    exact session.nested_fresh_failure bounded supplied
  · intro done
    rw [← compileLines_state, ← compiled]
    rw [← compileLines_failure, ← compiled] at done
    exact congrArg Step.state (session.nested_fresh_done bounded supplied done)

theorem fresh_matches_run (files : Option FileAccess) (forgetful : state.memory = {})
    (unboosted : state.boost = 0) (text : Text) :
    Matches [] state.emissions
      (runLines (lineStep settings files (includeDepth files)) {} (Text.sourceLines text))
      (runLines (lineStep settings files (includeDepth files)) state (Text.sourceLines text)) := by
  have start : Alongside [] state.emissions {} state :=
    ⟨forgetful, unboosted, ⟨[], rfl, (List.append_nil _).symm⟩⟩
  exact runLines_matches settings files (includeDepth files) start _

theorem inlined_failure (bounded : FilesBounded files) (forgetful : state.memory = {})
    (unboosted : state.boost = 0) (includes : Includes files state line path text) :
    (runLines (lineStep settings files (includeDepth files)) state
        (Text.sourceLines text ++ [[]])).failure.map Failure.unnumbered =
      (lineStep settings files (includeDepth files) state line).failure.map Failure.unnumbered := by
  rw [runLines_blank_failure, (fresh_matches_run settings files forgetful unboosted text).failure,
    lineStep_failure_of_includes includes, (included_eq_run settings bounded includes.supplied).1]

/-- Where the inclusion goes through, the lines have written the same, and the two are side by side
if the lines have left nothing remembered. -/
theorem inlined_alongside (bounded : FilesBounded files) (forgetful : state.memory = {})
    (unboosted : state.boost = 0) (includes : Includes files state line path text)
    (plain : (splitBoosts line).1 = 0)
    (done : (lineStep settings files (includeDepth files) state line).failure = none) :
    let included := (lineStep settings files (includeDepth files) state line).state
    let body := (runLines (lineStep settings files (includeDepth files)) state (Text.sourceLines text)).state
    let inlined := (runLines (lineStep settings files (includeDepth files)) state
      (Text.sourceLines text ++ [[]])).state
    inlined.emissions = included.emissions ∧ (body.memory = {} → Alongside [] [] included inlined) := by
  intro included body inlined
  have inner : (compileIncluded settings files (includeDepth files) text).failure = none := by
    rw [← lineStep_failure_of_includes includes, done]
  obtain ⟨failure, ends⟩ := included_eq_run settings bounded includes.supplied
  have fresh := failure.symm.trans inner
  have matched := fresh_matches_run settings files forgetful unboosted text
  have blank : inlined = body.append [⟨0, []⟩] :=
    (GoesThrough.blank ⟨matched.done_iff.mpr fresh, rfl⟩ unboosted).ends
  obtain ⟨added, alone, after⟩ := matched.state.written
  obtain ⟨memory, written⟩ := lineStep_included includes plain unboosted inner
  have emissions : inlined.emissions = included.emissions := by
    rw [written, ends fresh, alone, blank, List.nil_append, ← List.append_assoc, ← after]
    rfl
  refine ⟨emissions, fun left => ⟨?_, ?_, ⟨included.emissions, rfl, emissions⟩⟩⟩
  · rw [memory, forgetful, blank, State.append_memory, left]
  · rw [show included.boost = 0 from lineStep_unboosted done, blank]
    rfl

end Inlined

end Compiler

open Compiler Instruction

namespace Session

/-- Processes lines up to the first that fails. -/
def run (session : Session) (lines : List Text) : Step :=
  runLines (processLine session.context session.nested) session.state lines

/-- Processes every line, and goes on after those that fail. -/
def through (session : Session) (lines : List Text) : Session :=
  { session with
    state := lines.foldl
      (fun state line => (processLine session.context session.nested state line).state) session.state }

theorem processLine_builtin {session : Session}
    (builtin : session.context.registry = Registry.builtin) :
    processLine session.context session.nested =
      lineStep session.context.settings session.context.files (includeDepth session.context.files) := by
  obtain ⟨⟨settings, files, registry⟩, source, state⟩ := session
  subst builtin
  rfl

theorem through_alongside {session : Session} (builtin : session.context.registry = Registry.builtin)
    {first second : List Emission} {one other : Step}
    (alongside : Alongside first second one.state other.state) (lines : List Text) :
    Alongside first second ((session.after one).through lines).state
      ((session.after other).through lines).state := by
  have process : processLine session.context session.nested = _ := processLine_builtin builtin
  apply List.foldl_rel alongside
  intro line _ left right related
  change Alongside first second (processLine session.context session.nested left line).state
    (processLine session.context session.nested right line).state
  rw [process]
  exact (lineStep_matches _ _ _ related line).state

/-- With nothing remembered, a file that is included is its lines and a blank line. Where its lines
leave nothing remembered either, no later line can tell the difference. -/
theorem include_inlines (outer : Session) (line path text : Text)
    (builtin : outer.context.registry = Registry.builtin) (bounded : FilesBounded outer.context.files)
    (forgetful : outer.state.memory = {}) (unboosted : outer.state.boost = 0)
    (asks : mentionedPath? line = some path) (plain : (splitBoosts line).1 = 0)
    (supplied : Supplies outer.context.files path text) :
    let included := outer.line line
    let body := outer.run (Text.sourceLines text)
    let inlined := outer.run (Text.sourceLines text ++ [[]])
    inlined.failure.map Failure.unnumbered = included.failure.map Failure.unnumbered ∧
    (included.failure = none → (outer.after inlined).output = (outer.after included).output) ∧
    (body.failure = none → body.state.memory = {} → ∀ lines next,
      let one := (outer.after included).through lines
      let other := (outer.after inlined).through lines
      other.output = one.output ∧ (other.line next).failure.map Failure.unnumbered =
        (one.line next).failure.map Failure.unnumbered) := by
  intro included body inlined
  have process : processLine outer.context outer.nested = _ := processLine_builtin builtin
  have includes : Includes outer.context.files outer.state line path text := by
    refine ⟨(State.readsNotation_iff _).mpr ?_, asks, supplied⟩
    rw [forgetful]
    exact ⟨rfl, rfl⟩
  have failure : inlined.failure.map Failure.unnumbered = included.failure.map Failure.unnumbered := by
    simp only [inlined, included, run, Session.line, process]
    exact inlined_failure _ bounded forgetful unboosted includes
  have compared : included.failure = none → inlined.state.emissions = included.state.emissions ∧
      (body.state.memory = {} → Alongside [] [] included.state inlined.state) := by
    simp only [body, inlined, included, run, Session.line, process]
    exact inlined_alongside _ bounded forgetful unboosted includes plain
  refine ⟨failure, fun done => ?_, fun went left lines next => ?_⟩
  · exact congrArg (List.flatMap (Emission.render outer.context.settings.indentUnit)) (compared done).1
  · have done : included.failure = none := by
      have same : inlined.failure = body.failure := by
        simp only [inlined, body, run, process]
        exact runLines_blank_failure _ _ _ _ _
      rw [same, went] at failure
      exact Option.map_eq_none_iff.mp failure.symm
    have later := through_alongside builtin ((compared done).2 left) lines
    refine ⟨congrArg (List.flatMap (Emission.render outer.context.settings.indentUnit))
      later.emissions_eq, ?_⟩
    have matched := lineStep_matches outer.context.settings outer.context.files
      (includeDepth outer.context.files) later next
    rw [← process] at matched
    exact matched.failure

/-- The file warns, and opens a block and closes it, for a session that is some lines on and has
written and warned before. -/
theorem include_inlines_closed_block :
    let text := "「one」\n$python\nx\n$endpy".toList
    let access := FileAccess.ofBindings ⟨[("p".toList, .ok text)]⟩
    let state : State := { emissions := [⟨1, "\"zero\"".toList⟩], line := 5, warnings := [⟨2⟩] }
    let outer : Session := { context := { files := some access }, state }
    let included := outer.line "$include  p".toList
    let inlined := outer.run (Text.sourceLines text ++ [[]])
    let emissions : List Emission :=
      [⟨1, "\"zero\"".toList⟩, ⟨1, "\"one\"".toList⟩, ⟨0, "python:".toList⟩, ⟨1, ['x']⟩, ⟨0, []⟩, ⟨0, []⟩]
    included.state = { state with emissions, line := 6, warnings := [⟨2⟩, ⟨1⟩] } ∧
      inlined.state = { state with emissions, line := 10, warnings := [⟨2⟩, ⟨5⟩] } ∧
      (outer.after included).output =
        "    \"zero\"\n    \"one\"\npython:\n    x\n\n\n".toList ∧
      (outer.after inlined).output = (outer.after included).output ∧
      ∀ lines, ((outer.after inlined).through lines).output =
        ((outer.after included).through lines).output := by
  intro text access state outer included inlined emissions
  obtain ⟨_, output, later⟩ := include_inlines outer "$include  p".toList "p".toList text rfl
    (FileAccess.ofBindings_bounded _).files rfl rfl rfl rfl ⟨access, rfl, rfl, rfl⟩
  have done : included.failure = none := by decide +kernel
  have went : (outer.run (Text.sourceLines text)).failure = none := by decide +kernel
  have left : (outer.run (Text.sourceLines text)).state.memory = {} := by decide +kernel
  exact ⟨by decide +kernel, by decide +kernel, by decide +kernel, output done,
    fun lines => (later went left lines []).1⟩

end Session

end SceneNotation
