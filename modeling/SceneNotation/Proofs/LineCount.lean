import Mathlib.Algebra.GroupWithZero.Nat
import Mathlib.Data.List.Forall2
import SceneNotation.Proofs.Alphabet
import SceneNotation.Proofs.Invariant
import SceneNotation.Proofs.Warning

/- A source line has no line feed in it, and nothing that is made of source lines
   has one: not a name or a replacement that the tables hold, and not what is
   written with them. So each source line writes one line, and an inclusion as many
   more as the included file comes to. -/
namespace SceneNotation

/-- Every character but the line feed. -/
def Alphabet.unbroken : Alphabet :=
  ⟨fun c => c ≠ '\n', fun _ _ solid => solid⟩

theorem Alphabet.Spells.count_feed {text : Text} (spelled : unbroken.Spells text) :
    text.count '\n' = 0 := by
  apply List.count_eq_zero_of_not_mem
  intro member
  exact spelled '\n' member rfl

theorem Text.sourceLines_unbroken (text : Text) :
    ∀ line ∈ sourceLines text, Alphabet.unbroken.Spells line := by
  intro line listed c member
  have solid : c ≠ '\n' := by simpa using (mem_of_mem_splitBy listed member).2
  exact solid

theorem Text.sourceLines_ne_nil (text : Text) : sourceLines text ≠ [] :=
  splitBy_ne_nil _ _

namespace Compiler

theorem Emission.render_count {unit : Text} (given : Alphabet.unbroken.Spells unit) {emission : Emission}
    (spelled : Alphabet.unbroken.Spells emission.content) : (emission.render unit).count '\n' = 1 := by
  rw [render, List.count_append, List.count_append, (Alphabet.spells_repeated given _).count_feed,
    spelled.count_feed]
  rfl

theorem State.output_count {state : State} (spelled : state.SpelledIn .unbroken) {unit : Text}
    (given : Alphabet.unbroken.Spells unit) : (state.output unit).count '\n' = state.emissions.length := by
  have each : state.emissions.map (List.count '\n' ∘ Emission.render unit) =
      List.replicate state.emissions.length 1 := by
    rw [List.map_eq_replicate_iff]
    intro emission listed
    exact Emission.render_count given (spelled.emissions emission listed)
  rw [output, List.count_flatMap, each, List.sum_replicate_nat, Nat.mul_one]

theorem Emission.spliced_length (boost : Nat) (emissions : List Emission) :
    (spliced boost emissions).length = emissions.length + 1 := by
  cases emissions with
  | nil => rfl
  | cons first rest => simp [spliced]

/-- The text that a line has put in, come to in this state. -/
def includedBy (files : Option FileAccess) (state : State) (line : Text) : List Text :=
  (state.memory.deed files line).spliced fun inner => [inner]

section Runs

variable {settings : Settings} {files : Option FileAccess} {depth : Nat} {state next : State}
  {lines : List Text}

theorem Deed.emissions_length {nested : Text → Step} {deed : Deed}
    (done : (deed.perform settings nested state).failure = none) (memory : Memory) (boost : Nat) :
    (deed.emissions nested memory boost).length =
      1 + ((deed.spliced fun inner => [inner]).map fun inner =>
        (nested inner).state.emissions.length).sum := by
  cases deed with
  | write next level content => rfl
  | narrate message => rfl
  | splice text => simp [emissions, spliced, Emission.spliced_length, Nat.add_comm]
  | refuse fault => cases done
  | breakOff breakdown => cases done

theorem lineStep_emissions_length {line : Text}
    (done : (lineStep settings files depth state line).failure = none) :
    (lineStep settings files depth state line).state.emissions.length = state.emissions.length +
      (1 + ((includedBy files state line).map fun inner =>
        (compileIncluded settings files depth inner).state.emissions.length).sum) := by
  obtain ⟨notes, _, same⟩ := lineStep_performs settings files depth state line
  have performed := done
  rw [same, Step.logging_failure] at performed
  have written := Deed.emissions_length performed state.memory (state.boost + state.memory.boosts line)
  rw [lineStep_state_of_done done, includedBy, ← written]
  exact List.length_append

/-- A run writes one line for each of its source lines, and for each inclusion what that comes to. -/
theorem GoesThrough.emissions_length
    (through : GoesThrough (lineStep settings files depth) state lines next) :
    next.emissions.length = state.emissions.length + (lines.length +
      ((gatherLines (lineStep settings files depth) (includedBy files) state lines).map fun inner =>
        (compileIncluded settings files depth inner).state.emissions.length).sum) := by
  induction lines generalizing state with
  | nil =>
      rw [← through.ends]
      rfl
  | cons line rest ih =>
      obtain ⟨done, later⟩ := through.uncons
      rw [ih later, lineStep_emissions_length done, gatherLines,
        if_pos (Option.isNone_iff_eq_none.mpr done), List.map_append, List.sum_append,
        List.length_cons]
      omega

theorem GoesThrough.included_done
    (through : GoesThrough (lineStep settings files depth) state lines next) {inner : Text}
    (included : inner ∈ gatherLines (lineStep settings files depth) (includedBy files) state lines) :
    (compileIncluded settings files depth inner).failure = none := by
  obtain ⟨before, line, after, middle, rfl, reached, given⟩ := mem_gatherLines.mp included
  obtain ⟨text, read, listed⟩ := Deed.mem_spliced.mp given
  obtain rfl := List.mem_singleton.mp listed
  obtain ⟨path, includes⟩ := includes_of_deed read
  rw [← lineStep_failure_of_includes includes]
  cases outcome : (lineStep settings files depth middle line).failure with
  | none => rfl
  | some own =>
      have failed := reached.fails_at outcome after
      rw [through.done] at failed
      cases failed

theorem compileIncluded_unbroken {text : Text}
    (done : (compileIncluded settings files depth text).failure = none) :
    (compileIncluded settings files depth text).state.SpelledIn .unbroken :=
  compileIncluded_spelled (fun _ text _ => text.sourceLines_unbroken) text.sourceLines_unbroken done

end Runs

/-- The texts that the lines of a text have put in, one for each inclusion that is executed. -/
def inclusions (settings : Settings) (files : Option FileAccess) (text : Text) : List Text :=
  gatherLines (lineStep settings files (includeDepth files)) (includedBy files) {}
    (Text.sourceLines text)

theorem inclusions_of_unmentioned {settings : Settings} {files : Option FileAccess} {text : Text}
    (plain : mentionedPaths text = []) : inclusions settings files text = [] := by
  rw [List.eq_nil_iff_forall_not_mem]
  intro inner included
  obtain ⟨before, line, after, state, placed, _, given⟩ := mem_gatherLines.mp included
  obtain ⟨_, read, _⟩ := Deed.mem_spliced.mp given
  obtain ⟨path, includes⟩ := includes_of_deed read
  have mentioned : path ∈ mentionedPaths text :=
    List.mem_filterMap.mpr ⟨line, by simp [placed], includes.asks⟩
  rw [plain] at mentioned
  cases mentioned

end Compiler

open Compiler

section Scripts

variable {settings : Settings} {files : Option FileAccess} {text : Text}

theorem compile_of_included_done
    (done : (compileIncluded settings files (includeDepth files) text).failure = none) :
    ∃ warnings, (compile settings files text).outcome = .ok (.compiled
      ((compileIncluded settings files (includeDepth files) text).state.output settings.indentUnit)
      warnings) := by
  have settled : Settles settings files (includeDepth files) text := by
    simp [Settles, Step.Endless, done]
  rw [← compileIncluded_mono (Nat.le_succ _) settled] at done ⊢
  exact ⟨_, compile_of_done done⟩

theorem script_count {script : Text} {warnings : List Warning}
    (unbroken : Alphabet.unbroken.Spells settings.indentUnit)
    (compiled : (compile settings files text).outcome = .ok (.compiled script warnings)) :
    ∃ spliced : List Text,
      List.Forall₂ (fun inner output => ∃ warnings,
        (compile settings files inner).outcome = .ok (.compiled output warnings))
        (inclusions settings files text) spliced ∧
      script.count '\n' = (Text.sourceLines text).length + (spliced.map (List.count '\n')).sum := by
  have done := compile_compiled compiled
  have through := compileIncluded_goesThrough done
  refine ⟨(inclusions settings files text).map fun inner =>
    (compileIncluded settings files (includeDepth files) inner).state.output settings.indentUnit, ?_, ?_⟩
  · rw [List.forall₂_map_right_iff, List.forall₂_same]
    intro inner included
    exact compile_of_included_done (through.included_done included)
  · have each : (inclusions settings files text).map (List.count '\n' ∘ fun inner =>
        (compileIncluded settings files (includeDepth files) inner).state.output settings.indentUnit) =
        (inclusions settings files text).map fun inner =>
          (compileIncluded settings files (includeDepth files) inner).state.emissions.length := by
      apply List.map_congr_left
      intro inner included
      exact State.output_count (compileIncluded_unbroken (through.included_done included)) unbroken
    rw [compile_script compiled, State.output_count (compileIncluded_unbroken done) unbroken,
      through.emissions_length, List.map_map, each]
    exact Nat.zero_add _

theorem script_terminated {script : Text} {warnings : List Warning}
    (compiled : (compile settings files text).outcome = .ok (.compiled script warnings)) :
    ['\n'] <:+ script := by
  have length := (compileIncluded_goesThrough (compile_compiled compiled)).emissions_length
  have some := List.length_pos_of_ne_nil text.sourceLines_ne_nil
  rw [compile_script compiled]
  apply Emission.render_terminated
  intro none
  rw [none, List.length_nil] at length
  omega

end Scripts

/-- Where the indent unit has no line feed, a script has as many lines as the source, and for each
inclusion that is executed as many more as the included text's own script. So without inclusions
each source line gives one line. The last line is ended like all others. -/
theorem script_lines_counted (settings : Settings) (files : Option FileAccess) (text script : Text)
    (warnings : List Warning) (unbroken : '\n' ∉ settings.indentUnit)
    (compiled : (compile settings files text).outcome = .ok (.compiled script warnings)) :
    (∃ spliced : List Text,
      List.Forall₂ (fun inner output => ∃ warnings,
        (compile settings files inner).outcome = .ok (.compiled output warnings))
        (inclusions settings files text) spliced ∧
      script.count '\n' = (Text.sourceLines text).length + (spliced.map (List.count '\n')).sum) ∧
    (mentionedPaths text = [] → script.count '\n' = (Text.sourceLines text).length) ∧
    ['\n'] <:+ script := by
  have unit : Alphabet.unbroken.Spells settings.indentUnit := by
    rintro c member rfl
    exact unbroken member
  have whole := script_count unit compiled
  refine ⟨whole, ?_, script_terminated compiled⟩
  intro plain
  obtain ⟨spliced, scripts, counted⟩ := whole
  rw [inclusions_of_unmentioned plain, List.forall₂_nil_left_iff] at scripts
  rw [counted, scripts]
  rfl

/-- One inclusion is skipped over, one puts in a file that puts in another, and one an empty file. -/
theorem script_lines_counted_nested :
    let first : Text := "「一。」\n%in%$include b\n「三。」".toList
    let files := FileAccess.ofBindings ⟨[("a".toList, .ok first), ("b".toList, .ok "「二。」\n".toList),
      ("c".toList, .ok [])]⟩
    let text : Text := "$define A B\n$ifdef X\n$include b\n$endif\nA「A」\n$include a\n$include c".toList
    let script : Text :=
      "\n\n\n\n    \"A\" \"「B」\"\n    \"一。\"\n        \"二。\"\n\n\n    \"三。\"\n\n\n\n".toList
    '\n' ∉ ({} : Settings).indentUnit ∧
      (compile {} (some files) text).outcome = .ok (.compiled script []) ∧
      ∃ spliced : List Text,
        List.Forall₂ (fun inner output => ∃ warnings,
          (compile {} (some files) inner).outcome = .ok (.compiled output warnings))
          [first, []] spliced ∧
        script.count '\n' = 7 + (spliced.map (List.count '\n')).sum := by
  intro first files text script
  have solid : '\n' ∉ ({} : Settings).indentUnit := by decide
  have compiled : (compile {} (some files) text).outcome = .ok (.compiled script []) := by decide +kernel
  have included : inclusions {} (some files) text = [first, []] := by decide +kernel
  obtain ⟨whole, _⟩ := script_lines_counted {} (some files) text script [] solid compiled
  rw [included] at whole
  exact ⟨solid, compiled, whole⟩

end SceneNotation
