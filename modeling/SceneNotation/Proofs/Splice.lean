import Mathlib.Data.List.Basic
import SceneNotation.Proofs.Budget
import SceneNotation.Session

/- An inclusion is a compilation of its own, put in as one line. Nothing that the
   outer session remembers reaches the inner compilation, and of the inner one only
   its output and its warnings come back, or its failure as it stands. -/
namespace SceneNotation

open Compiler Instruction

namespace Session

/-- A session of its own for a text, with the same settings and files, the built-in instructions
and nothing remembered. -/
def fresh (session : Session) (text : Text) : Session where
  context := { settings := session.context.settings, files := session.context.files }
  source := text

theorem fresh_compile (session : Session) (text : Text) :
    (session.fresh text).compile = compileIncluded session.context.settings session.context.files
      (includeDepth session.context.files + 1) text := rfl

/-- Compiling a file on the way and compiling it by itself come to the same end, and to the same
step unless files include each other without end. -/
theorem nested_fresh (session : Session) (bounded : FilesBounded session.context.files)
    {path text : Text} (supplied : Supplies session.context.files path text) :
    session.nested text = (session.fresh text).compile ∨
      (session.nested text).Endless ∧ (session.fresh text).compile.Endless := by
  rw [fresh_compile]
  by_cases settled : Settles session.context.settings session.context.files
      (includeDepth session.context.files + 1) text
  · exact Or.inl (settled_unique (settled.of_supplied bounded supplied) settled)
  · have shorter : ¬ Settles session.context.settings session.context.files
        (includeDepth session.context.files) text :=
      fun within => settled (within.mono (Nat.le_succ _))
    exact Or.inr ⟨not_not.mp shorter, not_not.mp settled⟩

theorem nested_fresh_failure (session : Session) (bounded : FilesBounded session.context.files)
    {path text : Text} (supplied : Supplies session.context.files path text) :
    (session.nested text).failure = (session.fresh text).compile.failure := by
  rcases session.nested_fresh bounded supplied with same | ⟨inner, outer⟩
  · rw [same]
  · exact inner.trans outer.symm

theorem nested_fresh_done (session : Session) (bounded : FilesBounded session.context.files)
    {path text : Text} (supplied : Supplies session.context.files path text)
    (done : (session.fresh text).compile.failure = none) :
    session.nested text = (session.fresh text).compile := by
  rcases session.nested_fresh bounded supplied with same | ⟨_, endless⟩
  · exact same
  · rw [Step.Endless, done] at endless
    cases endless

theorem compile_located (session : Session) {failure : Failure}
    (failed : session.compile.failure = some failure) (source : Text) :
    failure.foundIn source = failure := by
  rw [compile, compileLines_failure] at failed
  obtain ⟨_, line, _, _, own, _, _, _, located⟩ := runLines_failed failed
  rw [located, Failure.foundIn_foundIn]

theorem line_include (session : Session) {access : FileAccess} {path text : Text} (boosts : Nat)
    (registered : session.context.registry.find? "include".toList = some Registry.specSplice)
    (available : session.context.files = some access) (found : access.contains path = true)
    (reads : access.read path = .ok text) (word : Text.IsWord path) (plain : '「' ∉ path)
    (listening : session.state.ReadsNotation) :
    ∃ log, session.line (boostText boosts ++ commandLine "include".toList path) =
      (spliceStep (session.state.boosted boosts) (session.nested text)).logging log := by
  have command : Text.IsWord "include".toList := by decide
  obtain ⟨log, spliced⟩ := dispatch_include registered available found reads
    ⟨"include".toList, [path], session.state.line⟩ rfl rfl (session.state.boosted boosts)
  refine ⟨log, ?_⟩
  rw [line, processLine_command boosts command word (by decide) plain listening, spliced]

/-- Including a file is compiling it by itself and putting its output in as one line. The outer
session's tables, position and further instructions have no part in the inner compilation, and
keep their values whatever state the inner one ends in. -/
theorem include_splices_fresh_compilation (outer : Session) (access : FileAccess)
    (added : List Spec) (path text : Text) (boosts : Nat)
    (registry : outer.context.registry = added.foldl Registry.register Registry.builtin)
    (kept : ∀ spec ∈ added, spec.name ≠ "include".toList)
    (available : outer.context.files = some access) (bounded : access.Bounded)
    (found : access.contains path = true) (reads : access.read path = .ok text)
    (word : Text.IsWord path) (plain : '「' ∉ path) (listening : outer.state.ReadsNotation)
    (unboosted : outer.state.boost = 0) :
    let inner := (outer.fresh text).compile
    let step := outer.line (boostText boosts ++ commandLine "include".toList path)
    (step.failure = none ↔ inner.failure = none) ∧
    (inner.failure = none →
      step.state = { outer.state with
        emissions := step.state.emissions
        line := outer.state.line + 1
        warnings := outer.state.warnings ++ inner.state.warnings } ∧
      (outer.after step).output = outer.output ++ (outer.context.settings.indent boosts ++
        ((outer.fresh text).after inner).output ++ ['\n'])) ∧
    ∀ failure, inner.failure = some failure →
      step.failure = some failure ∧ (∀ source, failure.foundIn source = failure) ∧
        step.state = outer.state.boosted boosts := by
  intro inner step
  have supplied : Supplies outer.context.files path text := ⟨access, available, found, reads⟩
  have filesBounded : FilesBounded outer.context.files := by
    rw [available]
    exact bounded.files
  have registered : outer.context.registry.find? "include".toList = some Registry.specSplice := by
    rw [registry, Registry.find?_registered kept]
    rfl
  obtain ⟨log, spliced⟩ := outer.line_include boosts registered available found reads word plain listening
  have ended : step.failure = inner.failure := by
    rw [show step = _ from spliced, Step.logging_failure, spliceStep_failure,
      outer.nested_fresh_failure filesBounded supplied]
  refine ⟨by rw [ended], ?_, ?_⟩
  · intro done
    have same : step.state = (spliceStep (outer.state.boosted boosts) inner).state := by
      rw [show step = _ from spliced, outer.nested_fresh_done filesBounded supplied done, Step.logging_state]
    simp only [spliceStep, done] at same
    refine ⟨?_, ?_⟩
    · rw [same]
      simp [State.append, State.boosted, unboosted]
    · rw [output, after, same, State.output_append, Emission.render_spliced]
      simp [State.boosted, State.output, unboosted, Settings.indent, output, after, fresh]
  · intro failure failed
    refine ⟨ended.trans failed, compile_located (outer.fresh text) failed, ?_⟩
    have innerFailed : (outer.nested text).failure = some failure := by
      rw [outer.nested_fresh_failure filesBounded supplied]
      exact failed
    rw [show step = _ from spliced, Step.logging_state, spliceStep, innerFailed]

/-- The inner text binds the outer alias anew, warns, and ends inside a block it opened. -/
theorem include_splices_open_block :
    let access := FileAccess.ofBindings ⟨[("p".toList, .ok ";A:Alice\n「gone」\n$python\nx".toList)]⟩
    let echo : Spec :=
      { name := "say".toList, category := .substitution, arity := ⟨0, none⟩, action := .echo none }
    let outer : Session :=
      { context := { files := some access, registry := Registry.builtin.register echo }
        state := { line := 5, aliases := ⟨[("A".toList, "Anna".toList)]⟩, decorations := [.bold],
                   warnings := [⟨2⟩] } }
    let step := outer.line (boostText 2 ++ commandLine "include".toList "p".toList)
    step.failure = none ∧ step.state.mode = .scenario ∧ step.state.line = 6 ∧
      step.state.aliases = outer.state.aliases ∧ step.state.warnings = [⟨2⟩, ⟨2⟩] ∧
      (outer.after step).output = "        \n    \"gone\"\npython:\n    x\n\n".toList := by
  intro access echo outer step
  obtain ⟨ends, success, _⟩ := include_splices_fresh_compilation outer access [echo] "p".toList
    ";A:Alice\n「gone」\n$python\nx".toList 2 rfl (by decide) rfl
    (FileAccess.ofBindings_bounded _) rfl rfl (by decide) (by decide) ⟨rfl, rfl⟩ rfl
  have done : (outer.fresh ";A:Alice\n「gone」\n$python\nx".toList).compile.failure = none := rfl
  obtain ⟨state, output⟩ := success done
  refine ⟨ends.mpr done, ?_, ?_, ?_, ?_, output.trans (by decide +kernel)⟩
  all_goals rw [show step.state = _ from state]
  all_goals rfl

end Session

end SceneNotation
