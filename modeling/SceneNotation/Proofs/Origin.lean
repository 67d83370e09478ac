import Mathlib.Logic.Relation
import SceneNotation.Compilation
import SceneNotation.Proofs.Budget

/- A compilation that fails was stopped by one line of one text: the root or a text
   that executed inclusions lead to from it. The line fails there by itself, and on
   the way out nothing is added but the source line, once. The converse holds too: a
   line that fails by itself where it is come to fails the whole compilation. -/
namespace SceneNotation.Compiler

section Origins

variable (settings : Settings) (files : Option FileAccess)

/-- The lines of a text before this one go through, and this is the state they leave. How many
nested compilations that took is left open: more of them change nothing. -/
structure Arrives (text : Text) (before : List Text) (line : Text) (state : State) : Prop where
  placed : ∃ after, Text.sourceLines text = before ++ line :: after
  through : ∃ depth, GoesThrough (lineStep settings files depth) {} before state

/-- A line of the outer text is executed that has the inner text compiled. -/
def Opens (outer inner : Text) : Prop :=
  ∃ before line state path, Arrives settings files outer before line state ∧
    Includes files state line path inner

/-- The line is come to and fails there, whatever other texts come to. -/
structure FailsAt (text : Text) (before : List Text) (line : Text) (state : State)
    (own : Failure) : Prop where
  arrives : Arrives settings files text before line state
  fails : ∀ nested, (processLine { settings, files } nested state line).failure = some own

variable {settings files}

theorem spliceStep_line {state : State} {included : Step} (done : included.failure = none) :
    (spliceStep state included).state.line = state.line + 1 := by
  simp [spliceStep, done]

theorem lineStep_advances (depth : Nat) (state : State) (line : Text)
    (done : (lineStep settings files depth state line).failure = none) :
    (lineStep settings files depth state line).state.line = state.line + 1 := by
  rcases includes_or_alone files state line with ⟨path, inner, includes⟩ | alone
  · rw [lineStep_failure_of_includes includes] at done
    obtain ⟨log, spliced⟩ := processLine_includes settings includes
    rw [lineStep, spliced, Step.logging_state, spliceStep_line done]
    rfl
  · obtain ⟨step, ends, same⟩ := processLine_own settings alone
    rw [lineStep, same] at done ⊢
    cases ends with
    | written _ advanced => exact advanced
    | refused fault failed => rw [failed] at done; cases done
    | broken breakdown failed _ => rw [failed] at done; cases done

theorem Arrives.line_eq {text line : Text} {before : List Text} {state : State}
    (arrives : Arrives settings files text before line state) : state.line = before.length + 1 := by
  obtain ⟨depth, through⟩ := arrives.through
  rw [through.line_eq (lineStep_advances depth)]
  exact Nat.add_comm 1 before.length

theorem FailsAt.alone {text line : Text} {before : List Text} {state : State} {own : Failure}
    (fails : FailsAt settings files text before line state own) (path inner : Text) :
    ¬ Includes files state line path inner := by
  intro includes
  obtain ⟨log, spliced⟩ := processLine_includes settings includes
  have failed := fails.fails fun _ => ({} : State).done
  rw [spliced, Step.logging_failure, spliceStep_failure] at failed
  cases failed

theorem FailsAt.cause {text line : Text} {before : List Text} {state : State} {own : Failure}
    (fails : FailsAt settings files text before line state own) :
    (∃ fault, own = .diagnosed ⟨fault, state.line, none⟩) ∨
      ∃ breakdown, own = .brokeOff breakdown ∧ Breaks files state line breakdown :=
  (processLine_own_failed settings fails.alone (fails.fails fun _ => ({} : State).done)).2

theorem FailsAt.settled {text line : Text} {before : List Text} {state : State} {own : Failure}
    (fails : FailsAt settings files text before line state own) :
    own.foundIn line ≠ .brokeOff .endlessInclusion := by
  intro endless
  have same := Failure.foundIn_eq_brokeOff.mp endless
  rcases fails.cause with ⟨fault, diagnosed⟩ | ⟨breakdown, broken, breaks⟩
  · rw [diagnosed] at same
    cases same
  · rw [broken] at same
    cases same
    exact breaks.not_endless rfl

/-- Every failure but an exhausted budget is some line's own, in a text reached from the root. -/
theorem failure_origin {depth : Nat} {text : Text} {failure : Failure}
    (failed : (compileIncluded settings files depth text).failure = some failure)
    (settled : failure ≠ .brokeOff .endlessInclusion) :
    ∃ inner before line state own, Relation.ReflTransGen (Opens settings files) text inner ∧
      FailsAt settings files inner before line state own ∧ failure = own.foundIn line := by
  induction depth generalizing text failure with
  | zero => exact absurd (Option.some.inj failed).symm settled
  | succ depth ih =>
      rw [compileIncluded_succ, compileLines_failure] at failed
      obtain ⟨before, line, after, state, own, placed, through, here, located⟩ :=
        runLines_failed failed
      have arrives : Arrives settings files text before line state :=
        ⟨⟨after, placed⟩, ⟨depth, through⟩⟩
      rcases includes_or_alone files state line with ⟨path, next, includes⟩ | alone
      · rw [lineStep_failure_of_includes includes] at here
        have ownSettled : own ≠ .brokeOff .endlessInclusion := by
          rintro rfl
          exact settled located
        obtain ⟨inner, innerBefore, innerLine, innerState, innerOwn, reached, fails, innerLocated⟩ :=
          ih here ownSettled
        refine ⟨inner, innerBefore, innerLine, innerState, innerOwn, ?_, fails, ?_⟩
        · exact .head ⟨before, line, state, path, arrives, includes⟩ reached
        · rw [located, innerLocated, Failure.foundIn_foundIn]
      · have itself := processLine_own_failed settings alone here
        exact ⟨text, before, line, state, own, .refl, ⟨arrives, itself.1⟩, located⟩

theorem fails_of_origin {text inner line : Text} {before : List Text} {state : State} {own : Failure}
    (reached : Relation.ReflTransGen (Opens settings files) text inner)
    (fails : FailsAt settings files inner before line state own) :
    ∃ depth, (compileIncluded settings files depth text).failure = some (own.foundIn line) := by
  induction reached using Relation.ReflTransGen.head_induction_on with
  | refl =>
      obtain ⟨depth, through⟩ := fails.arrives.through
      obtain ⟨after, placed⟩ := fails.arrives.placed
      refine ⟨depth + 1, ?_⟩
      rw [compileIncluded_succ, compileLines_failure, placed]
      exact through.fails_at (fails.fails _) after
  | @head outer next opens _ ih =>
      obtain ⟨outerBefore, outerLine, outerState, path, arrives, includes⟩ := opens
      obtain ⟨innerDepth, innerFailed⟩ := ih
      obtain ⟨outerDepth, through⟩ := arrives.through
      obtain ⟨after, placed⟩ := arrives.placed
      have settled : Settles settings files innerDepth next := by
        intro endless
        exact fails.settled (Option.some.inj (innerFailed.symm.trans endless))
      -- the lines before the inclusion and the inner text may have taken different budgets
      have enough := compileIncluded_mono (Nat.le_max_right outerDepth innerDepth) settled
      refine ⟨max outerDepth innerDepth + 1, ?_⟩
      rw [compileIncluded_hands_on placed (through.mono (Nat.le_max_left _ _)) includes
        (enough ▸ innerFailed), Failure.foundIn_foundIn]

end Origins

end SceneNotation.Compiler

namespace SceneNotation

open Compiler

theorem Compilation.ofStep_outcome_congr (unit : Text) {one other : Step}
    (state : other.state = one.state) (failure : other.failure = one.failure) :
    (Compilation.ofStep unit other).outcome = (Compilation.ofStep unit one).outcome := by
  unfold Compilation.ofStep
  rw [failure, state]
  match one.failure with
  | none | some (.diagnosed _) | some (.brokeOff _) => rfl

theorem compile_rejected {settings : Settings} {files : Option FileAccess} {text : Text}
    {diagnostic : Diagnostic} {warnings : List Warning}
    (rejected : (compile settings files text).outcome = .ok (.rejected diagnostic warnings)) :
    (compileIncluded settings files (includeDepth files + 1) text).failure =
      some (.diagnosed diagnostic) := by
  unfold compile Compilation.ofStep at rejected
  split at rejected
  · cases rejected
  · next found failed =>
      cases rejected
      exact failed
  · cases rejected

/-- A line that went through has moved the line counter on by one, and a diagnostic carries the
number of its source line in the text that it was found in. -/
theorem diagnostic_names_its_source_line (settings : Settings) (files : Option FileAccess)
    (text : Text) :
    (∀ depth count state, count ≤ (Text.sourceLines text).length →
      GoesThrough (lineStep settings files depth) {} ((Text.sourceLines text).take count) state →
      state.line = count + 1) ∧
    ∀ diagnostic warnings,
      (compile settings files text).outcome = .ok (.rejected diagnostic warnings) →
      ∃ inner, Relation.ReflTransGen (Opens settings files) text inner ∧
        ∃ number : Nat, diagnostic.line = number + 1 ∧
          ∃ source, diagnostic.source = some source ∧
            (Text.sourceLines inner)[number]? = some source := by
  refine ⟨?_, ?_⟩
  · intro depth count state within through
    rw [through.line_eq (lineStep_advances depth), List.length_take, Nat.min_eq_left within]
    exact Nat.add_comm 1 count
  · intro diagnostic warnings rejected
    obtain ⟨inner, before, line, state, own, reached, fails, located⟩ :=
      failure_origin (compile_rejected rejected) (by simp)
    obtain ⟨after, placed⟩ := fails.arrives.placed
    rcases fails.cause with ⟨fault, rfl⟩ | ⟨breakdown, rfl, _⟩
    · cases located
      refine ⟨inner, reached, before.length, ?_, line, rfl, by simp [placed]⟩
      have counted := fails.arrives.line_eq
      simp only [Diagnostic.foundIn]
      omega
    · cases located

/-- The line at fault stands two inclusions deep, in a text that mixes its line ends. -/
theorem diagnostic_names_its_source_line_nested :
    let files : Option FileAccess := some (.ofBindings
      ⟨[("a".toList, .ok "#one\n$include b".toList), ("b".toList, .ok "#two\r\n\n?".toList)]⟩)
    (compile {} files "$include a".toList).outcome =
        .ok (.rejected ⟨.invalidLine, 3, some "?".toList⟩ []) ∧
      ∃ inner, Relation.ReflTransGen (Opens {} files) "$include a".toList inner ∧
        (Text.sourceLines inner)[2]? = some "?".toList := by
  intro files
  have rejected : (compile {} files "$include a".toList).outcome =
      .ok (.rejected ⟨.invalidLine, 3, some "?".toList⟩ []) := rfl
  obtain ⟨inner, reached, number, line, source, found, stands⟩ :=
    (diagnostic_names_its_source_line {} files "$include a".toList).2 _ _ rejected
  obtain rfl : number = 2 := by
    simp only at line
    omega
  obtain rfl := Option.some.inj found
  exact ⟨rejected, inner, reached, stands⟩

end SceneNotation
