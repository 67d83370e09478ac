import SceneNotation.Proofs.Warning

/- Which marks may end narration decides which narration is warned of, and nothing
   else. Two lenient compilations that take different marks keep in step: they come
   to the same lines, write the same and fail alike, and only their warnings grow
   apart. With more marks there are fewer warnings, and those in the same order. -/
namespace SceneNotation

def Settings.endedBy (settings : Settings) (marks : Text) : Settings :=
  { settings with terminators := marks }

theorem Settings.terminates_mono {settings : Settings} {fewer more narration : Text}
    (within : fewer ⊆ more) (ended : (settings.endedBy fewer).terminates narration = true) :
    (settings.endedBy more).terminates narration = true := by
  unfold terminates at ended ⊢
  cases last : narration.getLast? with
  | none => simp [last] at ended
  | some mark =>
      simp only [last, endedBy, List.contains_iff_mem] at ended ⊢
      exact within ended

def Outcome.withWarnings (warnings : List Warning) : Outcome → Outcome
  | .compiled script _ => .compiled script warnings
  | .rejected diagnostic _ => .rejected diagnostic warnings

theorem Compilation.ofStep_outcome_withWarnings (unit : Text) {one other : Compiler.Step}
    {warnings : List Warning} (failure : other.failure = one.failure)
    (state : other.state = { one.state with warnings }) :
    (Compilation.ofStep unit other).outcome =
      (Compilation.ofStep unit one).outcome.map (Outcome.withWarnings warnings) := by
  unfold Compilation.ofStep
  rw [failure, state]
  rcases one.failure with _ | _ | _ <;> rfl

namespace Compiler

/-- The states differ in their warnings only. Where `fewer` holds, the second has warnings of the
first, in their order. -/
def WarnedApart (fewer : Prop) (one other : State) : Prop :=
  ∃ warnings, other = { one with warnings } ∧ (fewer → warnings.Sublist one.warnings)

theorem WarnedApart.refl (fewer : Prop) (state : State) : WarnedApart fewer state state :=
  ⟨state.warnings, rfl, fun _ => List.Sublist.refl _⟩

theorem WarnedApart.boosted {fewer : Prop} {one other : State} (apart : WarnedApart fewer one other)
    (count : Nat) : WarnedApart fewer (one.boosted count) (other.boosted count) := by
  obtain ⟨warnings, rfl, kept⟩ := apart
  exact ⟨warnings, rfl, kept⟩

theorem spliceStep_warnedApart {fewer : Prop} {one other : State} {included twin : Step}
    (apart : WarnedApart fewer one other) (inStep : included.InStep (WarnedApart fewer) twin) :
    (spliceStep one included).InStep (WarnedApart fewer) (spliceStep other twin) := by
  obtain ⟨warnings, rfl, kept⟩ := apart
  obtain ⟨inner, same, innerKept⟩ := inStep.state
  have written : twin.state.emissions = included.state.emissions := by rw [same]
  have warned : twin.state.warnings = inner := by rw [same]
  constructor
  · rw [spliceStep_failure, spliceStep_failure, inStep.failure]
  · cases outcome : included.failure with
    | some failure =>
        simp only [spliceStep, outcome, inStep.failure]
        exact ⟨warnings, rfl, kept⟩
    | none =>
        simp only [spliceStep, outcome, inStep.failure, written, warned]
        refine ⟨warnings ++ inner, rfl, ?_⟩
        intro holds
        exact (kept holds).append (innerKept holds)

section Compared

variable {settings : Settings} {first second : Text}

/-- Narration that is warned of with more marks is warned of with fewer. -/
theorem narrate_warnedApart (lenient : settings.strict = false) (nested others : Text → Step)
    {one other : State} (apart : WarnedApart (first ⊆ second) one other) (message : Text) :
    ((Deed.narrate message).perform (settings.endedBy first) nested one).InStep
      (WarnedApart (first ⊆ second))
      ((Deed.narrate message).perform (settings.endedBy second) others other) := by
  obtain ⟨warnings, rfl, kept⟩ := apart
  have neither : ∀ marks, (settings.endedBy marks).strict = false := fun _ => lenient
  simp only [Deed.perform_narrate, neither]
  cases firstEnds : (settings.endedBy first).terminates message with
  | true =>
      cases secondEnds : (settings.endedBy second).terminates message with
      | true => exact ⟨rfl, warnings, rfl, kept⟩
      | false =>
          refine ⟨rfl, _, rfl, ?_⟩
          intro within
          rw [Settings.terminates_mono within firstEnds] at secondEnds
          cases secondEnds
  | false =>
      cases secondEnds : (settings.endedBy second).terminates message with
      | true =>
          refine ⟨rfl, warnings, rfl, ?_⟩
          intro within
          exact (kept within).trans (List.sublist_append_left _ _)
      | false =>
          refine ⟨rfl, _, rfl, ?_⟩
          intro within
          exact (kept within).append (List.Sublist.refl _)

theorem Deed.perform_warnedApart (lenient : settings.strict = false) {nested others : Text → Step}
    (inStep : ∀ text, (nested text).InStep (WarnedApart (first ⊆ second)) (others text))
    {one other : State} (apart : WarnedApart (first ⊆ second) one other) (deed : Deed) :
    (deed.perform (settings.endedBy first) nested one).InStep (WarnedApart (first ⊆ second))
      (deed.perform (settings.endedBy second) others other) := by
  cases deed with
  | narrate message => exact narrate_warnedApart lenient nested others apart message
  | splice text => exact spliceStep_warnedApart apart (inStep text)
  | write memory level content =>
      obtain ⟨warnings, rfl, kept⟩ := apart
      exact ⟨rfl, warnings, rfl, kept⟩
  | refuse fault =>
      obtain ⟨warnings, rfl, kept⟩ := apart
      exact ⟨rfl, warnings, rfl, kept⟩
  | breakOff breakdown => exact ⟨rfl, apart⟩

variable (files : Option FileAccess)

theorem lineStep_warnedApart (lenient : settings.strict = false) {depth : Nat}
    (inStep : ∀ text, (compileIncluded (settings.endedBy first) files depth text).InStep
      (WarnedApart (first ⊆ second)) (compileIncluded (settings.endedBy second) files depth text))
    {one other : State} (apart : WarnedApart (first ⊆ second) one other) (line : Text) :
    (lineStep (settings.endedBy first) files depth one line).InStep (WarnedApart (first ⊆ second))
      (lineStep (settings.endedBy second) files depth other line) := by
  obtain ⟨notes, _, goes⟩ := lineStep_performs (settings.endedBy first) files depth one line
  obtain ⟨others, _, follows⟩ := lineStep_performs (settings.endedBy second) files depth other line
  have memory : other.memory = one.memory := by
    obtain ⟨warnings, rfl, _⟩ := apart
    rfl
  rw [goes, follows, memory]
  exact (Deed.perform_warnedApart lenient inStep (apart.boosted _) _).logging _ _

variable (first second) in
/-- The induction is on the inclusions that may still be opened, so that a text that is put in has
already been compared. -/
theorem compileIncluded_warnedApart (lenient : settings.strict = false) (depth : Nat) (text : Text) :
    (compileIncluded (settings.endedBy first) files depth text).InStep (WarnedApart (first ⊆ second))
      (compileIncluded (settings.endedBy second) files depth text) := by
  induction depth generalizing text with
  | zero => exact ⟨rfl, WarnedApart.refl _ _⟩
  | succ depth ih =>
      rw [compileIncluded_succ, compileIncluded_succ]
      apply compileLines_inStep
      apply runLines_inStep _ (WarnedApart.refl _ _)
      intro before line after state twin _ _ apart
      exact lineStep_warnedApart files lenient ih apart line

end Compared

end Compiler

open Compiler

/-- Without strictness the marks that may end narration decide nothing but the warnings: the script
or the diagnostic is the same, or the same breakdown. If all the first marks are among the second,
what is warned of with the second is warned of with the first, in the same order. -/
theorem narration_marks_decide_warnings_only (settings : Settings) (files : Option FileAccess)
    (text first second : Text) (lenient : settings.strict = false) :
    let one := compile (settings.endedBy first) files text
    let other := compile (settings.endedBy second) files text
    ∃ warnings, other.outcome = one.outcome.map (Outcome.withWarnings warnings) ∧
      (first ⊆ second → ∀ outcome, one.outcome = .ok outcome → warnings.Sublist outcome.warnings) := by
  intro one other
  obtain ⟨failure, warnings, state, kept⟩ :=
    compileIncluded_warnedApart first second files lenient (includeDepth files + 1) text
  refine ⟨warnings, Compilation.ofStep_outcome_withWarnings settings.indentUnit failure state, ?_⟩
  intro within outcome returned
  rw [compile_warnings returned]
  exact kept within

/-- Two of the narrations end in a mark that only the second settings take, one of them in a file
that is put in, and both compilations fail at the last line. -/
theorem narration_marks_decide_warnings_only_nested :
    let files : Option FileAccess := some (.ofBindings ⟨[("a".toList, .ok "「x！」\n「y」".toList)]⟩)
    let text := "$include a\n「z！」\n「w。」\n?".toList
    let fails : Diagnostic := ⟨.invalidLine, 4, some "?".toList⟩
    (compile { terminators := "。".toList } files text).outcome =
        .ok (.rejected fails [⟨1⟩, ⟨2⟩, ⟨2⟩]) ∧
      (compile { terminators := "！。".toList } files text).outcome = .ok (.rejected fails [⟨2⟩]) ∧
      ∃ warnings, (compile { terminators := "！。".toList } files text).outcome =
          .ok (.rejected fails warnings) ∧ warnings.Sublist [⟨1⟩, ⟨2⟩, ⟨2⟩] := by
  intro files text fails
  have one : (compile { terminators := "。".toList } files text).outcome =
      .ok (.rejected fails [⟨1⟩, ⟨2⟩, ⟨2⟩]) := by decide +kernel
  obtain ⟨warnings, same, kept⟩ := narration_marks_decide_warnings_only {} files text "。".toList
    "！。".toList rfl
  refine ⟨one, by decide +kernel, warnings, ?_, kept (List.subset_cons_self '！' _) _ one⟩
  exact same.trans (congrArg (Except.map (Outcome.withWarnings warnings)) one)

end SceneNotation
