import Mathlib.Logic.Function.Iterate
import SceneNotation.Proofs.Line

/- A conditional whose condition fails turns its whole block into blank lines,
   whatever the block holds short of the exact closing line. A conditional whose
   condition holds turns only its own two lines into blank ones. -/
namespace SceneNotation.Compiler

open Instruction

/-- The registry has the conditionals that it was built with. -/
structure KeepsConditionals (registry : Registry) : Prop where
  ifDefined : registry.find? "ifdef".toList = some Registry.specIfDefined
  ifUndefined : registry.find? "ifndef".toList = some Registry.specIfUndefined
  endIf : registry.find? "endif".toList = some Registry.specEndIf

/-- The line that opens a block for when the token is defined, or for when it is not. -/
def conditionLine (wanted : Bool) (token : Text) : Text :=
  commandLine (if wanted then "ifdef".toList else "ifndef".toList) token

def State.atDepth (state : State) (depth : Nat) : State :=
  { state with skipDepth := depth }

section Blanks

variable {state : State}

theorem State.atDepth_self {depth : Nat} (same : state.skipDepth = depth) :
    state.atDepth depth = state := by
  subst same
  rfl

theorem State.blanks_atDepth (state : State) (depth count : Nat) :
    State.blank^[count] (state.atDepth depth) = (State.blank^[count] state).atDepth depth := by
  induction count with
  | zero => rfl
  | succ count ih =>
      rw [Function.iterate_succ_apply', ih, Function.iterate_succ_apply']
      rfl

theorem State.blanks_skipDepth (state : State) (count : Nat) :
    (State.blank^[count] state).skipDepth = state.skipDepth := by
  induction count with
  | zero => rfl
  | succ count ih => rw [Function.iterate_succ_apply', State.blank_skipDepth, ih]

theorem State.ReadsNotation.blank (reads : state.ReadsNotation) : state.blank.ReadsNotation :=
  ⟨reads.awake, reads.scenario⟩

end Blanks

section Conditionals

variable (context : Context) (nested : Text → Step) {state : State}

theorem emptyLine_goesThrough (reads : state.ReadsNotation) :
    GoesThrough (processLine context nested) state [[]] state.blank :=
  .of_step (processLine_empty context nested reads) rfl

theorem emptyLines_goThrough (reads : state.ReadsNotation) (count : Nat) :
    GoesThrough (processLine context nested) state (List.replicate count [])
      (State.blank^[count] state) := by
  induction count generalizing state with
  | zero => exact .nil
  | succ count ih => exact (emptyLine_goesThrough context nested reads).append (ih reads.blank)

/-- While a conditional skips, a line that is not its exact end is blank, whatever it holds. -/
theorem skippedLine_goesThrough {line : Text} (skipping : 0 < state.skipDepth)
    (inside : line ≠ conditionalEnd) :
    GoesThrough (processLine context nested) state [line] state.blank := by
  have skipped : processLine context nested state line = state.blank.done := by
    rw [processLine, if_pos skipping, processSkipped, if_neg inside]
  exact .of_step skipped rfl

theorem skippedLines_goThrough {block : List Text} (skipping : 0 < state.skipDepth)
    (inside : conditionalEnd ∉ block) :
    GoesThrough (processLine context nested) state block (State.blank^[block.length] state) := by
  induction block generalizing state with
  | nil => exact .nil
  | cons line rest ih =>
      have here : line ≠ conditionalEnd := Ne.symm (List.ne_of_not_mem_cons inside)
      exact (skippedLine_goesThrough context nested skipping here).append
        (ih skipping (List.not_mem_of_not_mem_cons inside))

theorem skipEnd_goesThrough (skipping : 0 < state.skipDepth) :
    GoesThrough (processLine context nested) state [conditionalEnd]
      (state.atDepth (state.skipDepth - 1)).blank := by
  have closed : processLine context nested state conditionalEnd =
      (state.atDepth (state.skipDepth - 1)).blank.done := by
    rw [processLine, if_pos skipping, processSkipped, if_pos rfl]
    rfl
  exact .of_step closed rfl

variable {context}

theorem conditionLine_goesThrough (conditionals : KeepsConditionals context.registry)
    (wanted : Bool) {token : Text} (word : Text.IsWord token) (plain : '「' ∉ token)
    (reads : state.ReadsNotation) :
    GoesThrough (processLine context nested) state [conditionLine wanted token]
      (state.skipIf (state.substitutions.binds token != wanted)).blank := by
  have command : Text.IsWord (if wanted then "ifdef".toList else "ifndef".toList) := by
    cases wanted <;> decide
  have plainCommand : '「' ∉ (if wanted then "ifdef".toList else "ifndef".toList) := by
    cases wanted <;> decide
  have dispatched : processLine context nested state (conditionLine wanted token) = _ :=
    processLine_command 0 command word plainCommand plain reads
  cases wanted with
  | true =>
      rw [dispatch_registered conditionals.ifDefined rfl] at dispatched
      rw [Bool.bne_true]
      exact .of_step dispatched rfl
  | false =>
      rw [dispatch_registered conditionals.ifUndefined rfl] at dispatched
      rw [Bool.bne_false]
      exact .of_step dispatched rfl

theorem conditionalEnd_goesThrough (conditionals : KeepsConditionals context.registry)
    (reads : state.ReadsNotation) :
    GoesThrough (processLine context nested) state [conditionalEnd] state.blank := by
  have word : Text.IsWord "endif".toList := by decide
  have dispatched : processLine context nested state conditionalEnd = _ :=
    processLine_bareCommand word (by decide) reads
  rw [dispatch_registered conditionals.endIf rfl] at dispatched
  exact .of_step dispatched rfl

theorem failedBlock_goesThrough (conditionals : KeepsConditionals context.registry) {wanted : Bool}
    {token : Text} (word : Text.IsWord token) (plain : '「' ∉ token) (reads : state.ReadsNotation)
    (fails : state.substitutions.binds token ≠ wanted) {block : List Text}
    (inside : conditionalEnd ∉ block) :
    GoesThrough (processLine context nested) state
      (conditionLine wanted token :: (block ++ [conditionalEnd]))
      (State.blank^[block.length + 2] state) := by
  have opened := conditionLine_goesThrough nested conditionals wanted word plain reads
  have lowered : (state.skipIf (state.substitutions.binds token != wanted)).blank =
      state.blank.atDepth 1 := by
    rw [bne_iff_ne.mpr fails, State.skipIf, if_pos rfl, reads.awake]
    rfl
  rw [lowered] at opened
  have skipping : 0 < (state.blank.atDepth 1).skipDepth := Nat.one_pos
  have body := skippedLines_goThrough context nested skipping inside
  have deep : (State.blank^[block.length] (state.blank.atDepth 1)).skipDepth = 1 :=
    State.blanks_skipDepth _ _
  have closed := skipEnd_goesThrough context nested (deep ▸ Nat.one_pos)
  -- blank lines commute with the depth, so it is set and reset around nothing but blanks
  have risen : ((State.blank^[block.length] (state.blank.atDepth 1)).atDepth (1 - 1)).blank =
      State.blank^[block.length + 2] state := by
    have level : (State.blank^[block.length] state.blank).skipDepth = 0 :=
      (State.blanks_skipDepth _ _).trans reads.awake
    rw [State.blanks_atDepth, Function.iterate_succ_apply', Function.iterate_succ_apply]
    exact congrArg State.blank (State.atDepth_self level)
  rw [deep, risen] at closed
  exact opened.append (body.append closed)

theorem keptBlock_goesThrough (conditionals : KeepsConditionals context.registry) {wanted : Bool}
    {token : Text} (word : Text.IsWord token) (plain : '「' ∉ token) (reads : state.ReadsNotation)
    (holds : state.substitutions.binds token = wanted) {block : List Text} {middle : State}
    (through : GoesThrough (processLine context nested) state ([] :: block) middle)
    (after : middle.ReadsNotation) :
    GoesThrough (processLine context nested) state
      (conditionLine wanted token :: (block ++ [conditionalEnd])) middle.blank := by
  have opened := conditionLine_goesThrough nested conditionals wanted word plain reads
  rw [holds, bne_self_eq_false, State.skipIf, if_neg Bool.false_ne_true] at opened
  obtain ⟨-, body⟩ := through.uncons
  rw [processLine_empty context nested reads] at body
  exact opened.append (body.append (conditionalEnd_goesThrough nested conditionals after))

/-- Conditional compilation is block elimination. -/
theorem conditional_block_elimination (conditionals : KeepsConditionals context.registry)
    (reads : state.ReadsNotation) {token : Text} (word : Text.IsWord token) (plain : '「' ∉ token)
    (wanted : Bool) (block : List Text) :
    (state.substitutions.binds token ≠ wanted → conditionalEnd ∉ block →
      ∃ final,
        GoesThrough (processLine context nested) state
          (conditionLine wanted token :: (block ++ [conditionalEnd])) final ∧
        GoesThrough (processLine context nested) state
          (List.replicate (block.length + 2) []) final) ∧
    (state.substitutions.binds token = wanted →
      ∀ middle, GoesThrough (processLine context nested) state ([] :: block) middle →
        middle.ReadsNotation →
        ∃ final,
          GoesThrough (processLine context nested) state
            (conditionLine wanted token :: (block ++ [conditionalEnd])) final ∧
          GoesThrough (processLine context nested) state ([] :: (block ++ [[]])) final) := by
  constructor
  · intro fails inside
    exact ⟨_, failedBlock_goesThrough nested conditionals word plain reads fails inside,
      emptyLines_goThrough context nested reads _⟩
  · intro holds middle through after
    exact ⟨_, keptBlock_goesThrough nested conditionals word plain reads holds through after,
      through.append (emptyLine_goesThrough context nested after)⟩

/-- A skipped block may hold what no line may hold and open what it never closes; a kept one may
have a conditional of its own. -/
theorem conditional_block_elimination_nested :
    let context : Context := { registry := Registry.builtin }
    let process := processLine context fun _ => State.done {}
    let state : State :=
      { line := 7, substitutions := ⟨[("X".toList, "1".toList)]⟩, decorations := [.bold] }
    let unusable := ["A」「".toList, "$python".toList, "$ifdef Y".toList, "$include q".toList]
    let usable := ["$ifndef X".toList, "A」「".toList, "$endif".toList, "「said」".toList]
    let blank : Emission := ⟨0, []⟩
    let skipped := { state with emissions := [blank, blank, blank, blank, blank, blank], line := 13 }
    let kept := { state with
      emissions := [blank, blank, blank, blank, ⟨1, "\"\x7bb\x7dsaid\x7b/b\x7d\"".toList⟩, blank]
      line := 13
      warnings := [⟨11⟩] }
    (GoesThrough process state ("$ifndef X".toList :: (unusable ++ ["$endif".toList])) skipped ∧
      GoesThrough process state [[], [], [], [], [], []] skipped) ∧
    GoesThrough process state ("$ifdef X".toList :: (usable ++ ["$endif".toList])) kept ∧
      GoesThrough process state ([] :: (usable ++ [[]])) kept := by
  intro context process state unusable usable blank skipped kept
  have conditionals : KeepsConditionals context.registry := ⟨rfl, rfl, rfl⟩
  have reads : state.ReadsNotation := ⟨rfl, rfl⟩
  have word : Text.IsWord "X".toList := by decide
  have plain : '「' ∉ "X".toList := by decide
  constructor
  · obtain ⟨final, through, blanks⟩ := (conditional_block_elimination (fun _ => State.done {})
      conditionals reads word plain false unusable).1 (by decide) (by decide)
    obtain rfl : skipped = final := Eq.trans (by decide +kernel) through.ends
    exact ⟨through, blanks⟩
  · obtain ⟨final, through, between⟩ := (conditional_block_elimination (fun _ => State.done {})
      conditionals reads word plain true usable).2 rfl _ ⟨rfl, rfl⟩ ⟨rfl, rfl⟩
    obtain rfl : kept = final := Eq.trans (by decide +kernel) through.ends
    exact ⟨through, between⟩

end Conditionals

end SceneNotation.Compiler
