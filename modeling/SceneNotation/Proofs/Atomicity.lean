import SceneNotation.Proofs.Inlining

/- A line is read as a whole before anything is done, and a text that it puts in is
   compiled apart. So a line that fails, for its own fault or in a text that it puts
   in, leaves a session as it was. Only the boosts in front of it are taken off
   before the rest is read, and they stay. -/
namespace SceneNotation

namespace Compiler

section Lines

variable {settings : Settings} {files : Option FileAccess} {depth : Nat} {state : State} {line : Text}
  {failure : Failure}

theorem reads_of_failed (failed : (lineStep settings files depth state line).failure = some failure) :
    state.ReadsNotation := by
  unfold lineStep processLine at failed
  split at failed
  · unfold processSkipped at failed
    split at failed <;> cases failed
  · next awake =>
      split at failed
      · unfold processVerbatim at failed
        split at failed <;> cases failed
      · next scenario => exact ⟨Nat.eq_zero_of_not_pos awake, not_not.mp scenario⟩

end Lines

end Compiler

open Compiler Instruction

namespace Session

/-- A line that fails changes nothing but the pending boost, which grows by the boosts in front of
the line. -/
theorem failed_line_adds_boosts_only (session : Session) (line : Text) (failure : Failure)
    (builtin : session.context.registry = Registry.builtin)
    (failed : (session.line line).failure = some failure) :
    ∃ count body, line = boostText count ++ body ∧ ¬ "%in%".toList <+: body ∧
      (session.line line).state = { session.state with boost := session.state.boost + count } ∧
      (session.after (session.line line)).output = session.output := by
  have process : session.line line = _ := congrFun₂ (processLine_builtin builtin) session.state line
  rw [process] at failed ⊢
  have reads := reads_of_failed failed
  have left := lineStep_state_of_failed failed
  rw [reads.boosts_eq] at left
  obtain ⟨split, plain⟩ := splitBoosts_spec line
  refine ⟨_, _, split, plain, left, ?_⟩
  rw [after, left]
  rfl

/-- The file that is put in warns, writes and puts in another, whose second line breaks off. The
session has written and warned, and holds something in every table. -/
theorem failed_line_adds_boosts_only_nested :
    let access := FileAccess.ofBindings ⟨[("a".toList, .ok ";A:Ann\n「gone」\n$include b".toList),
      ("b".toList, .ok "$style bold\nA」「".toList)]⟩
    let session : Session :=
      { context := { files := some access }
        state := { emissions := [⟨0, "label start:".toList⟩], line := 5, boost := 1,
                   aliases := ⟨[("A".toList, "Anna".toList)]⟩, decorations := [.bold],
                   substitutions := ⟨[("x".toList, "y".toList)]⟩, warnings := [⟨2⟩] } }
    let line := "%in%%in%$include a".toList
    (session.line line).failure = some (.brokeOff .uncut) ∧
      (session.line line).state = { session.state with boost := 3 } ∧
      (session.after (session.line line)).output = "label start:\n".toList := by
  intro access session line
  have failed : (session.line line).failure = some (.brokeOff .uncut) := by decide +kernel
  have pending : (session.line line).state.boost = 3 := by decide +kernel
  obtain ⟨count, _, _, _, left, output⟩ := failed_line_adds_boosts_only session line _ rfl failed
  rw [left] at pending
  change 1 + count = 3 at pending
  obtain rfl : count = 2 := by omega
  exact ⟨failed, left, output⟩

end Session

end SceneNotation
