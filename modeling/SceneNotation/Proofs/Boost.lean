import SceneNotation.Proofs.Inlining
import SceneNotation.Proofs.Invariant
import SceneNotation.Proofs.Layout

/- Boosts are taken off a line before it is read, and whatever it is read as, it
   writes once. So they have no part in what the line does or whether it fails: they
   stand as that many units of indent in front of what it would have written without
   them, be that nothing visible, the header of a block or the whole of a file. -/
namespace SceneNotation

namespace Compiler

namespace Emission

/-- Moves the first emission in and leaves the rest where they are. -/
def raised (count : Nat) : List Emission → List Emission
  | [] => []
  | first :: rest => ⟨first.level + count, first.content⟩ :: rest

theorem indented_boosted {level : Int} (nonneg : 0 ≤ level) (boost count : Nat) (content : Text) :
    [indented (boost + count) level content] = raised count [indented boost level content] := by
  have moved : ((if content.isEmpty then 0 else level) + (boost + count : Nat)).toNat =
      ((if content.isEmpty then 0 else level) + boost).toNat + count := by
    split <;> omega
  simp only [raised, indented, moved]

theorem spliced_boosted (boost count : Nat) (emissions : List Emission) :
    spliced (boost + count) emissions = raised count (spliced boost emissions) := by
  cases emissions with
  | nil => rfl
  | cons first rest => simp [spliced, raised, Nat.add_assoc]

theorem render_raised (unit : Text) (count : Nat) {emissions : List Emission} (some : emissions ≠ []) :
    (raised count emissions).flatMap (render unit) =
      (List.replicate count unit).flatten ++ emissions.flatMap (render unit) := by
  obtain ⟨first, rest, rfl⟩ := List.exists_cons_of_ne_nil some
  simp [raised, render_deeper]

end Emission

theorem Deed.emissions_boosted {deed : Deed} (shallow : deed.Shallow) (nested : Text → Step)
    (memory : Memory) (boost count : Nat) :
    deed.emissions nested memory (boost + count) =
      Emission.raised count (deed.emissions nested memory boost) := by
  cases deed with
  | write next level content => exact Emission.indented_boosted shallow.1 boost count content
  | narrate message =>
      exact Emission.indented_boosted (mode_level_bounds memory.mode).1 boost count _
  | splice text => exact Emission.spliced_boosted boost count _
  | refuse fault => rfl
  | breakOff breakdown => rfl

section Lines

variable {settings : Settings} {files : Option FileAccess} {depth : Nat} {state : State} {line : Text}

theorem State.ReadsNotation.deed_boosted (reads : state.ReadsNotation) (nonempty : line ≠ [])
    (files : Option FileAccess) (count : Nat) :
    state.memory.deed files (boostText count ++ line) = state.memory.deed files line := by
  rw [reads.deed_eq files (List.append_ne_nil_of_right_ne_nil _ nonempty), reads.deed_eq files nonempty,
    splitBoosts_boostText]

theorem State.ReadsNotation.boosts_boosted (reads : state.ReadsNotation) (line : Text) (count : Nat) :
    state.memory.boosts (boostText count ++ line) = state.memory.boosts line + count := by
  rw [reads.boosts_eq, reads.boosts_eq, splitBoosts_boostText]

theorem lineStep_boosted_failure (reads : state.ReadsNotation) (nonempty : line ≠ []) (count : Nat) :
    (lineStep settings files depth state (boostText count ++ line)).failure =
      (lineStep settings files depth state line).failure := by
  obtain ⟨_, _, plain⟩ := lineStep_performs settings files depth state line
  obtain ⟨_, _, moved⟩ := lineStep_performs settings files depth state (boostText count ++ line)
  rw [plain, moved, Step.logging_failure, Step.logging_failure, Deed.perform_failure,
    Deed.perform_failure, reads.deed_boosted nonempty]
  rfl

theorem lineStep_boosted_state (reads : state.ReadsNotation) (nonempty : line ≠ []) (count : Nat)
    (done : (lineStep settings files depth state line).failure = none) :
    ∃ emissions, emissions ≠ [] ∧
      (lineStep settings files depth state line).state.emissions = state.emissions ++ emissions ∧
      (lineStep settings files depth state (boostText count ++ line)).state =
        { (lineStep settings files depth state line).state with
          emissions := state.emissions ++ Emission.raised count emissions } := by
  have moved := (lineStep_boosted_failure reads nonempty count).trans done
  obtain ⟨_, _, same⟩ := lineStep_performs settings files depth state line
  have performed := done
  rw [same, Step.logging_failure] at performed
  refine ⟨_, Deed.emissions_ne_nil performed state.memory (state.boost + state.memory.boosts line), ?_, ?_⟩
  · rw [lineStep_state_of_done done]
    rfl
  · rw [lineStep_state_of_done done, lineStep_state_of_done moved, reads.deed_boosted nonempty,
      reads.boosts_boosted, ← Nat.add_assoc,
      Deed.emissions_boosted (state.memory.deed_shallow files line)]
    rfl

end Lines

end Compiler

open Compiler Instruction

namespace Session

/-- Boosts in front of a line change neither whether it fails nor what it leaves, except that what it
writes begins further in. -/
theorem boosts_only_move_in (session : Session) (line : Text) (count : Nat)
    (builtin : session.context.registry = Registry.builtin) (reads : session.state.ReadsNotation)
    (nonempty : line ≠ []) :
    let plain := session.line line
    let moved := session.line (boostText count ++ line)
    moved.failure = plain.failure ∧
    (plain.failure = none →
      moved.state = { plain.state with emissions := moved.state.emissions } ∧
      ∃ written, (session.after plain).output = session.output ++ written ∧
        (session.after moved).output = session.output ++
          ((List.replicate count session.context.settings.indentUnit).flatten ++ written)) := by
  intro plain moved
  have process := processLine_builtin builtin
  have plain_eq : plain = _ := congrFun₂ process session.state line
  have moved_eq : moved = _ := congrFun₂ process session.state (boostText count ++ line)
  refine ⟨?_, ?_⟩
  · rw [plain_eq, moved_eq]
    exact lineStep_boosted_failure reads nonempty count
  · intro done
    rw [plain_eq] at done
    obtain ⟨emissions, some, written, same⟩ := lineStep_boosted_state reads nonempty count done
    rw [← plain_eq] at written same
    rw [← moved_eq] at same
    refine ⟨by rw [same], emissions.flatMap (Emission.render session.context.settings.indentUnit), ?_, ?_⟩
    · simp only [output, after, State.output, written, List.flatMap_append]
    · rw [← Emission.render_raised _ count some]
      simp only [output, after, State.output, same, List.flatMap_append]

/-- An inclusion with a boost already in front. Of the file only the first line moves in. -/
theorem boosts_only_move_in_included :
    let access := FileAccess.ofBindings ⟨[("p".toList, .ok "「gone」\n$python\nx".toList)]⟩
    let session : Session :=
      { context := { settings := { indentUnit := ['\t'] }, files := some access }
        state := { emissions := [⟨0, "label a:".toList⟩], line := 4, decorations := [.bold] } }
    let plain := session.line "%in%$include p".toList
    let moved := session.line (boostText 2 ++ "%in%$include p".toList)
    (session.after plain).output = session.output ++ "\t\t\"gone\"\npython:\n\tx\n\n".toList ∧
      moved.failure = none ∧ moved.state.line = 5 ∧ moved.state.warnings = [⟨1⟩] ∧
      (session.after moved).output =
        session.output ++ ("\t\t".toList ++ "\t\t\"gone\"\npython:\n\tx\n\n".toList) := by
  intro access session plain moved
  have done : plain.failure = none := by decide +kernel
  have output : (session.after plain).output =
      session.output ++ "\t\t\"gone\"\npython:\n\tx\n\n".toList := by decide +kernel
  obtain ⟨failure, rest⟩ := boosts_only_move_in session "%in%$include p".toList 2 rfl ⟨rfl, rfl⟩
    (by decide)
  obtain ⟨same, written, before, after⟩ := rest done
  obtain rfl := List.append_cancel_left (before.symm.trans output)
  refine ⟨output, failure.trans done, ?_, ?_, after⟩
  · rw [show moved.state = _ from same]
    decide +kernel
  · rw [show moved.state = _ from same]
    decide +kernel

end Session

end SceneNotation
