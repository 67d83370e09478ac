import Mathlib.Data.List.Forall2
import SceneNotation.Proofs.Reading
import SceneNotation.Proofs.Splice
import SceneNotation.Proofs.Warning

/- What a script says and how deep each of its lines stands is settled before the
   indent unit is asked for, also where a file's output is put in as one line of
   another. A line stands no deeper than the deepest mode, but for the boosts on the
   source lines that lead to it. -/
namespace SceneNotation

def Settings.indentedBy (settings : Settings) (unit : Text) : Settings :=
  { settings with indentUnit := unit }

def Outcome.withScript (script : Text) : Outcome → Outcome
  | .compiled _ warnings => .compiled script warnings
  | .rejected diagnostic warnings => .rejected diagnostic warnings

theorem Compilation.ofStep_outcome_withScript (unit other : Text) (step : Compiler.Step) :
    (Compilation.ofStep other step).outcome =
      (Compilation.ofStep unit step).outcome.map (Outcome.withScript (step.state.output other)) := by
  unfold Compilation.ofStep
  rcases step.failure with _ | _ | _ <;> rfl

namespace Compiler

open Instruction

section Units

variable (settings : Settings) (unit : Text) (files : Option FileAccess) (nested : Text → Step)
  (state : State)

theorem Deed.perform_indentedBy (deed : Deed) :
    deed.perform (settings.indentedBy unit) nested state = deed.perform settings nested state := by
  cases deed <;> rfl

theorem lineStep_indentedBy {depth : Nat}
    (inStep : ∀ text, (compileIncluded (settings.indentedBy unit) files depth text).InStep Eq
      (compileIncluded settings files depth text)) (line : Text) :
    (lineStep (settings.indentedBy unit) files depth state line).InStep Eq
      (lineStep settings files depth state line) := by
  obtain ⟨notes, _, goes⟩ := lineStep_performs (settings.indentedBy unit) files depth state line
  obtain ⟨others, _, follows⟩ := lineStep_performs settings files depth state line
  rw [goes, follows, Deed.perform_indentedBy]
  exact (Deed.perform_inStep settings (fun text _ => inStep text) _).logging notes others

theorem compileIncluded_indentedBy (depth : Nat) (text : Text) :
    (compileIncluded (settings.indentedBy unit) files depth text).InStep Eq
      (compileIncluded settings files depth text) := by
  induction depth generalizing text with
  | zero => exact ⟨rfl, rfl⟩
  | succ depth ih =>
      rw [compileIncluded_succ, compileIncluded_succ]
      apply compileLines_inStep
      apply runLines_inStep _ rfl
      intro before line after state twin _ _ same
      subst same
      exact lineStep_indentedBy settings unit files state ih line

end Units

theorem mode_level_bounds (mode : Mode) : 0 ≤ mode.level ∧ mode.level ≤ 2 := by
  cases mode <;> decide

theorem header_level_bounds {mode : Mode} {level : Int} (headed : mode.headerLevel? = some level) :
    0 ≤ level ∧ level ≤ 2 := by
  cases mode <;> cases headed <;> decide

/-- What is written without a boost stands at most two levels deep, and never further out than the
margin. -/
def Deed.Shallow : Deed → Prop
  | .write _ level _ => 0 ≤ level ∧ level ≤ 2
  | .narrate _ | .splice _ | .refuse _ | .breakOff _ => True

namespace Memory

variable (memory : Memory)

theorem deed_shallow (files : Option FileAccess) (line : Text) : (memory.deed files line).Shallow := by
  have margin : (0 : Int) ≤ 0 ∧ (0 : Int) ≤ 2 := by decide
  have rule := memory.reading_reads line
  unfold deed
  generalize memory.reading line = reading at rule
  cases rule with
  | resumes | skips | leaves | empty => exact margin
  | copies => exact mode_level_bounds memory.mode
  | means _ _ means =>
      cases means with
      | comment | speech => exact mode_level_bounds memory.mode
      | opens _ _ headed => exact header_level_bounds headed
      | inclusion =>
          exact Reading.inclusion_cases files _ (fun _ => trivial) (fun _ => trivial) fun _ => trivial
      | label | verbatim | aliasing | enters | style | endStyle | define | ifDefined | ifUndefined
      | endIf => exact margin
      | narration | unclosed | unsplit | malformed | undecorated | unknown | miscounted | invalid =>
          trivial

end Memory

/-- The source lines that lead to a line of output: inclusions from the outside in, and last the
line that wrote it. -/
abbrev Trail := List Text

/-- The boosts on all the lines of a trail. -/
def Trail.boosts : Trail → Nat
  | [] => 0
  | line :: rest => (splitBoosts line).1 + Trail.boosts rest

/-- Where what a deed writes comes from. A text that is put in brings its own trails, and one line
more is written by the inclusion itself. -/
def Deed.trails (nested : Text → List Trail) (line : Text) : Deed → List Trail
  | .splice text => (nested text).map (line :: ·) ++ [[line]]
  | .write _ _ _ | .narrate _ | .refuse _ | .breakOff _ => [[line]]

theorem Deed.trails_alone {deed : Deed} (alone : ∀ text, deed ≠ .splice text)
    (nested : Text → List Trail) (line : Text) : deed.trails nested line = [[line]] := by
  cases deed with
  | splice text => exact absurd rfl (alone text)
  | write memory level content => rfl
  | narrate message => rfl
  | refuse fault => rfl
  | breakOff breakdown => rfl

def Memory.trails (files : Option FileAccess) (nested : Text → List Trail) :
    Memory → List Text → List Trail
  | _, [] => []
  | memory, line :: rest =>
      (memory.deed files line).trails nested line ++
        Memory.trails files nested ((memory.deed files line).recalled memory) rest

/-- The trails of all the lines that a text writes, in order. -/
def trails (files : Option FileAccess) : (depth : Nat) → Text → List Trail
  | 0, _ => []
  | depth + 1, text => Memory.trails files (trails files depth) {} (Text.sourceLines text)

/-- An emission is no deeper than its trail allows. -/
def Within (emission : Emission) (trail : Trail) : Prop :=
  emission.level ≤ 2 + Trail.boosts trail

theorem Within.cons {emission : Emission} {trail : Trail} (within : Within emission trail)
    {line : Text} {boost : Nat} (counted : boost ≤ (splitBoosts line).1) :
    Within ⟨emission.level + boost, emission.content⟩ (line :: trail) := by
  unfold Within at within ⊢
  rw [Trail.boosts]
  change emission.level + boost ≤ _
  omega

theorem Within.single {level boost : Nat} {line : Text} (shallow : level ≤ 2 + boost)
    (counted : boost ≤ (splitBoosts line).1) (content : Text) : Within ⟨level, content⟩ [line] := by
  simp only [Within, Trail.boosts]
  omega

theorem indented_level_le {level : Int} (shallow : level ≤ 2) (boost : Nat) (content : Text) :
    (Emission.indented boost level content).level ≤ 2 + boost := by
  simp only [Emission.indented]
  split <;> omega

theorem spliced_within {emissions : List Emission} {inner : List Trail}
    (within : List.Forall₂ Within emissions inner) {line : Text} {boost : Nat}
    (counted : boost ≤ (splitBoosts line).1) :
    List.Forall₂ Within (Emission.spliced boost emissions) (inner.map (line :: ·) ++ [[line]]) := by
  cases within with
  | nil => exact .cons (.single (Nat.le_add_left _ _) counted []) .nil
  | @cons first trail rest others here later =>
      have unmoved : List.Forall₂ Within rest (others.map (line :: ·)) := by
        rw [List.forall₂_map_right_iff]
        exact later.imp fun emission trail within => within.cons (Nat.zero_le _)
      have last : List.Forall₂ Within [(⟨0, []⟩ : Emission)] [[line]] :=
        .cons (.single (Nat.zero_le _) counted []) .nil
      exact .cons (here.cons counted) (List.rel_append unmoved last)

section Runs

variable {settings : Settings} {files : Option FileAccess} {depth : Nat} {state next : State}
  {lines : List Text}

/-- Texts that go through write no deeper than their trails allow. -/
def Bounded (nested : Text → Step) (origins : Text → List Trail) : Prop :=
  ∀ text, (nested text).failure = none →
    List.Forall₂ Within (nested text).state.emissions (origins text)

theorem Deed.emissions_within {nested : Text → Step} {origins : Text → List Trail}
    (bounded : Bounded nested origins) {deed : Deed} (shallow : deed.Shallow)
    (done : (deed.perform settings nested state).failure = none) {boost : Nat} {line : Text}
    (counted : boost ≤ (splitBoosts line).1) (memory : Memory) :
    List.Forall₂ Within (deed.emissions nested memory boost) (deed.trails origins line) := by
  cases deed with
  | write memory level content =>
      exact .cons (.single (indented_level_le shallow.2 boost content) counted content) .nil
  | narrate message =>
      exact .cons (.single (indented_level_le (mode_level_bounds memory.mode).2 boost _) counted _) .nil
  | splice text =>
      have inner : (nested text).failure = none := by rwa [perform, spliceStep_failure] at done
      exact spliced_within (bounded text inner) counted
  | refuse fault => cases done
  | breakOff breakdown => cases done

theorem boosts_le (memory : Memory) (line : Text) : memory.boosts line ≤ (splitBoosts line).1 := by
  unfold Memory.boosts
  split
  · exact Nat.le_refl _
  · exact Nat.zero_le _

theorem GoesThrough.within
    (bounded : Bounded (compileIncluded settings files depth) (trails files depth))
    (through : GoesThrough (lineStep settings files depth) state lines next)
    (unboosted : state.boost = 0) :
    ∃ added, next.emissions = state.emissions ++ added ∧
      List.Forall₂ Within added (Memory.trails files (trails files depth) state.memory lines) := by
  induction lines generalizing state with
  | nil =>
      rw [← through.ends]
      exact ⟨[], (List.append_nil _).symm, .nil⟩
  | cons line rest ih =>
      obtain ⟨done, later⟩ := through.uncons
      have performed := done
      obtain ⟨notes, _, same⟩ := lineStep_performs settings files depth state line
      rw [same, Step.logging_failure] at performed
      have here := Deed.emissions_within bounded (state.memory.deed_shallow files line) performed
        (boosts_le state.memory line) state.memory
      have left := lineStep_state_of_done done
      rw [unboosted, Nat.zero_add] at left
      obtain ⟨added, written, within⟩ := ih later (lineStep_unboosted done)
      rw [left] at written within
      exact ⟨_, by rw [written]; exact List.append_assoc _ _ _, List.rel_append here within⟩

variable (settings files depth) in
theorem compileIncluded_bounded : Bounded (compileIncluded settings files depth) (trails files depth) := by
  induction depth with
  | zero =>
      intro text done
      cases done
  | succ depth ih =>
      intro text done
      obtain ⟨added, written, within⟩ := GoesThrough.within ih (compileIncluded_goesThrough done) rfl
      rw [written]
      exact within

end Runs

section Leads

variable (settings : Settings) (files : Option FileAccess)

/-- The trail goes through inclusions that are executed to a line that is come to. -/
inductive LeadsTo : Text → Trail → Prop
  | own {text line : Text} {before : List Text} {state : State}
      (arrives : Arrives settings files text before line state) : LeadsTo text [line]
  | inner {text line path inner : Text} {before : List Text} {state : State} {trail : Trail}
      (arrives : Arrives settings files text before line state)
      (includes : Includes files state line path inner) (leads : LeadsTo inner trail) :
      LeadsTo text (line :: trail)

variable {settings files} {depth : Nat} {text line : Text} {before : List Text} {state : State}

theorem Arrives.trails_lead (arrives : Arrives settings files text before line state)
    (done : (lineStep settings files depth state line).failure = none)
    (nested : ∀ inner, (compileIncluded settings files depth inner).failure = none →
      ∀ trail ∈ trails files depth inner, LeadsTo settings files inner trail) :
    ∀ trail ∈ (state.memory.deed files line).trails (trails files depth) line,
      LeadsTo settings files text trail := by
  intro trail listed
  by_cases spliced : ∃ inner, state.memory.deed files line = .splice inner
  · obtain ⟨inner, read⟩ := spliced
    obtain ⟨path, includes⟩ := includes_of_deed read
    rw [lineStep_failure_of_includes includes] at done
    rw [read, Deed.trails, List.mem_append, List.mem_singleton] at listed
    rcases listed with listed | rfl
    · obtain ⟨later, member, rfl⟩ := List.mem_map.mp listed
      exact .inner arrives includes (nested inner done later member)
    · exact .own arrives
  · rw [Deed.trails_alone (not_exists.mp spliced), List.mem_singleton] at listed
    rw [listed]
    exact .own arrives

theorem GoesThrough.trails_lead {lines : List Text} {next : State}
    (through : GoesThrough (lineStep settings files depth) state lines next)
    (placed : Text.sourceLines text = before ++ lines)
    (reached : GoesThrough (lineStep settings files depth) {} before state)
    (nested : ∀ inner, (compileIncluded settings files depth inner).failure = none →
      ∀ trail ∈ trails files depth inner, LeadsTo settings files inner trail) :
    ∀ trail ∈ Memory.trails files (trails files depth) state.memory lines,
      LeadsTo settings files text trail := by
  induction lines generalizing state before with
  | nil =>
      intro trail listed
      cases listed
  | cons line rest ih =>
      obtain ⟨done, later⟩ := through.uncons
      intro trail listed
      rcases List.mem_append.mp listed with here | listed
      · have arrives : Arrives settings files text before line state :=
          ⟨⟨rest, placed⟩, ⟨depth, reached⟩⟩
        exact arrives.trails_lead done nested trail here
      · refine ih later (by simp [placed]) (reached.append (.single done)) trail ?_
        rw [lineStep_state_of_done done]
        exact listed

theorem trails_lead (done : (compileIncluded settings files depth text).failure = none) :
    ∀ trail ∈ trails files depth text, LeadsTo settings files text trail := by
  induction depth generalizing text with
  | zero => cases done
  | succ depth ih =>
      exact GoesThrough.trails_lead (compileIncluded_goesThrough done) (List.nil_append _).symm .nil
        fun inner => ih

end Leads

end Compiler

open Compiler

/-- The lines that a text comes to, each with its level. -/
def layout (settings : Settings) (files : Option FileAccess) (text : Text) : List (Nat × Text) :=
  (compileIncluded settings files (includeDepth files + 1) text).state.emissions.map
    fun emission => (emission.level, emission.content)

/-- The lines of a script, each with its level, do not depend on the indent unit, and neither does
anything else that a compilation comes to. Each line has a trail of source lines that lead to it,
and stands at most two levels deeper than there are boosts on them. -/
theorem script_layout_independent_of_unit (settings : Settings) (files : Option FileAccess)
    (text : Text) :
    let pieces := layout settings files text
    (∀ unit, (compile (settings.indentedBy unit) files text).outcome =
      (compile settings files text).outcome.map (Outcome.withScript (pieces.flatMap
        fun piece => (List.replicate piece.1 unit).flatten ++ piece.2 ++ ['\n']))) ∧
    ∀ script warnings, (compile settings files text).outcome = .ok (.compiled script warnings) →
      let origins := trails files (includeDepth files + 1) text
      List.Forall₂ (fun piece trail => piece.1 ≤ 2 + Trail.boosts trail) pieces origins ∧
        ∀ trail ∈ origins, LeadsTo settings files text trail := by
  let step := compileIncluded settings files (includeDepth files + 1) text
  intro pieces
  constructor
  · intro unit
    have inStep := compileIncluded_indentedBy settings unit files (includeDepth files + 1) text
    have same : (compile (settings.indentedBy unit) files text).outcome =
        (Compilation.ofStep unit step).outcome :=
      Compilation.ofStep_outcome_congr unit inStep.state inStep.failure.symm
    have rendered : step.state.output unit = pieces.flatMap
        fun piece => (List.replicate piece.1 unit).flatten ++ piece.2 ++ ['\n'] := by
      rw [show pieces = step.state.emissions.map _ from rfl, List.flatMap_map]
      exact congrArg step.state.emissions.flatMap (funext (Emission.render_eq unit))
    rw [same, ← rendered]
    exact Compilation.ofStep_outcome_withScript settings.indentUnit unit step
  · intro script warnings compiled origins
    have done := compile_compiled compiled
    refine ⟨?_, trails_lead done⟩
    rw [show pieces = step.state.emissions.map _ from rfl, List.forall₂_map_left_iff]
    exact compileIncluded_bounded settings files _ text done

/-- An inclusion inside an inclusion, each with boosts: only the first line that each brings moves in,
and each writes a line of its own. -/
theorem script_layout_nested :
    let files : Option FileAccess := some (.ofBindings
      ⟨[("a".toList, .ok "%in%B「x」\n%in%%in%$include b".toList), ("b".toList, .ok ":raw\n$inpy\ny".toList)]⟩)
    let text := "%in%$include a\n「z。」".toList
    let outer := "%in%$include a".toList
    let inner := "%in%%in%$include b".toList
    let pieces := [(3, "\"B\" \"「x」\"".toList), (2, "raw".toList), (1, "python:".toList), (2, ['y']),
      (0, []), (0, []), (1, "\"z。\"".toList)]
    (∀ unit, (compile { indentUnit := unit } files text).outcome = .ok (.compiled (pieces.flatMap
      fun piece => (List.replicate piece.1 unit).flatten ++ piece.2 ++ ['\n']) [])) ∧
    List.Forall₂ (fun piece trail => piece.1 ≤ 2 + Trail.boosts trail) pieces
      [[outer, "%in%B「x」".toList], [outer, inner, ":raw".toList], [outer, inner, "$inpy".toList],
        [outer, inner, "y".toList], [outer, inner], [outer], ["「z。」".toList]] := by
  intro files text outer inner pieces
  obtain ⟨same, limits⟩ := script_layout_independent_of_unit {} files text
  have laid : layout {} files text = pieces := by decide +kernel
  have compiled : (compile {} files text).outcome = .ok (.compiled
      "            \"B\" \"「x」\"\n        raw\n    python:\n        y\n\n\n    \"z。\"\n".toList []) := by
    decide +kernel
  have origins : trails files (includeDepth files + 1) text =
      [[outer, "%in%B「x」".toList], [outer, inner, ":raw".toList], [outer, inner, "$inpy".toList],
        [outer, inner, "y".toList], [outer, inner], [outer], ["「z。」".toList]] := by decide +kernel
  rw [← origins, ← laid]
  refine ⟨fun unit => ?_, (limits _ _ compiled).1⟩
  have indented := same unit
  rw [compiled] at indented
  exact indented

end SceneNotation
