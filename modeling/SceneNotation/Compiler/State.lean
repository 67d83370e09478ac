import SceneNotation.Bindings
import SceneNotation.Decoration
import SceneNotation.Diagnostic
import SceneNotation.Settings

/- What a compilation has written so far and what it remembers. Output is a list of
   emissions, each a level and a content; the indent unit only comes in when the
   emissions are rendered. -/
namespace SceneNotation.Compiler

structure Emission where
  level : Nat
  content : Text
  deriving DecidableEq, Repr

namespace Emission

def render (unit : Text) (emission : Emission) : Text :=
  Text.repeated unit emission.level ++ emission.content ++ ['\n']

/-- Output that is put in as one line: its first emission moves in by the boost, and the line
it was put in as ends in a line feed of its own. -/
def spliced (boost : Nat) : List Emission → List Emission
  | [] => [⟨boost, []⟩]
  | first :: rest => ⟨first.level + boost, first.content⟩ :: rest ++ [⟨0, []⟩]

theorem render_eq (unit : Text) (emission : Emission) :
    emission.render unit =
      (List.replicate emission.level unit).flatten ++ emission.content ++ ['\n'] := by
  rw [render, Text.repeated_eq]

theorem render_deeper (unit : Text) (level count : Nat) (content : Text) :
    render unit ⟨level + count, content⟩ =
      (List.replicate count unit).flatten ++ render unit ⟨level, content⟩ := by
  rw [render_eq, render_eq, Nat.add_comm, ← List.replicate_append_replicate, List.flatten_append]
  simp only [List.append_assoc]

/-- As text, what is put in is the output itself behind the boost, and a line feed. -/
theorem render_spliced (unit : Text) (boost : Nat) (emissions : List Emission) :
    (spliced boost emissions).flatMap (render unit) =
      Text.repeated unit boost ++ emissions.flatMap (render unit) ++ ['\n'] := by
  rw [Text.repeated_eq]
  cases emissions with
  | nil => simp [spliced, render_eq]
  | cons first rest =>
      have blank : render unit ⟨0, []⟩ = ['\n'] := by
        rw [render_eq]
        rfl
      simp [spliced, render_deeper, blank]

end Emission

structure State where
  emissions : List Emission := []
  line : Nat := 1
  mode : Mode := .scenario
  boost : Nat := 0
  aliases : Bindings Text := {}
  decorations : List Decoration := []
  substitutions : Bindings Text := {}
  skipDepth : Nat := 0
  warnings : List Warning := []
  deriving DecidableEq, Repr

namespace State

def output (state : State) (unit : Text) : Text :=
  state.emissions.flatMap (Emission.render unit)

/-- Adds emissions as one output line. The boost is spent. -/
def append (state : State) (emissions : List Emission) : State :=
  { state with emissions := state.emissions ++ emissions, line := state.line + 1, boost := 0 }

theorem output_append (state : State) (emissions : List Emission) (unit : Text) :
    (state.append emissions).output unit = state.output unit ++ emissions.flatMap (Emission.render unit) := by
  simp only [output, append, List.flatMap_append]

/-- An empty line has no level of its own, only the boost. -/
def emitAt (state : State) (level : Int) (content : Text) : State :=
  let level := if content.isEmpty then 0 else level
  state.append [⟨(level + state.boost).toNat, content⟩]

def emit (state : State) (content : Text) : State :=
  state.emitAt state.mode.level content

/-- Uses up a source line without visible output. -/
def blank (state : State) : State :=
  state.emit []

def boosted (state : State) (count : Nat) : State :=
  { state with boost := state.boost + count }

def withAlias (state : State) (name shown : Text) : State :=
  { state with aliases := state.aliases.bind name shown }

def withSubstitution (state : State) (token replacement : Text) : State :=
  { state with substitutions := state.substitutions.bind token replacement }

def skipIf (state : State) (condition : Bool) : State :=
  if condition then { state with skipDepth := state.skipDepth + 1 } else state

/-- Decorations wrap in the order they were added, then substitutions replace in the order their
tokens were first defined, inside the tags as well. -/
def effects (state : State) (text : Text) : Text :=
  let wrapped := state.decorations.foldl (fun text decoration => decoration.wrap text) text
  state.substitutions.entries.foldl (fun text entry => Text.replaceAll entry.1 entry.2 text) wrapped

end State

end SceneNotation.Compiler
