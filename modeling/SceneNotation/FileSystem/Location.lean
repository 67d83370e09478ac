import SceneNotation.Text.Basic

/- A place below the root, whether or not anything stands there. It is held from the
   inside out, with its depth in front: one part is put on or taken off in one step,
   and two places of different depth are told apart by their depth alone. -/
namespace SceneNotation

structure Location where
  depth : Nat := 0
  /-- The parts that lead from the root to the place, the last one first. -/
  upward : List Text := []
  deriving DecidableEq, Repr

namespace Location

def isRoot (place : Location) : Bool :=
  place.upward.isEmpty

def down (place : Location) (part : Text) : Location where
  depth := place.depth + 1
  upward := part :: place.upward

/-- The root is above itself. -/
def up (place : Location) : Location :=
  match place.upward with
  | [] => place
  | _ :: above => { depth := place.depth - 1, upward := above }

def ofParts (parts : List Text) : Location :=
  parts.foldl down {}

def parts (place : Location) : List Text :=
  place.upward.reverse

end Location

end SceneNotation
