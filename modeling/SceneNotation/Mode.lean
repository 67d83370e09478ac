import SceneNotation.Text.Quoted

/- A scenario is read in one of four modes. In `scenario` mode lines are notation;
   in the other three they pass through unchanged until the mode's own closing line,
   which must match exactly. -/
namespace SceneNotation

inductive Mode where
  | scenario
  | script
  | block
  | nestedBlock
  deriving DecidableEq, Repr

namespace Mode

def name : Mode → Text
  | .scenario => "default".toList
  | .script => "renpy".toList
  | .block => "python".toList
  | .nestedBlock => "innerpython".toList

def all : List Mode := [.scenario, .script, .block, .nestedBlock]

def ofName? (given : Text) : Option Mode :=
  all.find? fun mode => mode.name == given

def unknownMessage (given : Text) : Text :=
  Text.quoted given ++ " is not a valid Mode".toList

/-- The level of a line that is emitted without one of its own. -/
def level : Mode → Int
  | .scenario => 1
  | .script => 0
  | .block => 1
  | .nestedBlock => 2

/-- The line that closes the mode; `scenario` mode is never closed. -/
def closing? : Mode → Option Text
  | .scenario => none
  | .script => some "$endrenpy".toList
  | .block => some "$endpy".toList
  | .nestedBlock => some "$endinpy".toList

/-- The level of the block header that opens the mode, where there is one. -/
def headerLevel? : Mode → Option Int
  | .block => some 0
  | .nestedBlock => some 1
  | .scenario | .script => none

end Mode

end SceneNotation
