import SceneNotation.Text.Basic

/- Every message carries the verbosity from which it is shown. What is shown depends
   on the verbosity of whoever listens; with no listener nothing is. -/
namespace SceneNotation

inductive Log.Entry where
  | note (level : Int) (message : Text)
  | warning (message : Text)
  deriving DecidableEq, Repr

abbrev Log := List Log.Entry

namespace Log

/-- A warning is shown from verbosity one on. -/
def Entry.level : Entry → Int
  | .note level _ => level
  | .warning _ => 1

def Entry.message : Entry → Text
  | .note _ message => message
  | .warning message => message

/-- The entries that a listener of this verbosity is shown, in order. -/
def shown (verbosity? : Option Int) (log : Log) : Log :=
  match verbosity? with
  | some verbosity => log.filter fun entry => entry.level ≤ verbosity
  | none => []

end Log

end SceneNotation
