import SceneNotation.Text.Repeated

/- What a run can be told: the indent unit, the suffix of output files, the marks
   that may end narration, whether a missing mark is fatal, and the encoding. -/
namespace SceneNotation

structure Settings where
  indentUnit : Text := "    ".toList
  outputSuffix : Text := ".rpy".toList
  terminators : Text := ['。']
  strict : Bool := false
  encoding : Text := "utf-8".toList
  deriving DecidableEq, Repr

namespace Settings

/-- The unit repeated once per level; a negative level counts as zero. -/
def indent (settings : Settings) (level : Int) : Text :=
  Text.repeated settings.indentUnit level.toNat

/-- Why there is no text for that many levels, if so. -/
def indentFault? (settings : Settings) (level : Int) : Option Text.RepeatFault :=
  Text.repeatFault? settings.indentUnit level.toNat

def indent? (settings : Settings) (level : Int) : Except Text.RepeatFault Text :=
  match settings.indentFault? level with
  | some fault => .error fault
  | none => .ok (settings.indent level)

/-- Whether narration ends in an accepted mark. Empty narration does not. -/
def terminates (settings : Settings) (narration : Text) : Bool :=
  match narration.getLast? with
  | some c => settings.terminators.contains c
  | none => false

end Settings

end SceneNotation
