import SceneNotation.Compiler.Line
import SceneNotation.Text.Newline

/- A text is compiled line by line, up to the first failure. An included text is
   compiled from a fresh state with the built-in instructions, and the number of
   inclusions that may be open at once is bounded: if no file comes to include
   itself, the number of files is bound enough. -/
namespace SceneNotation.Compiler

def runLines (process : State → Text → Step) : State → List Text → Step
  | state, [] => state.done
  | state, line :: rest =>
      ((process state line).foundIn line).andThen fun state => runLines process state rest

def startLog (lines : List Text) : Log :=
  [.note 2 ("Compiling ".toList ++ Text.ofNat lines.length ++ " source lines".toList)]

def endLog (state : State) : Log :=
  [.note 2 ("Emitted ".toList ++ Text.ofNat (state.line - 1) ++ " lines".toList)]

def compileLines (process : State → Text → Step) (state : State) (lines : List Text) : Step :=
  ((runLines process state lines).andThen fun state => { state, log := endLog state }).logging
    (startLog lines)

/-- Compiles an included text. `depth` is the number of compilations that may still be opened,
this one among them. -/
def compileIncluded (settings : Settings) (files : Option FileAccess) : (depth : Nat) → Text → Step
  | 0, _ => ({} : State).breakOff .endlessInclusion
  | depth + 1, text =>
      compileLines (processLine { settings, files } (compileIncluded settings files depth)) {}
        (Text.sourceLines text)

/-- The number of inclusions that can be open at once without a file including itself. -/
def includeDepth (files : Option FileAccess) : Nat :=
  match files with
  | some access => access.size
  | none => 0

end SceneNotation.Compiler
