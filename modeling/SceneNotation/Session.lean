import SceneNotation.Compiler.Lines

/- A session is a compilation taken one step at a time. Its source text is used only
   when it is compiled as a whole, and its registry can be added to between steps. A
   step that fails leaves a session that can go on. -/
namespace SceneNotation

open Compiler

structure Session where
  context : Context := {}
  source : Text := []
  state : State := {}

namespace Session

def nested (session : Session) : Text → Step :=
  compileIncluded session.context.settings session.context.files
    (includeDepth session.context.files)

def lines (session : Session) : List Text :=
  Text.sourceLines session.source

def register (session : Session) (spec : Instruction.Spec) : Session :=
  { session with
    context := { session.context with registry := session.context.registry.register spec } }

def line (session : Session) (text : Text) : Step :=
  processLine session.context session.nested session.state text

def directive (session : Session) (text : Text) : Step :=
  processDirective session.context session.nested session.state text

def dialogue (session : Session) (text : Text) : Step :=
  processDialogue session.context session.state text

def characterAlias (session : Session) (text : Text) : Step :=
  processAlias session.state text

def compile (session : Session) : Step :=
  compileLines (processLine session.context session.nested) session.state session.lines

def emit (session : Session) (content : Text) (level? : Option Int) : Step :=
  session.state.emitAsked session.context.settings level? content

def enterMode (session : Session) (mode : Mode) : Step :=
  session.state.enterMode mode

def effects (session : Session) (text : Text) : Text :=
  session.state.effects text

def warn (session : Session) : Step :=
  Compiler.warn session.context session.state

def call (session : Session) (text : Text) (line : Int) : Step :=
  dispatch session.context session.nested session.state (.ofText text line)

def after (session : Session) (step : Step) : Session :=
  { session with state := step.state }

def output (session : Session) : Text :=
  session.state.output session.context.settings.indentUnit

end Session

end SceneNotation
