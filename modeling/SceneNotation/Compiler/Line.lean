import SceneNotation.Compiler.Instruction

/- A skipped line is blank, and only the exact closing line of a conditional ends
   one level of skipping. Otherwise a line in another mode than `scenario` passes
   through, and in `scenario` mode an empty line is blank and every other line is a
   directive. -/
namespace SceneNotation.Compiler

def conditionalEnd : Text := "$endif".toList

/-- Narration without a terminator is a warning, or fatal where settings are strict. -/
def warn (context : Context) (state : State) : Step :=
  if context.settings.strict then state.fail state.line .unendedNarration
  else
    let warning : Warning := ⟨state.line⟩
    { state := { state with warnings := state.warnings ++ [warning] }
      log := [.warning warning.message] }

def checkNarration (context : Context) (state : State) (message : Text) : Step :=
  if context.settings.terminates message then state.done else warn context state

def narrationLine (state : State) (message : Text) : Text :=
  ['"'] ++ state.effects message ++ ['"']

/-- A speaker with an alias is written by the alias's name, any other in quotes. -/
def speakerText (state : State) (speaker : Text) : Text :=
  match state.aliases.find? speaker with
  | some shown => shown
  | none => ['"'] ++ speaker ++ ['"']

def speechLine (state : State) (speaker message : Text) : Text :=
  speakerText state speaker ++ " \"「".toList ++ state.effects message ++ "」\"".toList

def processDialogue (context : Context) (state : State) (line : Text) : Step :=
  match Dialogue.ofLine line with
  | .error .unclosed => state.fail state.line .unclosedDialogue
  | .error .uncut => state.breakOff .uncut
  | .ok (.narration message) =>
      (checkNarration context state message).andThen fun state =>
        (state.emit (narrationLine state message)).done
  | .ok (.speech speaker message) => (state.emit (speechLine state speaker message)).done

def processAlias (state : State) (line : Text) : Step :=
  match CharacterAlias.ofLine line with
  | .error .malformed => state.fail state.line .malformedAlias
  | .error .uncut => state.breakOff .uncut
  | .ok given => (state.withAlias given.name given.shown).blank.done

def labelLine (name : Text) : Text :=
  "label ".toList ++ name ++ [':']

def processBody (context : Context) (compileIncluded : Text → Step) (state : State)
    (body : Text) : Step :=
  match Directive.ofLine body with
  | .label name => (state.emitAt 0 (labelLine name)).done
  | .comment line => (state.emit line).done
  | .dialogue line => processDialogue context state line
  | .aliasing line => processAlias state line
  | .verbatim content => (state.emitAt 0 content).done
  | .instruction text => dispatch context compileIncluded state (.ofText text state.line)
  | .unknown => state.fail state.line .invalidLine

def processDirective (context : Context) (compileIncluded : Text → Step) (state : State)
    (line : Text) : Step :=
  let found := splitBoosts line
  processBody context compileIncluded (state.boosted found.1) found.2

def processSkipped (state : State) (line : Text) : Step :=
  if line = conditionalEnd then
    ({ state with skipDepth := state.skipDepth - 1 } : State).blank.done
  else state.blank.done

def processVerbatim (state : State) (line : Text) : Step :=
  if state.mode.closing? = some line then
    (state.enterMode .scenario).andThen fun state => state.blank.done
  else (state.emit line).done

def processLine (context : Context) (compileIncluded : Text → Step) (state : State)
    (line : Text) : Step :=
  if 0 < state.skipDepth then processSkipped state line
  else if state.mode ≠ .scenario then processVerbatim state line
  else if line.isEmpty then state.blank.done
  else processDirective context compileIncluded state line

end SceneNotation.Compiler
