import SceneNotation.Compiler.Lines

/- The result of compiling a whole text: the script, or the diagnostic that stopped
   it. No part of a script comes out of a compilation that failed; warnings do. -/
namespace SceneNotation

inductive Outcome where
  | compiled (script : Text) (warnings : List Warning)
  | rejected (diagnostic : Diagnostic) (warnings : List Warning)
  deriving DecidableEq, Repr

namespace Outcome

def warnings : Outcome → List Warning
  | .compiled _ warnings => warnings
  | .rejected _ warnings => warnings

/-- The script, which is empty after a failure. -/
def script : Outcome → Text
  | .compiled script _ => script
  | .rejected _ _ => []

end Outcome

/-- A breakdown leaves no outcome, only what was logged before it. -/
structure Compilation where
  outcome : Except Breakdown Outcome
  log : Log

def failureLog (diagnostic : Diagnostic) : Log :=
  [.note 2 ("Compile failed: ".toList ++ diagnostic.message)]

def Compilation.ofStep (unit : Text) (step : Compiler.Step) : Compilation :=
  match step.failure with
  | none => ⟨.ok (.compiled (step.state.output unit) step.state.warnings), step.log⟩
  | some (.diagnosed diagnostic) =>
      ⟨.ok (.rejected diagnostic step.state.warnings), step.log ++ failureLog diagnostic⟩
  | some (.brokeOff breakdown) => ⟨.error breakdown, step.log⟩

def compile (settings : Settings) (files : Option FileAccess) (text : Text) : Compilation :=
  .ofStep settings.indentUnit
    (Compiler.compileIncluded settings files (Compiler.includeDepth files + 1) text)

end SceneNotation
