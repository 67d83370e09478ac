import SceneNotation.Compiler.State

/- A step is what processing one thing leaves behind: the state, the log, and the
   failure if there was one. A failing step keeps whatever state it had reached. -/
namespace SceneNotation.Compiler

structure Step where
  state : State
  log : Log := []
  failure : Option Failure := none
  deriving DecidableEq, Repr

namespace Step

def logging (entries : Log) (step : Step) : Step :=
  { step with log := entries ++ step.log }

/-- Goes on from the state a step reached, unless it failed. -/
def andThen (step : Step) (next : State → Step) : Step :=
  match step.failure with
  | some _ => step
  | none => (next step.state).logging step.log

def foundIn (source : Text) (step : Step) : Step :=
  { step with failure := step.failure.map (Failure.foundIn source) }

end Step

namespace State

def done (state : State) : Step := { state }

def fail (state : State) (line : Int) (fault : Fault) : Step where
  state
  failure := some (.diagnosed ⟨fault, line, none⟩)

def breakOff (state : State) (breakdown : Breakdown) : Step where
  state
  failure := some (.brokeOff breakdown)

/-- Emits at a level that is asked for from outside, or else at that of the mode. Only what is
asked for can be too deep; the state is then kept. -/
def emitAsked (settings : Settings) (state : State) (level? : Option Int) (content : Text) : Step :=
  match level? with
  | none => (state.emit content).done
  | some level =>
      match settings.indentFault? ((if content.isEmpty then 0 else level) + state.boost) with
      | some fault => state.breakOff (.indenting fault)
      | none => (state.emitAt level content).done

/-- Changes the mode. The log names the output line that comes next. -/
def enterMode (state : State) (mode : Mode) : Step where
  state := { state with mode := mode }
  log := [.note 3 ("Line ".toList ++ Text.ofNat state.line ++ ": mode ".toList ++
    state.mode.name ++ " -> ".toList ++ mode.name)]

end State

end SceneNotation.Compiler
