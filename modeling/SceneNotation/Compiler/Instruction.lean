import SceneNotation.Compiler.Step
import SceneNotation.Directive
import SceneNotation.Instruction.Registry

/- A call is checked against the registry, logged, and carried out by the action of
   its specification. Each action ends in exactly one output line or in a failure. -/
namespace SceneNotation.Compiler

open Instruction

/-- What a compilation is given and never changes. -/
structure Context where
  settings : Settings := {}
  files : Option FileAccess := none
  registry : Registry := Registry.builtin

def blockHeader : Text := "python:".toList

def openMode (state : State) (mode : Mode) : Step :=
  let opened := match mode.headerLevel? with
    | some level => state.emitAt level blockHeader
    | none => state.blank
  opened.enterMode mode

/-- Puts in the output of a compilation of its own. Its warnings are taken over only if it
succeeded. -/
def spliceStep (state : State) (included : Step) : Step :=
  match included.failure with
  | some failure => ⟨state, included.log, some failure⟩
  | none =>
      let taken := { state with warnings := state.warnings ++ included.state.warnings }
      ⟨taken.append (Emission.spliced state.boost included.state.emissions), included.log, none⟩

def includeText (compileIncluded : Text → Step) (state : State) (path text : Text) : Step :=
  (spliceStep state (compileIncluded text)).logging
    [.note 2 ("Compiling include ".toList ++ path)]

def includeFile (files : FileAccess) (compileIncluded : Text → Step) (state : State)
    (line : Int) (path : Text) : Step :=
  if files.contains path then
    let read := match files.read path with
      | .ok text => includeText compileIncluded state path text
      | .error cause =>
          if cause.isOfFile then state.fail line (.includeUnreadable path cause)
          else state.breakOff (.reading cause)
    read.logging (files.announce path)
  else state.fail line (.includeMissing path)

def includeCall (context : Context) (compileIncluded : Text → Step) (state : State)
    (call : Call) : Step :=
  match context.files with
  | none => state.fail call.line .noFileAccess
  | some files =>
      match call.args with
      | [path] => includeFile files compileIncluded state call.line path
      | args => state.fail call.line (.includeArguments args.length)

/-- All names are looked up before any decoration is added. -/
def lookupDecorations : List Text → Except Text (List Decoration)
  | [] => .ok []
  | name :: rest =>
      match Decoration.ofName? name with
      | none => .error name
      | some decoration => (lookupDecorations rest).map (decoration :: ·)

def styleCall (state : State) (call : Call) : Step :=
  match lookupDecorations call.args with
  | .error name => state.fail call.line (.unknownDecoration name)
  | .ok decorations =>
      ({ state with decorations := state.decorations ++ decorations } : State).blank.done

def echoCall (settings : Settings) (state : State) (call : Call) (level? : Option Int) : Step :=
  state.emitAsked settings level? (Text.join [' '] call.args)

/-- Arguments that an action has no use for are a matter of the specification's arity; where the
arity lets a wrong number through, it is the same fault. -/
def carryOut (context : Context) (compileIncluded : Text → Step) (state : State) (spec : Spec)
    (call : Call) : Step :=
  match spec.action, call.args with
  | .enter mode, _ => openMode state mode
  | .splice, _ => includeCall context compileIncluded state call
  | .style, _ => styleCall state call
  | .endStyle, _ => ({ state with decorations := [] } : State).blank.done
  | .define, [token, replacement] => (state.withSubstitution token replacement).blank.done
  | .ifDefined, [token] => (state.skipIf (!state.substitutions.binds token)).blank.done
  | .ifUndefined, [token] => (state.skipIf (state.substitutions.binds token)).blank.done
  | .endIf, _ => state.blank.done
  | .echo level?, _ => echoCall context.settings state call level?
  | _, args => state.fail call.line (.argumentCount spec.name spec.arity args.length)

def callLog (call : Call) : Log :=
  [.note 3 ("Line ".toList ++ Text.ofInt call.line ++ ": $".toList ++
    Text.join [' '] (call.command :: call.args))]

/-- The specification a call is meant for, if the number of arguments suits it. -/
def resolveCall (registry : Registry) (call : Call) : Except Fault Spec :=
  match registry.find? call.command with
  | none => .error (.unknownInstruction call.command)
  | some spec =>
      if spec.arity.accepts call.args.length then .ok spec
      else .error (.argumentCount spec.name spec.arity call.args.length)

def dispatch (context : Context) (compileIncluded : Text → Step) (state : State) (call : Call) :
    Step :=
  match resolveCall context.registry call with
  | .error fault => state.fail call.line fault
  | .ok spec => (carryOut context compileIncluded state spec call).logging (callLog call)

end SceneNotation.Compiler
