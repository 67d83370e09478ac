import SceneNotation.Mode

/- What the registry knows of an instruction: its name, where it is listed, how many
   arguments it takes, and what it does. What it does is one of a closed list of
   actions; `echo` is the action of instructions that callers add. -/
namespace SceneNotation

namespace Instruction

inductive Category where
  | mode
  | inclusion
  | decoration
  | substitution
  | conditional
  deriving DecidableEq, Repr

namespace Category

def all : List Category := [.mode, .inclusion, .decoration, .substitution, .conditional]

def name : Category → Text
  | .mode => "mode".toList
  | .inclusion => "include".toList
  | .decoration => "decoration".toList
  | .substitution => "macro".toList
  | .conditional => "conditional".toList

def ofName? (given : Text) : Option Category :=
  all.find? fun category => category.name == given

def unknownMessage (given : Text) : Text :=
  Text.quoted given ++ " is not a valid InstructionCategory".toList

end Category

/-- Bounds on the number of arguments. Nothing keeps the least from exceeding the most. -/
structure Arity where
  least : Int := 0
  most : Option Int := some 0
  deriving DecidableEq, Repr

namespace Arity

def accepts (arity : Arity) (count : Int) : Bool :=
  arity.least ≤ count && match arity.most with
    | some most => count ≤ most
    | none => true

def describe (arity : Arity) : Text :=
  match arity.most with
  | none => "at least ".toList ++ Text.ofInt arity.least
  | some most =>
      if arity.least = most then Text.ofInt most
      else Text.ofInt arity.least ++ " to ".toList ++ Text.ofInt most

end Arity

inductive Action where
  | enter (mode : Mode)
  | splice
  | style
  | endStyle
  | define
  | ifDefined
  | ifUndefined
  | endIf
  /-- Emits the arguments, one space apart, at the level given or at the mode's own. -/
  | echo (level : Option Int)
  deriving DecidableEq, Repr

structure Spec where
  name : Text
  category : Category
  description : Text := []
  arity : Arity := {}
  examples : List Text := []
  action : Action
  deriving DecidableEq, Repr

end Instruction

end SceneNotation
