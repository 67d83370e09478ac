import SceneNotation.Settings
import SceneNotation.Settings.Environment

/- Settings come from values that are given outright and from environment variables,
   in that order of precedence; what neither names keeps its default. A variable
   that is overridden is never looked at.

   Every fault is reported, field by field in the order of `Field.all`, and unknown
   names last. Nothing is read if it is not known how to look variables up. -/
namespace SceneNotation.Settings

structure Fault where
  name : Text
  problem : Problem
  deriving DecidableEq, Repr

/-- Of several values that name the field, the first one counts. -/
def given? (values : List (Text × Value)) (field : Field) : Option Value :=
  (values.find? fun entry => Field.ofName? entry.1 == some field).map (·.2)

def source? (values : List (Text × Value)) (lookup : Lookup) (environment : List (Text × Text))
    (field : Field) : Option Value :=
  match given? values field with
  | some value => some value
  | none => lookup.find? environment field

def setText (settings : Settings) (field : Field) (value : Text) : Settings :=
  match field with
  | .indentUnit => { settings with indentUnit := value }
  | .outputSuffix => { settings with outputSuffix := value }
  | .terminators => { settings with terminators := value }
  | .encoding => { settings with encoding := value }
  | .strict => settings

def setField (settings : Settings) (field : Field) (value : Value) : Except Problem Settings :=
  match field with
  | .strict => (readFlag value).map fun strict => { settings with strict := strict }
  | field => (readText value).map (setText settings field)

/-- The settings so far, or the faults so far. -/
def readField (values : List (Text × Value)) (lookup : Lookup) (environment : List (Text × Text))
    (soFar : Settings × List Fault) (field : Field) : Settings × List Fault :=
  match source? values lookup environment field with
  | none => soFar
  | some value =>
      match setField soFar.1 field value with
      | .ok settings => (settings, soFar.2)
      | .error problem => (soFar.1, soFar.2 ++ [⟨field.name, problem⟩])

def isKnownName (name : Text) : Bool :=
  (Field.ofName? name).isSome || Lookup.names.any fun known => known.toList == name

def unknownNames (values : List (Text × Value)) : List Fault :=
  (values.filter fun entry => !isKnownName entry.1).map fun entry => ⟨entry.1, .unknownName⟩

inductive Refusal where
  | unusable (fault : Lookup.Fault)
  | invalid (faults : List Fault)
  deriving DecidableEq, Repr

def read (values : List (Text × Value)) (environment : List (Text × Text)) :
    Except Refusal Settings :=
  match Lookup.ofValues values with
  | .error fault => .error (.unusable fault)
  | .ok lookup =>
      let known := Field.all.foldl (readField values lookup environment) ({}, [])
      match known.2 ++ unknownNames values with
      | [] => .ok known.1
      | faults => .error (.invalid faults)

end SceneNotation.Settings
