import SceneNotation.Settings.Value
import SceneNotation.Text.Case

/- A variable names a field by a lead and the field's name. How variables are looked
   up can itself be told, under names that begin with an underscore: another lead or
   none, letter case taken exactly, empty variables passed over, and a word that
   stands for no value at all. What is told must be usable, or no variable is looked
   up and no setting read. -/
namespace SceneNotation.Settings

inductive Field where
  | indentUnit
  | outputSuffix
  | terminators
  | strict
  | encoding
  deriving DecidableEq, Repr

namespace Field

def all : List Field := [.indentUnit, .outputSuffix, .terminators, .strict, .encoding]

def name : Field → Text
  | .indentUnit => "indent_unit".toList
  | .outputSuffix => "output_suffix".toList
  | .terminators => "narrator_terminators".toList
  | .strict => "strict_mode".toList
  | .encoding => "encoding".toList

/-- Names are matched without regard to the case of their letters. -/
def ofName? (given : Text) : Option Field :=
  all.find? fun field => field.name == Text.lowercase given

end Field

structure Lookup where
  lead : Text := "SCENEDOWN_".toList
  exactCase : Bool := false
  skipsEmpty : Bool := false
  nullWord : Option Text := none
  deriving DecidableEq, Repr

namespace Lookup

/-- The names under which a look-up is told how to go. Most are accepted and change nothing. -/
def names : List String :=
  ["_case_sensitive", "_env_prefix", "_env_prefix_target", "_env_ignore_empty",
    "_env_parse_none_str", "_env_nested_max_split", "_env_nested_delimiter", "_env_parse_enums",
    "_env_file", "_env_file_encoding", "_env_file_depth", "_secrets_dir",
    "_nested_model_default_partial_update", "_build_sources", "_cli_prog_name", "_cli_parse_args",
    "_cli_settings_source", "_cli_parse_none_str", "_cli_hide_none_type", "_cli_avoid_json",
    "_cli_enforce_required", "_cli_use_class_docs_for_groups", "_cli_exit_on_error", "_cli_prefix",
    "_cli_flag_prefix_char", "_cli_implicit_flags", "_cli_ignore_unknown_args", "_cli_kebab_case",
    "_cli_shortcuts", "_cli_show_env_vars"]

/-- What is told under a name, where null counts as nothing told. -/
def told (values : List (Text × Value)) (name : String) : Option Value :=
  match values.lookup name.toList with
  | some .null => none
  | found => found

def toldText (values : List (Text × Value)) (name : String) : Option Text :=
  match told values name with
  | some (.text text) => some text
  | _ => none

def toldFlag (values : List (Text × Value)) (name : String) : Bool :=
  match told values name with
  | some value => value.isSet
  | none => false

/-- Whether the lead is meant for variables that go by the names of fields. -/
def leadIsUsed (values : List (Text × Value)) : Bool :=
  match told values "_env_prefix_target" with
  | none => true
  | some value => value = .text "variable".toList || value = .text "all".toList

inductive Fault where
  | splitCount (given : Value)
  | leadLength (given : Value)
  | leadJoin
  | leadCase (given : Value)
  deriving DecidableEq, Repr

def Fault.message : Fault → Text
  | .splitCount given =>
      "unsupported operand type(s) for -: '".toList ++ given.kindName ++ "' and 'int'".toList
  | .leadLength given =>
      "object of type '".toList ++ given.kindName ++ "' has no len()".toList
  | .leadJoin =>
      "error getting value for field \"indent_unit\" from source \"EnvSettingsSource\"".toList
  | .leadCase given =>
      "'".toList ++ given.kindName ++ "' object has no attribute 'lower'".toList

/-- A number of splits that is set must be a number. -/
def splitFault? (values : List (Text × Value)) : Option Fault :=
  match told values "_env_nested_max_split" with
  | none | some (.number _) | some (.flag _) => none
  | some value => if value.isSet then some (.splitCount value) else none

/-- A lead has a length, and is a text if it is used or its letter case is passed over. -/
def leadFault? (values : List (Text × Value)) : Option Fault :=
  match told values "_env_prefix" with
  | none | some (.text _) => none
  | some (.number given) => some (.leadLength (.number given))
  | some (.flag given) => some (.leadLength (.flag given))
  | some value =>
      if leadIsUsed values then some .leadJoin
      else if toldFlag values "_case_sensitive" then none
      else some (.leadCase value)

def ofValues (values : List (Text × Value)) : Except Fault Lookup :=
  match (splitFault? values).or (leadFault? values) with
  | some fault => .error fault
  | none =>
      .ok
        { lead :=
            if leadIsUsed values then (toldText values "_env_prefix").getD "SCENEDOWN_".toList
            else []
          exactCase := toldFlag values "_case_sensitive"
          skipsEmpty := toldFlag values "_env_ignore_empty"
          nullWord := toldText values "_env_parse_none_str" }

def variableName (lookup : Lookup) (field : Field) : Text :=
  lookup.lead ++ field.name

def matchesName (lookup : Lookup) (field : Field) (name : Text) : Bool :=
  if lookup.exactCase then name == lookup.variableName field
  else Text.lowercase name == Text.lowercase (lookup.variableName field)

def valueOf (lookup : Lookup) (content : Text) : Value :=
  if lookup.nullWord = some content then .null else .text content

/-- Of several variables that name the field, the last one counts. -/
def find? (lookup : Lookup) (environment : List (Text × Text)) (field : Field) : Option Value :=
  let named := environment.filter fun entry =>
    lookup.matchesName field entry.1 && !(lookup.skipsEmpty && entry.2.isEmpty)
  named.getLast?.map fun entry => lookup.valueOf entry.2

end Lookup

end SceneNotation.Settings
