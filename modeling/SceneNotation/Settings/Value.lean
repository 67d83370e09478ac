import SceneNotation.Text.Basic

/- A value as a caller gives it, and its readings as text and as a flag. A value
   without the wanted reading is a problem, which has a code and a message. -/
namespace SceneNotation.Settings

/-- Of collections it only matters whether there is anything in them. -/
inductive Value where
  | text (value : Text)
  | flag (value : Bool)
  | number (value : Int)
  | null
  | sequence (filled : Bool)
  | mapping (filled : Bool)
  deriving DecidableEq, Repr

/-- Zero, null and whatever is empty count as unset. -/
def Value.isSet : Value → Bool
  | .text value => !value.isEmpty
  | .flag value => value
  | .number value => value != 0
  | .null => false
  | .sequence filled | .mapping filled => filled

def Value.kindName : Value → Text
  | .text _ => "str".toList
  | .flag _ => "bool".toList
  | .number _ => "int".toList
  | .null => "NoneType".toList
  | .sequence _ => "list".toList
  | .mapping _ => "dict".toList

inductive Problem where
  | notText
  | notFlag
  | unreadableFlag
  | unknownName
  deriving DecidableEq, Repr

namespace Problem

def code : Problem → Text
  | .notText => "string_type".toList
  | .notFlag => "bool_type".toList
  | .unreadableFlag => "bool_parsing".toList
  | .unknownName => "extra_forbidden".toList

def message : Problem → Text
  | .notText => "Input should be a valid string".toList
  | .notFlag => "Input should be a valid boolean".toList
  | .unreadableFlag => "Input should be a valid boolean, unable to interpret input".toList
  | .unknownName => "Extra inputs are not permitted".toList

end Problem

def readText : Value → Except Problem Text
  | .text value => .ok value
  | _ => .error .notText

def trueWords : List String := ["1", "on", "t", "true", "y", "yes"]

def falseWords : List String := ["0", "off", "f", "false", "n", "no"]

def readWord (word : Text) : Except Problem Bool :=
  let word := String.ofList (Text.lower word)
  if trueWords.contains word then .ok true
  else if falseWords.contains word then .ok false
  else .error .unreadableFlag

def fitsWord (n : Int) : Bool :=
  -9223372036854775808 ≤ n && n ≤ 9223372036854775807

/-- Numbers that do not fit a word of 64 bits are not even misread flags. -/
def readFlag : Value → Except Problem Bool
  | .flag value => .ok value
  | .text word => readWord word
  | .number 0 => .ok false
  | .number 1 => .ok true
  | .number n => if fitsWord n then .error .unreadableFlag else .error .notFlag
  | .null | .sequence _ | .mapping _ => .error .notFlag

end SceneNotation.Settings
