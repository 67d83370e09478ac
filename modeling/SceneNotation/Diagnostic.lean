import SceneNotation.FileAccess
import SceneNotation.Instruction.Spec
import SceneNotation.Text.Repeated

/- A fault is the cause that stops a compilation; a diagnostic is a fault with the
   output line it was found at and, once a compilation has passed it on, the source
   line it came from. Kinds group faults under the tag that opens their message.

   A breakdown stops a compilation too, but is no diagnostic: it has no line and no
   tag, and nothing reports it on the way out. -/
namespace SceneNotation

inductive Fault where
  | invalidLine
  | unclosedDialogue
  | malformedAlias
  | unknownInstruction (name : Text)
  | argumentCount (name : Text) (expected : Instruction.Arity) (given : Nat)
  | unknownDecoration (name : Text)
  | noFileAccess
  | includeArguments (given : Nat)
  | includeMissing (path : Text)
  | includeUnreadable (path : Text) (cause : ReadFault)
  | unendedNarration
  deriving DecidableEq, Repr

namespace Fault

inductive Kind where
  | general
  | invalidLine
  | unclosedDialogue
  | malformedAlias
  | unknownInstruction
  | argumentCount
  | unknownDecoration
  | noFileAccess
  | includeArguments
  | includeMissing
  | includeUnreadable
  | unendedNarration
  deriving DecidableEq, Repr

namespace Kind

def tag : Kind → Text
  | .general => "Error".toList
  | .invalidLine => "Syntax".toList
  | .unclosedDialogue => "Say".toList
  | .malformedAlias => "Alias".toList
  | .unknownInstruction => "Expansion".toList
  | .argumentCount => "Expansion:Args".toList
  | .unknownDecoration => "Expansion:Style".toList
  | .noFileAccess | .includeArguments | .includeMissing | .includeUnreadable =>
      "Expansion:Include".toList
  | .unendedNarration => "Narrator".toList

/-- The next wider kind. Every kind but `general` has one. -/
def wider? : Kind → Option Kind
  | .general => none
  | .includeArguments => some .argumentCount
  | .includeUnreadable => some .includeMissing
  | _ => some .general

/-- The kind and all that are wider, from narrow to wide. No kind is more than two steps from
`general`. -/
def ancestry (kind : Kind) : List Kind :=
  match kind.wider? with
  | none => [kind]
  | some wide =>
      match wide.wider? with
      | none => [kind, wide]
      | some widest => [kind, wide, widest]

/-- A message of this kind, with the tag and the line in front. -/
def headed (kind : Kind) (line : Int) (message : Text) : Text :=
  "[ERR:".toList ++ kind.tag ++ "] Line ".toList ++ Text.ofInt line ++ ": ".toList ++ message

end Kind

def kind : Fault → Kind
  | .invalidLine => .invalidLine
  | .unclosedDialogue => .unclosedDialogue
  | .malformedAlias => .malformedAlias
  | .unknownInstruction _ => .unknownInstruction
  | .argumentCount _ _ _ => .argumentCount
  | .unknownDecoration _ => .unknownDecoration
  | .noFileAccess => .noFileAccess
  | .includeArguments _ => .includeArguments
  | .includeMissing _ => .includeMissing
  | .includeUnreadable _ _ => .includeUnreadable
  | .unendedNarration => .unendedNarration

def unendedText : Text :=
  "Narrator text does not end with a terminator; check the wording.".toList

def message : Fault → Text
  | .invalidLine => "Invalid syntax.".toList
  | .unclosedDialogue => "Dialogue is not closed.".toList
  | .malformedAlias => "Invalid alias definition.".toList
  | .unknownInstruction name =>
      "Unknown extension instruction '$".toList ++ name ++ "'.".toList
  | .argumentCount name expected given =>
      "'$".toList ++ name ++ "' expects ".toList ++ expected.describe ++
        " argument(s), got ".toList ++ Text.ofNat given ++ ['.']
  | .unknownDecoration name => "Unknown decoration '".toList ++ name ++ "'.".toList
  | .noFileAccess => "$include is not available without file access.".toList
  | .includeArguments given =>
      "'$include' expects exactly 1 path, got ".toList ++ Text.ofNat given ++ ['.']
  | .includeMissing path => "File '".toList ++ path ++ "' does not exist.".toList
  | .includeUnreadable path cause =>
      "File '".toList ++ path ++ "' could not be read: ".toList ++ cause.message
  | .unendedNarration => unendedText

end Fault

structure Diagnostic where
  fault : Fault
  line : Int
  source : Option Text := none
  deriving DecidableEq, Repr

namespace Diagnostic

def message (diagnostic : Diagnostic) : Text :=
  diagnostic.fault.kind.headed diagnostic.line diagnostic.fault.message

/-- The innermost source line is kept. -/
def foundIn (diagnostic : Diagnostic) (source : Text) : Diagnostic :=
  { diagnostic with source := some (diagnostic.source.getD source) }

end Diagnostic

/-- Narration that does not end in a terminator, at an output line. -/
structure Warning where
  line : Nat
  deriving DecidableEq, Repr

def Warning.message (warning : Warning) : Text :=
  "[WARN:Narrator] Line ".toList ++ Text.ofNat warning.line ++ ": ".toList ++ Fault.unendedText

inductive Breakdown where
  /-- A separator that is in the line is not where the line has to be cut. -/
  | uncut
  | reading (fault : ReadFault)
  /-- Inclusions nest deeper than there are files. -/
  | endlessInclusion
  /-- A level was asked for that no text can show. -/
  | indenting (fault : Text.RepeatFault)
  deriving DecidableEq, Repr

def Breakdown.message : Breakdown → Text
  | .uncut => "not enough values to unpack (expected 2, got 1)".toList
  | .reading fault => fault.message
  | .endlessInclusion => "files include each other without end".toList
  | .indenting fault => fault.message

inductive Failure where
  | diagnosed (diagnostic : Diagnostic)
  | brokeOff (breakdown : Breakdown)
  deriving DecidableEq, Repr

def Failure.foundIn (source : Text) : Failure → Failure
  | .diagnosed diagnostic => .diagnosed (diagnostic.foundIn source)
  | .brokeOff breakdown => .brokeOff breakdown

end SceneNotation
