import SceneNotation.Text.Quoted

/- A path is an anchor and its parts. Empty parts and single dots are dropped when a
   path is read; double dots stay, because only the file system can say what they
   mean. Exactly two leading slashes are an anchor of their own. -/
namespace SceneNotation

inductive Path.Anchor where
  | here
  | root
  | doubleRoot
  deriving DecidableEq, Repr

structure Path where
  anchor : Path.Anchor := .here
  parts : List Text := []
  deriving DecidableEq, Repr

namespace Path

def Anchor.text : Anchor → Text
  | .here => []
  | .root => ['/']
  | .doubleRoot => ['/', '/']

def anchorOf : Text → Anchor
  | '/' :: '/' :: '/' :: _ => .root
  | '/' :: '/' :: _ => .doubleRoot
  | '/' :: _ => .root
  | _ => .here

def ofText (text : Text) : Path where
  anchor := anchorOf text
  parts := (Text.splitOn '/' text).filter fun part => !part.isEmpty && part != ['.']

def text (path : Path) : Text :=
  match path.anchor, path.parts with
  | .here, [] => ['.']
  | anchor, parts => anchor.text ++ Text.join ['/'] parts

def isAbsolute (path : Path) : Bool :=
  path.anchor != .here

/-- An absolute right side stands alone. -/
def join (left right : Path) : Path :=
  if right.isAbsolute then right else { left with parts := left.parts ++ right.parts }

/-- The last part, or nothing for a bare anchor. -/
def name (path : Path) : Text :=
  path.parts.getLast?.getD []

/-- A bare anchor is its own parent. -/
def parent (path : Path) : Path :=
  { path with parts := path.parts.dropLast }

def root : Path := { anchor := .root }

def holdsNul (path : Path) : Bool :=
  path.parts.any fun part => part.contains '\x00'

inductive SuffixFault where
  | badSuffix (suffix : Text)
  | nameless (path : Path)
  deriving DecidableEq, Repr

def SuffixFault.message : SuffixFault → Text
  | .badSuffix suffix => "Invalid suffix ".toList ++ Text.quoted suffix
  | .nameless path =>
      "PosixPath(".toList ++ Text.quoted path.text ++ ") has an empty name".toList

/-- A suffix is empty, or a dot and at least one more character, and holds no slash. -/
def isSuffix (suffix : Text) : Bool :=
  !suffix.contains '/' && match suffix with
    | [] => true
    | c :: rest => c == '.' && !rest.isEmpty

/-- A name without its last dot and what follows, unless that dot comes first or last. -/
def stem (name : Text) : Text :=
  let ending := (name.reverse.takeWhile (· != '.')).length
  let before := name.take (name.length - ending - 1)
  if ending = 0 || name.length ≤ ending + 1 then name else before

/-- The path's name with its suffix replaced, or with one added. -/
def nameWithSuffix (path : Path) (suffix : Text) : Except SuffixFault Text :=
  if !isSuffix suffix then .error (.badSuffix suffix)
  else if path.name.isEmpty then .error (.nameless path)
  else .ok (stem path.name ++ suffix)

end Path

end SceneNotation
