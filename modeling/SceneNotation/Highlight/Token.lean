import SceneNotation.Text.Letter
import SceneNotation.Text.Newline

/- Source text is read from left to right. Where a construct may start, which is at
   the start of a line and right after a boost wherever that stands, the first rule
   that fits says how many characters come next and which tokens they are cut into.
   Everywhere else, and where no rule fits, one character is plain text. Each rule
   is given all that is left to read and keeps away from line feeds itself. -/
namespace SceneNotation.Highlight

inductive Kind where
  | boost
  | punctuation
  | label
  | comment
  | dialogue
  | speaker
  | characterAlias
  | shownName
  | verbatim
  | command
  | arguments
  | plain
  deriving DecidableEq, Repr

structure Token where
  kind : Kind
  lexeme : Text
  deriving DecidableEq, Repr

/-- What a rule takes: how many characters, and the groups of them that become tokens. -/
structure Match where
  extent : Nat
  groups : List Token
  deriving DecidableEq, Repr

/-- Leaves out the parts of a construct that are empty. -/
def tokens (parts : List Token) : List Token :=
  parts.filter fun token => !token.lexeme.isEmpty

def restOfLine (text : Text) : Text :=
  text.takeWhile (· != '\n')

def leadingBoosts : Text → Text
  | '%' :: 'i' :: 'n' :: '%' :: rest => '%' :: 'i' :: 'n' :: '%' :: leadingBoosts rest
  | _ => []

/-- What stands before the last closing bracket, if there is one. -/
def beforeLastClosing? : Text → Option Text
  | [] => none
  | c :: cs =>
      match beforeLastClosing? cs with
      | some inside => some (c :: inside)
      | none => if c = '」' then some [] else none

def boosts? (text : Text) : Option Match :=
  match leadingBoosts text with
  | [] => none
  | marks => some ⟨marks.length, [⟨.boost, marks⟩]⟩

def label? : Text → Option Match
  | ';' :: ';' :: rest =>
      let name := restOfLine rest
      some ⟨2 + name.length, tokens [⟨.punctuation, [';', ';']⟩, ⟨.label, name⟩]⟩
  | _ => none

def comment? : Text → Option Match
  | '#' :: rest =>
      let remark := restOfLine rest
      some ⟨1 + remark.length, [⟨.comment, '#' :: remark⟩]⟩
  | _ => none

def narration? : Text → Option Match
  | '「' :: rest =>
      (beforeLastClosing? (restOfLine rest)).map fun message =>
        ⟨1 + message.length + 1,
          tokens [⟨.punctuation, ['「']⟩, ⟨.dialogue, message⟩, ⟨.punctuation, ['」']⟩]⟩
  | _ => none

/-- The speaker is all that stands before the first opening bracket, and is not empty. -/
def speech? (text : Text) : Option Match :=
  match Text.cut? '「' (restOfLine text) with
  | some (c :: speaker, rest) =>
      (beforeLastClosing? rest).map fun message =>
        ⟨(c :: speaker).length + 1 + message.length + 1,
          tokens [⟨.speaker, c :: speaker⟩, ⟨.punctuation, ['「']⟩, ⟨.dialogue, message⟩,
            ⟨.punctuation, ['」']⟩]⟩
  | _ => none

def characterAlias? : Text → Option Match
  | ';' :: rest =>
      (Text.cut? ':' (restOfLine rest)).map fun halves =>
        ⟨1 + halves.1.length + 1 + halves.2.length,
          tokens [⟨.punctuation, [';']⟩, ⟨.characterAlias, halves.1⟩, ⟨.punctuation, [':']⟩,
            ⟨.shownName, halves.2⟩]⟩
  | _ => none

def verbatim? : Text → Option Match
  | ':' :: rest =>
      let content := restOfLine rest
      some ⟨1 + content.length, tokens [⟨.punctuation, [':']⟩, ⟨.verbatim, content⟩]⟩
  | _ => none

def instruction? : Text → Option Match
  | '$' :: rest =>
      let command := rest.takeWhile Text.isWordChar
      let arguments := restOfLine (rest.dropWhile Text.isWordChar)
      some ⟨1 + command.length + arguments.length,
        tokens [⟨.punctuation, ['$']⟩, ⟨.command, command⟩, ⟨.arguments, arguments⟩]⟩
  | _ => none

/-- The construct rules, in the order they are tried. -/
def rules : List (Text → Option Match) :=
  [label?, comment?, narration?, speech?, characterAlias?, verbatim?, instruction?]

/-- Whether a line starts after what has been read. It is given last character first. -/
def atLineStart : (before : Text) → Bool
  | [] => true
  | c :: _ => c == '\n'

/-- Whether a boost ends what has been read, last character first. -/
def afterBoost : (before : Text) → Bool
  | '%' :: 'n' :: 'i' :: '%' :: _ => true
  | _ => false

def firstRule? (text : Text) : Option Match :=
  rules.findSome? fun rule => rule text

/-- The construct that starts here, if one does. Boosts are read at line starts only, and before
any other construct. -/
def construct? (before text : Text) : Option Match :=
  if atLineStart before then
    match boosts? text with
    | some found => some found
    | none => firstRule? text
  else if afterBoost before then firstRule? text
  else none

def matchAt (before : Text) (c : Char) (cs : Text) : Match :=
  (construct? before (c :: cs)).getD ⟨1, [⟨.plain, [c]⟩]⟩

/-- `pending` counts the characters that the last match still takes. -/
def scanFrom : (pending : Nat) → (before : Text) → Text → List Token
  | _, _, [] => []
  | pending + 1, before, c :: cs => scanFrom pending (c :: before) cs
  | 0, before, c :: cs =>
      let found := matchAt before c cs
      found.groups ++ scanFrom (found.extent - 1) (c :: before) cs

def trimNewlines (text : Text) : Text :=
  ((text.dropWhile (· == '\n')).reverse.dropWhile (· == '\n')).reverse

/-- A byte order mark at the front is dropped, line ends are line feeds, and exactly one stands
at the end and none at the front. -/
def normalised (source : Text) : Text :=
  let marked := match source with
    | '\ufeff' :: rest => rest
    | _ => source
  trimNewlines (Text.unifyNewlines marked) ++ ['\n']

def scan (source : Text) : List Token :=
  scanFrom 0 [] (normalised source)

end SceneNotation.Highlight
