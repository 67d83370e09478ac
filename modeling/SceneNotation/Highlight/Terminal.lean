import SceneNotation.Highlight.Token

/- Tokens of some kinds are wrapped in a terminal's colour codes. A token is first
   cut after every line break, so that each piece is coloured by itself; a line feed
   stays outside the colour, other breaks stay inside. -/
namespace SceneNotation.Highlight

def escape : Char := '\x1b'

def code (digits : String) : Text :=
  escape :: '[' :: digits.toList ++ ['m']

/-- The codes that switch a kind's colour on. Most kinds have none. -/
def Kind.tint? : Kind → Option Text
  | .comment => some (code "37")
  | .boost | .command => some (code "34")
  | .shownName => some (code "04" ++ code "32")
  | .characterAlias => some (code "31")
  | .arguments => some (code "36")
  | .dialogue => some (code "33")
  | .punctuation | .label | .speaker | .verbatim | .plain => none

def reset : Text := code "39;49;00"

def paint (tint? : Option Text) (content : Text) : Text :=
  match tint? with
  | some tint => tint ++ content ++ reset
  | none => content

def paintPiece (tint? : Option Text) (piece : Text) : Text :=
  if piece.getLast? = some '\n' then paint tint? piece.dropLast ++ ['\n'] else paint tint? piece

def Token.painted (token : Token) : Text :=
  (Text.pieces token.lexeme).flatMap (paintPiece token.kind.tint?)

def painted (source : Text) : Text :=
  (scan source).flatMap Token.painted

end SceneNotation.Highlight
