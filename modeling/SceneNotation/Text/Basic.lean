/- Text is a list of characters. This module has the few operations on it that the
   notation needs: splitting at a separator, cutting at the first one, words,
   literal replacement, and writing numbers in decimal. Lengths and positions count
   characters, never bytes. -/
namespace SceneNotation

abbrev Text := List Char

namespace Text

/-- Splits at every separator; n separators give n + 1 pieces, so there is always one. -/
def splitBy (isSeparator : Char → Bool) : Text → List Text
  | [] => [[]]
  | c :: cs =>
      if isSeparator c then [] :: splitBy isSeparator cs
      else match splitBy isSeparator cs with
        | [] => [[c]]
        | piece :: rest => (c :: piece) :: rest

def splitOn (separator : Char) (text : Text) : List Text :=
  splitBy (· == separator) text

/-- Cuts at the first separator, which belongs to neither half. -/
def cut? (sep : Char) : Text → Option (Text × Text)
  | [] => none
  | c :: cs =>
      if c = sep then some ([], cs)
      else (cut? sep cs).map fun halves => (c :: halves.1, halves.2)

def join (sep : Text) (pieces : List Text) : Text :=
  List.intercalate sep pieces

/-- The tab to carriage-return block, the separators U+001C to U+001F, the space, U+0085, and the
Unicode space, line and paragraph separators. Zero-width characters are not blanks. -/
def isBlank (c : Char) : Bool :=
  let n := c.toNat
  (0x09 ≤ n && n ≤ 0x0D) || (0x1C ≤ n && n ≤ 0x20) || n == 0x85 || n == 0xA0 ||
    n == 0x1680 || (0x2000 ≤ n && n ≤ 0x200A) || n == 0x2028 || n == 0x2029 ||
    n == 0x202F || n == 0x205F || n == 0x3000

/-- What stands between blanks, where that is anything at all. -/
def words (text : Text) : List Text :=
  (splitBy isBlank text).filter fun word => !word.isEmpty

/-- Replaces occurrences of a token from left to right, without searching what was put in.
`pending` counts the characters of the last occurrence that are still to be passed over. -/
def replaceFrom (token replacement : Text) : (pending : Nat) → Text → Text
  | _, [] => []
  | pending + 1, _ :: cs => replaceFrom token replacement pending cs
  | 0, c :: cs =>
      if token.isPrefixOf (c :: cs) then
        replacement ++ replaceFrom token replacement (token.length - 1) cs
      else c :: replaceFrom token replacement 0 cs

/-- An empty token occurs nowhere. -/
def replaceAll (token replacement text : Text) : Text :=
  if token.isEmpty then text else replaceFrom token replacement 0 text

def ofNat (n : Nat) : Text :=
  Nat.toDigits 10 n

def ofInt : Int → Text
  | .ofNat n => ofNat n
  | .negSucc n => '-' :: ofNat (n + 1)

/-- Compares by code points, a proper beginning coming first. -/
def le : Text → Text → Bool
  | [], _ => true
  | _ :: _, [] => false
  | a :: s, b :: t => if a = b then le s t else a.toNat < b.toNat

/-- Lowers the letters A to Z and leaves every other character alone. -/
def lower (text : Text) : Text :=
  text.map Char.toLower

/-- Looks a code point up in a table of ranges, both ends included, that ascend and lie apart. -/
def inRanges (n : Nat) : List (Nat × Nat) → Bool
  | [] => false
  | (low, high) :: rest => if n < low then false else n ≤ high || inRanges n rest

end Text

end SceneNotation
