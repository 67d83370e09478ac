import SceneNotation.Text.Codec
import SceneNotation.Text.Encoding.Utf8

/- The codecs of four encodings: UTF-8 with and without a signature, ASCII and
   Latin-1. Reading is strict and covers the whole input. Writing fails at the first
   run of characters that the encoding cannot hold.

   With a signature, positions of a fault count from the end of the mark, and input
   that breaks off inside the mark reads as empty text. -/
namespace SceneNotation.Text

inductive Encoding where
  | utf8
  | utf8Signed
  | ascii
  | latin1
  deriving DecidableEq, Repr

namespace Encoding

/-- A name is made of letters and digits of ASCII, in either case, and points. Whatever stands
between them counts as one underscore, and around them as nothing. -/
def normalName (name : Text) : Text :=
  let pieces := splitBy (fun c => !(c.isAlphanum || c == '.')) name
  lower (join ['_'] (pieces.filter fun piece => !piece.isEmpty))

def properNames : List (String × Encoding) :=
  [("utf_8", .utf8), ("utf_8_sig", .utf8Signed), ("ascii", .ascii), ("latin_1", .latin1)]

def otherNames : List (String × Encoding) :=
  [("u8", .utf8), ("utf", .utf8), ("utf8", .utf8), ("utf8_ucs2", .utf8), ("utf8_ucs4", .utf8),
    ("cp65001", .utf8),
    ("646", .ascii), ("ansi_x3.4_1968", .ascii), ("ansi_x3_4_1968", .ascii),
    ("ansi_x3.4_1986", .ascii), ("cp367", .ascii), ("csascii", .ascii), ("ibm367", .ascii),
    ("iso646_us", .ascii), ("iso_646.irv_1991", .ascii), ("iso_ir_6", .ascii), ("us", .ascii),
    ("us_ascii", .ascii),
    ("8859", .latin1), ("cp819", .latin1), ("csisolatin1", .latin1), ("ibm819", .latin1),
    ("iso8859", .latin1), ("iso8859_1", .latin1), ("iso_8859_1", .latin1),
    ("iso_8859_1_1987", .latin1), ("iso_ir_100", .latin1), ("l1", .latin1), ("latin", .latin1),
    ("latin1", .latin1)]

def findName (names : List (String × Encoding)) (name : Text) : Option Encoding :=
  (names.find? fun entry => entry.1.toList == name).map (·.2)

/-- In a name other than the proper one, a point may stand for an underscore. -/
def ofNormalName? (name : Text) : Option Encoding :=
  match findName (properNames ++ otherNames) name with
  | some encoding => some encoding
  | none => findName otherNames (name.map fun c => if c = '.' then '_' else c)

/-- What the surroundings use is UTF-8, and has a name that must be spelled exactly. -/
def ofName? (name : Text) : Option Encoding :=
  if name = "locale".toList then some .utf8 else ofNormalName? (normalName name)

inductive NameFault where
  | unknown (name : Text)
  | holdsNul
  deriving DecidableEq, Repr

def NameFault.message : NameFault → Text
  | .unknown name => "unknown encoding: ".toList ++ name
  | .holdsNul => "embedded null character".toList

/-- A name that holds the null character is no name at all, so this is asked before any file is
touched. -/
def nameHoldsNul (name : Text) : Bool :=
  name.contains '\x00'

/-- The name that messages use. The signed form of UTF-8 reports faults under the plain name. -/
def label : Encoding → Text
  | .utf8 | .utf8Signed => "utf-8".toList
  | .ascii => "ascii".toList
  | .latin1 => "latin-1".toList

def rangeMessage (limit : Nat) : Text :=
  "ordinal not in range(".toList ++ Text.ofNat limit ++ [')']

def faultOfUtf8 (fault : Utf8.Fault) : DecodeFault :=
  .atBytes utf8.label fault.start fault.length fault.lead fault.reason.message

/-- Reads one byte as one character, as long as it is below the limit. -/
def decodeBytes (encoding : Encoding) (limit position : Nat) :
    List UInt8 → Except DecodeFault Text
  | [] => .ok []
  | byte :: rest =>
      if byte.toNat < limit then
        (decodeBytes encoding limit (position + 1) rest).map (Char.ofNat byte.toNat :: ·)
      else .error (.atBytes encoding.label position 1 byte (rangeMessage limit))

def signature : List UInt8 := [0xEF, 0xBB, 0xBF]

def decodeUtf8 (bytes : List UInt8) : Except DecodeFault Text :=
  (Utf8.decode bytes).mapError faultOfUtf8

def decode : Encoding → List UInt8 → Except DecodeFault Text
  | .utf8, bytes => decodeUtf8 bytes
  | .utf8Signed, bytes =>
      if signature.isPrefixOf bytes then decodeUtf8 (bytes.drop 3)
      else if bytes.isPrefixOf signature then .ok []
      else decodeUtf8 bytes
  | .ascii, bytes => decodeBytes .ascii 128 0 bytes
  | .latin1, bytes => decodeBytes .latin1 256 0 bytes

def encodeBytes (encoding : Encoding) (limit position : Nat) :
    Text → Except EncodeFault (List UInt8)
  | [] => .ok []
  | c :: rest =>
      if c.toNat < limit then
        (encodeBytes encoding limit (position + 1) rest).map (c.toNat.toUInt8 :: ·)
      else
        let run := rest.takeWhile fun d => limit ≤ d.toNat
        .error (.atCharacters encoding.label position (run.length + 1) c (rangeMessage limit))

def encode : Encoding → Text → Except EncodeFault (List UInt8)
  | .utf8, text => .ok (Utf8.encode text)
  | .utf8Signed, text => .ok (signature ++ Utf8.encode text)
  | .ascii, text => encodeBytes .ascii 128 0 text
  | .latin1, text => encodeBytes .latin1 256 0 text

def codec (encoding : Encoding) : Codec where
  decode := encoding.decode
  encode := encoding.encode

def codec? (name : Text) : Option Codec :=
  (ofName? name).map codec

end Encoding

end SceneNotation.Text
