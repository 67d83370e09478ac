import SceneNotation.Text.Quoted

/- What turns bytes into text and text into bytes, and how it fails. A fault that a
   codec can place is told by the codec's name and the place; any other fault comes
   in the codec's own words. -/
namespace SceneNotation.Text

inductive DecodeFault where
  | atBytes (codec : Text) (start length : Nat) (lead : UInt8) (reason : Text)
  | unplaced (message : Text)
  deriving DecidableEq, Repr

def DecodeFault.message : DecodeFault → Text
  | .atBytes codec start length lead reason =>
      let place :=
        if length = 1 then "byte 0x".toList ++ hex 2 lead.toNat ++ " in position ".toList ++ Text.ofNat start
        else "bytes in position ".toList ++ Text.ofNat start ++ ['-'] ++ Text.ofNat (start + length - 1)
      ['\''] ++ codec ++ "' codec can't decode ".toList ++ place ++ ": ".toList ++ reason
  | .unplaced message => message

inductive EncodeFault where
  | atCharacters (codec : Text) (start length : Nat) (first : Char) (reason : Text)
  | unplaced (message : Text)
  deriving DecidableEq, Repr

def EncodeFault.message : EncodeFault → Text
  | .atCharacters codec start length first reason =>
      let place :=
        if length = 1 then
          "character '".toList ++ codePointEscape first ++ "' in position ".toList ++ Text.ofNat start
        else
          "characters in position ".toList ++ Text.ofNat start ++ ['-'] ++
            Text.ofNat (start + length - 1)
      ['\''] ++ codec ++ "' codec can't encode ".toList ++ place ++ ": ".toList ++ reason
  | .unplaced message => message

structure Codec where
  decode : List UInt8 → Except DecodeFault Text
  encode : Text → Except EncodeFault (List UInt8)

abbrev Codecs := Text → Option Codec

end SceneNotation.Text
