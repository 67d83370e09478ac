import SceneNotation.Text.Basic

/- Three rules for three uses. Source text joins a carriage return to the line feed
   after it and splits at line feeds, so a lone carriage return stays inside its
   line. Files read from disk take every carriage return for a line end. Coloured
   text is cut after each of the ten line and paragraph breaks. -/
namespace SceneNotation.Text

/-- Each return that stands right before a line feed is dropped. -/
def joinReturns : Text → Text
  | '\r' :: '\n' :: cs => '\n' :: joinReturns cs
  | c :: cs => c :: joinReturns cs
  | [] => []

def sourceLines (text : Text) : List Text :=
  splitOn '\n' (joinReturns text)

/-- Every return becomes a line feed, a return and a line feed together becoming one. -/
def unifyNewlines (text : Text) : Text :=
  (joinReturns text).map fun c => if c = '\r' then '\n' else c

def isBreak (c : Char) : Bool :=
  let n := c.toNat
  (0x0A ≤ n && n ≤ 0x0D) || (0x1C ≤ n && n ≤ 0x1E) || n == 0x85 || n == 0x2028 || n == 0x2029

/-- Cuts after every break, each piece keeping its own. The empty text has no piece. -/
def pieces : Text → List Text
  | [] => []
  | '\r' :: '\n' :: cs => ['\r', '\n'] :: pieces cs
  | c :: cs =>
      if isBreak c then [c] :: pieces cs
      else match pieces cs with
        | [] => [[c]]
        | piece :: rest => (c :: piece) :: rest

end SceneNotation.Text
