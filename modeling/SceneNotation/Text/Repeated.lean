import SceneNotation.Text.Basic

/- A text written a number of times. The count and the length of the result must
   each fit a signed word of 64 bits. `repeated` itself knows no limit; who takes a
   count from outside asks `repeatFault?` first. -/
namespace SceneNotation.Text

def repeated (unit : Text) (count : Nat) : Text :=
  if unit.isEmpty then [] else (List.replicate count unit).flatten

/-- Nothing, however often, is nothing: the empty unit is no exception. -/
theorem repeated_eq (unit : Text) (count : Nat) :
    repeated unit count = (List.replicate count unit).flatten := by
  unfold repeated
  split
  · next empty =>
      rw [List.isEmpty_iff.mp empty]
      simp
  · rfl

inductive RepeatFault where
  | countTooLarge
  | resultTooLong
  deriving DecidableEq, Repr

def RepeatFault.message : RepeatFault → Text
  | .countTooLarge => "cannot fit 'int' into an index-sized integer".toList
  | .resultTooLong => "repeated string is too long".toList

def largestWord : Nat := 9223372036854775807

/-- The count is looked at even if the unit is empty. -/
def repeatFault? (unit : Text) (count : Nat) : Option RepeatFault :=
  if largestWord < count then some .countTooLarge
  else if largestWord < unit.length * count then some .resultTooLong
  else none

end SceneNotation.Text
