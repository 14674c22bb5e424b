/-!
# Sets of code points

A set of characters is given by closed ranges of code points, as the character database lists
them. Membership is the only question asked of it.
-/

namespace FormLetter.Text

/-- True when the code point lies in one of the closed ranges. -/
def inRanges (ranges : List (Nat × Nat)) (code : Nat) : Bool :=
  ranges.any fun (first, last) => first ≤ code && code ≤ last

end FormLetter.Text
