/-!
# Blank characters

Which characters count as white space, and the two questions asked with them: whether a text holds
nothing else, and what is left of it when its ends are trimmed. The set is the one of the Unicode
character database together with the four separators of ASCII (28 to 31), so it is wider than
`Char.isWhitespace` and does not hold the zero-width space.
-/

namespace FormLetter.Text

/-- True for a character of white space. -/
def isBlank (c : Char) : Bool :=
  let n := c.toNat
  (9 ≤ n && n ≤ 13) || (28 ≤ n && n ≤ 32) || n == 0x85 || n == 0xA0 || n == 0x1680 ||
    (0x2000 ≤ n && n ≤ 0x200A) || n == 0x2028 || n == 0x2029 || n == 0x202F || n == 0x205F ||
    n == 0x3000

/-- True when a text holds nothing but white space; the empty text does. -/
def isBlankText (text : List Char) : Bool :=
  text.all isBlank

/-- A text without the white space at its end. -/
def trimRight (text : List Char) : List Char :=
  (text.reverse.dropWhile isBlank).reverse

/-- A text without the white space at its ends. -/
def trim (text : List Char) : List Char :=
  trimRight (text.dropWhile isBlank)

/-- Everything that `Char` itself calls white space is blank. -/
theorem isBlank_of_isWhitespace (c : Char) (white : c.isWhitespace = true) : isBlank c = true := by
  simp only [Char.isWhitespace, Bool.or_eq_true, decide_eq_true_eq] at white
  rcases white with ((rfl | rfl) | rfl) | rfl <;> decide

end FormLetter.Text
