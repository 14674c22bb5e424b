import FormLetter.Text.Ranges

/-!
# Characters of XML

Which characters a document may hold, which of them are white space, and which make up names. All
three sets are those of the fifth edition of XML 1.0; the white space is narrower than the one of
plain text.
-/

namespace FormLetter.Xml

open FormLetter.Text

/-- True for the white space of XML. -/
def isSpace (c : Char) : Bool :=
  c == ' ' || c == '\t' || c == '\n' || c == '\r'

/-- True for a character that a document may hold. Surrogates are no characters here at all. -/
def isChar (c : Char) : Bool :=
  let n := c.toNat
  n == 9 || n == 10 || n == 13 || (32 ≤ n && n ≤ 0xFFFD) || 0x10000 ≤ n

/-- The characters above ASCII that may begin a name. -/
def nameStartRanges : List (Nat × Nat) := [
  (0xC0, 0xD6), (0xD8, 0xF6), (0xF8, 0x2FF), (0x370, 0x37D), (0x37F, 0x1FFF), (0x200C, 0x200D),
  (0x2070, 0x218F), (0x2C00, 0x2FEF), (0x3001, 0xD7FF), (0xF900, 0xFDCF), (0xFDF0, 0xFFFD),
  (0x10000, 0xEFFFF)]

/-- The characters above ASCII that may follow in a name but not begin it. -/
def nameMarkRanges : List (Nat × Nat) := [(0xB7, 0xB7), (0x300, 0x36F), (0x203F, 0x2040)]

/-- True for a character that may begin a name; a colon may. -/
def isNameStart (c : Char) : Bool :=
  c.isAlpha || c == '_' || c == ':' || inRanges nameStartRanges c.toNat

/-- True for a character that may follow in a name. -/
def isNameRest (c : Char) : Bool :=
  isNameStart c || c.isDigit || c == '-' || c == '.' || inRanges nameMarkRanges c.toNat

end FormLetter.Xml
