import FormLetter.Text.Printable

/-!
# Quoted texts

How a text is shown as one value among others: between quotes, single ones unless the text holds a
single quote and no double one. Inside, the quote in use and the backslash get a backslash before
them, three controls have letters, and what cannot be printed is written by its number in two,
four or eight hexadecimal digits.
-/

namespace FormLetter.Text.Quoted

/-- The lower-case digits of a number in base sixteen, at least `width` of them. -/
def hex (width n : Nat) : List Char :=
  let digits := Nat.toDigits 16 n
  List.replicate (width - digits.length) '0' ++ digits

/-- The quote that goes around a text. -/
def quoteFor (text : List Char) : Char :=
  if text.contains '\'' && !text.contains '"' then '"' else '\''

/-- The written form of one character between the given quotes. -/
def encodeChar (quote c : Char) : List Char :=
  if c == quote || c == '\\' then ['\\', c]
  else if c == '\n' then ['\\', 'n']
  else if c == '\r' then ['\\', 'r']
  else if c == '\t' then ['\\', 't']
  else if isPrintable c then [c]
  else if c.toNat < 256 then '\\' :: 'x' :: hex 2 c.toNat
  else if c.toNat < 0x10000 then '\\' :: 'u' :: hex 4 c.toNat
  else '\\' :: 'U' :: hex 8 c.toNat

/-- A text between quotes. -/
def encode (text : List Char) : List Char :=
  let quote := quoteFor text
  quote :: (text.flatMap (encodeChar quote) ++ [quote])

/-- A text between quotes, as a string. -/
def quote (text : String) : String :=
  String.ofList (encode text.toList)

end FormLetter.Text.Quoted
