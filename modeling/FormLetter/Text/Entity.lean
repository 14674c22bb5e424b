import FormLetter.Text.Entity.Table

/-!
# Character references in text

`decode` replaces each reference by the characters it stands for, with the rules of HTML 5 for
text that people and old programs write: a known name closed by a semicolon, one of the old names
without it, and numbers in both bases. What is not understood stays as it is. The longest old name
wins when no closed name fits, so `&notit;` begins with the negation sign.
-/

namespace FormLetter.Text.Entity

/-- Numbers that stand for another character than their own: zero, the carriage return, and the
bytes of the Windows code page 1252. -/
def replaced : List (Nat × Nat) := [
  (0, 65533), (13, 13), (128, 8364), (129, 129), (130, 8218), (131, 402), (132, 8222),
  (133, 8230), (134, 8224), (135, 8225), (136, 710), (137, 8240), (138, 352), (139, 8249),
  (140, 338), (141, 141), (142, 381), (143, 143), (144, 144), (145, 8216), (146, 8217),
  (147, 8220), (148, 8221), (149, 8226), (150, 8211), (151, 8212), (152, 732), (153, 8482),
  (154, 353), (155, 8250), (156, 339), (157, 157), (158, 382), (159, 376)]

/-- Controls and the code points that no character has: their references leave nothing. -/
def isDropped (n : Nat) : Bool :=
  (1 ≤ n && n ≤ 8) || n == 11 || (14 ≤ n && n ≤ 31) || (127 ≤ n && n ≤ 159) ||
    (0xFDD0 ≤ n && n ≤ 0xFDEF) || n % 0x10000 == 0xFFFE || n % 0x10000 == 0xFFFF

/-- The text of a numeric reference. Surrogates and numbers beyond the last code point give the
replacement character. -/
def ofNumber (n : Nat) : List Char :=
  match replaced.lookup n with
  | some code => [Char.ofNat code]
  | none =>
    if (0xD800 ≤ n && n ≤ 0xDFFF) || 0x10FFFF < n then ['\uFFFD']
    else if isDropped n then []
    else [Char.ofNat n]

/-- The value of a digit in a base up to sixteen. -/
def digitValue (c : Char) : Nat :=
  if c.isDigit then c.toNat - '0'.toNat
  else if 'a' ≤ c && c ≤ 'f' then c.toNat - 'a'.toNat + 10
  else c.toNat - 'A'.toNat + 10

/-- True for a hexadecimal digit. -/
def isHexDigit (c : Char) : Bool :=
  c.isDigit || ('a' ≤ c && c ≤ 'f') || ('A' ≤ c && c ≤ 'F')

/-- Reads digits in a base. -/
def number (base : Nat) (digits : List Char) : Nat :=
  digits.foldl (fun value digit => value * base + digitValue digit) 0

/-- One more character is used when a semicolon closes the reference. -/
def closing (rest : List Char) : Nat :=
  if rest.head? == some ';' then 1 else 0

/-- A numeric reference after `&#`: its text, and how many characters after `&` it uses. -/
def numeric? : List Char → Option (List Char × Nat)
  | 'x' :: rest | 'X' :: rest =>
    let digits := rest.takeWhile isHexDigit
    if digits.isEmpty then none
    else some (ofNumber (number 16 digits), 2 + digits.length + closing (rest.drop digits.length))
  | rest =>
    let digits := rest.takeWhile Char.isDigit
    if digits.isEmpty then none
    else some (ofNumber (number 10 digits), 1 + digits.length + closing (rest.drop digits.length))

/-- Characters that a reference name does not hold. -/
def endsName (c : Char) : Bool :=
  c == '\t' || c == '\n' || c == '\x0C' || c == ' ' || c == '<' || c == '&' || c == '#' || c == ';'

/-- The characters of a name of the table. -/
def named? (name : List Char) : Option (List Char) :=
  match name with
  | [] => none
  | initial :: _ =>
    ((Table.ofInitial initial).lookup (String.ofList name)).map (·.map Char.ofNat)

/-- The longest beginning of a word that is an old name, tried from the given length downwards. -/
def oldName? (word : List Char) : Nat → Option (List Char × Nat)
  | 0 | 1 => none
  | length + 1 =>
    let name := word.take (length + 1)
    if Table.optional.contains (String.ofList name) then
      (named? name).map fun text => (text, length + 1)
    else oldName? word length

/-- The most characters that the name of a reference has. -/
def longestName : Nat := 32

/-- The reference that begins after an ampersand: what it stands for, and how many characters it
uses. -/
def reference? : List Char → Option (List Char × Nat)
  | '#' :: rest => numeric? rest
  | text =>
    let word := (text.takeWhile fun c => !endsName c).take longestName
    let closed := if (text.drop word.length).head? == some ';' then named? word else none
    match closed with
    | some value => some (value, word.length + 1)
    | none => oldName? word word.length

/-- Replaces every reference of a text. -/
def decode : List Char → List Char
  | [] => []
  | c :: rest =>
    if c == '&' then
      match reference? rest with
      | some (value, used) => value ++ decode (rest.drop used)
      | none => c :: decode rest
    else c :: decode rest
termination_by text => text.length
decreasing_by all_goals (simp only [List.length_cons, List.length_drop]; omega)

end FormLetter.Text.Entity
