import FormLetter.Xml.Character

/-!
# Scanning text

The small readers from which the grammar of a document is put together. A reader takes a piece off
the front of a text. Where the text does not fit, it gives back the text that is unread at the
place where that is noticed.
-/

namespace FormLetter.Xml

/-- Text that is still unread: after what a reader took, or at the place of a fault. -/
abbrev Unread := List Char

/-- A text without the white space at its beginning. -/
def skipSpace (text : List Char) : List Char :=
  text.dropWhile isSpace

/-- True when a text begins with white space. -/
def startsBlank (text : List Char) : Bool :=
  (text.head?.map isSpace).getD false

/-- Skips white space, of which there must be some. -/
def expectSpace (text : List Char) : Except Unread (Unit × Unread) :=
  if startsBlank text then .ok ((), skipSpace text) else .error text

/-- The text after a mark, when it begins with the mark. -/
def after? (mark : String) (text : List Char) : Option (List Char) :=
  if mark.toList.isPrefixOf text then some (text.drop mark.toList.length) else none

/-- Skips a mark that must come next. -/
def expect (mark : String) (text : List Char) : Except Unread (Unit × Unread) :=
  match after? mark text with
  | some rest => .ok ((), rest)
  | none => .error text

/-- What comes before and after the first occurrence of a mark. -/
def splitAt? (mark : List Char) : List Char → Option (List Char × List Char)
  | [] => none
  | c :: rest =>
    if mark.isPrefixOf (c :: rest) then some ([], (c :: rest).drop mark.length)
    else (splitAt? mark rest).map fun (before, after) => (c :: before, after)

/-- What comes before the first occurrence of a mark, if all of it are characters that a document
may hold. -/
def takeThrough (mark : String) (text : List Char) : Except Unread (List Char × Unread) :=
  match splitAt? mark.toList text with
  | none => .error (text.dropWhile isChar)
  | some (before, after) =>
    if before.all isChar then .ok (before, after) else .error (text.dropWhile isChar)

/-- A name. -/
def takeName (text : List Char) : Except Unread (String × Unread) :=
  match text with
  | c :: rest =>
    if isNameStart c then
      .ok (String.ofList (c :: rest.takeWhile isNameRest), rest.dropWhile isNameRest)
    else .error text
  | [] => .error []

/-- A text in quotes of either kind. -/
def takeQuoted (text : List Char) : Except Unread (List Char × Unread) :=
  match text with
  | '"' :: rest => takeThrough "\"" rest
  | '\'' :: rest => takeThrough "'" rest
  | _ => .error text

/-- What a reference stands for. -/
inductive Reference where
  | character (c : Char)
  | entity (name : String)
  deriving DecidableEq, Repr

/-- The value of a digit in base ten or sixteen. -/
def digit? (base : Nat) (c : Char) : Option Nat :=
  let value :=
    if c.isDigit then c.toNat - '0'.toNat
    else if 'a' ≤ c && c ≤ 'f' then c.toNat - 'a'.toNat + 10
    else if 'A' ≤ c && c ≤ 'F' then c.toNat - 'A'.toNat + 10
    else base
  if value < base then some value else none

/-- The number that a run of digits stands for. -/
def takeNumber (base : Nat) (text : List Char) : Except Unread (Nat × Unread) :=
  let digits := text.takeWhile fun c => (digit? base c).isSome
  if digits.isEmpty then .error text
  else
    .ok (digits.foldl (fun value c => value * base + (digit? base c).getD 0) 0,
      text.drop digits.length)

/-- The character with a number, if a document may hold it. -/
def charOfNumber? (number : Nat) : Option Char :=
  let c := Char.ofNat number
  if c.toNat == number && isChar c then some c else none

/-- The number of a character, in base sixteen after the mark of that base and else in base ten. -/
def takeCode (text : List Char) : Except Unread (Nat × Unread) :=
  match text with
  | 'x' :: hexadecimal => takeNumber 16 hexadecimal
  | decimal => takeNumber 10 decimal

/-- What a reference refers to: a character by its number, or an entity by its name. -/
def takeReferred (text : List Char) : Except Unread (Reference × Unread) :=
  match text with
  | '#' :: code => do
    let (number, rest) ← takeCode code
    match charOfNumber? number with
    | some c => return (.character c, rest)
    | none => .error text
  | _ => do
    let (name, rest) ← takeName text
    return (.entity name, rest)

/-- A reference after its ampersand. -/
def takeReference (text : List Char) : Except Unread (Reference × Unread) := do
  let (reference, rest) ← takeReferred text
  let (_, rest) ← expect ";" rest
  return (reference, rest)

/-- The entities that every document has. -/
def predefined? : String → Option Char
  | "lt" => some '<'
  | "gt" => some '>'
  | "amp" => some '&'
  | "quot" => some '"'
  | "apos" => some '\''
  | _ => none

/-- The text of a comment after its opening mark. Two hyphens only end it. -/
def takeComment (text : List Char) : Except Unread (List Char × Unread) := do
  let (value, rest) ← takeThrough "--" text
  let (_, rest) ← expect ">" rest
  return (value, rest)

/-- The target and the text of a processing instruction after its opening mark. No target is the
word that begins a document. -/
def takeInstruction (text : List Char) :
    Except Unread ((String × Option (List Char)) × Unread) := do
  let (target, rest) ← takeName text
  if target.toLower == "xml" then .error rest
  else
    match after? "?>" rest with
    | some rest => return ((target, none), rest)
    | none =>
      let (_, rest) ← expectSpace rest
      let (value, rest) ← takeThrough "?>" rest
      return ((target, some value), rest)

end FormLetter.Xml
