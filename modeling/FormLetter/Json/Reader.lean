import FormLetter.Decimal.Value
import FormLetter.Json.Basic

/-!
# Reading JSON

A reader for JSON text that also takes the numerals `NaN`, `Infinity` and `-Infinity`. A text that
is not JSON gives an error with the place where it was noticed, counted in characters and shown by
line and column.
-/

namespace FormLetter.Json

/-- Why a text is not JSON. -/
inductive Problem where
  | byteOrderMark
  | value
  | propertyName
  | colon
  | comma
  | extraData
  | unterminatedText
  | controlCharacter
  | escape
  | unicodeEscape
  /-- Arrays and objects stand in each other too deep. -/
  | nesting
  /-- A whole number has more digits than are read. -/
  | digits (count : Nat)
  deriving DecidableEq, Repr

/-- The wording of a problem. -/
def Problem.wording : Problem → String
  | .byteOrderMark => "Unexpected UTF-8 BOM (decode using utf-8-sig)"
  | .value => "Expecting value"
  | .propertyName => "Expecting property name enclosed in double quotes"
  | .colon => "Expecting ':' delimiter"
  | .comma => "Expecting ',' delimiter"
  | .extraData => "Extra data"
  | .unterminatedText => "Unterminated string starting at"
  | .controlCharacter => "Invalid control character at"
  | .escape => "Invalid \\escape"
  | .unicodeEscape => "Invalid \\uXXXX escape"
  | .nesting => "Values nested too deep"
  | .digits count => "Whole number of " ++ toString count ++ " digits"

/-- A problem at a place of the text. -/
structure Error where
  problem : Problem
  line : Nat
  column : Nat
  offset : Nat
  deriving DecidableEq, Repr

/-- The message of an error. -/
def Error.message (error : Error) : String :=
  error.problem.wording ++ ": line " ++ toString error.line ++ " column " ++ toString error.column
    ++ " (char " ++ toString error.offset ++ ")"

/-- Locates a problem by the characters before it. -/
def Error.locate (text : List Char) (problem : Problem) (offset : Nat) : Error :=
  let before := text.take offset
  let lineStart := before.reverse.takeWhile (· != '\n')
  ⟨problem, before.count '\n' + 1, lineStart.length + 1, offset⟩

/-- A problem noticed with so many characters of the text still unread. -/
structure Fault where
  problem : Problem
  unread : Nat

/-- What a step of the reader gives: a result with the unread text, or a fault. -/
abbrev Step (α : Type) := Except Fault (α × List Char)

/-- Skips the white space of JSON. -/
def skipSpace (text : List Char) : List Char :=
  text.dropWhile fun c => c == ' ' || c == '\t' || c == '\n' || c == '\r'

/-- The value of a hexadecimal digit. -/
def hexValue? (c : Char) : Option Nat :=
  if c.isDigit then some (c.toNat - '0'.toNat)
  else if 'a' ≤ c && c ≤ 'f' then some (c.toNat - 'a'.toNat + 10)
  else if 'A' ≤ c && c ≤ 'F' then some (c.toNat - 'A'.toNat + 10)
  else none

/-- Four hexadecimal digits at the beginning of a text. -/
def fourDigits? (text : List Char) : Option Nat :=
  match text with
  | a :: b :: c :: d :: _ => do
    return ((← hexValue? a) * 16 + (← hexValue? b)) * 256
      + (← hexValue? c) * 16 + (← hexValue? d)
  | _ => none

/-- The character of an escape of one letter. -/
def escaped? : Char → Option Char
  | '"' => some '"'
  | '\\' => some '\\'
  | '/' => some '/'
  | 'b' => some '\x08'
  | 'f' => some '\x0C'
  | 'n' => some '\n'
  | 'r' => some '\r'
  | 't' => some '\t'
  | _ => none

/-- The character of a numeric escape after `\u`, and how many characters it uses. Two escapes
that form a pair of surrogates are one character; a surrogate alone gives the replacement
character. -/
def numericEscape? (text : List Char) : Option (Char × Nat) :=
  match fourDigits? text with
  | none => none
  | some first =>
    if text.length < 5 then none
    else if 0xD800 ≤ first && first < 0xDC00 then
      match text.drop 4 with
      | '\\' :: 'u' :: rest =>
        match fourDigits? rest with
        | some second =>
          if 0xDC00 ≤ second && second < 0xE000 && 4 < rest.length then
            some (Char.ofNat (0x10000 + (first - 0xD800) * 1024 + (second - 0xDC00)), 10)
          else some ('\uFFFD', 4)
        | none => some ('\uFFFD', 4)
      | _ => some ('\uFFFD', 4)
    else if 0xDC00 ≤ first && first < 0xE000 then some ('\uFFFD', 4)
    else some (Char.ofNat first, 4)

/-- Reads a text after its opening quote. `opened` is how much was unread at that quote, and
`read` holds the characters so far, the last one first. -/
def readText (opened : Nat) (read : List Char) (text : List Char) : Step String :=
  match text with
  | [] => .error ⟨.unterminatedText, opened⟩
  | '"' :: rest => .ok (String.ofList read.reverse, rest)
  | '\\' :: rest =>
    match rest with
    | [] => .error ⟨.unterminatedText, opened⟩
    | 'u' :: digits =>
      match numericEscape? digits with
      | some (c, used) => readText opened (c :: read) (digits.drop used)
      | none => .error ⟨.unicodeEscape, rest.length⟩
    | c :: after =>
      match escaped? c with
      | some plain => readText opened (plain :: read) after
      | none => .error ⟨.escape, rest.length + 1⟩
  | c :: rest =>
    if c.toNat < 32 then .error ⟨.controlCharacter, rest.length + 1⟩
    else readText opened (c :: read) rest
termination_by text.length
decreasing_by all_goals (simp only [List.length_cons, List.length_drop]; omega)

/-- The value of decimal digits. -/
def digitsValue (digits : List Char) : Nat :=
  digits.foldl (fun value digit => value * 10 + (digit.toNat - '0'.toNat)) 0

/-- The digits after a decimal point; without digits there is no point. -/
def fractionDigits : List Char → List Char × List Char
  | '.' :: rest =>
    let digits := rest.takeWhile Char.isDigit
    if digits.isEmpty then ([], '.' :: rest) else (digits, rest.drop digits.length)
  | rest => ([], rest)

/-- The exponent of a numeral, if it has digits. -/
def exponent? : List Char → Option (Int × List Char)
  | mark :: rest =>
    if mark == 'e' || mark == 'E' then
      let (negative, unsigned) := match rest with
        | '-' :: unsigned => (true, unsigned)
        | '+' :: unsigned => (false, unsigned)
        | unsigned => (false, unsigned)
      let digits := unsigned.takeWhile Char.isDigit
      if digits.isEmpty then none
      else
        let value : Int := digitsValue digits
        some (if negative then -value else value, unsigned.drop digits.length)
    else none
  | [] => none

/-- Reads a numeral: a whole number, unless it has a fraction or an exponent. -/
def readNumber? (text : List Char) : Option (Json × List Char) :=
  let (negative, unsigned) := match text with
    | '-' :: rest => (true, rest)
    | rest => (false, rest)
  let whole := match unsigned with
    | '0' :: _ => ['0']
    | rest => rest.takeWhile Char.isDigit
  if whole.isEmpty then none
  else
    let (fraction, rest) := fractionDigits (unsigned.drop whole.length)
    let exponent := exponent? rest
    match fraction, exponent with
    | [], none =>
      let value : Int := digitsValue whole
      some (.int (if negative then -value else value), rest)
    | _, _ =>
      let (power, rest) := exponent.getD (0, rest)
      let magnitude :=
        Decimal.toFloat (digitsValue (whole ++ fraction)) (power - fraction.length)
      some (.float (if negative then -magnitude else magnitude), rest)

/-- The words that stand for values. -/
def constants : List (String × Json) := [
  ("null", .null), ("true", .bool true), ("false", .bool false),
  ("NaN", .float (0.0 / 0.0)), ("Infinity", .float (1.0 / 0.0)),
  ("-Infinity", .float (-1.0 / 0.0))]

/-- The word at the beginning of a text. -/
def constant? (text : List Char) : Option (Json × List Char) :=
  (constants.find? fun (word, _) => word.toList.isPrefixOf text).map fun (word, value) =>
    (value, text.drop word.toList.length)

/-- How deep arrays and objects may stand in each other. -/
def nestingLimit : Nat := 990

/-- How many digits a whole number may have. -/
def digitLimit : Nat := 4300

/-- Reads a word or a numeral. -/
def readScalar (text : List Char) : Step Json :=
  match constant? text <|> readNumber? text with
  | some (.int value, rest) =>
    let count := (text.takeWhile fun c => c == '-' || c.isDigit).filter Char.isDigit |>.length
    if digitLimit < count then .error ⟨.digits count, text.length⟩ else .ok (.int value, rest)
  | some found => .ok found
  | none => .error ⟨.value, text.length⟩

mutual

/-- Reads a value that may hold so many others inside of each other. Each nested value takes one
unit of fuel. -/
def readValue (fuel depth : Nat) (text : List Char) : Step Json :=
  match fuel with
  | 0 => .error ⟨.value, text.length⟩
  | fuel + 1 =>
    match text, depth with
    | '"' :: rest, _ =>
      (readText text.length [] rest).map fun (value, rest) => (.text value, rest)
    | '\x7b' :: rest, depth + 1 =>
      match skipSpace rest with
      | '\x7d' :: rest => .ok (.object [], rest)
      | rest => readMembers fuel depth [] rest
    | '[' :: rest, depth + 1 =>
      match skipSpace rest with
      | ']' :: rest => .ok (.array [], rest)
      | rest => readItems fuel depth [] rest
    | '\x7b' :: _, 0 | '[' :: _, 0 => .error ⟨.nesting, text.length⟩
    | _, _ => readScalar text

/-- Reads the items of an array; `items` holds those read, the last one first. -/
def readItems (fuel depth : Nat) (items : List Json) (text : List Char) : Step Json :=
  match fuel with
  | 0 => .error ⟨.value, text.length⟩
  | fuel + 1 =>
    match readValue fuel depth text with
    | .error fault => .error fault
    | .ok (item, rest) =>
      match skipSpace rest with
      | ']' :: rest => .ok (.array (item :: items).reverse, rest)
      | ',' :: rest => readItems fuel depth (item :: items) (skipSpace rest)
      | rest => .error ⟨.comma, rest.length⟩

/-- Reads the members of an object after those already read. -/
def readMembers (fuel depth : Nat) (members : List (String × Json)) (text : List Char) :
    Step Json :=
  match fuel with
  | 0 => .error ⟨.value, text.length⟩
  | fuel + 1 =>
    match text with
    | '"' :: rest =>
      match readText text.length [] rest with
      | .error fault => .error fault
      | .ok (name, rest) =>
        match skipSpace rest with
        | ':' :: rest =>
          match readValue fuel depth (skipSpace rest) with
          | .error fault => .error fault
          | .ok (value, rest) =>
            let members := enter members name value
            match skipSpace rest with
            | '\x7d' :: rest => .ok (.object members, rest)
            | ',' :: rest => readMembers fuel depth members (skipSpace rest)
            | rest => .error ⟨.comma, rest.length⟩
        | rest => .error ⟨.colon, rest.length⟩
    | _ => .error ⟨.propertyName, text.length⟩

end

/-- Reads a whole text as one value. The fuel is enough, since every call but one in two reads a
character. -/
def read (source : String) : Except Error Json :=
  let text := source.toList
  let locate (fault : Fault) := Error.locate text fault.problem (text.length - fault.unread)
  match text with
  | '\uFEFF' :: _ => .error (locate ⟨.byteOrderMark, text.length⟩)
  | _ =>
    match readValue (2 * text.length + 2) nestingLimit (skipSpace text) with
    | .error fault => .error (locate fault)
    | .ok (value, rest) =>
      match skipSpace rest with
      | [] => .ok value
      | rest => .error (locate ⟨.extraData, rest.length⟩)

end FormLetter.Json
