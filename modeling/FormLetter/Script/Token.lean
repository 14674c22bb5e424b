import FormLetter.Decimal.Value
import FormLetter.Script.Problem
import FormLetter.Text.Blank
import FormLetter.Text.Digit
import FormLetter.Text.Identifier

/-!
# Tokens of a template

A template is text with directives in it. A directive is written between `<%` and `%>`, an output
directive between `<%=` and `%>`, and a comment between `<%#` and `#%>`. A minus sign at the inner
side of a mark takes away the white space on its outer side. Inside a directive the text is cut
into names, numbers, texts in quotes and operators; the closing mark counts only where every
bracket is closed.

Where a template cannot be cut the last token says why, so a reader that stops before it never
notices.
-/

namespace FormLetter.Script

open FormLetter.Text

/-- The signs of the template language. -/
inductive Operator where
  | add | sub | div | floorDiv | mul | mod | pow | tilde
  | openBracket | closeBracket | openParen | closeParen | openBrace | closeBrace
  | eq | ne | gt | ge | lt | le | assign | dot | colon | pipe | comma | semicolon
  deriving DecidableEq, Repr, Inhabited

namespace Operator

/-- A sign as it is written. -/
def written : Operator → String
  | add => "+" | sub => "-" | div => "/" | floorDiv => "//" | mul => "*" | mod => "%"
  | pow => "**" | tilde => "~"
  | openBracket => "[" | closeBracket => "]" | openParen => "(" | closeParen => ")"
  | openBrace => "\x7b" | closeBrace => "\x7d"
  | eq => "==" | ne => "!=" | gt => ">" | ge => ">=" | lt => "<" | le => "<="
  | assign => "=" | dot => "." | colon => ":" | pipe => "|" | comma => "," | semicolon => ";"

/-- All signs, the longer ones first. -/
def all : List Operator := [
  floorDiv, pow, eq, ne, ge, le, add, sub, div, mul, mod, tilde, openBracket, closeBracket,
  openParen, closeParen, openBrace, closeBrace, gt, lt, assign, dot, colon, pipe, comma, semicolon]

/-- The bracket that closes an opening one. -/
def closing? : Operator → Option Operator
  | openBracket => some closeBracket
  | openParen => some closeParen
  | openBrace => some closeBrace
  | _ => none

/-- True for a closing bracket. -/
def isClosing : Operator → Bool
  | closeBracket | closeParen | closeBrace => true
  | _ => false

end Operator

/-- What a token is. -/
inductive Lexeme where
  | data (text : List Char)
  | outputBegin
  | outputEnd
  | blockBegin
  | blockEnd
  | name (text : String)
  | text (value : List Char)
  | int (value : Nat)
  | float (value : Float)
  | operator (sign : Operator)
  | fault (problem : Problem)
  /-- Stands for the end of a template. -/
  | ending
  deriving Repr, Inhabited

/-- A token with the line on which it begins. -/
structure Token where
  lexeme : Lexeme
  line : Nat
  deriving Repr, Inhabited

/-- How white space beside a mark is treated. -/
inductive Trim where
  | plain
  | minus
  | plus
  deriving DecidableEq, Repr

/-- The sign at the inner side of an opening mark. -/
def takeTrim : List Char → Trim × List Char
  | '-' :: rest => (.minus, rest)
  | '+' :: rest => (.plus, rest)
  | rest => (.plain, rest)

/-- A text without white space at its beginning. -/
def skipBlank (text : List Char) : List Char :=
  text.dropWhile isBlank

/-- The text after a mark, when it begins with the mark. -/
def afterMark? (mark : String) (text : List Char) : Option (List Char) :=
  if mark.toList.isPrefixOf text then some (text.drop mark.toList.length) else none

/-- What comes before the first place at which a reader finds something, what it finds there, and
the text after it. -/
def findFirst? {α : Type} (reader : List Char → Option (α × List Char)) :
    List Char → Option (List Char × α × List Char)
  | [] => none
  | c :: rest =>
    match reader (c :: rest) with
    | some (found, after) => some ([], found, after)
    | none => (findFirst? reader rest).map fun (before, found) => (c :: before, found)

/-! ## Marks -/

/-- The marks that begin a directive. -/
inductive Opening where
  | literal
  | output
  | comment
  | block
  deriving DecidableEq, Repr

/-- The closing mark of a block or of a literal part; a minus sign takes the white space after
it. -/
def blockEnd? (text : List Char) : Option (List Char) :=
  match text with
  | '+' :: '%' :: '>' :: rest => some rest
  | '-' :: '%' :: '>' :: rest => some (skipBlank rest)
  | '%' :: '>' :: rest => some rest
  | _ => none

/-- The closing mark of an output directive. -/
def outputEnd? (text : List Char) : Option (List Char) :=
  match text with
  | '-' :: '%' :: '>' :: rest => some (skipBlank rest)
  | '%' :: '>' :: rest => some rest
  | _ => none

/-- A directive that holds one word only, after its opening mark. -/
def wordDirective? (word : String) (text : List Char) : Option (Trim × List Char) :=
  let (trim, rest) := takeTrim text
  match afterMark? word (skipBlank rest) with
  | none => none
  | some rest => (blockEnd? (skipBlank rest)).map fun rest => (trim, rest)

/-- The beginning of a literal part. It does not know the plus sign at its closing mark. -/
def literalBegin? (text : List Char) : Option (Trim × List Char) :=
  let (trim, rest) := takeTrim text
  match afterMark? "raw" (skipBlank rest) with
  | none => none
  | some rest => (outputEnd? (skipBlank rest)).map fun rest => (trim, rest)

/-- The opening mark at the beginning of a text. -/
def opening? (text : List Char) : Option ((Opening × Trim) × List Char) :=
  match text with
  | '<' :: '%' :: rest =>
    match literalBegin? rest with
    | some (trim, rest) => some ((.literal, trim), rest)
    | none =>
      let (opening, rest) := match rest with
        | '=' :: rest => (Opening.output, rest)
        | '#' :: rest => (Opening.comment, rest)
        | rest => (Opening.block, rest)
      let (trim, rest) := takeTrim rest
      some ((opening, trim), rest)
  | _ => none

/-- The end of a literal part at the beginning of a text. -/
def literalEnd? (text : List Char) : Option (Trim × List Char) :=
  match text with
  | '<' :: '%' :: rest => wordDirective? "endraw" rest
  | _ => none

/-- The text after a comment, of which the opening mark has been read. -/
def commentEnd? (text : List Char) : Option (List Char) :=
  (findFirst? (fun text => (afterMark? "#%>" text).map ((), ·)) text).map
    fun (comment, _, rest) => if comment.getLast? == some '-' then skipBlank rest else rest

/-- Text before a mark with the given sign. -/
def trimBefore (trim : Trim) (text : List Char) : List Char :=
  if trim == .minus then trimRight text else text

/-! ## Inside directives -/

/-- The digits of a base with single underscores between them; at least one digit. `first` tells
which character may begin. -/
def takeDigits (isDigit : Char → Bool) (text : List Char) : List Char × List Char :=
  match text with
  | '_' :: c :: rest =>
    if isDigit c then
      let (digits, rest) := takeDigits isDigit rest
      (c :: digits, rest)
    else ([], text)
  | c :: rest =>
    if isDigit c then
      let (digits, rest) := takeDigits isDigit rest
      (c :: digits, rest)
    else ([], text)
  | [] => ([], [])

/-- A run of digits that begins with a digit. -/
def digitRun? (isDigit : Char → Bool) (text : List Char) : Option (List Char × List Char) :=
  match text with
  | c :: _ => if isDigit c then some (takeDigits isDigit text) else none
  | [] => none

/-- The number that digits of a base stand for. -/
def numberOf (base : Nat) (digits : List Char) : Nat :=
  digits.foldl (fun value c => value * base + hexValue c) 0
where
  /-- The value of a digit; capitals and small letters are alike. -/
  hexValue (c : Char) : Nat :=
    if 'a' ≤ c && c ≤ 'f' then c.toNat - 'a'.toNat + 10
    else if 'A' ≤ c && c ≤ 'F' then c.toNat - 'A'.toNat + 10
    else (digitValue? c).getD 0

/-- True for a digit of the given base. -/
def isDigitOf (base : Nat) (c : Char) : Bool :=
  if c.isDigit then c.toNat - '0'.toNat < base
  else base == 16 && (('a' ≤ c && c ≤ 'f') || ('A' ≤ c && c ≤ 'F'))

/-- A whole number: digits of base two, eight or sixteen after their mark, decimal digits that do
not begin with zero, or zeros. -/
def takeInt? (text : List Char) : Option (Nat × List Char) :=
  let based (base : Nat) (rest : List Char) : Option (Nat × List Char) :=
    let (digits, rest) := takeDigits (isDigitOf base) rest
    if digits.isEmpty then none else some (numberOf base digits, rest)
  let decimal : Option (Nat × List Char) :=
    match text with
    | c :: rest =>
      if c == '0' then some (0, (takeDigits (· == '0') rest).2)
      else if c.isDigit then
        let (digits, rest) := takeDigits isDecimalDigit rest
        some (numberOf 10 (c :: digits), rest)
      else none
    | [] => none
  match text with
  | '0' :: mark :: rest =>
    let marked :=
      if mark == 'b' || mark == 'B' then based 2 rest
      else if mark == 'o' || mark == 'O' then based 8 rest
      else if mark == 'x' || mark == 'X' then based 16 rest
      else none
    marked <|> decimal
  | _ => decimal

/-- An exponent: its mark, a sign or none, and digits. -/
def takeExponent? (text : List Char) : Option (Int × List Char) :=
  match text with
  | mark :: rest =>
    if mark == 'e' || mark == 'E' then
      let (negative, rest) := match rest with
        | '-' :: rest => (true, rest)
        | '+' :: rest => (false, rest)
        | rest => (false, rest)
      (digitRun? Char.isDigit rest).map fun (digits, rest) =>
        let value : Int := numberOf 10 digits
        (if negative then -value else value, rest)
    else none
  | [] => none

/-- A number with a fraction, an exponent or both. -/
def takeFloat? (text : List Char) : Option (Float × List Char) := do
  let (whole, rest) ← digitRun? Char.isDigit text
  let fraction? := match rest with
    | '.' :: rest => digitRun? Char.isDigit rest
    | _ => none
  let (fraction, rest) := fraction?.getD ([], rest)
  match takeExponent? rest with
  | some (exponent, rest) =>
    return (Decimal.toFloat (numberOf 10 (whole ++ fraction)) (exponent - fraction.length), rest)
  | none =>
    if fraction?.isNone then none
    else return (Decimal.toFloat (numberOf 10 (whole ++ fraction)) (-fraction.length), rest)

/-- The characters of a text in quotes, up to the closing quote. A backslash keeps the character
after it from being one. -/
def takeQuoted? (quote : Char) : List Char → Option (List Char × List Char)
  | [] => none
  | '\\' :: c :: rest =>
    (takeQuoted? quote rest).map fun (value, rest) => ('\\' :: c :: value, rest)
  | c :: rest =>
    if c == quote then some ([], rest)
    else if c == '\\' then none
    else (takeQuoted? quote rest).map fun (value, rest) => (c :: value, rest)

/-- A character in ASCII: others become an escape. -/
def toAscii (c : Char) : List Char :=
  let digits (width : Nat) : List Char :=
    let written := Nat.toDigits 16 c.toNat
    List.replicate (width - written.length) '0' ++ written
  if c.toNat < 0x80 then [c]
  else if c.toNat < 0x100 then '\\' :: 'x' :: digits 2
  else if c.toNat < 0x10000 then '\\' :: 'u' :: digits 4
  else '\\' :: 'U' :: digits 8

/-- The character of an escape by its number; what is no character has a replacement. -/
def charOf (code : Nat) : Char :=
  let c := Char.ofNat code
  if c.toNat == code then c else '\uFFFD'

/-- A numeric escape with the given number of digits. -/
def takeEscape (width : Nat) (problem : Problem) (text : List Char) :
    Except Problem (Char × List Char) :=
  let digits := (text.take width).takeWhile (isDigitOf 16)
  if digits.length < width then .error problem
  else
    let code := numberOf 16 digits
    if code < 0x110000 then .ok (charOf code, text.drop width)
    else .error .illegalCharacter

/-- The escapes of one letter. -/
def letterEscape? : Char → Option (List Char)
  | '\n' => some []
  | '\\' => some ['\\']
  | '\'' => some ['\'']
  | '"' => some ['"']
  | 'a' => some ['\x07']
  | 'b' => some ['\x08']
  | 'f' => some ['\x0C']
  | 'n' => some ['\n']
  | 'r' => some ['\r']
  | 't' => some ['\t']
  | 'v' => some ['\x0B']
  | _ => none

/-- A text with its escapes put in. A backslash before any other character stands for itself. -/
def unescape (text : List Char) : Except Problem (List Char) :=
  match text with
  | [] => .ok []
  | '\\' :: c :: rest =>
    let numeric : Option (Except Problem (Char × List Char)) :=
      if c == 'x' then some (takeEscape 2 .truncatedByte rest)
      else if c == 'u' then some (takeEscape 4 .truncatedShort rest)
      else if c == 'U' then some (takeEscape 8 .truncatedLong rest)
      else if c == 'N' then some (.error .malformedName)
      else none
    match letterEscape? c with
    | some characters => (unescape rest).map (characters ++ ·)
    | none =>
      match numeric with
      | some (.error problem) => .error problem
      | some (.ok (value, after)) =>
        if _ : after.length ≤ rest.length then (unescape after).map (value :: ·)
        else .error .illegalCharacter
      | none =>
        let octal := ((c :: rest).take 3).takeWhile (isDigitOf 8)
        if octal.isEmpty then (unescape rest).map fun tail => '\\' :: c :: tail
        else (unescape (rest.drop (octal.length - 1))).map (charOf (numberOf 8 octal) :: ·)
  | c :: rest => (unescape rest).map (c :: ·)
termination_by text.length
decreasing_by all_goals (simp only [List.length_cons, List.length_drop]; omega)

/-- The value of a text in quotes. It is spelled in ASCII first, so a backslash before any other
character meets the escape of that character. -/
def textValue (written : List Char) : Except Problem (List Char) :=
  unescape (written.flatMap toAscii)

/-- The sign at the beginning of a text. -/
def operator? (text : List Char) : Option (Operator × List Char) :=
  Operator.all.findSome? fun sign => (afterMark? sign.written text).map (sign, ·)

/-- What the reader of a directive has to know: how it ends, and which brackets are open. -/
structure Nesting where
  isOutput : Bool
  closers : List Operator

/-- One token inside of a directive, or nothing for white space. `previous` is the character
before the text, and `offset` the place of the text in the template. -/
def takeToken (previous : Option Char) (offset : Nat) (text : List Char) :
    Except Problem (Option Lexeme × List Char) :=
  match text with
  | [] => .ok (none, [])
  | c :: rest =>
    if isBlank c then .ok (none, skipBlank rest)
    else
      match if previous == some '.' then none else takeFloat? text with
      | some (value, rest) => .ok (some (.float value), rest)
      | none =>
        match takeInt? text with
        | some (value, rest) => .ok (some (.int value), rest)
        | none =>
          let word := text.takeWhile isWordChar
          if !word.isEmpty then
            if isName word then .ok (some (.name (String.ofList word)), text.drop word.length)
            else .error .invalidIdentifier
          else
            match if c == '\'' || c == '"' then takeQuoted? c rest else none with
            | some (written, rest) =>
              (textValue written).map fun value => (some (.text value), rest)
            | none =>
              match operator? text with
              | some (sign, rest) => .ok (some (.operator sign), rest)
              | none => .error (.unexpectedCharacter c offset)

/-! ## The whole template -/

/-- Counts the line breaks that a reader has passed. -/
def linesBetween (before after : List Char) : Nat :=
  (before.take (before.length - after.length)).count '\n'

/-- A character whose line breaks have one form. -/
def unifyLines : List Char → List Char
  | '\r' :: '\n' :: rest => '\n' :: unifyLines rest
  | '\r' :: rest => '\n' :: unifyLines rest
  | c :: rest => c :: unifyLines rest
  | [] => []

/-- A token for text of the template, unless the text is empty. -/
def dataToken (text : List Char) (line : Nat) : List Token :=
  if text.isEmpty then [] else [⟨.data text, line⟩]

/-- The place of the reader in a template: outside of directives, or in one. -/
inductive Mode where
  | outside
  | inside (nesting : Nesting)

/-- Cuts a template, or the rest of one, into tokens. `size` is the length of the whole template.
Each step reads at least one character. -/
def cutTemplate (size : Nat) (mode : Mode) (previous : Option Char) (line : Nat)
    (text : List Char) : List Token :=
  match text with
  | [] => []
  | c :: rest =>
    let fault (problem : Problem) : List Token := [⟨.fault problem, line⟩]
    let goOn (mode : Mode) (after : List Char) : List Token :=
      if _ : after.length < (c :: rest).length then
        let passed := (c :: rest).take ((c :: rest).length - after.length)
        cutTemplate size mode passed.getLast? (line + passed.count '\n') after
      else fault (.unexpectedCharacter c (size - (c :: rest).length))
    match mode with
    | .outside =>
      match findFirst? opening? (c :: rest) with
      | none => dataToken (c :: rest) line
      | some (before, (opening, trim), after) =>
        let data := dataToken (trimBefore trim before) line
        let markLine := line + before.count '\n'
        match opening with
        | .output => data ++ ⟨.outputBegin, markLine⟩ :: goOn (.inside ⟨true, []⟩) after
        | .block => data ++ ⟨.blockBegin, markLine⟩ :: goOn (.inside ⟨false, []⟩) after
        | .comment =>
          match commentEnd? after with
          | some after => data ++ goOn .outside after
          | none =>
            if after.isEmpty then data
            else data ++ [⟨.fault .unclosedComment, line + linesBetween (c :: rest) after⟩]
        | .literal =>
          match findFirst? literalEnd? after with
          | some (content, trim, ending) =>
            data ++ dataToken (trimBefore trim content) (line + linesBetween (c :: rest) after)
              ++ goOn .outside ending
          | none =>
            if after.isEmpty then data
            else data ++ [⟨.fault .unclosedLiteral, line + linesBetween (c :: rest) after⟩]
    | .inside nesting =>
      let ending :=
        if !nesting.closers.isEmpty then none
        else if nesting.isOutput then outputEnd? (c :: rest)
        else blockEnd? (c :: rest)
      match ending with
      | some after =>
        ⟨if nesting.isOutput then .outputEnd else .blockEnd, line⟩ :: goOn .outside after
      | none =>
        match takeToken previous (size - (c :: rest).length) (c :: rest) with
        | .error problem => fault problem
        | .ok (none, after) => goOn mode after
        | .ok (some (.operator sign), after) =>
          match sign.closing? with
          | some closer =>
            ⟨.operator sign, line⟩
              :: goOn (.inside { nesting with closers := closer :: nesting.closers }) after
          | none =>
            if sign.isClosing then
              match nesting.closers with
              | [] => fault (.unexpected sign.written)
              | expected :: closers =>
                if expected == sign then
                  ⟨.operator sign, line⟩ :: goOn (.inside { nesting with closers }) after
                else fault (.unexpectedBracket sign.written expected.written)
            else ⟨.operator sign, line⟩ :: goOn mode after
        | .ok (some lexeme, after) => ⟨lexeme, line⟩ :: goOn mode after
termination_by text.length
decreasing_by assumption

/-- The tokens of a template. Its line breaks have one form from here on. -/
def tokens (template : List Char) : List Token :=
  let text := unifyLines template
  cutTemplate text.length .outside none 1 text

end FormLetter.Script
