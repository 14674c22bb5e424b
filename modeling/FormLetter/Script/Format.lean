import FormLetter.Script.Compare

/-!
# Filling in text

A text with places in it, each of which a value is written to. A place begins with `%` and ends
with the letter that says how its value is written; what stands between may name the value and say
how wide the place is. In markup the values are escaped.
-/

namespace FormLetter.Script

open FormLetter.Text

/-- How a value is written to a place. -/
structure Place where
  toLeft : Bool
  plus : Bool
  blank : Bool
  marked : Bool
  zeros : Bool
  width : Nat
  precision : Option Nat

namespace Place

/-- A place without any wishes. -/
def empty : Place := ⟨false, false, false, false, false, 0, none⟩

/-- Widens what is written, a sign and a body, to the width of the place. -/
def pad (place : Place) (isNumber : Bool) (sign body : List Char) : List Char :=
  let missing := place.width - (sign.length + body.length)
  if place.toLeft then sign ++ body ++ List.replicate missing ' '
  else if isNumber && place.zeros then sign ++ List.replicate missing '0' ++ body
  else List.replicate missing ' ' ++ sign ++ body

/-- The sign that a number is written with. -/
def sign (place : Place) (isNegative : Bool) : List Char :=
  if isNegative then ['-'] else if place.plus then ['+'] else if place.blank then [' '] else []

/-- Writes a text, or so much of it as the place admits. -/
def writeText (place : Place) (text : List Char) : List Char :=
  place.pad false [] (match place.precision with
    | none => text
    | some limit => text.take limit)

/-- Writes an integer in a base. The mark of the base stands before the digits if it is wanted. -/
def writeInt (place : Place) (base : Nat) (mark : String) (isUpper : Bool) (n : Int) :
    List Char :=
  let digits := Nat.toDigits base n.natAbs
  let digits := if isUpper then digits.map Char.toUpper else digits
  let digits := List.replicate (place.precision.getD 1 - digits.length) '0' ++ digits
  let mark := if place.marked then mark.toList else []
  place.pad true (place.sign (n < 0) ++ mark) digits

/-- Writes a number whose magnitude is written in some way. -/
def writeReal (place : Place) (isUpper : Bool) (magnitude : Float → String) (x : Float) :
    List Char :=
  let body :=
    if x.isNaN then "nan"
    else if x.isInf then "inf"
    else magnitude (if Decimal.isNegative x then -x else x)
  let body := if isUpper then body.toList.map Char.toUpper else body.toList
  place.pad true (place.sign (Decimal.isNegative x && !x.isNaN)) body

/-- The number of places that are written where none is asked for. -/
def usualPrecision : Nat := 6

/-- Writes a number with so many places after the point as the place admits. -/
def writeFixed (place : Place) (isUpper : Bool) (x : Float) : List Char :=
  place.writeReal isUpper (Decimal.fixedPlaces · (place.precision.getD usualPrecision)) x

/-- Numbers with an exponent, however great they are. -/
def scientificForm : Decimal.Form :=
  { Decimal.documentForm with least := 1, greatest := 0 }

/-- Writes a number with one digit before the point, and an exponent. -/
def writeScientific (place : Place) (isUpper : Bool) (x : Float) : List Char :=
  let count := place.precision.getD usualPrecision + 1
  place.writeReal isUpper
    (fun x => (Decimal.significant (.ofFloat x) count).render scientificForm) x

/-- Writes a number in so many digits as the place admits, without zeros at the end, and with an
exponent if the point would stand far from them. -/
def writeGeneral (place : Place) (isUpper : Bool) (x : Float) : List Char :=
  let count := max 1 (place.precision.getD usualPrecision)
  let form : Decimal.Form := { Decimal.documentForm with greatest := count, wholeEnd := "" }
  place.writeReal isUpper
    (fun x => (Decimal.significant (.ofFloat x) count).trimmed.render form) x

end Place

/-- The values that are still to be written. -/
inductive Supply where
  /-- A single value, which may serve for names too. -/
  | single (value : Value)
  | several (values : List Value)

/-- True for a value in which things can be looked up by name. -/
def isLookUp : Value → Bool
  | .list _ | .dict _ | .range .. | .undefined _ => true
  | _ => false

/-- Takes the next value. -/
def Supply.take : Supply → Local (Value × Supply)
  | .single value => return (value, .several [])
  | .several (value :: rest) => return (value, .several rest)
  | .several [] => kindTrouble .missingFormatArguments

/-- The number in a text, and what follows it. -/
def takeCount (text : List Char) : Nat × List Char :=
  ((text.takeWhile Char.isDigit).foldl (fun n c => n * 10 + (c.toNat - '0'.toNat)) 0,
    text.dropWhile Char.isDigit)

/-- The wishes at the beginning of a place. -/
def takeFlags (place : Place) : List Char → Place × List Char
  | '-' :: rest => takeFlags { place with toLeft := true } rest
  | '+' :: rest => takeFlags { place with plus := true } rest
  | ' ' :: rest => takeFlags { place with blank := true } rest
  | '#' :: rest => takeFlags { place with marked := true } rest
  | '0' :: rest => takeFlags { place with zeros := true } rest
  | rest => (place, rest)

/-- The whole number that a value is written as. -/
def wholeNumber (letter : Char) (value : Value) : Local Int := do
  match value with
  | .undefined missing => refuse missing
  | .float x =>
    if letter != 'd' then kindTrouble (.formatNumber letter "float")
    else if x.isNaN then valueTrouble .notNumber
    else if x.isInf then trouble (.overflow .infinity)
    else return Decimal.truncate x
  | other =>
    match other.number? with
    | some (.int n) => return n
    | _ => do kindTrouble (.formatNumber letter (← kindOf other))

/-- The number that a value is written as. -/
def realNumber (value : Value) : Local Float := do
  match value with
  | .undefined missing => refuse missing
  | other =>
    match other.number? with
    | some (.float x) => return x
    | some (.int n) =>
      match Decimal.ofInt? n with
      | some x => return x
      | none => trouble (.overflow .conversion)
    | none => do kindTrouble (.formatNumber 'f' (← kindOf other))

section

/-- Writes a value to a place. -/
def writeAt (isMarkup : Bool) (place : Place) (letter : Char) (index : Nat) (value : Value) :
    Local (List Char) := do
  match letter with
  | 's' => return place.writeText (← if isMarkup then escaped value else textOf value)
  | 'r' | 'a' => do
    let quoted ← quoteValue value
    return place.writeText (if isMarkup then Escape.encode quoted else quoted)
  | 'd' | 'i' | 'u' => do
    let n ← wholeNumber 'd' value
    if Decimal.tenTo digitLimit ≤ n.natAbs then valueTrouble .tooManyDigits
    else return place.writeInt 10 "" false n
  | 'x' => return place.writeInt 16 "0x" false (← wholeNumber 'x' value)
  | 'X' => return place.writeInt 16 "0X" true (← wholeNumber 'X' value)
  | 'o' => return place.writeInt 8 "0o" false (← wholeNumber 'o' value)
  | 'f' | 'F' => return place.writeFixed (letter == 'F') (← realNumber value)
  | 'e' | 'E' => return place.writeScientific (letter == 'E') (← realNumber value)
  | 'g' | 'G' => return place.writeGeneral (letter == 'G') (← realNumber value)
  | 'c' =>
    let place := { place with precision := none }
    match value with
    | .text [c] _ => return place.writeText [c]
    | other => do
      let code ← wholeNumber 'c' other
      if 0 ≤ code && code < 0x110000 then return place.writeText [Char.ofNat code.toNat]
      else trouble (.overflow .character)
  | other => valueTrouble (.formatCharacter other index)

/-- The value of a name among the values that are written. -/
def valueNamed (whole : Value) (name : List Char) : Local Value := do
  match whole with
  | .dict place => do
    match ← entryOf? (.plain name) (← dictAt place) with
    | some value => return value
    | none => trouble (.missingKey (Quoted.quote (String.ofList name)))
  | .undefined missing => refuse missing
  | _ => kindTrouble .formatMapping

/-- The value that a place names, if it names one, and what follows the name. -/
def takeNamed (whole : Value) (text : List Char) : Local (Option Value × List Char) := do
  match text with
  | '(' :: inner => do
    if !isLookUp whole then kindTrouble .formatMapping
    else
      let name := inner.takeWhile (· != ')')
      match inner.drop name.length with
      | [] => valueTrouble .incompleteFormat
      | _ :: rest => return (some (← valueNamed whole name), rest)
  | rest => return (none, rest)

/-- The width of a place, and what follows it. A star stands for the next value. -/
def takeWidth (place : Place) (supply : Supply) (text : List Char) :
    Local (Place × Supply × List Char) := do
  match text with
  | '*' :: rest => do
    let (value, supply) ← supply.take
    let width ← wholeNumber 'd' value
    return ({ place with toLeft := place.toLeft || decide (width < 0), width := width.natAbs },
      supply, rest)
  | rest =>
    let (width, rest) := takeCount rest
    return ({ place with width }, supply, rest)

/-- The precision of a place, if it has one, and what follows it. -/
def takePrecision (place : Place) (supply : Supply) (text : List Char) :
    Local (Place × Supply × List Char) := do
  match text with
  | '.' :: '*' :: rest => do
    let (value, supply) ← supply.take
    let precision ← wholeNumber 'd' value
    return ({ place with precision := some precision.toNat }, supply, rest)
  | '.' :: rest =>
    let (precision, rest) := takeCount rest
    return ({ place with precision := some precision }, supply, rest)
  | rest => return (place, supply, rest)

/-- The value for a place: the one that it names, or else the next one. -/
def Supply.valueFor (supply : Supply) (named : Option Value) : Local (Value × Supply) :=
  match named with
  | some value => return (value, .several [])
  | none => supply.take

/-- Fills in the places of a text of the given length. `whole` is the value that names are looked
up in. -/
def fillIn (isMarkup : Bool) (length : Nat) (whole : Value) :
    Nat → Supply → List Char → Local (List Char)
  | 0, _, _ => return []
  | _ + 1, supply, [] => do
    match supply with
    | .several (_ :: _) => kindTrouble .surplusFormatArguments
    | .single value =>
      if isLookUp value then return [] else kindTrouble .surplusFormatArguments
    | .several [] => return []
  | fuel + 1, supply, '%' :: '%' :: rest => do
    return '%' :: (← fillIn isMarkup length whole fuel supply rest)
  | fuel + 1, supply, '%' :: rest => do
    let (named, rest) ← takeNamed whole rest
    let (place, rest) := takeFlags .empty rest
    let (place, supply, rest) ← takeWidth place supply rest
    let (place, supply, rest) ← takePrecision place supply rest
    match rest.dropWhile fun c => c == 'h' || c == 'l' || c == 'L' with
    | [] => valueTrouble .incompleteFormat
    | letter :: rest => do
      let (value, supply) ← supply.valueFor named
      let index := length - (rest.length + 1)
      let written ← writeAt isMarkup place letter index value
      return written ++ (← fillIn isMarkup length whole fuel supply rest)
  | fuel + 1, supply, c :: rest => do
    return c :: (← fillIn isMarkup length whole fuel supply rest)

/-- Fills a value in, or several. -/
def formatText (content : List Char) (isMarkup : Bool) (value : Value) : Local Value := do
  let supply := match value with
    | .tuple values => Supply.several values
    | other => .single other
  let length := content.length
  return .text (← fillIn isMarkup length value (length + 1) supply content) isMarkup

end

end FormLetter.Script
