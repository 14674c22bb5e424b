import FormLetter.Script.Method

/-!
# Filters and tests

What the filters make of a value, and what the tests tell about it. A filter that puts texts
together gives plain text, whatever was markup before; only `xml` and `escape` make markup.
-/

namespace FormLetter.Script

open FormLetter.Text

/-- The names of the filters. -/
def filterNames : List String := [
  "count", "d", "default", "e", "escape", "first", "format", "int", "join", "last", "length",
  "list", "lower", "map", "replace", "reverse", "round", "sort", "string", "sum", "title", "trim",
  "upper", "xml"]

/-- The names of the tests. -/
def testNames : List String := [
  "defined", "divisibleby", "even", "iterable", "none", "number", "odd", "sameas", "string",
  "undefined"]

/-! ## Reading numbers -/

/-- The digits of a number with a line below between some of them. -/
def plainDigits? : Bool → List Char → Option (List Nat)
  | afterDigit, [] => if afterDigit then some [] else none
  | afterDigit, c :: rest =>
    if c == '_' then if afterDigit then plainDigits? false rest else none
    else
      let value := match digitValue? c with
        | some n => some n
        | none =>
          if 'a' ≤ c && c ≤ 'z' then some (c.toNat - 'a'.toNat + 10)
          else if 'A' ≤ c && c ≤ 'Z' then some (c.toNat - 'A'.toNat + 10) else none
      match value with
      | some n => (plainDigits? true rest).map (n :: ·)
      | none => none

/-- A sign before a number, and the rest. -/
def takeSign : List Char → Bool × List Char
  | '-' :: rest => (true, rest)
  | '+' :: rest => (false, rest)
  | rest => (false, rest)

/-- The letters after a zero that stand for a base. -/
def baseMark? (c : Char) : Option Nat :=
  match c with
  | 'x' | 'X' => some 16
  | 'o' | 'O' => some 8
  | 'b' | 'B' => some 2
  | _ => none

/-- The whole number that a text is in a base. Base zero stands for what the text itself says. -/
def readInt? (base : Int) (text : List Char) : Option Int := do
  let (isNegative, body) := takeSign (trim text)
  let marked := match body with
    | '0' :: c :: rest => (baseMark? c).map fun found => (found, rest)
    | _ => none
  let (found, body) := match marked with
    | some (mark, rest) =>
      if base == mark || base == 0 then (mark, if rest.head? == some '_' then rest.drop 1 else rest)
      else (base.toNat, body)
    | none => (if base == 0 then 10 else base.toNat, body)
  if base != 0 && (base < 2 || 36 < base) then none
  else
    let digits ← plainDigits? false body
    if digits.any (found ≤ ·) then none
    else if base == 0 && marked.isNone && digits.head? == some 0 && digits.any (· != 0) then none
    else if found == 10 && digitLimit < digits.length then none
    else
      let n := digits.foldl (fun n digit => n * found + digit) 0
      return if isNegative then -(n : Int) else n

/-- Decimal digits at the beginning of a text, and what follows them. -/
def takeDecimals? (text : List Char) : Option (List Nat × List Char) := do
  let run := text.takeWhile fun c => isDecimalDigit c || c == '_'
  let digits ← if run.isEmpty then some [] else plainDigits? false run
  return (digits, text.drop run.length)

/-- The double that a text is. -/
def readFloat? (text : List Char) : Option Float := do
  let (isNegative, body) := takeSign (trim text)
  let sign (x : Float) : Float := if isNegative then -x else x
  let word := String.ofList (toLower body)
  if word == "inf" || word == "infinity" then return sign (1.0 / 0.0)
  else if word == "nan" then return 0.0 / 0.0
  else
    let (whole, rest) ← takeDecimals? body
    let (fraction, rest) ← match rest with
      | '.' :: rest => takeDecimals? rest
      | rest => some ([], rest)
    if whole.isEmpty && fraction.isEmpty then none
    else
      let exponent ← match rest with
        | [] => some 0
        | c :: rest =>
          if c == 'e' || c == 'E' then do
            let (isDown, rest) := takeSign rest
            let digits ← plainDigits? false rest
            if digits.any (10 ≤ ·) then none
            else
              let n := digits.foldl (fun (n : Nat) digit => n * 10 + digit) 0
              some (if isDown then -(n : Int) else n)
          else none
      let mantissa := (whole ++ fraction).foldl (fun n digit => n * 10 + digit) 0
      return sign (Decimal.toFloat mantissa (exponent - fraction.length))

/-- The whole number next to a double on the side of zero, if the double is finite. -/
def wholePart? (x : Float) : Option Int :=
  if x.isNaN || x.isInf then none else some (Decimal.truncate x)

/-- The whole number that a value is, or a default where it is none. -/
def toInt (value default base : Value) : Local Value := do
  match value with
  | .text content _ => do
    let base ← wholeArgument base
    match readInt? base content with
    | some n => return .int n
    | none => return ((readFloat? content).bind wholePart?).elim default .int
  | .undefined missing => refuse missing
  | other =>
    match other.number? with
    | some (.int n) => return .int n
    | some (.float x) =>
      if x.isInf then trouble (.overflow .infinity)
      else return (wholePart? x).elim default .int
    | none => return default

/-! ## Rounding -/

/-- A value times a power of ten. -/
def scaledBy (value scale : Value) : Local Value := do
  match value.number?, scale.number? with
  | some left, some right => operateNumbers .mul left right
  | _, _ => do kindTrouble (.notRoundable (← kindOf value))

/-- The whole number next to a value, above it or below it. -/
def wholeBeside (isUp : Bool) (value : Value) : Local Int := do
  match value with
  | .float x =>
    match wholePart? (if isUp then x.ceil else x.floor) with
    | some n => return n
    | none => trouble (.overflow .infinity)
  | other => wholeArgument other

/-- A value rounded up or down to places after the point. -/
def roundAside (isUp : Bool) (value : Value) (places : Int) : Local Value := do
  match value with
  | .undefined missing => refuse missing
  | _ => do
    let scale ← operateInts .pow 10 places
    let whole ← wholeBeside isUp (← scaledBy value scale)
    match scale.number? with
    | some scale => operateNumbers .div (.int whole) scale
    | none => return .none

/-- A value rounded to places after the point. -/
def roundValue (value places direction : Value) : Local Value := do
  let places ← wholeArgument places
  match direction with
  | .text content _ =>
    match String.ofList content with
    | "common" =>
      match value.number? with
      | some (.int n) =>
        return .int (if places < 0 then Decimal.roundInt n (-places).toNat else n)
      | some (.float x) => return .float (Decimal.roundPlaces x places)
      | none => do kindTrouble (.notRoundable (← kindOf value))
    | "ceil" => roundAside true value places
    | "floor" => roundAside false value places
    | _ => trouble (.filterArgument "method must be common, ceil or floor")
  | _ => trouble (.filterArgument "method must be common, ceil or floor")

/-! ## Words -/

/-- True for a character after which a word begins. -/
def beginsWord (c : Char) : Bool :=
  isBlank c || "-([\x7b<".toList.contains c

/-- Text whose words begin with a capital letter; a word ends at white space, a hyphen or an
opening bracket. -/
def titleText (text : List Char) : List Char :=
  go true [] text
where
  /-- Goes on after the letters of a word that were read, last first. -/
  go (atBegin : Bool) (read : List Char) : List Char → List Char
    | [] => finish read
    | c :: rest =>
      if beginsWord c then finish read ++ c :: go true [] rest
      else if atBegin then upperChar c ++ go false [] rest
      else go false (c :: read) rest
  /-- The letters of a word after its first one. -/
  finish (read : List Char) : List Char := toLower read.reverse

/-! ## Filters -/

section

/-- The values at a path inside of several values. -/
def followAll (path : Value) (items : List Value) : Local (List Value) :=
  match path with
  | .none => return items
  | path => items.mapM (follow (pathOf path))

/-- The keys that a value is sorted by. -/
def sortKey (keepCase : Bool) (paths : List (List Value)) (item : Value) : Local Value := do
  let keys ← paths.mapM fun path => do
    let key ← follow path item
    return match key with
      | .text content isMarkup => if keepCase then key else .text (toLower content) isMarkup
      | other => other
  return .tuple keys

/-- The items of a value from the last to the first. -/
def backwards? (value : Value) : Local (Option Address) := do
  let start (cursor : Cursor) : Local (Option Address) := return some (← allocate (.cursor cursor))
  match value with
  | .list place => do start (.backward place (← listAt place).length)
  | .text .. | .tuple _ | .dict _ | .view .. | .range .. => do
    start (.items (← collect value).reverse)
  | .undefined missing => do
    passMissing missing
    start (.items [])
  | _ => return none

/-- The first item of those at a cursor, or an undefined value. -/
def firstOr (place : Address) (message : String) : Local Value := do
  match ← advance place with
  | some item => return item
  | none => makeMissing none message

/-- The written form of a value, as text that keeps being markup. -/
def softText (value : Value) : Local (List Char × Bool) := do
  match value with
  | .text content isMarkup => return (content, isMarkup)
  | other => return (← textOf other, false)

/-- Applies a filter that has no other filter as an argument. -/
def applyPlainFilter (name : String) (value : Value) (given : Given) : Local Value := do
  let bind (parameters : List Parameter) : Local (List Value) :=
    bindParameters ("do_" ++ name) given parameters
  let textFilter (change : List Char → List Char) : Local Value := do
    let _ ← bind []
    let (content, isMarkup) ← softText value
    return .text (change content) isMarkup
  match name with
  | "xml" => do
    let _ ← bind []
    match value with
    | .none => return .markup []
    | other => return .markup (← escaped other)
  | "escape" | "e" => do
    let _ ← bind []
    return .markup (← escaped value)
  | "string" => textFilter id
  | "upper" => textFilter toUpper
  | "lower" => textFilter toLower
  | "title" => do
    let _ ← bind []
    return .plain (titleText (← softText value).1)
  | "replace" => do
    match ← bind [required "old", required "new", optional "count"] with
    | [old, new, count] => do
      let content ← textOf value
      let old ← textOf old
      let new ← textOf new
      let limit ← match count with
        | .none => pure none
        | other => limitArgument other
      return .plain (replace old new limit content)
    | _ => return .none
  | "trim" => do
    match ← bind [optional "chars"] with
    | [chars] => do
      let (content, isMarkup) ← softText value
      textMethod content isMarkup "strip" ⟨[chars], []⟩
    | _ => return .none
  | "default" | "d" => do
    match ← bind [optional "default_value" (.plain []), optional "boolean" (.bool false)] with
    | [default, boolean] => do
      match value with
      | .undefined _ => return default
      | other =>
        if ← isTrue boolean then
          if ← isTrue other then return other else return default
        else return other
    | _ => return .none
  | "join" => do
    match ← bind [optional "d" (.plain []), optional "attribute"] with
    | [separator, path] => do
      let separator ← textOf separator
      let parts ← (← followAll path (← collect value)).mapM textOf
      return .plain (List.intercalate separator parts)
    | _ => return .none
  | "sort" => do
    match ← bind [optional "reverse" (.bool false), optional "case_sensitive" (.bool false),
      optional "attribute"] with
    | [reverse, caseSensitive, path] => do
      let items ← collect value
      let keepCase ← isTrue caseSensitive
      let paths := match path with
        | .text content _ => (splitOn [','] content).map fun part => pathOf (.plain part)
        | other => [pathOf other]
      let keyed ← items.mapM fun item => do return (← sortKey keepCase paths item, item)
      let isReverse ← isTrue reverse
      let sorted ← sortBy (·.1) (if isReverse then keyed.reverse else keyed)
      let sorted := if isReverse then sorted.reverse else sorted
      newList (sorted.map (·.2))
    | _ => return .none
  | "length" | "count" => do
    let _ ← bind []
    return .int (← lengthOf value)
  | "first" => do
    let _ ← bind []
    firstOr (← cursorOf value) "No first item, sequence was empty."
  | "last" => do
    let _ ← bind []
    match ← backwards? value with
    | some place => firstOr place "No last item, sequence was empty."
    | none => do kindTrouble (.notReversible (← kindOf value))
  | "reverse" => do
    let _ ← bind []
    match value with
    | .text content isMarkup => return .text content.reverse isMarkup
    | .cursor place => do newList (← drain place).reverse
    | other => do
      match ← backwards? other with
      | some place => return .cursor place
      | none => trouble (.filterArgument "argument must be iterable")
  | "list" => do
    let _ ← bind []
    newList (← collect value)
  | "sum" => do
    match ← bind [optional "attribute", optional "start" (.int 0)] with
    | [path, start] => do
      let items ← followAll path (← collect value)
      match start with
      | .text .. => kindTrouble .summedTexts
      | start => items.foldlM (operate .add) start
    | _ => return .none
  | "int" => do
    match ← bind [optional "default" (.int 0), optional "base" (.int 10)] with
    | [default, base] => toInt value default base
    | _ => return .none
  | "round" => do
    match ← bind [optional "precision" (.int 0), optional "method" (.ofString "common")] with
    | [places, direction] => roundValue value places direction
    | _ => return .none
  | "format" => do
    let (content, isMarkup) ← softText value
    match given.positional, given.named with
    | _ :: _, _ :: _ =>
      trouble (.filterArgument
        "can't handle positional and keyword arguments at the same time")
    | [], _ :: _ => do
      let entries := given.named.map fun (name, value) => (Value.ofString name, value)
      formatText content isMarkup (← newDict entries)
    | positional, [] => formatText content isMarkup (.tuple positional)
  | other => trouble (.noFilter other)

/-- The items of a value, each followed along a path or changed by a filter as the arguments
say. -/
def mapItems (value : Value) (given : Given) : Local (List Value) := do
  match given.positional, given.named.lookup "attribute" with
  | [], some path => do
    let default := (given.named.lookup "default").getD .none
    match given.named.find? fun (name, _) => name != "attribute" && name != "default" with
    | some (name, _) =>
      trouble (.filterArgument ("Unexpected keyword argument " ++ Quoted.quote name))
    | none => do
      (← followAll path (← collect value)).mapM fun item => do
        match item, default with
        | .undefined _, .none => return item
        | .undefined _, default => return default
        | item, _ => return item
  | .text name _ :: rest, _ => do
    (← collect value).mapM fun item =>
      applyPlainFilter (String.ofList name) item ⟨rest, given.named⟩
  | _, _ => trouble (.filterArgument "map requires a filter argument")

/-- Applies a filter. -/
def applyFilter (name : String) (value : Value) (given : Given) : Local Value := do
  if name != "map" then applyPlainFilter name value given
  else if !(← isTrue value) then return .cursor (← allocate (.cursor (.items [])))
  else return .cursor (← allocate (.cursor (.items (← mapItems value given))))

/-! ## Tests -/

/-- Tells whether the remainder of a value is another one. -/
def hasRemainder (value divisor : Value) (rest : Int) : Local Bool := do
  equals (← operate .mod value divisor) (.int rest)

/-- Applies a test. -/
def applyTest (name : String) (value : Value) (given : Given) : Local Bool := do
  let bind (parameters : List Parameter) : Local (List Value) :=
    bindParameters ("test_" ++ name) given parameters
  match name with
  | "defined" =>
    match value with
    | .undefined missing => do
      noticeMissing missing
      return false
    | _ => return true
  | "undefined" => do
    let _ ← bind []
    return match value with
      | .undefined _ => true
      | _ => false
  | "none" => do
    let _ ← bind []
    return match value with
      | .none => true
      | _ => false
  | "string" => do
    let _ ← bind []
    return match value with
      | .text .. => true
      | _ => false
  | "number" => do
    let _ ← bind []
    return value.number?.isSome
  | "odd" => do
    let _ ← bind []
    hasRemainder value (.int 2) 1
  | "even" => do
    let _ ← bind []
    hasRemainder value (.int 2) 0
  | "divisibleby" => do
    match ← bind [required "num"] with
    | [divisor] => hasRemainder value divisor 0
    | _ => return false
  | "iterable" => do
    let _ ← bind []
    match value with
    | .undefined missing => do
      useMissing missing
      return true
    | .text .. | .tuple _ | .list _ | .dict _ | .view .. | .range .. | .cursor _ | .loop _ =>
      return true
    | _ => return false
  | "sameas" => do
    match ← bind [required "other"] with
    | [other] => return value.isSame other
    | _ => return false
  | other => trouble (.noTest other)

end

end FormLetter.Script
