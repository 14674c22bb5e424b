import FormLetter.Decimal.Shortest
import FormLetter.Script.Cursor
import FormLetter.Text.Escape

/-!
# How values are written

The written form of a value, and its quoted form inside of lists and other values. A list that
holds itself is written with dots at that place.
-/

namespace FormLetter.Script

open FormLetter.Text

/-- The number of digits up to which an integer is written. -/
def digitLimit : Nat := 4300

/-- The depth of values inside of values up to which they are written and compared. -/
def nestingLimit : Nat := 900

/-- The digits of an integer. -/
def showInt (value : Int) : Local (List Char) :=
  if Decimal.tenTo digitLimit ≤ value.natAbs then valueTrouble .tooManyDigits
  else return (toString value).toList

/-- Texts with commas between them. -/
def commas (parts : List (List Char)) : List Char :=
  List.intercalate ", ".toList parts

/-- The number that a kind of builtin is known by. -/
def builtinLabel (name : String) : String :=
  match name with
  | "namespace" => "jinja2.utils.Namespace"
  | "cycler" => "jinja2.utils.Cycler"
  | "joiner" => "jinja2.utils.Joiner"
  | other => other

/-- The written form of a range. -/
def showRange (start stop step : Int) : Local (List Char) := do
  let parts ← (if step == 1 then [start, stop] else [start, stop, step]).mapM showInt
  return "range(".toList ++ commas parts ++ [')']

section

/-- The quoted form of a value. Values are nested so deep at most; `around` are the lists and
dictionaries that it stands in. -/
def quoteWithin : Nat → List Address → Value → Local (List Char)
  | 0, _, _ => trouble .recursion
  | depth + 1, around, value => do
    let quoteAll (inner : List Address) (items : List Value) : Local (List Char) := do
      return commas (← items.mapM (quoteWithin depth inner))
    let entries (inner : List Address) (found : List (Value × Value)) : Local (List Char) := do
      let parts ← found.mapM fun (key, value) => do
        let key ← quoteWithin depth inner key
        return key ++ ": ".toList ++ (← quoteWithin depth inner value)
      return commas parts
    match value with
    | .none => return "None".toList
    | .bool true => return "True".toList
    | .bool false => return "False".toList
    | .int value => showInt value
    | .float value => return (Decimal.render Decimal.documentForm value).toList
    | .text content isMarkup =>
      let quoted := Quoted.encode content
      return if isMarkup then "Markup(".toList ++ quoted ++ [')'] else quoted
    | .undefined _ => return "Undefined".toList
    | .tuple [item] => return '(' :: (← quoteWithin depth around item) ++ ",)".toList
    | .tuple items => return '(' :: (← quoteAll around items) ++ [')']
    | .range start stop step => showRange start stop step
    | .list place =>
      if around.contains place then return "[...]".toList
      else return '[' :: (← quoteAll (place :: around) (← listAt place)) ++ [']']
    | .dict place =>
      if around.contains place then return "\x7b...\x7d".toList
      else return '{' :: (← entries (place :: around) (← dictAt place)) ++ ['}']
    | .view kind place => do
      let items := (← dictAt place).map kind.show
      return (value.kind false ++ "([").toList ++ (← quoteAll around items) ++ "])".toList
    | .record kind place => do
      let fields ← fieldsAt place
      match kind with
      | .space =>
        let found := fields.map fun (name, value) => (Value.ofString name, value)
        return "<Namespace \x7b".toList ++ (← entries (place :: around) found) ++ "\x7d>".toList
      | _ =>
        let label := if kind == .options then "namespace" else kind.label
        if around.contains place then return (label ++ "(...)").toList
        else
          let parts ← fields.mapM fun (name, value) => do
            return (name ++ "=").toList ++ (← quoteWithin depth (place :: around) value)
          return (label ++ "(").toList ++ commas parts ++ [')']
    | .cursor _ => return "<generator object>".toList
    | .loop place => do
      let begun := (← loopAt place).begun
      let length ← loopLength place
      return ("<LoopContext " ++ toString begun ++ "/" ++ toString length ++ ">").toList
    | .routine place => do
      match ← fetch place with
      | .routine found => return "<Macro ".toList ++ Quoted.encode found.name.toList ++ ['>']
      | _ => return []
    | .method _ name => return ("<method " ++ name ++ ">").toList
    | .builtin name => return ("<class " ++ Quoted.quote (builtinLabel name) ++ ">").toList
    | .object id kind => return ((← read).shown id kind).toList
    | .blocks _ => return "<TemplateReference None>".toList
    | .block _ => return "<BlockReference>".toList

/-- The quoted form of a value. -/
def quoteValue (value : Value) : Local (List Char) := quoteWithin nestingLimit [] value

/-- The written form of a value. Text is written as it is, and an undefined value as nothing. -/
def textOf (value : Value) : Local (List Char) :=
  match value with
  | .text content _ => return content
  | .undefined missing => do
    useMissing missing
    return []
  | other => quoteValue other

/-- The escaped form of a value, which is markup. Markup is left as it is. -/
def escaped (value : Value) : Local (List Char) := do
  match value with
  | .text content true => return content
  | other => return Escape.encode (← textOf other)

end

end FormLetter.Script
