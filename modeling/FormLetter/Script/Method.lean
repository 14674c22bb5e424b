import FormLetter.Script.Given
import FormLetter.Text.Letters

/-!
# Methods

What the methods of texts, tuples, lists and dictionaries do. A method of markup gives markup, and
escapes the texts that are handed to it.
-/

namespace FormLetter.Script

open FormLetter.Text

/-- The text that an argument must be. -/
def textArgument (callee : String) (value : Value) : Local (List Char) := do
  match value with
  | .text content _ => return content
  | other =>
    argumentTrouble callee (" argument must be str, not " ++ (← kindOf other))

/-- The text that is handed to a method of markup or of plain text. -/
def handed (callee : String) (isMarkup : Bool) (value : Value) : Local (List Char) := do
  match value with
  | .text content false => return if isMarkup then Escape.encode content else content
  | other => textArgument callee other

/-- The whole number that an argument must be. -/
def wholeArgument (value : Value) : Local Int := do
  match value.index? with
  | some n => return n
  | none => do kindTrouble (.notWhole (← kindOf value))

/-- A count that an argument gives; a negative one is no limit. -/
def limitArgument (value : Value) : Local (Option Nat) := do
  let n ← wholeArgument value
  return if n < 0 then none else some n.toNat

/-- Text whose words begin with a capital letter and go on in small ones. -/
def capitalizeWords : Bool → List Char → List Char
  | _, [] => []
  | inWord, c :: rest =>
    let isLetter := meetsCased [c]
    (if !isLetter then [c] else if inWord then lowerChar c else upperChar c)
      ++ capitalizeWords isLetter rest

/-- The part of a text that two bounds cut out. -/
def window (content : List Char) (start stop : Value) : Local (List Char) := do
  let indices := sliceIndices content.length (← sliceBound start) (← sliceBound stop) 1
  return (content.drop (indices.headD 0)).take indices.length

/-- Joins texts; other values cannot be joined. -/
def joinAll (isMarkup : Bool) (separator : List Char) (items : List Value) : Local Value := do
  let parts ← (items.zip (List.range items.length)).mapM fun (item, place) => do
    match item with
    | .text content isPart => return if isMarkup && !isPart then Escape.encode content else content
    | other => do kindTrouble (.joinedItem place (← kindOf other))
  return .text (List.intercalate separator parts) isMarkup

/-- Tells whether one of several texts stands at an end of a text. -/
def standsAt (callee : String) (test : List Char → Bool) (wanted : Value) : Local Value := do
  match wanted with
  | .tuple choices => do
    let choices ← choices.mapM (textArgument callee)
    return .bool (choices.any test)
  | other => return .bool (test (← textArgument callee other))

/-- Text without certain characters at its ends, or without blanks if none are given. -/
def stripMethod (content : List Char) (isMarkup : Bool) (name : String) (given : Given)
    (fromLeft fromRight : Bool) : Local Value := do
  match ← bindParameters name given [optional "chars"] with
  | [chars] => do
    let isCut ← match chars with
      | .none => pure isBlank
      | other => do
        let set ← handed name isMarkup other
        pure set.contains
    let result := if fromLeft then content.dropWhile isCut else content
    return .text (if fromRight then (result.reverse.dropWhile isCut).reverse else result) isMarkup
  | _ => return .none

/-- The place in a text where another one begins. -/
def searchMethod (content : List Char) (name : String) (given : Given) : Local (Option Nat) := do
  match ← bindParameters name given [required "sub", optional "start", optional "end"] with
  | [wanted, start, stop] => do
    let wanted ← textArgument name wanted
    let first := (sliceIndices content.length (← sliceBound start) none 1).headD content.length
    return (find? wanted (← window content start stop)).map (· + first)
  | _ => return none

/-- A method of text. -/
def textMethod (content : List Char) (isMarkup : Bool) (name : String) (given : Given) :
    Local Value := do
  let bind := bindParameters name given
  let same (result : List Char) : Local Value := return .text result isMarkup
  match name with
  | "upper" => do
    let _ ← bind []
    same (toUpper content)
  | "lower" => do
    let _ ← bind []
    same (toLower content)
  | "title" => do
    let _ ← bind []
    same (capitalizeWords false content)
  | "capitalize" => do
    let _ ← bind []
    same (match content with
      | [] => []
      | c :: rest => upperChar c ++ toLower rest)
  | "strip" => stripMethod content isMarkup name given true true
  | "lstrip" => stripMethod content isMarkup name given true false
  | "rstrip" => stripMethod content isMarkup name given false true
  | "split" => do
    match ← bind [optional "sep", optional "maxsplit" (.int (-1))] with
    | [separator, limit] => do
      let limit := (← limitArgument limit).getD content.length
      let parts ← match separator with
        | .none => pure (splitBlank isBlank limit content)
        | other => do
          let separator ← textArgument name other
          if separator.isEmpty then valueTrouble .emptySeparator
          else pure (splitAtMost separator limit content)
      newList (parts.map fun part => .text part isMarkup)
    | _ => return .none
  | "join" => do
    match ← bind [required "iterable"] with
    | [items] => do joinAll isMarkup content (← collect items)
    | _ => return .none
  | "startswith" | "endswith" => do
    match ← bind [required "prefix", optional "start", optional "end"] with
    | [wanted, start, stop] => do
      let part ← window content start stop
      standsAt name (fun wanted =>
        if name == "startswith" then wanted.isPrefixOf part else wanted.isSuffixOf part) wanted
    | _ => return .none
  | "replace" => do
    match ← bind [required "old", required "new", optional "count" (.int (-1))] with
    | [old, new, count] => do
      let old ← handed name isMarkup old
      let new ← handed name isMarkup new
      same (replace old new (← limitArgument count) content)
    | _ => return .none
  | "count" => do
    match ← bind [required "sub", optional "start", optional "end"] with
    | [wanted, start, stop] => do
      let wanted ← textArgument name wanted
      return .int (countIn wanted (← window content start stop))
    | _ => return .none
  | "find" => do
    match ← searchMethod content name given with
    | some place => return .int place
    | none => return .int (-1)
  | _ => do
    match ← searchMethod content name given with
    | some place => return .int place
    | none => valueTrouble .noSubstring

/-- The place of the first item that is equal to a value. -/
def placeOfItem? (wanted : Value) : List Value → Local (Option Nat)
  | [] => return none
  | first :: rest => do
    if ← matches? first wanted then return some 0
    else return (← placeOfItem? wanted rest).map (· + 1)

/-- The number of items that are equal to a value. -/
def countItems (wanted : Value) : List Value → Local Nat
  | [] => return 0
  | first :: rest => do
    let here := if ← matches? first wanted then 1 else 0
    return here + (← countItems wanted rest)

section

/-- A method that only looks at items. -/
def itemsMethod (items : List Value) (name : String) (given : Given) : Local Value := do
  let bind := bindParameters name given
  match name with
  | "count" => do
    match ← bind [required "value"] with
    | [wanted] => return .int (← countItems wanted items)
    | _ => return .none
  | _ => do
    match ← bind [required "value", optional "start" (.int 0), optional "stop"] with
    | [wanted, start, stop] => do
      let indices := sliceIndices items.length (← sliceBound start) (← sliceBound stop) 1
      match ← placeOfItem? wanted (indices.filterMap (items[·]?)) with
      | some place => return .int (indices.headD 0 + place : Nat)
      | none => valueTrouble (.notInList (String.ofList (← quoteValue wanted)))
    | _ => return .none

/-- A method of a list. -/
def listMethod (place : Address) (name : String) (given : Given) : Local Value := do
  let items ← listAt place
  let bind := bindParameters name given
  let become (items : List Value) : Local Value := do
    keep place (.list items)
    return .none
  match name with
  | "append" => do
    match ← bind [required "object"] with
    | [item] => become (items ++ [item])
    | _ => return .none
  | "extend" => do
    match ← bind [required "iterable"] with
    | [more] => do become (items ++ (← collect more))
    | _ => return .none
  | "insert" => do
    match ← bind [required "index", required "object"] with
    | [index, item] => do
      let index ← wholeArgument index
      let at_ := if index < 0 then (index + items.length).toNat else index.toNat
      become (items.take at_ ++ item :: items.drop at_)
    | _ => return .none
  | "pop" => do
    match ← bind [optional "index" (.int (-1))] with
    | [index] => do
      let index ← wholeArgument index
      if items.isEmpty then trouble .emptyList
      else
        match placeOf? items.length index with
        | none => trouble .popPlace
        | some at_ => do
          let _ ← become (items.eraseIdx at_)
          return items[at_]?.getD .none
    | _ => return .none
  | "remove" => do
    match ← bind [required "value"] with
    | [wanted] => do
      match ← placeOfItem? wanted items with
      | some at_ => become (items.eraseIdx at_)
      | none => valueTrouble .notRemovable
    | _ => return .none
  | "reverse" => do
    let _ ← bind []
    become items.reverse
  | "clear" => do
    let _ ← bind []
    become []
  | "copy" => do
    let _ ← bind []
    newList items
  | "sort" => do
    match ← bind [optional "key", optional "reverse" (.bool false)] with
    | [_, reverse] => do
      let backwards ← isTrue reverse
      let sorted ← sortBy id (if backwards then items.reverse else items)
      become (if backwards then sorted.reverse else sorted)
    | _ => return .none
  | _ => itemsMethod items name given

/-- The entries that a value gives to a dictionary. -/
def entriesOf (value : Value) : Local (List (Value × Value)) := do
  match value with
  | .dict place => dictAt place
  | other => do
    let items ← collect other
    (items.zip (List.range items.length)).mapM fun (item, place) => do
      match ← length? item with
      | none => kindTrouble (.updateElement place)
      | some _ => do
        match ← collect item with
        | [key, value] => return (key, value)
        | parts => valueTrouble (.updateLength place parts.length)

/-- The entries that the arguments of a call give. -/
def givenEntries (callee : String) (given : Given) : Local (List (Value × Value)) := do
  let named := given.named.map fun (name, value) => (Value.ofString name, value)
  match given.positional with
  | [] => enterAll [] named
  | [source] => do enterAll [] ((← entriesOf source) ++ named)
  | several =>
    argumentTrouble callee
      (" expected at most 1 argument, got " ++ toString several.length)

/-- A method of a dictionary. -/
def dictMethod (place : Address) (name : String) (given : Given) : Local Value := do
  let entries ← dictAt place
  let bind := bindParameters name given
  let become (entries : List (Value × Value)) : Local Value := do
    keep place (.dict entries)
    return .none
  let find? (key : Value) : Local (Option Value) := do
    checkKey key
    entryOf? key entries
  match name with
  | "items" => do
    let _ ← bind []
    return .view .items place
  | "keys" => do
    let _ ← bind []
    return .view .keys place
  | "values" => do
    let _ ← bind []
    return .view .values place
  | "get" => do
    match ← bind [required "key", optional "default"] with
    | [key, default] => return (← find? key).getD default
    | _ => return .none
  | "setdefault" => do
    match ← bind [required "key", optional "default"] with
    | [key, default] => do
      match ← find? key with
      | some found => return found
      | none => do
        let _ ← become (entries ++ [(key, default)])
        return default
    | _ => return .none
  | "pop" => do
    match given.positional with
    | [key] | [key, _] => do
      match ← find? key, given.positional.drop 1 with
      | some found, _ => do
        let _ ← become (← removeKey key entries)
        return found
      | none, [default] => return default
      | none, _ => do trouble (.missingKey (String.ofList (← quoteValue key)))
    | several =>
      argumentTrouble name (" expected at most 2 arguments, got " ++ toString several.length)
  | "popitem" => do
    let _ ← bind []
    match entries.reverse with
    | [] => trouble (.missingKey (Quoted.quote "popitem(): dictionary is empty"))
    | (key, value) :: rest => do
      let _ ← become rest.reverse
      return .tuple [key, value]
  | "update" => do
    become (← enterAll entries (← givenEntries name given))
  | "clear" => do
    let _ ← bind []
    become []
  | _ => do
    let _ ← bind []
    newDict entries

/-- A method of a loop. -/
def loopMethod (place : Address) (name : String) (given : Given) : Local Value := do
  let state ← loopAt place
  match name, given.positional with
  | "cycle", [] => argumentTrouble "cycle" ": no items for cycling given"
  | "cycle", items => return items[(state.begun - 1) % items.length]?.getD .none
  | _, values => do
    let isSame ← match state.watched with
      | some old => equals (.tuple old) (.tuple values)
      | none => pure false
    if !isSame then keep place (.loop { state with watched := some values })
    return .bool !isSame

/-! ## Calling what the language brings with it -/

/-- Calls one of the things that every template knows. -/
def callBuiltin (name : String) (given : Given) : Local Value := do
  match name with
  | "range" => do
    let bounds ← given.positional.mapM wholeArgument
    match bounds with
    | [stop] => return .range 0 stop 1
    | [start, stop] => return .range start stop 1
    | [start, stop, step] =>
      if step == 0 then valueTrouble .zeroRangeStep else return .range start stop step
    | _ =>
      argumentTrouble name
        (" expected at most 3 arguments, got " ++ toString bounds.length)
  | "namespace" => do
    let entries ← givenEntries "dict" given
    newRecord .space (← entries.mapM fun (key, value) => do
      return (String.ofList (← textOf key), value))
  | "dict" => do newDict (← givenEntries name given)
  | other => kindTrouble (.notCallable other)

end

end FormLetter.Script
