import FormLetter.Script.Arithmetic

/-!
# Members and items

What a value has under a name or at an index. A name is tried as a member first and as an item
then; an index the other way round. What is found in neither way is undefined.
-/

namespace FormLetter.Script

open FormLetter.Text

/-- The methods of text. -/
def textMethods : List String := [
  "capitalize", "count", "endswith", "find", "index", "join", "lower", "lstrip", "replace",
  "rstrip", "split", "startswith", "strip", "title", "upper"]

/-- The methods of lists. -/
def listMethods : List String := [
  "append", "clear", "copy", "count", "extend", "index", "insert", "pop", "remove", "reverse",
  "sort"]

/-- The methods of dictionaries. -/
def dictMethods : List String := [
  "clear", "copy", "get", "items", "keys", "pop", "popitem", "setdefault", "update", "values"]

/-- The methods of the surroundings of a document. -/
def contextMethods : List String := ["add_image", "add_partial", "bindings", "image", "partial"]

/-- The written form of a label. -/
def Label.written : Label → String
  | text name => name
  | int n => toString n
  | other shown => shown

/-- The member of an undefined value. A lenient heap notes that value, and has another undefined
one for the member; a strict one refuses. Names with two underscores in front are never members. -/
def memberOfMissing? (missing : Missing) (name : String) : Local (Option Value) := do
  if name.startsWith "__" then return none
  else if missing.isPlain || !(← get).isLenient then refuse missing
  else
    noteUse missing
    let label := match missing.label with
      | none => "None"
      | some label => label.written
    return some (← unknownName (label ++ "." ++ name))

/-- What a loop tells about itself. -/
def memberOfLoop? (place : Address) (name : String) : Local (Option Value) := do
  let state ← loopAt place
  let int (n : Int) : Local (Option Value) := return some (.int n)
  match name with
  | "index" => int state.begun
  | "index0" => int (state.begun - 1)
  | "length" => do int (← loopLength place)
  | "revindex" => do int ((← loopLength place) - state.begun + 1)
  | "revindex0" => do int ((← loopLength place) - state.begun)
  | "first" => return some (.bool (state.begun == 1))
  | "last" => return some (.bool (← lookAhead place).isNone)
  | "depth" => int (state.depth + 1)
  | "depth0" => int state.depth
  | "previtem" =>
    match state.before with
    | some item => return some item
    | none => return some (← makeMissing none "there is no previous item")
  | "nextitem" => do
    match ← lookAhead place with
    | some item => return some item
    | none => return some (← makeMissing none "there is no next item")
  | "cycle" | "changed" => return some (.method (.loop place) name)
  | _ => return none

section

/-- The member of a value, if there is one. -/
def memberOf? (value : Value) (name : String) : Local (Option Value) := do
  let among (names : List String) : Option Value :=
    if names.contains name then some (.method value name) else none
  match value with
  | .text .. => return among textMethods
  | .list _ => return among listMethods
  | .dict _ => return among dictMethods
  | .tuple _ => return among ["count", "index"]
  | .undefined missing => memberOfMissing? missing name
  | .record kind place => do
    match (← fieldsAt place).lookup name with
    | some found => return some found
    | none => return if kind == .context then among contextMethods else none
  | .loop place => memberOfLoop? place name
  | .routine place => do
    match ← fetch place, name with
    | .routine found, "name" => return some (.ofString found.name)
    | .routine found, "arguments" => return some (.tuple (found.parameters.map .ofString))
    | _, _ => return none
  | .object id kind => do
    match (← read).member? id kind name with
    | some (.value found) => return some found
    | some (.table entries) =>
      return some (← newDict (entries.map fun (name, value) => (.ofString name, value)))
    | none => return none
  | _ => return none

/-- The place that an index means among so many, counted from the end when it is negative. -/
def placeOf? (length : Nat) (index : Int) : Option Nat :=
  let place := if index < 0 then index + length else index
  if 0 ≤ place && place < length then some place.toNat else none

/-- The whole number that an index is. -/
def Value.index? (index : Value) : Option Int :=
  match index.number? with
  | some (.int n) => some n
  | _ => Option.none

/-- The item of a value, if there is one. -/
def itemOf? (value index : Value) : Local (Option Value) := do
  let at? (items : List Value) : Option Value := do
    items[← placeOf? items.length (← index.index?)]?
  match value with
  | .text content isMarkup => return at? (content.map fun c => .text [c] isMarkup)
  | .tuple items => return at? items
  | .list place => return at? (← listAt place)
  | .range start stop step =>
    return do
      let place ← placeOf? (rangeLength start stop step) (← index.index?)
      some (.int (start + step * place))
  | .dict place => do
    match ← firstUnhashable? index.obstacles with
    | some _ => return none
    | none => entryOf? index (← dictAt place)
  | .undefined missing => refuse missing
  | .blocks names =>
    match index with
    | .text content _ =>
      let name := String.ofList content
      return if names.contains name then some (.block name) else none
    | _ => return none
  | _ => return none

/-- The undefined value of a member that a value does not have. -/
def lackingMember (value : Value) (name : String) : Local Value :=
  makeMissing (some (.text name))
    (Quoted.quote value.describe ++ " has no attribute " ++ Quoted.quote name)

/-- The undefined value of an item that a value does not have. -/
def lackingItem (value index : Value) : Local Value := do
  match index with
  | .text content _ => lackingMember value (String.ofList content)
  | other => do
    let shown := String.ofList (← quoteValue other)
    let label := match other with
      | .int n => some (.int n)
      | .none => none
      | _ => some (.other shown)
    makeMissing label (value.describe ++ " has no element " ++ shown) false other.unhashable?

/-- What a value has under a name. -/
def member (value : Value) (name : String) : Local Value := do
  match ← memberOf? value name with
  | some found => return found
  | none =>
    match ← itemOf? value (.ofString name) with
    | some found => return found
    | none => lackingMember value name

/-- What a value has at an index. -/
def item (value index : Value) : Local Value := do
  match ← itemOf? value index with
  | some found => return found
  | none =>
    match index with
    | .text content _ => do
      match ← memberOf? value (String.ofList content) with
      | some found => return found
      | none => lackingItem value index
    | _ => lackingItem value index

/-- A part of a path to something inside of a value: text, digits of which are an index. -/
def pathPart (text : List Char) : Value :=
  if !text.isEmpty && text.all Char.isDigit then
    .int (text.foldl (fun n c => n * 10 + ((c.toNat - '0'.toNat : Nat) : Int)) 0)
  else .plain text

/-- The path that a value describes. -/
def pathOf (path : Value) : List Value :=
  match path with
  | .none => []
  | .text content _ => (splitOn ['.'] content).map pathPart
  | other => [other]

/-- What stands at the end of a path. -/
def follow (path : List Value) (value : Value) : Local Value :=
  path.foldlM item value

end

/-! ## Slices -/

/-- The indices of a slice of so many items. The step is not zero. -/
def sliceIndices (length : Nat) (start stop : Option Int) (step : Int) : List Nat :=
  let least : Int := if step < 0 then -1 else 0
  let most : Int := if step < 0 then length - 1 else length
  let bound (given : Option Int) (default : Int) : Int :=
    match given with
    | none => default
    | some n => max least (min most (if n < 0 then n + length else n))
  let first := bound start (if step < 0 then most else least)
  let last := bound stop (if step < 0 then least else most)
  (List.range (rangeLength first last step)).map fun (n : Nat) => (first + step * n).toNat

/-- The bound of a slice. -/
def sliceBound (bound : Value) : Local (Option Int) := do
  match bound, bound.index? with
  | .none, _ => return none
  | _, some n => return some n
  | _, none => kindTrouble .sliceBound

/-- A slice of a value. -/
def slice (value start stop step : Value) : Local Value := do
  let pick {α : Type} (items : List α) : Local (List α) := do
    let step := (← sliceBound step).getD 1
    if step == 0 then valueTrouble .zeroStep
    else
      let indices := sliceIndices items.length (← sliceBound start) (← sliceBound stop) step
      return indices.filterMap (items[·]?)
  match value with
  | .text content isMarkup => return .text (← pick content) isMarkup
  | .tuple items => return .tuple (← pick items)
  | .list place => do newList (← pick (← listAt place))
  | .range first last by_ => do
    let length := rangeLength first last by_
    let step := (← sliceBound step).getD 1
    if step == 0 then valueTrouble .zeroStep
    else
      let indices := sliceIndices length (← sliceBound start) (← sliceBound stop) step
      let from_ := first + by_ * (indices.headD 0 : Nat)
      return .range from_ (from_ + by_ * step * indices.length) (by_ * step)
  | .dict _ => kindTrouble (.unhashable "slice")
  | .undefined missing => refuse missing
  | other => do kindTrouble (.notSubscriptable (← kindOf other))

end FormLetter.Script
