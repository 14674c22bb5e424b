import FormLetter.Json.Basic
import FormLetter.Log
import FormLetter.Fault
import FormLetter.Script.Symbols

/-!
# Values and where they are kept

The values of template code. A list, a dictionary or any other thing that can be changed is an
address in a heap, so that two names for it see each other's changes; all other values are whole.
A value that is not there is a value too: it remembers what it stands for, and it is the mode of
the heap that decides whether its use is refused or noted.
-/

namespace FormLetter.Script

/-- A place in a heap. -/
abbrev Address := Nat

/-- What an undefined value stands for. -/
inductive Label where
  | text (name : String)
  | int (n : Int)
  | other (shown : String)
  deriving DecidableEq, Repr, Inhabited

/-- A value that is not there. -/
structure Missing where
  /-- Under which label its use is noted, if it has one. -/
  label : Option Label
  /-- What is said when its use is refused. -/
  message : String
  /-- True for the result of a conditional that has no other branch: it may be used freely. -/
  isPlain : Bool
  identity : Nat
  /-- The kind of the index that it stands for, if that can be changed: such a label cannot be
  noted. -/
  unhashable : Option String
  deriving DecidableEq, Repr, Inhabited

/-- What a view of a dictionary shows. -/
inductive ViewKind where
  | keys | values | items
  deriving DecidableEq, Repr, Inhabited

/-- The kinds of values that have named fields. -/
inductive RecordKind where
  /-- Made by template code to carry a value out of a loop. -/
  | space
  /-- The options of a document. -/
  | options
  /-- The options that a command line gives. -/
  | arguments
  /-- The surroundings in which a document is rendered. -/
  | context
  deriving DecidableEq, Repr, Inhabited

/-- A value of template code. -/
inductive Value where
  | none
  | bool (value : Bool)
  | int (value : Int)
  | float (value : Float)
  /-- Text. Markup is text that is not escaped again. -/
  | text (content : List Char) (isMarkup : Bool)
  | undefined (missing : Missing)
  | tuple (items : List Value)
  | range (start stop step : Int)
  | list (place : Address)
  | dict (place : Address)
  | view (kind : ViewKind) (place : Address)
  | record (kind : RecordKind) (place : Address)
  /-- Items that can be taken once. -/
  | cursor (place : Address)
  | loop (place : Address)
  | routine (place : Address)
  | method (subject : Value) (name : String)
  | builtin (name : String)
  /-- A thing of the world outside: its number there, and the name of its kind. -/
  | object (id : Nat) (kind : String)
  /-- The named blocks of a template, and one of them. -/
  | blocks (names : List String)
  | block (name : String)

instance : Inhabited Value := ⟨.none⟩

namespace Value

/-- Plain text. -/
def plain (content : List Char) : Value := .text content false

/-- Plain text, from a string. -/
def ofString (content : String) : Value := .text content.toList false

/-- Markup. -/
def markup (content : List Char) : Value := .text content true

end Value

/-- The items that are still to come. -/
inductive Cursor where
  | items (rest : List Value)
  /-- The items of a list from a place on, as the list is when they are taken. -/
  | forward (list : Address) (place : Nat)
  /-- The first so many items of a list, from the last to the first. -/
  | backward (list : Address) (count : Nat)
  /-- The entries of a dictionary, which must keep its size. -/
  | entries (kind : ViewKind) (dict : Address) (place size : Nat)
  | counting (next step : Int) (count : Nat)
  deriving Inhabited

/-- The state of a loop that template code can ask about. -/
structure LoopState where
  source : Value
  cursor : Address
  /-- The number of items that were begun. -/
  begun : Nat
  before : Option Value
  current : Option Value
  /-- The item after the current one, if it was looked at. -/
  ahead : Option Value
  depth : Nat
  length : Option Nat
  /-- The values that were last asked about for a change. -/
  watched : Option (List Value)
  deriving Inhabited

/-- A macro, together with the frames that it was defined in. -/
structure Routine where
  name : String
  parameters : List String
  defaults : List Expr
  special : List String
  body : List Statement
  line : Nat
  symbols : Symbols
  frames : List Address
  deriving Inhabited

/-- What is kept at an address. -/
inductive Cell where
  | list (items : List Value)
  /-- Entries in the order in which their keys came. -/
  | dict (entries : List (Value × Value))
  | record (fields : List (String × Value))
  | cursor (cursor : Cursor)
  | loop (state : LoopState)
  | routine (routine : Routine)
  /-- The variables of a frame that have a value. -/
  | frame (bound : List (String × Value))
  deriving Inhabited

/-- What stands at an address: a cell, which can be replaced, or the fields of surroundings, which
stay as they were made. -/
inductive Kept where
  | cell (cell : Cell)
  | surroundings (fields : List (String × Value))

namespace Kept

/-- What is read at an address. -/
def content : Kept → Cell
  | cell found => found
  | surroundings fields => .record fields

/-- What stands at an address when another cell is put there. -/
def replace (new : Cell) : Kept → Kept
  | cell _ => .cell new
  | surroundings fields => .surroundings fields

/-- The fields of surroundings. -/
def fields? : Kept → Option (List (String × Value))
  | cell _ => none
  | surroundings fields => some fields

end Kept

/-- Everything of its own that running template code can change. -/
structure Heap where
  cells : Array Kept
  /-- The labels of the undefined values that were used. -/
  recorded : List Label
  /-- The undefined values that were used without being noted, where their use is not refused. -/
  overlooked : List Missing
  /-- The number of undefined values that were made. -/
  made : Nat
  /-- The line of the template that is running. -/
  line : Nat
  /-- The variables that were set outside of all blocks. -/
  exported : List (String × Value)
  /-- True when the use of an undefined value is noted, false when it is refused. -/
  isLenient : Bool
  /-- What was reported, in order. -/
  log : List Log.Line

/-- What template code can see of a thing of the world outside: a value, or named values that make
up a new dictionary. -/
inductive Sight where
  | value (value : Value)
  | table (entries : List (String × Value))
  deriving Inhabited

/-- What template code can see of the world outside. A thing in it has a number and a kind. -/
structure Outlook where
  /-- The written form of a thing. -/
  shown : Nat → String → String
  /-- A member of a thing. -/
  member? : Nat → String → String → Option Sight

/-- A computation that keeps to itself: it sees the world outside, but changes nothing there. What
it changed of its own stays changed when it fails. -/
abbrev Local := ReaderT Outlook (ExceptT Fault (StateM Heap))

/-- What comes of a computation that keeps to itself, and the heap that it leaves. -/
def Local.runFrom {α : Type} (action : Local α) (outlook : Outlook) (heap : Heap) :
    Except Fault α × Heap :=
  StateT.run (ExceptT.run (ReaderT.run action outlook)) heap

/-- Everything that running template code can change, the world outside included. -/
structure Store (σ : Type) extends Heap where
  world : σ

/-- A computation of template code, which can call things of the world outside. What it changed
stays changed when it fails. -/
abbrev M (σ : Type) := ExceptT Fault (StateM (Store σ))

/-- What comes of a computation that begins in a store, and the store that it leaves. -/
def M.runFrom {σ α : Type} (action : M σ α) (store : Store σ) : Except Fault α × Store σ :=
  StateT.run (ExceptT.run action) store

/-- A world that template code can look at. -/
class World (σ : Type) where
  outlook : σ → Outlook

/-- A world in which there is nothing. -/
instance : World Unit where
  outlook _ := ⟨fun _ _ => "", fun _ _ _ => none⟩

variable {σ : Type}

/-- A computation that keeps to itself, among others. -/
instance [World σ] : MonadLift Local (M σ) where
  monadLift action store :=
    let (result, heap) := action.runFrom (World.outlook store.world) store.toHeap
    (result, { store with toHeap := heap })

/-! ## Failing -/

/-- Fails with a trouble. -/
def trouble {α : Type} (cause : Trouble) : Local α := throw (.trouble cause)

/-- Fails because of the kind of a value. -/
def kindTrouble {α : Type} (cause : KindTrouble) : Local α := trouble (.kind cause)

/-- Fails because of a value. -/
def valueTrouble {α : Type} (cause : ValueTrouble) : Local α := trouble (.value cause)

/-- Does something, and does not fail when that fails. -/
def attempt {α : Type} (action : M σ α) : M σ (Except Fault α) :=
  ExceptT.mk (.ok <$> action.run)

/-- Does something, and then something else, whether the first fails or not. -/
def afterwards {α : Type} (action : M σ α) (last : M σ Unit) : M σ α := do
  let outcome ← attempt action
  last
  match outcome with
  | .ok value => return value
  | .error fault => throw fault

/-- Reports a line. -/
def report (level : Log.Level) (source : Log.Source) (message : String) : Local Unit :=
  modify fun heap => { heap with log := heap.log ++ [⟨level, source, message⟩] }

/-! ## The heap -/

/-- Keeps a cell at a new address. -/
def allocate (cell : Cell) : Local Address := do
  let heap ← get
  set { heap with cells := heap.cells.push (.cell cell) }
  return heap.cells.size

/-- The cell at an address. -/
def fetch (place : Address) : Local Cell := do
  return ((← get).cells[place]?.map Kept.content).getD default

/-- Replaces the cell at an address. Surroundings stay as they are. -/
def keep (place : Address) (cell : Cell) : Local Unit :=
  modify fun heap => { heap with cells := heap.cells.modify place (Kept.replace cell) }

/-- Keeps the fields of surroundings at a new address, and gives the surroundings. -/
def surround (fields : List (String × Value)) : Local Value := do
  let heap ← get
  set { heap with cells := heap.cells.push (.surroundings fields) }
  return .record .context heap.cells.size

/-- The fields of the surroundings at an address, if there are some. -/
def surroundingsAt? (place : Address) : Local (Option (List (String × Value))) := do
  return (← get).cells[place]?.bind Kept.fields?

/-- The line of the template that is running. -/
def currentLine : Local Nat := do
  return (← get).line

/-- Notes which line is running. -/
def setLine (line : Nat) : Local Unit :=
  modify fun heap => { heap with line }

/-- The value of a variable that was set outside of all blocks. -/
def exported? (name : String) : Local (Option Value) := do
  return (← get).exported.lookup name

/-- Makes a variable known everywhere. -/
def exportValue (name : String) (value : Value) : Local Unit :=
  modify fun heap =>
    { heap with exported := (name, value) :: heap.exported.filter (·.1 != name) }

/-- Begins a template, in which nothing is known everywhere yet. -/
def beginTemplate : Local Unit :=
  modify fun heap => { heap with exported := [], line := 1 }

/-- The items of a list. -/
def listAt (place : Address) : Local (List Value) := do
  match ← fetch place with
  | .list items => return items
  | _ => return []

/-- The entries of a dictionary. -/
def dictAt (place : Address) : Local (List (Value × Value)) := do
  match ← fetch place with
  | .dict entries => return entries
  | _ => return []

/-- The fields of a record. -/
def fieldsAt (place : Address) : Local (List (String × Value)) := do
  match ← fetch place with
  | .record fields => return fields
  | _ => return []

/-- A new list. -/
def newList (items : List Value) : Local Value := do
  return .list (← allocate (.list items))

/-- A new dictionary of entries whose keys differ. -/
def newDict (entries : List (Value × Value)) : Local Value := do
  return .dict (← allocate (.dict entries))

/-- A new record. -/
def newRecord (kind : RecordKind) (fields : List (String × Value)) : Local Value := do
  return .record kind (← allocate (.record fields))

mutual

/-- The value of data. -/
def ofJson : Json → Local Value
  | .null => return .none
  | .bool value => return .bool value
  | .int value => return .int value
  | .float value => return .float value
  | .text value => return .ofString value
  | .array items => do newList (← ofItems items)
  | .object members => do newDict (← ofMembers members)

/-- The values of several data. -/
def ofItems : List Json → Local (List Value)
  | [] => return []
  | first :: rest => do return (← ofJson first) :: (← ofItems rest)

/-- The entries of named data. -/
def ofMembers : List (String × Json) → Local (List (Value × Value))
  | [] => return []
  | (name, first) :: rest => do
    return (Value.ofString name, ← ofJson first) :: (← ofMembers rest)

end

/-! ## Undefined values -/

/-- A new undefined value. -/
def makeMissing (label : Option Label) (message : String) (isPlain : Bool := false)
    (unhashable : Option String := none) : Local Value := do
  let heap ← get
  set { heap with made := heap.made + 1 }
  return .undefined ⟨label, message, isPlain, heap.made, unhashable⟩

/-- The undefined value of a name that nothing is known by. -/
def unknownName (name : String) : Local Value :=
  makeMissing (some (.text name)) (Text.Quoted.quote name ++ " is undefined")

/-- Refuses the use of an undefined value. -/
def refuse {α : Type} (missing : Missing) : Local α :=
  trouble (.undefined missing.message)

/-- Notes a label, once. -/
def note (label : Label) : Local Unit :=
  modify fun heap =>
    if heap.recorded.contains label then heap
    else { heap with recorded := heap.recorded ++ [label] }

/-- Notes the use of an undefined value, if it has a label. -/
def noteMissing (missing : Missing) : Local Unit :=
  match missing.label, missing.unhashable with
  | none, _ => return ()
  | some label, none => if missing.isPlain then return () else note label
  | some _, some kind => kindTrouble (.unhashable kind)

/-- Uses an undefined value without noting it. -/
def overlook (missing : Missing) : Local Unit :=
  modify fun heap => { heap with overlooked := heap.overlooked ++ [missing] }

/-- Notes the use of an undefined value. One that has no label is overlooked. -/
def noteUse (missing : Missing) : Local Unit :=
  match missing.label with
  | none => overlook missing
  | some _ => noteMissing missing

/-- Looks whether a value is undefined, which it is: a lenient heap notes that, and a strict one
does not mind. -/
def noticeMissing (missing : Missing) : Local Unit := do
  if (← get).isLenient then noteMissing missing

/-- Uses an undefined value in a way that a lenient heap allows: such a heap notes the use, and a
strict one refuses it. -/
def useMissing (missing : Missing) : Local Unit := do
  if missing.isPlain then return ()
  else if (← get).isLenient then noteUse missing
  else refuse missing

/-- Uses an undefined value in a way that a lenient heap allows and does not even note. -/
def passMissing (missing : Missing) : Local Unit := do
  if missing.isPlain then return ()
  else if (← get).isLenient then overlook missing
  else refuse missing

/-! ## What kinds are called -/

namespace RecordKind

/-- The name of a kind of record. -/
def label : RecordKind → String
  | space => "Namespace"
  | options => "SimpleNamespace"
  | arguments => "Namespace"
  | context => "RenderContext"

/-- The full name of a kind of record. -/
def fullLabel : RecordKind → String
  | space => "jinja2.utils.Namespace"
  | options => "types.SimpleNamespace"
  | arguments => "argparse.Namespace"
  | context => "documatic.opendocument.context.RenderContext"

end RecordKind

/-- The name of the kind of a value. -/
def Value.kind (isLenient : Bool) : Value → String
  | .none => "NoneType"
  | .bool _ => "bool"
  | .int _ => "int"
  | .float _ => "float"
  | .text _ isMarkup => if isMarkup then "Markup" else "str"
  | .undefined missing =>
    if missing.isPlain then "Undefined"
    else if isLenient then "RecordingUndefined" else "StrictUndefined"
  | .tuple _ => "tuple"
  | .range .. => "range"
  | .list _ => "list"
  | .dict _ => "dict"
  | .view .keys _ => "dict_keys"
  | .view .values _ => "dict_values"
  | .view .items _ => "dict_items"
  | .record kind _ => kind.label
  | .cursor _ => "generator"
  | .loop _ => "LoopContext"
  | .routine _ => "Macro"
  | .method subject _ =>
    match subject with
    | .record .. | .object .. => "method"
    | _ => "builtin_function_or_method"
  | .builtin _ => "type"
  | .object _ kind => (kind.splitOn ".").getLastD kind
  | .blocks _ => "TemplateReference"
  | .block _ => "BlockReference"

/-- The name of the kind of a value, as the running code sees it. -/
def kindOf (value : Value) : Local String := do
  return value.kind (← get).isLenient

/-- Refuses to call a value. -/
def refuseCall {α : Type} (value : Value) : Local α := do
  kindTrouble (.notCallable (← kindOf value))

/-- What a value is called where it lacks a member. -/
def Value.describe : Value → String
  | .none => "None"
  | .text _ true => "markupsafe.Markup object"
  | .record kind _ => kind.fullLabel ++ " object"
  | .loop _ => "jinja2.runtime.LoopContext object"
  | .routine _ => "jinja2.runtime.Macro object"
  | .undefined _ => "jinja2.runtime.Undefined object"
  | .object _ kind => kind ++ " object"
  | .blocks _ => "jinja2.runtime.TemplateReference object"
  | .block _ => "jinja2.runtime.BlockReference object"
  | other => other.kind false ++ " object"

end FormLetter.Script
