import FormLetter.Script.Run

/-!
# Rendering templates

The text that a template makes of the values of its names. What template code calls in the world
outside is done by whoever renders the template; macros call each other to a limited depth.
-/

namespace FormLetter.Script

open FormLetter.Text

variable {σ : Type} [World σ]

/-- How deep macros may call each other. -/
def callLimit : Nat := 240

/-- How the methods of things of the world outside are called. -/
abbrev Host (σ : Type) := Value → String → Given → M σ Value

/-- A world in which there is nothing to call. -/
def Host.none : Host σ := fun subject _ _ => refuseCall subject

/-- What a template is rendered with. -/
structure Stage (σ : Type) where
  host : Host σ
  bound : List (String × Value)
  /-- The named blocks of the template. -/
  blocks : List (String × List Statement)

namespace Stage

/-- The outermost scope. -/
def scope (stage : Stage σ) (symbols : Symbols) (place : Address) (isTop : Bool) : Scope :=
  { symbols, frames := [place], bound := stage.bound, locals := [],
    blocks := stage.blocks.map (·.1), isTop, captured := [] }

/-- Calls a value from a depth at which so many more calls may stand inside of each other. -/
def callWithin (stage : Stage σ) : Nat → Value → Given → M σ Value
  | 0, _, _ => trouble .recursion
  | depth + 1, callee, given => do
    match callee with
    | .routine place => do
      match ← fetch place with
      | .routine routine =>
        let blocks := stage.blocks.map (·.1)
        runRoutine (stage.callWithin depth) stage.bound [] blocks routine given
      | _ => return .none
    | .block name => do
      let body := (stage.blocks.lookup name).getD []
      let place ← allocate (.frame [])
      let inner := stage.scope (Symbols.root.statements body) place false
      let line ← currentLine
      enterFrame inner
      let outcome ← runAll (stage.callWithin depth) inner body
      setLine line
      return .plain outcome.output
    | .method subject name =>
      match subject with
      | .text content isMarkup => textMethod content isMarkup name given
      | .tuple items => itemsMethod items name given
      | .list place => listMethod place name given
      | .dict place => dictMethod place name given
      | .loop place => loopMethod place name given
      | other => stage.host other name given
    | .builtin name => callBuiltin name given
    | .undefined missing => do
      noticeMissing missing
      refuse missing
    | .loop _ =>
      argumentTrouble "loop"
        ": The loop must have the 'recursive' marker to be called recursively."
    | other => refuseCall other

/-- Runs the statements of a template. -/
def run (stage : Stage σ) (content : List Statement) : M σ (List Char) := do
  beginTemplate
  let place ← allocate (.frame [])
  let scope := stage.scope (Symbols.root.statements content) place true
  enterFrame scope
  return (← runAll (stage.callWithin callLimit) scope content).output

end Stage

/-- The text of a template with values for its names. -/
def render (host : Host σ) (bound : List (String × Value)) (template : List Char) :
    M σ (List Char) := do
  match load template with
  | .error mistake => throw (.mistake mistake)
  | .ok content =>
    let blocks := (Check.blocksOfAll content).map fun (name, _, body) => (name, body)
    Stage.run ⟨host, bound, blocks⟩ content

/-- A store in which nothing was done yet. -/
def Store.start (isLenient : Bool) (world : σ) : Store σ :=
  { cells := #[], recorded := [], overlooked := [], made := 0, line := 1, exported := [], isLenient,
    log := [], world }

/-- The values of named data. -/
def bindings (data : List (String × Json)) : Local (List (String × Value)) :=
  data.mapM fun (name, value) => do return (name, ← ofJson value)

/-- What came of rendering a template on its own: its text or a fault, the labels of the undefined
values that were used, and those undefined values that were used without being noted. -/
structure Rendering where
  text : Except Fault (List Char)
  recorded : List Label
  overlooked : List Missing

/-- Renders a template on its own with data. -/
def renderAlone (isLenient : Bool) (data : List (String × Json)) (template : List Char) :
    Rendering :=
  let action : M Unit (List Char) := do render Host.none (← bindings data) template
  let (text, store) := action.runFrom (Store.start isLenient ())
  ⟨text, store.recorded, store.overlooked⟩

/-- The escaped text of data. -/
def escapeData (data : Json) : Except Fault (List Char) :=
  let action : M Unit (List Char) := do
    match ← ofJson data with
    | .none => return []
    | value => escaped value
  (action.runFrom (Store.start false ())).1

end FormLetter.Script
