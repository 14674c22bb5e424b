import FormLetter.Letter.Surroundings

/-!
# Making documents

A document is made from a letter by copying the letter's file to where the document shall be, and
rendering the copy. So whatever fails, the letter itself is as it was.
-/

namespace FormLetter

open FormLetter.Script

namespace Work

/-- Replaces all files. -/
def setFiles (files : Files) : Work Unit :=
  changeWorkspace fun workspace => { workspace with files }

/-- What is told by an order: which kind of record its options are, the options, and the data. -/
structure Order where
  kind : RecordKind
  options : List (String × Json)
  data : Json

/-- The value of an option, or nothing. -/
def Order.option (order : Order) (name : String) : Work Value :=
  ofJson ((order.options.lookup name).getD .null)

/-- Makes a directory and those around it that are missing. -/
def makeDirectories (path : Path) : Work Unit := do
  let (made, outcome) := (← files).makeWithin path path.parts.length
  setFiles made
  outcome

/-- Copies the file of a letter to where a document shall be. -/
def copyTemplate (template output : Value) : Work (Path × Path) := do
  let source ← pathArgument template
  if !(← files).isFile source then throw (.archiveMissing source.toString)
  else
    let target ← pathArgument output
    makeDirectories target.parent
    setFiles (← (← files).copy source target)
    return (source, target)

/-- A document that is being made: the letter's file, where the document shall be, the letter that
was opened there, and what it is rendered with. -/
structure Draft where
  source : Path
  target : Path
  id : Nat
  occasion : Occasion

/-- Copies the letter that an order names, and opens the copy. -/
def openDraft (order : Order) : Work Draft := do
  let template ← order.option "template_file"
  let output ← order.option "output_file"
  if !(← isTrue template) || !(← isTrue output) then throw .pathsNotGiven
  else
    let (source, target) ← copyTemplate template output
    let id ← openAt {} target
    let data ← ofJson order.data
    let options ← newRecord order.kind (← Script.bindings order.options)
    return ⟨source, target, id, ⟨id, data, options⟩⟩

/-- Renders a document and saves it. -/
def fillDraft (draft : Draft) : Work Unit := do
  process draft.id draft.occasion
  save draft.id

/-- Changes a document that was saved, and saves it once more. -/
def changeDraft (customize : Option (Nat → Work Unit)) (id : Nat) : Work Unit :=
  customize.forM fun customize => do
    customize id
    save id

/-- Makes a document as an order says, and gives its path. The document may be changed before it is
closed; then it is saved once more. -/
def deliver (order : Order) (customize : Option (Nat → Work Unit)) : Work Path := do
  let draft ← openDraft order
  fillDraft draft
  changeDraft customize draft.id
  close draft.id
  report .info .document ("Rendered " ++ draft.source.name ++ " into " ++ draft.target.toString)
  return draft.target

/-! ## Whole computations -/

/-- What came of a computation. -/
structure Outcome (α : Type) where
  result : Except Fault α
  workspace : Workspace
  recorded : List Label
  log : List Log.Line

/-- Does work in a workspace. -/
def run {α : Type} (isLenient : Bool) (recorded : List Label) (workspace : Workspace)
    (work : Work α) : Outcome α :=
  let (result, store) := work.runFrom { Store.start isLenient workspace with recorded }
  ⟨result, store.world, store.recorded, store.log⟩

/-- Does work on a letter, which keeps what was noted meanwhile. -/
def runOn {α : Type} (id : Nat) (workspace : Workspace) (work : Work α) : Outcome α :=
  let letter := workspace.letter id
  let outcome := run letter.isLenient letter.recorded workspace work
  { outcome with
    workspace :=
      { outcome.workspace with
        letters := outcome.workspace.letters.modify id fun letter =>
          { letter with recorded := outcome.recorded } } }

end Work

end FormLetter
