import FormLetter.Letter.Basic

/-!
# Work on letters

Steps that read and change one letter or its package, and report what they do.
-/

namespace FormLetter

open FormLetter.Script

/-- A computation that works on letters and files. -/
abbrev Work := M Workspace

namespace Work

/-- All letters and files. -/
def workspace : Work Workspace := do return (← getThe (Store Workspace)).world

/-- The files. -/
def files : Work Files := do return (← workspace).files

/-- A letter, by its number. -/
def letter (id : Nat) : Work Letter := do return (← workspace).letter id

/-- Changes all letters and files. -/
def changeWorkspace (change : Workspace → Workspace) : Work Unit :=
  modifyThe (Store Workspace) fun store => { store with world := change store.world }

/-- Changes a letter. -/
def change (id : Nat) (change : Letter → Letter) : Work Unit :=
  changeWorkspace fun workspace =>
    { workspace with letters := workspace.letters.modify id change }

/-- Changes the package of a letter. -/
def changePackage (id : Nat) (change : Package → Package) : Work Unit :=
  Work.change id fun letter => { letter with package := change letter.package }

/-- Adds a letter, and gives its number. -/
def add (letter : Letter) : Work Nat := do
  let id := (← workspace).letters.size
  changeWorkspace fun workspace => { workspace with letters := workspace.letters.push letter }
  return id

/-- Opens the letter that a path leads to. It belongs to the one who opens it whether the use of
undefined values is refused. -/
def openAt (layout : Layout) (path : Path) : Work Nat := do
  let package ← Package.openAt (← files) path
  report .debug .package
    ("Loaded " ++ toString package.entries.length ++ " entries from " ++ path.name)
  add (.ofPackage layout (← get).isLenient package)

/-- Closes the package of a letter, which commits it. -/
def closePackage (id : Nat) : Work Unit := do
  let before := (← letter id).package
  let (package, files) ← before.close (← files)
  changeWorkspace fun workspace => { workspace with files }
  changePackage id fun _ => package
  if !before.isClosed && before.isModified then
    report .debug .package
      ("Wrote " ++ toString package.entries.length ++ " entries to " ++ package.path.name)

/-- The name of the file of a letter. -/
def nameOf (id : Nat) : Work String := do return (← letter id).path.name

end Work

end FormLetter
