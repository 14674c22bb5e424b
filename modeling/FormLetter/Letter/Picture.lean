import FormLetter.Letter.Manifest
import FormLetter.Letter.Work

/-!
# Pictures of a letter

A picture is registered with the letter that shows it, under the name of its file; a later one of
the same name takes its place. When the letter was rendered, the registered pictures are copied into
its package and listed in its manifest.
-/

namespace FormLetter.Work

open FormLetter.Script

/-- Registers a picture with a letter, and gives its name. -/
def addPicture (id : Nat) (path : Path) : Work String := do
  if (← files).isFile path then
    change id fun letter => { letter with pictures := Keyed.put path.name path letter.pictures }
    return path.name
  else throw (.imageMissing path.toString)

/-- Lists files in the manifest of a letter, if it has one. -/
def register (id : Nat) (added : List String) : Work Unit := do
  let before ← letter id
  let manifest := before.layout.manifestPart
  if before.package.has manifest then
    let written ← Manifest.extended added (← before.package.read manifest)
    changePackage id (·.writeText manifest (String.ofList written))

/-- Makes the directory of the pictures of a letter, unless it is there. -/
def makePictureDirectory (id : Nat) : Work Unit := do
  let before ← letter id
  if !before.package.has before.layout.pictureDirectory then
    changePackage id (·.makeDirectory before.layout.pictureDirectory)

/-- Copies a picture into the package of a letter, and gives the name of its entry. -/
def embedPicture (id : Nat) (name : String) (path : Path) : Work String := do
  let before ← letter id
  let entry := before.layout.pictureDirectory ++ "/" ++ name
  let package ← before.package.addFile (← files) entry path
  changePackage id fun _ => package
  return entry

/-- Copies the registered pictures into the package of a letter. -/
def embedPictures (id : Nat) : Work Unit := do
  makePictureDirectory id
  let before ← letter id
  let added ← before.pictures.mapM fun (name, path) => embedPicture id name path
  register id added
  report .debug .document
    ("Embedded " ++ toString added.length ++ " images into " ++ before.path.name)

end FormLetter.Work
