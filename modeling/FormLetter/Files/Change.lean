import FormLetter.Files.Basic

/-!
# Changes of files

What has to be done to the files of one moment so that they are those of another one. Directories
are made before what is written into them, and what stands inside of a directory is taken away
before it.
-/

namespace FormLetter

/-- What is done at one place. -/
inductive Change where
  | remove (place : Place) (item : Item)
  | makeDirectory (place : Place)
  | write (place : Place) (content : ByteArray)

namespace Change

/-- Puts an item where nothing stands, or in the place of what stands there. -/
def ofItem (place : Place) : Item → Change
  | .directory => .makeDirectory place
  | .bytes content => .write place content
  | .archive entries => .write place (Archive.toBytes entries)

/-- What leads from some files to others. -/
def between (before after : Files) : List Change :=
  let isNew (item : Place × Item) : Bool := before.lookup item.1 != some item.2
  let isGone (item : Place × Item) : Bool :=
    match after.lookup item.1 with
    | none => true
    | some other => (item.2 == .directory) != (other == .directory)
  let inward (left right : Place × Item) : Bool := left.1.length ≤ right.1.length
  let gone := ((before.filter isGone).mergeSort inward).reverse
  gone.map (fun (place, item) => .remove place item)
    ++ ((after.filter isNew).mergeSort inward).map fun (place, item) => .ofItem place item

end Change

end FormLetter
