import FormLetter.Archive.Container
import FormLetter.Fault
import FormLetter.Files.Path

/-!
# Files

The files that the program reads and writes, as a value. A place is where a path leads, without any
dots but those that lead out of where all files are. What stands at no place is missing; every way
out is a directory. A path is followed part by part, so two dots go back from where they stand, and
only from a directory.
-/

namespace FormLetter

/-- Where a path leads: the names from the outermost directory inwards. -/
abbrev Place := List String

/-- What stands at a place. -/
inductive Item where
  | directory
  | bytes (content : ByteArray)
  | archive (entries : Archive)
  deriving DecidableEq

instance : Inhabited Item := ⟨.directory⟩

/-- The entries of the archive that an item is, if it is one. -/
def Item.archive? : Item → Option Archive
  | .archive entries => some entries
  | .bytes content => Archive.ofBytes? content
  | .directory => none

/-- All files, each place once. -/
abbrev Files := List (Place × Item)

namespace Files

/-- True for the place where all files are, for those around it and for the root of all. -/
def isOutside (place : Place) : Bool :=
  place == ["/"] || place.all (· == "..")

/-- What stands at a place. -/
def at? (files : Files) (place : Place) : Option Item :=
  if isOutside place then some .directory else files.lookup place

/-- The place of a name in a directory. Two dots name the directory around it. -/
def step (place : Place) (name : String) : Place :=
  if name == ".." then
    match place.getLast? with
    | none => [".."]
    | some ".." => place ++ [".."]
    | some "/" => place
    | some _ => place.dropLast
  else place ++ [name]

/-- Follows names from a place on. All but the last one must lead to directories. -/
def follow (files : Files) (place : Place) : List String → Except FileProblem Place
  | [] => .ok place
  | name :: rest =>
    match files.at? place with
    | some .directory => files.follow (step place name) rest
    | some _ => .error .notDirectory
    | none => .error .missing

/-- Where a path begins. -/
def start (path : Path) : Place := if path.root.isEmpty then [] else ["/"]

/-- The place that a path leads to, at which nothing need stand. -/
def place (files : Files) (path : Path) : Except FileProblem Place :=
  files.follow (start path) path.parts

/-- What a path leads to. -/
def look (files : Files) (path : Path) : Except FileProblem Item := do
  match files.at? (← files.place path) with
  | some item => .ok item
  | none => .error .missing

/-- True when a path leads to something. -/
def isPresent (files : Files) (path : Path) : Bool := (files.look path).isOk

/-- True when a path leads to a directory. -/
def isDirectory (files : Files) (path : Path) : Bool :=
  match files.look path with
  | .ok .directory => true
  | _ => false

/-- True when a path leads to a file. -/
def isFile (files : Files) (path : Path) : Bool :=
  match files.look path with
  | .ok .directory | .error _ => false
  | .ok _ => true

/-- A problem with the file that a path names. -/
def refuse {α : Type} (path : Path) (problem : FileProblem) : Except Fault α :=
  .error (.file problem path.toString none)

/-- What is in the file that a path leads to. -/
def read (files : Files) (path : Path) : Except Fault Item :=
  match files.look path with
  | .ok .directory => refuse path .isDirectory
  | .ok item => .ok item
  | .error problem => refuse path problem

/-- Puts something at a place. -/
def put (files : Files) (place : Place) (item : Item) : Files :=
  files.filter (·.1 != place) ++ [(place, item)]

/-- Writes a file: over the one that is there, or into a directory. -/
def write (files : Files) (path : Path) (item : Item) : Except Fault Files :=
  match files.place path with
  | .error problem => refuse path problem
  | .ok place =>
    match files.at? place, files.at? place.dropLast with
    | some .directory, _ => refuse path .isDirectory
    | some _, _ | none, some .directory => .ok (files.put place item)
    | none, some _ => refuse path .notDirectory
    | none, none => refuse path .missing

/-- Makes one directory where nothing stands yet. -/
def makeDirectory (files : Files) (path : Path) : Except Fault Files :=
  match files.place path with
  | .error problem => refuse path problem
  | .ok place =>
    match files.at? place.dropLast, files.at? place with
    | _, some _ => refuse path .present
    | some .directory, none => .ok (files.put place .directory)
    | some _, none => refuse path .notDirectory
    | none, none => refuse path .missing

/-- Makes a directory, unless it is there. -/
def ensureDirectory (files : Files) (path : Path) : Files × Except Fault Unit :=
  if files.isDirectory path then (files, .ok ())
  else
    match files.makeDirectory path with
    | .ok made => (made, .ok ())
    | .error fault => (files, .error fault)

/-- Makes a directory and those around it that are missing. Those around it stay when it cannot be
made. `depth` is the number of parts of the path. -/
def makeWithin (files : Files) (path : Path) : Nat → Files × Except Fault Unit
  | 0 => files.ensureDirectory path
  | depth + 1 =>
    match files.makeDirectory path with
    | .ok made => (made, .ok ())
    | .error (.file .missing _ _) =>
      match files.makeWithin path.parent depth with
      | (around, .ok ()) => around.ensureDirectory path
      | (around, .error fault) => (around, .error fault)
    | .error fault => (files, if files.isDirectory path then .ok () else .error fault)

/-- Makes a directory and those around it that are missing. One that is there already is left. -/
def makeDirectories (files : Files) (path : Path) : Except Fault Files :=
  let (made, outcome) := files.makeWithin path path.parts.length
  outcome.map fun _ => made

/-- True when two paths lead to the same thing. -/
def leadToSame (files : Files) (left right : Path) : Bool :=
  match files.place left, files.place right with
  | .ok left, .ok right => left == right && (files.at? left).isSome
  | _, _ => false

/-- Copies a file over another one. -/
def copy (files : Files) (source target : Path) : Except Fault Files :=
  if files.leadToSame source target then .error (.sameFile source.toString target.toString)
  else do files.write target (← files.read source)

/-- Takes away what a path leads to, with all that is inside of it. -/
def remove (files : Files) (path : Path) : Except Fault Files :=
  match files.place path with
  | .error problem => refuse path problem
  | .ok place =>
    if (files.at? place).isNone then refuse path .missing
    else .ok (files.filter fun (other, _) => !place.isPrefixOf other)

/-- The names in a directory. -/
def list (files : Files) (path : Path) : Except Fault (List String) :=
  match files.place path with
  | .error problem => refuse path problem
  | .ok place =>
    match files.at? place with
    | some .directory => .ok <| files.filterMap fun (other, _) =>
        if other.dropLast == place && other != place then other.getLast? else none
    | some _ => refuse path .notDirectory
    | none => refuse path .missing

end Files

end FormLetter
