import FormLetter.Files.Basic
import FormLetter.Keyed

/-!
# Packages

An archive in memory. Its entries are changed there, and a commit writes all of them back to the
file at once. A package knows whether it was modified by comparing its entries with those of the
last commit: a content that was written anew is another content, whatever it holds.
-/

namespace FormLetter

/-- The content of an entry. -/
structure Content where
  bytes : ByteArray
  /-- Tells contents apart that hold the same bytes; short ones may not be told apart. -/
  stamp : Option Nat
  deriving DecidableEq

instance : Inhabited Content := ⟨⟨.empty, none⟩⟩

/-- An archive in memory. -/
structure Package where
  /-- Where the archive is. -/
  path : Path
  entries : List (String × Content)
  /-- What is known about those entries that come from the archive. -/
  infos : List (String × Archive.Info)
  /-- The entries as they were read or last written. -/
  committed : List (String × Content)
  isClosed : Bool
  /-- The number of contents that were made. -/
  made : Nat

namespace Package

/-- The entry that says of what type a package is. It is written first. -/
def typeEntry : String := "mimetype"

/-! ## Opening -/

/-- Up to which size contents that hold the same bytes are one and the same: a content that was
written or stored holds one byte at most, and any other one none. -/
def sharedSize (isPlain : Bool) : Nat := if isPlain then 1 else 0

/-- A new content, which is told apart by a number unless it is short. -/
def contentOf (isPlain : Bool) (number : Nat) (bytes : ByteArray) : Content :=
  ⟨bytes, if bytes.size ≤ sharedSize isPlain then none else some number⟩

/-- Adds an entry of an archive. One that has the name of another one takes its place. -/
def load (package : Package) (entry : Archive.Entry) : Package :=
  let isPlain := entry.info.method == .stored
  { package with
    entries := Keyed.put entry.name (contentOf isPlain package.made entry.content) package.entries
    infos := Keyed.put entry.name entry.info package.infos
    made := package.made + 1 }

/-- The package of an archive. -/
def ofArchive (path : Path) (archive : Archive) : Package :=
  let package := archive.foldl load ⟨path, [], [], [], false, 0⟩
  { package with committed := package.entries }

/-- Opens the archive that a path leads to. -/
def openAt (files : Files) (path : Path) : Except Fault Package :=
  if files.isFile path then
    match (files.look path).toOption.bind Item.archive? with
    | some archive => .ok (ofArchive path archive)
    | none => .error (.archiveInvalid path.toString)
  else .error (.archiveMissing path.toString)

/-! ## Entries -/

/-- The names of the entries, in order. -/
def names (package : Package) : List String := Keyed.names package.entries

/-- The content of an entry. -/
def content? (package : Package) (name : String) : Option Content := package.entries.lookup name

/-- The name of a directory, which ends with one slash. -/
def directoryName (name : String) : String :=
  String.ofList (name.toList.reverse.dropWhile (· == '/')).reverse ++ "/"

/-- True for the name of an entry, and for that of a directory which holds one. -/
def has (package : Package) (name : String) : Bool :=
  package.names.contains name
    || package.names.any fun entry => (directoryName name).toList.isPrefixOf entry.toList

/-- The bytes of an entry. -/
def read (package : Package) (name : String) : Except Fault ByteArray :=
  match package.content? name with
  | some content => .ok content.bytes
  | none => .error (.missingEntry name)

/-- The text of an entry. -/
def readText (package : Package) (name : String) : Except Fault String := do
  match String.fromUTF8? (← package.read name) with
  | some text => .ok text
  | none => .error .notText

/-- Gives an entry a content that it had before. -/
def writeContent (package : Package) (name : String) (content : Content) : Package :=
  { package with entries := Keyed.put name content package.entries }

/-- Gives an entry a new content. -/
def writeNew (package : Package) (isPlain : Bool) (name : String) (bytes : ByteArray) : Package :=
  { package.writeContent name (contentOf isPlain package.made bytes) with
    made := package.made + 1 }

/-- Writes bytes into an entry. -/
def write (package : Package) (name : String) (bytes : ByteArray) : Package :=
  package.writeNew true name bytes

/-- Writes a text into an entry. -/
def writeText (package : Package) (name text : String) : Package :=
  package.write name text.toUTF8

/-- Makes a directory, unless it is there. -/
def makeDirectory (package : Package) (name : String) : Package :=
  let name := directoryName name
  if Keyed.has name package.entries then package else package.write name .empty

/-- Copies a file into an entry. An archive counts as bytes that are not known. -/
def addFile (package : Package) (files : Files) (name : String) (source : Path) :
    Except Fault Package := do
  match ← files.read source with
  | .bytes content => .ok (package.writeNew false name content)
  | _ => .ok { package.writeContent name ⟨.empty, some package.made⟩ with made := package.made + 1 }

/-- Takes an entry out, and forgets what was known about it. -/
def discard (package : Package) (name : String) : Package :=
  if Keyed.has name package.entries then
    { package with
      entries := Keyed.drop name package.entries
      infos := Keyed.drop name package.infos }
  else package

/-- Takes out an entry, which must be there. -/
def remove (package : Package) (name : String) : Except Fault Package :=
  if Keyed.has name package.entries then .ok (package.discard name)
  else .error (.missingEntry name)

/-! ## Committing -/

/-- True when the entries are not those of the last commit. -/
def isModified (package : Package) : Bool :=
  package.entries.length != package.committed.length
    || package.entries.any fun (name, content) => package.committed.lookup name != some content

/-- The names in the order in which they are written. -/
def writtenNames (package : Package) : List String :=
  if package.names.contains typeEntry then typeEntry :: package.names.erase typeEntry
  else package.names

/-- What is written about an entry that is new: files are compressed, the type and directories are
not. -/
def newInfo (name : String) : Archive.Info :=
  let isDirectory := name.endsWith "/"
  { method := if name == typeEntry || isDirectory then .stored else .deflated
    attributes := if isDirectory then 0o40755 <<< 16 ||| 0x10 else 0o644 <<< 16
    moment := .earliest }

/-- What is known about an entry: as much as came with it, or what holds for a new one. -/
def infoOf (package : Package) (name : String) : Archive.Info :=
  (package.infos.lookup name).getD (newInfo name)

/-- The archive that a package is written as. -/
def toArchive (package : Package) : Archive :=
  package.writtenNames.map fun name =>
    Archive.Entry.kept
      ⟨name, package.infoOf name, ((package.content? name).getD default).bytes⟩

/-- The name under which an archive is written before it takes its place. -/
def draftName : String := ".draft.tmp"

/-- Writes the archive of a package in the place of the file that it was read from. -/
def writeBack (package : Package) (files : Files) : Except Fault Files :=
  let draft : Path := { package.path with parts := package.path.parts.dropLast ++ [draftName] }
  if !files.isDirectory package.path.parent then
    Files.refuse package.path.parent .missing
  else if files.isDirectory package.path then
    .error (.file .isDirectory draft.toString (some package.path.toString))
  else files.write package.path (.archive package.toArchive)

/-- Writes the entries back if they were modified. -/
def commit (package : Package) (files : Files) : Except Fault (Package × Files) := do
  if package.isModified then
    let files ← package.writeBack files
    .ok ({ package with committed := package.entries }, files)
  else .ok (package, files)

/-- Commits a package for the last time. A closed package is left as it is. -/
def close (package : Package) (files : Files) : Except Fault (Package × Files) := do
  if package.isClosed then .ok (package, files)
  else
    let (package, files) ← package.commit files
    .ok ({ package with isClosed := true }, files)

end Package

end FormLetter
