import FormLetter.Fault
import FormLetter.MediaType
import FormLetter.Xml.Graft
import FormLetter.Xml.Reader

/-!
# The manifest

The manifest of a package lists its files with their media types. A file that is listed is not
listed again; new ones come last, in their order. Their names have to consist of characters that a
document may hold.
-/

namespace FormLetter.Manifest

open FormLetter.Xml

/-- The namespace of manifests. -/
def manifestNamespace : String := "urn:oasis:names:tc:opendocument:xmlns:manifest:1.0"

mutual

/-- The files that a node lists. -/
def listedIn : Node → List String
  | .element tag content =>
    let own := if tag.name.is manifestNamespace "file-entry" then
      (tag.attribute? manifestNamespace "full-path").toList else []
    own ++ listed content
  | _ => []

/-- The files that a content lists. -/
def listed : List Node → List String
  | [] => []
  | first :: rest => listedIn first ++ listed rest

end

/-- The type of a file, as far as the last part of its path tells. -/
def typeOf (file : String) : String :=
  MediaType.ofName (String.ofList ((Text.splitOn ['/'] file.toList).getLastD []))

/-- The element that lists a file, as it is written in a scope. -/
def fileEntry (scope : List Declaration) (file : String) : StateM Nat Node := do
  let (name, first) ← newName scope false manifestNamespace "file-entry"
  let scope := first.toList ++ scope
  let (pathName, second) ← newName scope true manifestNamespace "full-path"
  let scope := second.toList ++ scope
  let (typeName, third) ← newName scope true manifestNamespace "media-type"
  return .element ⟨name, first.toList ++ second.toList ++ third.toList,
    [⟨pathName, file⟩, ⟨typeName, typeOf file⟩]⟩ []

/-- Those of the files that are not listed yet, each once. -/
def unlisted (known : List String) : List String → List String
  | [] => []
  | file :: rest =>
    if known.contains file then unlisted known rest else file :: unlisted (file :: known) rest

/-- Lists files in a manifest. -/
def register (files : List String) (manifest : Document) : Document :=
  let known := listedIn (.element manifest.root manifest.content)
  let entries := (unlisted known files).mapM (fileEntry manifest.root.declarations)
  let added : List Node := (entries.run 0).run.1
  { manifest with content := manifest.content ++ added }

/-- The text of a manifest in which files are listed, too. -/
def extended (files : List String) (bytes : ByteArray) : Except Fault (List Char) :=
  match Document.read bytes with
  | .error malformed => .error (.malformed malformed.line)
  | .ok manifest =>
    if files.all fun file => file.toList.all isChar then .ok (register files manifest).print
    else .error (.trouble (.value .foreignCharacter))

end FormLetter.Manifest
