import FormLetter.Style.Merge
import FormLetter.Xml.Graft

/-!
# The body of a text

The content of a text document, as fragments that can be put into another document: each child of
the first text in the bodies stands alone. Declarations of variables and forms belong to the
document and are left out, and so is what stands between the children.
-/

namespace FormLetter.Body

open FormLetter.Style
open FormLetter.Xml

/-- True for the elements that stay in their document. -/
def isKept (name : Name) : Bool :=
  "-decls".toList.isSuffixOf name.base.toList || name.base == "forms"

/-- The bodies of a document, and the first text in them. -/
def text? (document : Document) : Option (Tag × Tag × List Node) :=
  (elements document.content).findSome? fun (body, content) =>
    if body.name.is officeNamespace "body" then
      (findElement? officeNamespace "text" content).map fun (text, content) =>
        (body, text, content)
    else none

/-- The fragments of the body of a document. -/
def fragments (document : Document) : List Node :=
  match text? document with
  | none => []
  | some (body, text, content) =>
    (elements content).filterMap fun (tag, content) =>
      if isKept tag.name then none
      else some (standAlone [text, body, document.root] tag content)

/-- The markup of the body of a document. -/
def ofDocument (document : Document) : List Char :=
  printNodes (fragments document)

end FormLetter.Body
