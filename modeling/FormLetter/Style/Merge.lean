import FormLetter.Style.Derivation
import FormLetter.Xml.Graft
import FormLetter.Xml.Reader

/-!
# Merging styles

The styles of one document are added to those of another. A style is known by its family and its
name; one that is known already is left as it is, and one without a name is always added. What is
added comes behind what is there, in its order, together with the text that follows it.
-/

namespace FormLetter.Style

open FormLetter.Xml

/-- The namespace of the outline of a document. -/
def officeNamespace : String := "urn:oasis:names:tc:opendocument:xmlns:office:1.0"

/-- The sections whose styles are merged. -/
def mergedSections : List String := ["styles", "automatic-styles"]

/-- What a style is known by. -/
structure Key where
  family : Option String
  name : Option String
  deriving DecidableEq, Repr

/-- What an element is known by. -/
def keyOf (tag : Tag) : Key :=
  ⟨tag.attribute? styleNamespace "family", tag.attribute? styleNamespace "name"⟩

/-- The keys of the styles that have a name. -/
def namedKeys (content : List Node) : List Key :=
  ((elements content).map fun (tag, _) => keyOf tag).filter (·.name.isSome)

/-- A style to be added: its element, and the text that follows it. -/
structure Addition where
  tag : Tag
  content : List Node
  tail : List Node

/-- The elements of a content, each with the text that follows it. -/
def withTails : List Node → List Addition
  | [] => []
  | .element tag content :: rest => ⟨tag, content, rest.takeWhile Node.isText⟩ :: withTails rest
  | _ :: rest => withTails rest

/-- Those of the additions that are not known yet. -/
def newOnes (known : List Key) : List Addition → List Addition
  | [] => []
  | first :: rest =>
    let key := keyOf first.tag
    if key.name.isSome && known.contains key then newOnes known rest
    else first :: newOnes (key :: known) rest

/-- An addition as it is written in a scope. -/
def Addition.nodes (scope : List Declaration) (addition : Addition) : StateM Nat (List Node) := do
  let element ← adopt scope (selfContained addition.tag addition.content)
  return element :: addition.tail

/-- A new section without any styles, as it is written in a scope. -/
def newSection (scope : List Declaration) (base : String) : StateM Nat Node :=
  adopt scope (.element ⟨⟨some "office", some officeNamespace, base⟩,
    [⟨some "office", officeNamespace⟩], []⟩ [])

/-- Puts a node before the master styles, or at the end where there are none. -/
def insertSection (new : Node) (content : List Node) : List Node :=
  let isMaster (node : Node) : Bool := match node with
    | .element tag _ => tag.name.is officeNamespace "master-styles"
    | _ => false
  let before := content.takeWhile (!isMaster ·)
  before ++ new :: content.drop before.length

/-- Adds nodes to the first section of a name. -/
def extendSection (base : String) (added : List Node) : List Node → List Node
  | [] => []
  | .element tag content :: rest =>
    if tag.name.is officeNamespace base then .element tag (content ++ added) :: rest
    else .element tag content :: extendSection base added rest
  | node :: rest => node :: extendSection base added rest

/-- What came of merging: a content, and the number of styles that were added. -/
structure Merged where
  content : List Node
  count : Nat

/-- Merges one section. `scope` are the declarations of the root. -/
def mergeSection (scope : List Declaration) (source : List Node) (merged : Merged)
    (base : String) : StateM Nat Merged := do
  match findElement? officeNamespace base source with
  | none => return merged
  | some (_, styles) =>
    if styles.all Node.isText then return merged
    else
      let content ←
        if (findElement? officeNamespace base merged.content).isSome then pure merged.content
        else do
          let new ← newSection scope base
          pure (insertSection new merged.content)
      match findElement? officeNamespace base content with
      | none => return merged
      | some (tag, present) =>
        let additions := newOnes (namedKeys present) (withTails styles)
        let added ← additions.mapM (·.nodes (tag.declarations ++ scope))
        return ⟨extendSection base added.flatten content, merged.count + additions.length⟩

/-- Merges the styles of a document into the content of a root. -/
def mergeDocument (scope : List Declaration) (merged : Merged) (source : Document) :
    StateM Nat Merged :=
  mergedSections.foldlM (mergeSection scope source.content) merged

/-- Merges the styles of several documents, in order. -/
def merge (target : Document) (sources : List Document) : Document × Nat :=
  let merging := sources.foldlM (mergeDocument target.root.declarations) ⟨target.content, 0⟩
  let merged : Merged := (merging.run 0).run.1
  ({ target with content := merged.content }, merged.count)

end FormLetter.Style
