/-!
# Trees of elements

A document as a tree. An element keeps its namespace declarations apart from its attributes, both
in the order in which they were written, and every name keeps the qualifier under which it was
written beside the namespace that it belongs to. Adjacent characters are one text node.
-/

namespace FormLetter.Xml

/-- The name of an element or an attribute. -/
structure Name where
  qualifier : Option String
  uri : Option String
  base : String
  deriving DecidableEq, Repr, Inhabited

namespace Name

/-- A name as it is written. -/
def written (name : Name) : String :=
  match name.qualifier with
  | none => name.base
  | some qualifier => qualifier ++ ":" ++ name.base

/-- True when a name has the given namespace and base, under whatever qualifier. -/
def is (name : Name) (uri base : String) : Bool :=
  name.uri == some uri && name.base == base

end Name

/-- Binds a qualifier to a namespace; without a qualifier, names that have none are bound. An empty
namespace unbinds them. -/
structure Declaration where
  qualifier : Option String
  uri : String
  deriving DecidableEq, Repr, Inhabited

/-- An attribute with its value. -/
structure Attribute where
  name : Name
  value : String
  deriving DecidableEq, Repr, Inhabited

/-- All of an element but its content. -/
structure Tag where
  name : Name
  declarations : List Declaration
  attributes : List Attribute
  deriving DecidableEq, Repr, Inhabited

/-- The value of the attribute with the given namespace and base. -/
def Tag.attribute? (tag : Tag) (uri base : String) : Option String :=
  (tag.attributes.find? fun given => given.name.is uri base).map (·.value)

/-- A node of the content of an element. -/
inductive Node where
  | text (value : List Char)
  | comment (value : List Char)
  | instruction (target : String) (value : Option (List Char))
  | element (tag : Tag) (content : List Node)
  deriving Repr, Inhabited

namespace Node

/-- True for character data. -/
def isText : Node → Bool
  | text _ => true
  | _ => false

/-- The tag and the content of an element. -/
def element? : Node → Option (Tag × List Node)
  | element tag content => some (tag, content)
  | _ => none

end Node

/-- The elements of a content, without what stands between them. -/
def elements (content : List Node) : List (Tag × List Node) :=
  content.filterMap Node.element?

/-- The first element of a content with the given namespace and base. -/
def findElement? (uri base : String) (content : List Node) : Option (Tag × List Node) :=
  (elements content).find? fun (tag, _) => tag.name.is uri base

/-- A document: the version that it declares, and its root element. -/
structure Document where
  version : String
  root : Tag
  content : List Node
  deriving Repr, Inhabited

end FormLetter.Xml
