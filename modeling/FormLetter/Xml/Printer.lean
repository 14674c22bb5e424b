import FormLetter.Xml.Tree

/-!
# Writing XML

The written form of a tree. Namespace declarations come before attributes, values stand in double
quotes, and an element without any content is one empty tag. What could end a text, a value or a
line in another way when it is read again is written as a reference.
-/

namespace FormLetter.Xml

/-- The written form of a character of text. -/
def escapeTextChar : Char → List Char
  | '&' => "&amp;".toList
  | '<' => "&lt;".toList
  | '>' => "&gt;".toList
  | '\r' => "&#13;".toList
  | c => [c]

/-- The written form of text. -/
def escapeText (text : List Char) : List Char :=
  text.flatMap escapeTextChar

/-- The written form of a character of an attribute value. -/
def escapeValueChar : Char → List Char
  | '&' => "&amp;".toList
  | '<' => "&lt;".toList
  | '>' => "&gt;".toList
  | '"' => "&quot;".toList
  | '\t' => "&#9;".toList
  | '\n' => "&#10;".toList
  | '\r' => "&#13;".toList
  | c => [c]

/-- The written form of an attribute value, without its quotes. -/
def escapeValue (value : String) : List Char :=
  value.toList.flatMap escapeValueChar

/-- An given as it stands in a tag, with the blank before it. -/
def printAttribute (name value : String) : List Char :=
  ' ' :: name.toList ++ ['=', '"'] ++ escapeValue value ++ ['"']

/-- A declaration as it stands in a tag. -/
def printDeclaration (declaration : Declaration) : List Char :=
  match declaration.qualifier with
  | none => printAttribute "xmlns" declaration.uri
  | some qualifier => printAttribute ("xmlns:" ++ qualifier) declaration.uri

/-- An opening tag up to its closing bracket. -/
def printTag (tag : Tag) : List Char :=
  '<' :: tag.name.written.toList ++ tag.declarations.flatMap printDeclaration
    ++ tag.attributes.flatMap fun given => printAttribute given.name.written given.value

mutual

/-- The written form of a node. -/
def printNode : Node → List Char
  | .text value => escapeText value
  | .comment value => "<!--".toList ++ value ++ "-->".toList
  | .instruction target none => "<?".toList ++ target.toList ++ "?>".toList
  | .instruction target (some value) =>
    "<?".toList ++ target.toList ++ ' ' :: value ++ "?>".toList
  | .element tag [] => printTag tag ++ "/>".toList
  | .element tag (first :: rest) =>
    printTag tag ++ '>' :: (printNode first ++ printNodes rest)
      ++ "</".toList ++ tag.name.written.toList ++ ['>']

/-- The written form of a content. -/
def printNodes : List Node → List Char
  | [] => []
  | node :: rest => printNode node ++ printNodes rest

end

/-- The written form of a document: a declaration, and the root element on the next line. -/
def Document.print (document : Document) : List Char :=
  ("<?xml version='" ++ document.version ++ "' encoding='UTF-8'?>\n").toList
    ++ printNode (.element document.root document.content)

end FormLetter.Xml
