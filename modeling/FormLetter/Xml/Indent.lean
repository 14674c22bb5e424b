import FormLetter.Text.Blank
import FormLetter.Xml.Printer
import FormLetter.Xml.Reader

/-!
# Indentation

An element that holds only other nodes and white space between them gets one line for each node.
Paragraphs and headings of a text document are left as they are, since white space is text there,
and so is an element with text of its own.
-/

namespace FormLetter.Xml

open FormLetter.Text

/-- The namespace of the text of a document. -/
def textNamespace : String := "urn:oasis:names:tc:opendocument:xmlns:text:1.0"

/-- True for the elements whose white space is text. -/
def Name.isParagraph (name : Name) : Bool :=
  name.is textNamespace "p" || name.is textNamespace "h"

/-- The line break and the blanks before a node at the given depth. -/
def lineBreak (depth : Nat) : Node :=
  .text ('\n' :: List.replicate (2 * depth) ' ')

/-- True for a node that indentation may take away: text that is white space only. -/
def Node.isBlankText : Node → Bool
  | .text value => Text.isBlankText value
  | _ => false

/-- True when the content of an element may be spread over lines: it holds a node that is not
text, and no text but white space. -/
def isStructural (content : List Node) : Bool :=
  content.any (!·.isText) && content.all fun node => !node.isText || node.isBlankText

mutual

/-- Indents a node whose own line begins at the given depth. -/
def indentNode (depth : Nat) : Node → Node
  | .element tag content =>
    if !tag.name.isParagraph && isStructural content then
      .element tag (indentNodes (depth + 1) content ++ [lineBreak depth])
    else .element tag content
  | node => node

/-- Gives every node of a content that is not text its own line, and drops the text. -/
def indentNodes (depth : Nat) : List Node → List Node
  | [] => []
  | node :: rest =>
    if node.isText then indentNodes depth rest
    else lineBreak depth :: indentNode depth node :: indentNodes depth rest

end

/-- Indents a document. -/
def Document.indent (document : Document) : Document :=
  match indentNode 0 (.element document.root document.content) with
  | .element _ content => { document with content }
  | _ => document

/-- The indented text of a document that is given as bytes. -/
def pretty (bytes : ByteArray) : Except Malformed (List Char) :=
  (Document.read bytes).map fun document => document.indent.print

end FormLetter.Xml
