import FormLetter.Xml.Encoding
import FormLetter.Xml.Event
import FormLetter.Xml.Namespace

/-!
# Reading XML

From bytes to a tree. The events of a document are gone through once, with the elements that are
open on a stack. A text is refused with the line where that was first noticed.
-/

namespace FormLetter.Xml

/-- A document is not well formed; the line where it was noticed. -/
structure Malformed where
  line : Nat
  deriving DecidableEq, Repr

/-- A notice about namespaces, with how much of the text was unread. -/
abbrev Remarks := List (Placed Notice)

/-- Where a document is refused that is not well formed: at the first error of all. -/
def refusal (remarks : Remarks) (unread : Nat) : Nat :=
  match remarks.find? fun remark => remark.value == .error with
  | some remark => remark.unread
  | none => unread

/-- Whether a document that is well formed is refused, and where. Only the last notice decides. -/
def verdict? (remarks : Remarks) : Option Nat :=
  match remarks.getLast? with
  | some ⟨.error, unread⟩ => some (refusal remarks unread)
  | _ => none

/-- An element that is open: its tag, its name as it was written, its content so far with the last
node first, and the declarations in scope inside of it. -/
structure Level where
  tag : Tag
  written : String
  content : List Node
  scope : List Declaration
  deriving Repr

/-- Puts a node into the content of an element. -/
def Level.add (level : Level) (node : Node) : Level :=
  { level with content := node :: level.content }

/-- Puts characters into the content of an element. They go on with the text before them. -/
def Level.addText (level : Level) (text : List Char) : Level :=
  match level.content with
  | .text before :: rest => { level with content := .text (before ++ text) :: rest }
  | _ => level.add (.text text)

/-- The node of an element that is closed. -/
def Level.close (level : Level) : Node :=
  .element level.tag level.content.reverse

/-- How deep elements may be nested. -/
def depthLimit : Nat := 256

/-- What may come after the root element: comments, instructions and white space. -/
def readEpilog (remarks : Remarks) (root : Level) : List (Placed Event) → Except Nat Level
  | [] =>
    match verdict? remarks with
    | some unread => .error unread
    | none => .ok root
  | ⟨.comment _, _⟩ :: rest | ⟨.instruction _ _, _⟩ :: rest => readEpilog remarks root rest
  | ⟨.characters text, unread⟩ :: rest =>
    if text.all isSpace then readEpilog remarks root rest else .error (refusal remarks unread)
  | ⟨_, unread⟩ :: _ => .error (refusal remarks unread)

/-- Reads the content of the element that is open last, and of those around it. -/
def readContent (remarks : Remarks) (level : Level) (outer : List Level) :
    List (Placed Event) → Except Nat Level
  | [] => .error (refusal remarks 0)
  | ⟨event, unread⟩ :: rest =>
    match event with
    | .characters text | .written text => readContent remarks (level.addText text) outer rest
    | .comment text => readContent remarks (level.add (.comment text)) outer rest
    | .instruction target text =>
      let remarks := if target.contains ':' then remarks ++ [⟨.error, unread⟩] else remarks
      readContent remarks (level.add (.instruction target text)) outer rest
    | .opening name attributes isEmpty =>
      let names := attributes.map (·.1)
      if names.eraseDups.length != names.length || depthLimit ≤ outer.length + 1 then
        .error (refusal remarks unread)
      else
        let (tag, notices) := resolveTag level.scope name attributes
        let remarks := remarks ++ notices.map (⟨·, unread⟩)
        if isEmpty then readContent remarks (level.add (.element tag [])) outer rest
        else
          readContent remarks ⟨tag, name, [], tag.declarations.reverse ++ level.scope⟩
            (level :: outer) rest
    | .closing name =>
      if name != level.written then .error (refusal remarks unread)
      else
        match outer with
        | [] => readEpilog remarks level rest
        | parent :: outer => readContent remarks (parent.add level.close) outer rest
    | .malformed => .error (refusal remarks unread)

/-- What comes before the root element: white space, comments, instructions, and one document type
declaration at most. -/
def readProlog (declared : Option Doctype) : List (Placed Item) →
    Except Nat (Doctype × List (Placed Item))
  | ⟨.comment _, _⟩ :: rest | ⟨.instruction _ _, _⟩ :: rest => readProlog declared rest
  | ⟨.characters text, unread⟩ :: rest =>
    if text.all isSpace then readProlog declared rest else .error unread
  | ⟨.doctype doctype, unread⟩ :: rest =>
    match declared with
    | none => readProlog (some doctype) rest
    | some _ => .error unread
  | ⟨.opening name attributes isEmpty, unread⟩ :: rest =>
    .ok (declared.getD .empty, ⟨.opening name attributes isEmpty, unread⟩ :: rest)
  | ⟨_, unread⟩ :: _ => .error unread
  | [] => .error 0

/-- Reads the root element. The root is read as the content of a level that has no name and takes
no text. -/
def readRoot : List (Placed Event) → Except Nat Level
  | ⟨.opening name attributes isEmpty, unread⟩ :: rest =>
    let names := attributes.map (·.1)
    if names.eraseDups.length != names.length then .error unread
    else
      let (tag, notices) := resolveTag [] name attributes
      let remarks : Remarks := notices.map (⟨·, unread⟩)
      let level : Level := ⟨tag, name, [], tag.declarations.reverse⟩
      if isEmpty then readEpilog remarks level rest else readContent remarks level [] rest
  | ⟨_, unread⟩ :: _ => .error unread
  | [] => .error 0

/-- Reads the text of a document. -/
def Document.readText (text : List Char) : Except Malformed Document :=
  let refuse (unread : Nat) : Malformed := ⟨(text.take (text.length - unread)).count '\n' + 1⟩
  match Heading.take text with
  | .error unread => .error (refuse unread.length)
  | .ok (heading, rest) =>
    match readProlog none (items rest) with
    | .error unread => .error (refuse unread)
    | .ok (doctype, rest) =>
      match readRoot (events doctype Doctype.nestingLimit rest) with
      | .error unread => .error (refuse unread)
      | .ok root => .ok ⟨heading.version, root.tag, root.content.reverse⟩

/-- Reads the bytes of a document. -/
def Document.read (bytes : ByteArray) : Except Malformed Document :=
  match decodeDocument? bytes with
  | none => .error ⟨1⟩
  | some text => Document.readText text

end FormLetter.Xml
