import FormLetter.Xml.Encoding
import FormLetter.Xml.Item

/-!
# Events of a document

The items of a document with everything put in that they refer to: entities give the events of
their text, and attribute values are as a reader sees them.
-/

namespace FormLetter.Xml

/-- One step through a document. -/
inductive Event where
  /-- Characters that stand in the document as themselves. -/
  | characters (text : List Char)
  /-- Characters that a reference or a literal section stands for. -/
  | written (text : List Char)
  | comment (text : List Char)
  | instruction (target : String) (text : Option (List Char))
  | opening (name : String) (attributes : List (String × String)) (isEmpty : Bool)
  | closing (name : String)
  | malformed
  deriving DecidableEq, Repr

/-- The value of an attribute as it is read: white space becomes blanks, and references are put in.
`none` when the value refers to what it may not. What an entity holds is told by its text. -/
def attributeValueOf? (doctype : Doctype) (inside : List Char → Option (List Char))
    (text : List Char) : Option (List Char) :=
  match text with
  | [] => some []
  | '&' :: rest =>
    match takeReference rest with
    | .error _ => none
    | .ok (reference, after) =>
      if _ : after.length < rest.length then
        let replaced := match reference with
          | .character c => some [c]
          | .entity name =>
            match predefined? name with
            | some c => some [c]
            | none =>
              match doctype.entity? name with
              | some (.internal inner) => inside inner
              | _ => none
        match replaced with
        | none => none
        | some value => (attributeValueOf? doctype inside after).map (value ++ ·)
      else none
  | '<' :: _ => none
  | c :: rest =>
    (attributeValueOf? doctype inside rest).map ((if isSpace c then ' ' else c) :: ·)
termination_by text.length

/-- The value of an attribute as it is read. Entities may be nested, but not for ever. -/
def attributeValue? (doctype : Doctype) : Nat → List Char → Option (List Char)
  | 0 => attributeValueOf? doctype fun _ => none
  | nested + 1 => attributeValueOf? doctype (attributeValue? doctype nested)

/-- A value that holds words: one blank between two of them, and none at the ends. -/
def joinWords (value : List Char) : List Char :=
  let words := (value.splitOn ' ').filter (!·.isEmpty)
  [' '].intercalate words

/-- The attributes of an element as they are read. -/
def attributeValues? (doctype : Doctype) (element : String) :
    List (String × List Char) → Option (List (String × String))
  | [] => some []
  | (name, written) :: rest => do
    let value ← attributeValue? doctype Doctype.nestingLimit written
    let value := if doctype.words.contains (element, name) then joinWords value else value
    let rest ← attributeValues? doctype element rest
    return (name, String.ofList value) :: rest

/-- True when events open and close elements in order, given the elements that are open already. -/
def isBalanced : List String → List (Placed Event) → Bool
  | names, [] => names.isEmpty
  | names, ⟨.opening name _ isEmpty, _⟩ :: rest =>
    isBalanced (if isEmpty then names else name :: names) rest
  | names, ⟨.closing name, _⟩ :: rest =>
    match names with
    | last :: names => last == name && isBalanced names rest
    | [] => false
  | _, ⟨.malformed, _⟩ :: _ => false
  | names, _ :: rest => isBalanced names rest

/-- The event of what an entity holds: none of it stands in the document as itself. -/
def Event.ofEntity : Event → Event
  | .characters text => .written text
  | event => event

/-- The events of items. Those of an entity are told by its text, if it may be put in. -/
def eventsOf (doctype : Doctype) (inside : List Char → Option (List (Placed Event))) :
    List (Placed Item) → List (Placed Event)
  | [] => []
  | ⟨item, unread⟩ :: rest =>
    match item with
    | .characters text => ⟨.characters text, unread⟩ :: eventsOf doctype inside rest
    | .character c => ⟨.written [c], unread⟩ :: eventsOf doctype inside rest
    | .literal text => ⟨.written text, unread⟩ :: eventsOf doctype inside rest
    | .comment text => ⟨.comment text, unread⟩ :: eventsOf doctype inside rest
    | .instruction target text =>
      ⟨.instruction target text, unread⟩ :: eventsOf doctype inside rest
    | .closing name => ⟨.closing name, unread⟩ :: eventsOf doctype inside rest
    | .opening name attributes isEmpty =>
      match attributeValues? doctype name attributes with
      | some attributes =>
        ⟨.opening name attributes isEmpty, unread⟩ :: eventsOf doctype inside rest
      | none => [⟨.malformed, unread⟩]
    | .reference name =>
      match predefined? name with
      | some c => ⟨.written [c], unread⟩ :: eventsOf doctype inside rest
      | none =>
        match doctype.entity? name with
        | some (.internal text) =>
          match inside text with
          | some inner =>
            if isBalanced [] inner then
              (inner.map fun placed => ⟨placed.value.ofEntity, unread⟩)
                ++ eventsOf doctype inside rest
            else [⟨.malformed, unread⟩]
          | none => [⟨.malformed, unread⟩]
        | _ => [⟨.malformed, unread⟩]
    | .doctype _ => [⟨.malformed, unread⟩]
    | .malformed => [⟨.malformed, unread⟩]

/-- The events of items. Entities may be nested, but not for ever. What an entity holds is read like
a document of its own, so its line breaks have one form, too. -/
def events (doctype : Doctype) : Nat → List (Placed Item) → List (Placed Event)
  | 0 => eventsOf doctype fun _ => none
  | nested + 1 => eventsOf doctype fun text =>
    some (events doctype nested (items (normalizeLines text)))

end FormLetter.Xml
