import FormLetter.Xml.Doctype

/-!
# Items of a document

A document is cut into characters, references, tags and the other pieces of markup, each checked by
itself. Where a text is not well formed its last item says so, and whoever goes through the items
notices it in its place. Beside each item stands how much of the text is unread after it.
-/

namespace FormLetter.Xml

/-- One piece of a document. -/
inductive Item where
  | characters (text : List Char)
  | character (c : Char)
  | reference (name : String)
  | literal (text : List Char)
  | comment (text : List Char)
  | instruction (target : String) (text : Option (List Char))
  | doctype (declared : Doctype)
  /-- Attribute values stand as they were written between their quotes. -/
  | opening (name : String) (attributes : List (String × List Char)) (isEmpty : Bool)
  | closing (name : String)
  | malformed
  deriving Repr

/-- Something at a place of a text, which is known by how much of the text is unread after it. -/
structure Placed (α : Type) where
  value : α
  unread : Nat
  deriving Repr

/-- The characters up to the next markup, as far as they are character data. The mark that ends a
literal section is none. -/
def takeCharacters : List Char → List Char × List Char
  | [] => ([], [])
  | c :: rest =>
    if c == '<' || c == '&' || !isChar c || "]]>".toList.isPrefixOf (c :: rest) then ([], c :: rest)
    else
      let (taken, after) := takeCharacters rest
      (c :: taken, after)

/-- An attribute of a tag as it is written. It comes after white space. -/
def takeAttribute (text : List Char) : Except Unread ((String × List Char) × Unread) := do
  let (_, rest) ← expectSpace text
  let (name, rest) ← takeName rest
  let (_, rest) ← expect "=" (skipSpace rest)
  let (value, rest) ← takeQuoted (skipSpace rest)
  if value.contains '<' then .error rest else return ((name, value), rest)

/-- The attributes of a tag, and whether the tag closes its element too. -/
def takeAttributes (text : List Char) :
    Except Unread ((List (String × List Char) × Bool) × Unread) :=
  match skipSpace text with
  | '>' :: rest => .ok (([], false), rest)
  | '/' :: '>' :: rest => .ok (([], true), rest)
  | _ =>
    match takeAttribute text with
    | .error unread => .error unread
    | .ok (given, rest) =>
      if _ : rest.length < text.length then
        (takeAttributes rest).map fun ((attributes, isEmpty), rest) =>
          ((given :: attributes, isEmpty), rest)
      else .error rest
termination_by text.length

/-- The first item of a text that begins with an angle bracket. -/
def takeMarkup (text : List Char) : Except Unread (Item × Unread) :=
  match after? "<!--" text with
  | some rest => (takeComment rest).map fun (value, rest) => (.comment value, rest)
  | none =>
    match after? "<![CDATA[" text with
    | some rest => (takeThrough "]]>" rest).map fun (value, rest) => (.literal value, rest)
    | none =>
      match after? "<!DOCTYPE" text with
      | some rest => (Doctype.take rest).map fun (declared, rest) => (.doctype declared, rest)
      | none =>
        match after? "<?" text with
        | some rest => (takeInstruction rest).map fun ((target, value), rest) =>
          (.instruction target value, rest)
        | none =>
          match after? "</" text with
          | some rest => do
            let (name, rest) ← takeName rest
            let (_, rest) ← expect ">" (skipSpace rest)
            return (.closing name, rest)
          | none => do
            let (_, rest) ← expect "<" text
            let (name, rest) ← takeName rest
            let ((attributes, isEmpty), rest) ← takeAttributes rest
            return (.opening name attributes isEmpty, rest)

/-- The first item of a text that is not empty. -/
def takeItem (text : List Char) : Except Unread (Item × Unread) :=
  match text with
  | '<' :: _ => takeMarkup text
  | '&' :: rest =>
    (takeReference rest).map fun (reference, rest) =>
      match reference with
      | .character c => (.character c, rest)
      | .entity name => (.reference name, rest)
  | _ =>
    let (taken, rest) := takeCharacters text
    if taken.isEmpty then .error rest else .ok (.characters taken, rest)

/-- The items of a text, up to the first place where it is not well formed. -/
def items (text : List Char) : List (Placed Item) :=
  match text with
  | [] => []
  | c :: rest =>
    match takeItem (c :: rest) with
    | .error unread => [⟨.malformed, unread.length⟩]
    | .ok (item, after) =>
      if _ : after.length < (c :: rest).length then ⟨item, after.length⟩ :: items after
      else [⟨.malformed, after.length⟩]
termination_by text.length
decreasing_by assumption

end FormLetter.Xml
