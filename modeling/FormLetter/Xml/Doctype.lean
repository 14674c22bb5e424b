import FormLetter.Xml.Scan

/-!
# Document type declarations

What a document declares about itself before its root element. Two things of it matter: the
entities, which are put in where they are referred to, and the attributes whose values are lists of
words. Nothing outside the document is looked at, and declared defaults of attributes are not
applied.
-/

namespace FormLetter.Xml

/-- What an entity stands for: a text of the document itself, or something outside of it. -/
inductive Entity where
  | internal (text : List Char)
  | external
  deriving DecidableEq, Repr

/-- The declarations that matter to a reader. The first declaration of an entity holds. -/
structure Doctype where
  entities : List (String × Entity)
  parameters : List (String × Entity)
  /-- Elements with those of their attributes that hold words. -/
  words : List (String × String)
  deriving Repr, Inhabited

namespace Doctype

/-- A document that declares nothing. -/
def empty : Doctype := ⟨[], [], []⟩

/-- The entity of a name. -/
def entity? (doctype : Doctype) (name : String) : Option Entity :=
  doctype.entities.lookup name

/-- The name of something outside the document, if one comes next. -/
def takeExternal (text : List Char) : Except Unread (Bool × Unread) :=
  match after? "SYSTEM" text with
  | some rest => do
    let (_, rest) ← expectSpace rest
    let (_, rest) ← takeQuoted rest
    return (true, rest)
  | none =>
    match after? "PUBLIC" text with
    | some rest => do
      let (_, rest) ← expectSpace rest
      let (_, rest) ← takeQuoted rest
      let (_, rest) ← expectSpace rest
      let (_, rest) ← takeQuoted rest
      return (true, rest)
    | none => .ok (false, text)

/-- The replacement text of an entity. References to characters are put in at once, those to
entities stay, and those to parameters are not allowed inside a declaration. -/
def replacement (text : List Char) : Except Unread (List Char) :=
  match text with
  | [] => .ok []
  | '&' :: rest =>
    match takeReference rest with
    | .error unread => .error unread
    | .ok (.character c, after) =>
      if _ : after.length < rest.length then (replacement after).map (c :: ·) else .error after
    | .ok (.entity name, after) =>
      if _ : after.length < rest.length then
        (replacement after).map fun tail => '&' :: name.toList ++ ';' :: tail
      else .error after
  | '%' :: rest => .error rest
  | c :: rest => (replacement rest).map (c :: ·)
termination_by text.length

/-- Adds an entity, unless its name has one. -/
def addEntity (entities : List (String × Entity)) (name : String) (entity : Entity) :
    List (String × Entity) :=
  if (entities.lookup name).isSome then entities else entities ++ [(name, entity)]

/-- Whether a declaration is that of a parameter, which a percent sign says. -/
def takeKind (text : List Char) : Except Unread (Bool × Unread) :=
  match text with
  | '%' :: rest => do
    let (_, rest) ← expectSpace rest
    return (true, rest)
  | _ => .ok (false, text)

/-- What an entity is declared to stand for. -/
def takeDefinition (text : List Char) : Except Unread (Entity × Unread) := do
  let (isExternal, rest) ← takeExternal text
  if isExternal then
    match after? "NDATA" (skipSpace rest) with
    | some unparsed => do
      let (_, rest) ← expectSpace unparsed
      let (_, rest) ← takeName rest
      return (Entity.external, rest)
    | none => return (Entity.external, rest)
  else do
    let (value, rest) ← takeQuoted rest
    return (Entity.internal (← replacement value), rest)

/-- The declaration of an entity after its keyword. -/
def takeEntity (doctype : Doctype) (text : List Char) : Except Unread (Doctype × Unread) := do
  let (_, rest) ← expectSpace text
  let (isParameter, rest) ← takeKind rest
  let (name, rest) ← takeName rest
  let (_, rest) ← expectSpace rest
  let (entity, rest) ← takeDefinition rest
  let (_, rest) ← expect ">" (skipSpace rest)
  if isParameter then
    return ({ doctype with parameters := addEntity doctype.parameters name entity }, rest)
  else return ({ doctype with entities := addEntity doctype.entities name entity }, rest)

/-- The names of the types of attributes other than plain text. -/
def wordTypes : List String :=
  ["IDREFS", "IDREF", "ID", "ENTITIES", "ENTITY", "NMTOKENS", "NMTOKEN"]

/-- A list of choices in brackets. -/
def takeChoices (text : List Char) : Except Unread (Unit × Unread) := do
  let (_, rest) ← expect "(" text
  let (choices, rest) ← takeThrough ")" rest
  if choices.all fun c => isNameRest c || isSpace c || c == '|' then return ((), rest)
  else .error text

/-- The type of an attribute: true when its values are words. -/
def takeType (text : List Char) : Except Unread (Bool × Unread) :=
  match after? "CDATA" text with
  | some rest => .ok (false, rest)
  | none =>
    match wordTypes.findSome? fun word => after? word text with
    | some rest => .ok (true, rest)
    | none =>
      match after? "NOTATION" text with
      | some rest => do
        let (_, rest) ← expectSpace rest
        let (_, rest) ← takeChoices rest
        return (true, rest)
      | none => do
        let (_, rest) ← takeChoices text
        return (true, rest)

/-- A value an attribute has by default. -/
def takeDefaultValue (text : List Char) : Except Unread (Unit × Unread) := do
  let (value, rest) ← takeQuoted text
  if value.contains '<' then .error rest else return ((), rest)

/-- The default of an attribute. -/
def takeDefault (text : List Char) : Except Unread (Unit × Unread) :=
  match after? "#REQUIRED" text <|> after? "#IMPLIED" text with
  | some rest => .ok ((), rest)
  | none => do
    let (_, rest) ← match after? "#FIXED" text with
      | some rest => expectSpace rest
      | none => pure ((), text)
    takeDefaultValue rest

/-- One attribute of an element, and whether its values are words. It comes after white space. -/
def takeAttribute (text : List Char) : Except Unread ((String × Bool) × Unread) := do
  let (_, rest) ← expectSpace text
  let (name, rest) ← takeName rest
  let (_, rest) ← expectSpace rest
  let (isWords, rest) ← takeType rest
  let (_, rest) ← expectSpace rest
  let (_, rest) ← takeDefault rest
  return ((name, isWords), rest)

/-- The attributes of an element: those that hold words are noted. -/
def takeAttributes (doctype : Doctype) (element : String) (text : List Char) :
    Except Unread (Doctype × Unread) :=
  match skipSpace text with
  | '>' :: rest => .ok (doctype, rest)
  | _ =>
    match takeAttribute text with
    | .error unread => .error unread
    | .ok ((name, isWords), rest) =>
      if _ : rest.length < text.length then
        let words := if isWords then doctype.words ++ [(element, name)] else doctype.words
        takeAttributes { doctype with words } element rest
      else .error rest
termination_by text.length

/-- A declaration of the content of an element, or of a notation, after its keyword. Neither
matters to a reader that does not validate. -/
def takeOther (text : List Char) : Except Unread (Unit × Unread) := do
  let (_, rest) ← expectSpace text
  let (_, rest) ← takeName rest
  let (_, rest) ← expectSpace rest
  let (body, after) ← takeThrough ">" rest
  if body.isEmpty || body.contains '<' then .error rest else return ((), after)

/-- One declaration, or the white space, comment or instruction that stands between two. -/
def takeDeclaration (doctype : Doctype) (text : List Char) : Except Unread (Doctype × Unread) :=
  match after? "<!--" text with
  | some rest => (takeComment rest).map fun (_, rest) => (doctype, rest)
  | none =>
    match after? "<?" text with
    | some rest => (takeInstruction rest).map fun (_, rest) => (doctype, rest)
    | none =>
      match after? "<!ENTITY" text with
      | some rest => takeEntity doctype rest
      | none =>
        match after? "<!ATTLIST" text with
        | some rest => do
          let (_, rest) ← expectSpace rest
          let (element, rest) ← takeName rest
          takeAttributes doctype element rest
        | none =>
          match after? "<!ELEMENT" text <|> after? "<!NOTATION" text with
          | some rest => (takeOther rest).map fun (_, rest) => (doctype, rest)
          | none => .error text

/-- A reference to a parameter after its percent sign. -/
def takeParameter (text : List Char) : Except Unread (String × Unread) := do
  let (name, rest) ← takeName text
  let (_, rest) ← expect ";" rest
  return (name, rest)

/-- The declarations of a document, up to the closing bracket or to the end of the text of a
parameter. A parameter may refer to others, but not for ever. -/
def takeDeclarations (nesting : Nat) (doctype : Doctype) (text : List Char) :
    Except Unread (Doctype × Unread) :=
  let body := skipSpace text
  match body with
  | [] => .ok (doctype, [])
  | ']' :: _ => .ok (doctype, body)
  | '%' :: rest =>
    match nesting with
    | 0 => .error rest
    | nesting + 1 =>
      match takeParameter rest with
      | .error unread => .error unread
      | .ok (name, rest) =>
        if _ : rest.length < text.length then
          match doctype.parameters.lookup name with
          | some (.internal inner) =>
            match takeDeclarations nesting doctype inner with
            | .ok (doctype, []) => takeDeclarations (nesting + 1) doctype rest
            | _ => .error rest
          | _ => takeDeclarations (nesting + 1) doctype rest
        else .error rest
  | _ =>
    match takeDeclaration doctype body with
    | .error unread => .error unread
    | .ok (doctype, rest) =>
      if _ : rest.length < text.length then takeDeclarations nesting doctype rest else .error rest
termination_by (nesting, text.length)

/-- How deep references may be nested. -/
def nestingLimit : Nat := 40

/-- The declarations in square brackets, if there are any. -/
def takeSubset (text : List Char) : Except Unread (Doctype × Unread) :=
  match text with
  | '[' :: rest => do
    let (doctype, rest) ← takeDeclarations nestingLimit empty rest
    let (_, rest) ← expect "]" rest
    return (doctype, rest)
  | _ => .ok (empty, text)

/-- The whole declaration after its keyword. -/
def take (text : List Char) : Except Unread (Doctype × Unread) := do
  let (_, rest) ← expectSpace text
  let (_, rest) ← takeName rest
  let (_, rest) ← takeExternal (skipSpace rest)
  let (doctype, rest) ← takeSubset (skipSpace rest)
  let (_, rest) ← expect ">" (skipSpace rest)
  return (doctype, rest)

end Doctype

end FormLetter.Xml
