import FormLetter.Text.Blank

/-!
# Tokens of a serialised part

The text of a part is cut into comments, character data sections, processing instructions, tags
and the text between them. An opening angle bracket that begins none of these is a token of its
own, so every text can be cut and nothing of it is lost.

A tag is then named by the structure that it opens or closes. Only the structures that matter to
embedded code have a kind: table rows and cells, list items, paragraphs, spans, and the empty
elements that stand for typed white space.
-/

namespace FormLetter.Markup

open FormLetter.Text

/-- What a token is to the compiler. -/
inductive Kind where
  | rowOpen
  | rowClose
  | cellOpen
  | cellClose
  | coveredCell
  | itemOpen
  | itemClose
  | paragraphOpen
  | paragraphClose
  | spanOpen
  | spanClose
  | inlineSpace
  | space
  | text
  | other
  deriving DecidableEq, Repr, Inhabited

namespace Kind

/-- The written name of a kind. -/
def label : Kind → String
  | rowOpen => "row-open"
  | rowClose => "row-close"
  | cellOpen => "cell-open"
  | cellClose => "cell-close"
  | coveredCell => "covered-cell"
  | itemOpen => "item-open"
  | itemClose => "item-close"
  | paragraphOpen => "para-open"
  | paragraphClose => "para-close"
  | spanOpen => "span-open"
  | spanClose => "span-close"
  | inlineSpace => "inline-ws"
  | space => "space"
  | text => "text"
  | other => "other"

end Kind

/-- One piece of a part, with its exact text. -/
structure Token where
  kind : Kind
  text : List Char
  deriving DecidableEq, Repr, Inhabited

namespace Token

/-- The text that a list of tokens covers. -/
def join (tokens : List Token) : List Char :=
  tokens.flatMap Token.text

@[simp] theorem join_nil : join [] = [] := rfl

@[simp] theorem join_cons (token : Token) (rest : List Token) :
    join (token :: rest) = token.text ++ join rest := rfl

@[simp] theorem join_append (left right : List Token) :
    join (left ++ right) = join left ++ join right := by
  simp [join]

end Token

/-! ## Cutting -/

/-- How many characters it takes to reach the end of the first occurrence of a mark. -/
def lengthThrough? (mark : List Char) : List Char → Option Nat
  | [] => none
  | c :: rest =>
    if mark.isPrefixOf (c :: rest) then some mark.length
    else (lengthThrough? mark rest).map (· + 1)

/-- The length of a piece that begins with one mark and runs through the next occurrence of
another. -/
def enclosedLength? (opening closing text : List Char) : Option Nat :=
  if opening.isPrefixOf text then
    (lengthThrough? closing (text.drop opening.length)).map (opening.length + ·)
  else none

/-- The length of a tag after its opening bracket: through the first closing bracket, unless
another opening one comes before it. -/
def tagTailLength? : List Char → Option Nat
  | [] => none
  | c :: rest =>
    if c == '>' then some 1
    else if c == '<' then none
    else (tagTailLength? rest).map (· + 1)

/-- How many characters the first token of a text takes. Comments, character data sections and
processing instructions come before tags, since they may hold brackets. -/
def tokenLength : List Char → Nat
  | [] => 0
  | '<' :: rest =>
    let text := '<' :: rest
    (enclosedLength? "<!--".toList "-->".toList text
      <|> enclosedLength? "<![CDATA[".toList "]]>".toList text
      <|> enclosedLength? "<?".toList "?>".toList text
      <|> (tagTailLength? rest).map (· + 1)).getD 1
  | _ :: rest => 1 + (rest.takeWhile (· != '<')).length

/-- Cuts a text into the texts of its tokens. -/
def cut (text : List Char) : List (List Char) :=
  match text with
  | [] => []
  | c :: rest =>
    -- Every token takes at least one character.
    let length := max 1 (tokenLength (c :: rest))
    (c :: rest).take length :: cut ((c :: rest).drop length)
termination_by text.length
decreasing_by simp only [List.length_drop, List.length_cons]; omega

/-! ## Naming tags -/

/-- The three shapes that a tag of one element can have. -/
inductive Shape where
  | opening
  | closing
  | empty
  deriving DecidableEq, Repr

/-- The text after the element name, when a tag begins with it. -/
def afterName? (lead : String) (text : List Char) : Option (List Char) :=
  if lead.toList.isPrefixOf text then some (text.drop lead.toList.length) else none

/-- What may stand between an element name and the end of its tag: nothing, or white space and
then anything but a closing bracket. -/
def isTagBody (body : List Char) : Bool :=
  match body with
  | [] => true
  | c :: rest => isBlank c && !rest.contains '>'

/-- True when the text is a tag of the given shape for the given element. -/
def Shape.matches (shape : Shape) (element : String) (text : List Char) : Bool :=
  match shape with
  | .opening =>
    match afterName? ("<" ++ element) text with
    | none => false
    | some tail =>
      tail.getLast? == some '>' && isTagBody tail.dropLast && tail.dropLast.getLast? != some '/'
  | .closing =>
    match afterName? ("</" ++ element) text with
    | none => false
    | some tail => tail.getLast? == some '>' && tail.dropLast.all isBlank
  | .empty =>
    match afterName? ("<" ++ element) text with
    | none => false
    | some tail =>
      tail.getLast? == some '>' && tail.dropLast.getLast? == some '/' &&
        isTagBody tail.dropLast.dropLast

/-- The tags that have a kind. No text is a tag of two rows, so their order says nothing. -/
def tagKinds : List (Shape × String × Kind) := [
  (.opening, "table:table-row", .rowOpen),
  (.closing, "table:table-row", .rowClose),
  (.opening, "table:table-cell", .cellOpen),
  (.closing, "table:table-cell", .cellClose),
  (.empty, "table:covered-table-cell", .coveredCell),
  (.opening, "text:list-item", .itemOpen),
  (.closing, "text:list-item", .itemClose),
  (.opening, "text:p", .paragraphOpen),
  (.closing, "text:p", .paragraphClose),
  (.opening, "text:span", .spanOpen),
  (.closing, "text:span", .spanClose),
  (.empty, "text:line-break", .inlineSpace),
  (.empty, "text:tab", .inlineSpace),
  (.empty, "text:s", .inlineSpace)]

/-- The kind of the token with the given text. -/
def kindOf (text : List Char) : Kind :=
  match text with
  | '<' :: _ :: _ =>
    match tagKinds.find? fun (shape, element, _) => shape.matches element text with
    | some (_, _, kind) => kind
    | none => .other
  | [] => .text
  | _ => if isBlankText text then .space else .text

/-- Cuts a part into tokens. -/
def tokenize (text : List Char) : List Token :=
  (cut text).map fun piece => ⟨kindOf piece, piece⟩

end FormLetter.Markup
