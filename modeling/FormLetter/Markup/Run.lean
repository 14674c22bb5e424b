import FormLetter.Markup.Token
import FormLetter.Style.Role
import FormLetter.Text.Entity

/-!
# Runs of embedded code

A run is a span whose style is in the style table and that holds text, with nothing but text,
white space and the elements for typed white space between its tags. A span with white space only
carries no code and stays text.

The code of a run is what was typed: the elements for typed white space become characters again,
and then references are decoded.
-/

namespace FormLetter.Markup

open FormLetter.Text
open FormLetter.Style (Table)

/-! ## The style of a span -/

/-- The attribute that names the style of a span, up to its value. -/
def styleAttribute : List Char := "text:style-name=".toList

/-- A quoted value at the beginning of a text. -/
def quotedValue? : List Char → Option (List Char)
  | [] => none
  | quote :: rest =>
    if (quote == '"' || quote == '\'') && rest.contains quote then
      some (rest.takeWhile (· != quote))
    else none

/-- The value of the style attribute that begins here, after one character of white space. -/
def styleValueAt? : List Char → Option (List Char)
  | [] => none
  | c :: rest =>
    if isBlank c && styleAttribute.isPrefixOf rest then
      quotedValue? (rest.drop styleAttribute.length)
    else none

/-- The written value of the first style attribute of a tag. -/
def styleValue? : List Char → Option (List Char)
  | [] => none
  | c :: rest => styleValueAt? (c :: rest) <|> styleValue? rest

/-- The style that a span tag names. -/
def spanStyle? (tag : List Char) : Option String :=
  (styleValue? tag).map fun value => String.ofList (Entity.decode value)

/-! ## Typed text -/

/-- The length of an empty element at the beginning of a text, when only the given characters may
stand between its name and its end. The last possible end is taken. -/
def emptyElementLength? (element : String) (allowed : List Char → Bool) (text : List Char) :
    Option Nat :=
  match afterName? ("<" ++ element) text with
  | none => none
  | some tail =>
    let body := tail.takeWhile (· != '>')
    if body.getLast? == some '/' && body.length < tail.length && allowed body.dropLast then
      some (element.length + body.length + 2)
    else none

/-- The elements for typed white space, with what may stand inside their tags and the character
that they stand for. A run of spaces is one element, whatever its attributes, and one space. -/
def typedSpaces : List (String × (List Char → Bool) × Char) := [
  ("text:line-break", (·.all isBlank), '\n'),
  ("text:tab", (·.all isBlank), '\t'),
  ("text:s", isTagBody, ' ')]

/-- Replaces every occurrence of one element for typed white space. -/
def replaceTyped (element : String) (allowed : List Char → Bool) (typed : Char) :
    List Char → List Char
  | [] => []
  | c :: rest =>
    match emptyElementLength? element allowed (c :: rest) with
    | some length => typed :: replaceTyped element allowed typed (rest.drop (length - 1))
    | none => c :: replaceTyped element allowed typed rest
termination_by text => text.length
decreasing_by all_goals (simp only [List.length_cons, List.length_drop]; omega)

/-- The text as it was typed: elements for white space become characters, then references are
decoded. -/
def typedText (text : List Char) : List Char :=
  Entity.decode (typedSpaces.foldl
    (fun text (element, allowed, typed) => replaceTyped element allowed typed text) text)

/-! ## Finding runs -/

/-- A run: the tag that opens it, the tokens with its code, and the tag that closes it. -/
structure Run where
  opening : Token
  inner : List Token
  closing : Token
  deriving DecidableEq, Repr

namespace Run

/-- The tokens of a run. -/
def tokens (run : Run) : List Token :=
  run.opening :: (run.inner ++ [run.closing])

/-- The style of a run; a tag without one names the empty style. -/
def style (run : Run) : String :=
  (spanStyle? run.opening.text).getD ""

/-- The code of a run, as it was typed. -/
def code (run : Run) : List Char :=
  typedText (Token.join run.inner)

/-- True for the tokens that may stand inside a run. -/
def isContent (token : Token) : Bool :=
  token.kind == .text || token.kind == .space || token.kind == .inlineSpace

/-- The run that begins with the first of some tokens, under a style of the table. -/
def start? (styles : Table) : List Token → Option Run
  | [] => none
  | opening :: rest =>
    let inner := rest.takeWhile isContent
    match rest.drop inner.length with
    | [] => none
    | closing :: _ =>
      if opening.kind == .spanOpen
          && ((spanStyle? opening.text).bind styles.find?).isSome
          && inner.any (·.kind == .text) && closing.kind == .spanClose then
        some ⟨opening, inner, closing⟩
      else none

/-- A run is a beginning of the tokens in which it was found. -/
theorem tokens_append_of_start? {styles : Table} {source : List Token} {run : Run}
    (found : start? styles source = some run) :
    run.tokens ++ source.drop (run.inner.length + 2) = source := by
  match source with
  | [] => simp [start?] at found
  | opening :: rest =>
    simp only [start?] at found
    split at found
    · simp at found
    · rename_i closing tail dropped
      split at found
      · simp only [Option.some.injEq] at found
        subst found
        have parts : rest.takeWhile isContent ++ closing :: tail = rest := by
          have lead : rest.takeWhile isContent <+: rest := List.takeWhile_prefix _
          have cut := List.prefix_iff_eq_append.mp lead
          rw [dropped] at cut
          exact cut
        have dropped' : rest.drop ((rest.takeWhile isContent).length + 1) = tail := by
          have more := congrArg (List.drop 1) dropped
          simpa [List.drop_drop, Nat.add_comm] using more
        simp only [Run.tokens, List.cons_append, List.append_assoc, List.nil_append,
          List.cons.injEq, true_and, List.drop_succ_cons]
        rw [dropped']
        exact parts
      · simp at found

end Run

end FormLetter.Markup
