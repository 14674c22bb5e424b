import FormLetter.Proofs.Markup.Typing
import Mathlib.Data.List.Chain

/-!
# Code is read token by token

The code of a run is read from its joined text: elements for white space become characters, one kind
of element after the other, and then references are decoded. What comes of it is what each token
stands for by itself. An element is replaced within its own tag, since a tag holds one bracket and
ends with the next; and no reference goes on over white space or over a bracket, so decoding a text
stops where its token ends.

A line break or a tab is replaced only when its tag has no attributes. A bracket that begins no
markup is no part of the forms that are read either.
-/

namespace FormLetter.Text.Entity

/-! ## Where references end -/

/-- True for the characters behind which nothing of a reference before them is looked for. -/
def stopsReference (c : Char) : Bool :=
  c == '\n' || c == '\t' || c == ' ' || c == '<'

/-- Characters up to one that is refused are taken as if the text ended there. -/
theorem takeWhile_of_refused {accept : Char → Bool} {stop : Char} (refused : accept stop = false)
    (text rest : List Char) :
    (text ++ stop :: rest).takeWhile accept = text.takeWhile accept := by
  induction text with
  | nil => simp [refused]
  | cons c others ih =>
    by_cases accepted : accept c
    · simp [accepted, ih]
    · simp [accepted]

/-- A number that is not marked as hexadecimal is read from decimal digits. -/
theorem numeric?_decimal {text : List Char} (notLower : text.head? ≠ some 'x')
    (notUpper : text.head? ≠ some 'X') :
    numeric? text = if (text.takeWhile Char.isDigit).isEmpty then none
      else some (ofNumber (number 10 (text.takeWhile Char.isDigit)),
        1 + (text.takeWhile Char.isDigit).length
          + closing (text.drop (text.takeWhile Char.isDigit).length)) := by
  unfold numeric?
  split
  · exact absurd rfl notLower
  · exact absurd rfl notUpper
  · rfl

/-- The word behind an ampersand that may name a reference. -/
def wordOf (text : List Char) : List Char :=
  (text.takeWhile fun c => !endsName c).take longestName

theorem wordOf_le (text : List Char) : (wordOf text).length ≤ text.length :=
  (List.length_take_le' _ _).trans (List.takeWhile_prefix _).length_le

/-- A reference that is no number has a name. -/
theorem reference?_named {text : List Char} (noNumber : text.head? ≠ some '#') :
    reference? text =
      match if (text.drop (wordOf text).length).head? == some ';' then named? (wordOf text) else none
        with
      | some value => some (value, (wordOf text).length + 1)
      | none => oldName? (wordOf text) (wordOf text).length := by
  unfold reference?
  split
  · exact absurd rfl noNumber
  · rfl

section

variable {stop : Char} (stops : stopsReference stop = true)

include stops

theorem cases_of_stopsReference : stop = '\n' ∨ stop = '\t' ∨ stop = ' ' ∨ stop = '<' := by
  simpa [stopsReference, or_assoc] using stops

/-- A stop closes no reference. -/
theorem closing_of_stops (text rest : List Char) :
    closing (text ++ stop :: rest) = closing text := by
  cases text with
  | nil => rcases cases_of_stopsReference stops with rfl | rfl | rfl | rfl <;> rfl
  | cons c others => rfl

theorem numeric?_of_stops (text rest : List Char) :
    numeric? (text ++ stop :: rest) = numeric? text := by
  have noHex : isHexDigit stop = false := by
    rcases cases_of_stopsReference stops with rfl | rfl | rfl | rfl <;> decide
  have noDigit : Char.isDigit stop = false := by
    rcases cases_of_stopsReference stops with rfl | rfl | rfl | rfl <;> decide
  have dropped (accept : Char → Bool) (others : List Char) :
      (others ++ stop :: rest).drop (others.takeWhile accept).length
        = others.drop (others.takeWhile accept).length ++ stop :: rest :=
    List.drop_append_of_le_length (List.takeWhile_prefix _).length_le
  have hex (others : List Char) :
      (others ++ stop :: rest).takeWhile isHexDigit = others.takeWhile isHexDigit :=
    takeWhile_of_refused noHex others rest
  cases text with
  | nil => rcases cases_of_stopsReference stops with rfl | rfl | rfl | rfl <;> rfl
  | cons c others =>
    by_cases isBase : c = 'x' ∨ c = 'X'
    · rcases isBase with rfl | rfl
      all_goals
        simp only [List.cons_append, numeric?]
        rw [hex, dropped, closing_of_stops stops]
    · rw [not_or] at isBase
      have notLower : (c :: others).head? ≠ some 'x' := by simpa using isBase.1
      have notUpper : (c :: others).head? ≠ some 'X' := by simpa using isBase.2
      have notLower' : (c :: others ++ stop :: rest).head? ≠ some 'x' := by simpa using isBase.1
      have notUpper' : (c :: others ++ stop :: rest).head? ≠ some 'X' := by simpa using isBase.2
      rw [numeric?_decimal notLower notUpper, numeric?_decimal notLower' notUpper',
        takeWhile_of_refused noDigit, dropped, closing_of_stops stops]

/-- A reference is the same when a stop and more text follow. -/
theorem reference?_of_stops (text rest : List Char) :
    reference? (text ++ stop :: rest) = reference? text := by
  have ends : endsName stop = true := by
    rcases cases_of_stopsReference stops with rfl | rfl | rfl | rfl <;> rfl
  cases text with
  | nil => rcases cases_of_stopsReference stops with rfl | rfl | rfl | rfl <;> rfl
  | cons c others =>
    by_cases isNumber : c = '#'
    · subst isNumber
      exact numeric?_of_stops stops others rest
    · have named : (c :: others).head? ≠ some '#' := by simpa using isNumber
      have named' : (c :: others ++ stop :: rest).head? ≠ some '#' := by simpa using isNumber
      have word : wordOf (c :: others ++ stop :: rest) = wordOf (c :: others) :=
        congrArg (List.take longestName) (takeWhile_of_refused (by simp [ends]) _ rest)
      have head : ((c :: others ++ stop :: rest).drop (wordOf (c :: others)).length).head? == some ';'
          ↔ ((c :: others).drop (wordOf (c :: others)).length).head? == some ';' := by
        rw [List.drop_append_of_le_length (wordOf_le _)]
        cases (c :: others).drop (wordOf (c :: others)).length with
        | nil => rcases cases_of_stopsReference stops with rfl | rfl | rfl | rfl <;> simp
        | cons d more => simp
      rw [reference?_named named, reference?_named named', word]
      simp only [head]

end

/-! ## What a reference uses -/

theorem closing_le (text : List Char) : closing text ≤ text.length := by
  cases text with
  | nil => simp [closing]
  | cons c others =>
    simp only [closing, List.length_cons]
    split <;> omega

/-- What digits take, with a semicolon behind them, is part of the text. -/
theorem digits_le (accept : Char → Bool) (text : List Char) :
    (text.takeWhile accept).length + closing (text.drop (text.takeWhile accept).length)
      ≤ text.length := by
  have bound := closing_le (text.drop (text.takeWhile accept).length)
  have taken := (List.takeWhile_prefix (l := text) accept).length_le
  rw [List.length_drop] at bound
  omega

theorem numeric?_le {text value : List Char} {used : Nat}
    (found : numeric? text = some (value, used)) : used ≤ text.length + 1 := by
  unfold numeric? at found
  split at found
  all_goals
    simp only [Option.ite_none_left_eq_some, Option.some.injEq, Prod.mk.injEq] at found
    obtain ⟨-, -, rfl⟩ := found
  · have bound := digits_le isHexDigit ‹List Char›
    simp only [List.length_cons]
    omega
  · have bound := digits_le isHexDigit ‹List Char›
    simp only [List.length_cons]
    omega
  · have bound := digits_le Char.isDigit text
    omega

theorem oldName?_le {word value : List Char} {length used : Nat}
    (found : oldName? word length = some (value, used)) : used ≤ length := by
  fun_induction oldName? word length with
  | case1 => cases found
  | case2 => cases found
  | case3 length isLong name known =>
    obtain ⟨text, -, same⟩ := Option.map_eq_some_iff.mp found
    rw [← (Prod.mk.inj same).2]
  | case4 length isLong name unknown ih => exact (ih found).trans (Nat.le_succ _)

/-- A reference uses no more characters than there are. -/
theorem reference?_le {text value : List Char} {used : Nat}
    (found : reference? text = some (value, used)) : used ≤ text.length := by
  by_cases isNumber : text.head? = some '#'
  · obtain ⟨others, rfl⟩ := List.head?_eq_some_iff.mp isNumber
    exact numeric?_le found
  · rw [reference?_named isNumber] at found
    split at found
    · rename_i known
      simp only [Option.some.injEq, Prod.mk.injEq] at found
      obtain ⟨-, rfl⟩ := found
      -- A closed name has a semicolon behind it.
      have some_ : text.drop (wordOf text).length ≠ [] := by
        intro none_
        simp [none_] at known
      have positive := List.length_pos_of_ne_nil some_
      rw [List.length_drop] at positive
      omega
    · exact (oldName?_le found).trans (wordOf_le text)

/-- Decoding stops at a stop and goes on behind it. -/
theorem decode_of_stops {stop : Char} (stops : stopsReference stop = true)
    (text rest : List Char) : decode (text ++ stop :: rest) = decode text ++ stop :: decode rest := by
  fun_induction decode text with
  | case1 =>
    have plain : (stop == '&') = false := by
      rcases cases_of_stopsReference stops with rfl | rfl | rfl | rfl <;> decide
    rw [List.nil_append, decode, plain]
    rfl
  | case2 c others isMark value used found ih =>
    have same := (reference?_of_stops stops others rest).trans found
    rw [List.cons_append, decode, if_pos isMark, same]
    simp only
    rw [List.drop_append_of_le_length (reference?_le found), ih, List.append_assoc]
  | case3 c others isMark none_ ih =>
    have same := (reference?_of_stops stops others rest).trans none_
    rw [List.cons_append, decode, if_pos isMark, same]
    simp only
    rw [ih, List.cons_append]
  | case4 c others noMark ih =>
    rw [List.cons_append, decode, if_neg noMark, ih, List.cons_append]

/-- What stands before a stop is decoded by itself. -/
theorem decode_append_of_stops {stop : Char} (stops : stopsReference stop = true)
    (text rest : List Char) :
    decode (text ++ stop :: rest) = decode text ++ decode (stop :: rest) := by
  have alone : decode (stop :: rest) = stop :: decode rest := by
    have split := decode_of_stops stops [] rest
    simpa [decode] using split
  rw [decode_of_stops stops, alone]

end FormLetter.Text.Entity

namespace FormLetter.Markup

open FormLetter.Style
open FormLetter.Text

/-! ## Elements with attributes -/

/-- The elements for typed white space with the characters that they stand for. -/
def typedCharacters : List (String × Char) :=
  [("text:line-break", '\n'), ("text:tab", '\t'), ("text:s", ' ')]

/-- The element for typed white space whose tag a text is, whatever its attributes, with the
character that it stands for. -/
def typedElement? (text : List Char) : Option (String × Char) :=
  typedCharacters.find? fun (element, _) => Shape.empty.matches element text

/-- A piece of code in which its element is a character. -/
def withCharacter (piece : List Char) : List Char :=
  match typedElement? piece with
  | some (_, typed) => [typed]
  | none => piece

/-- What a token of a run stands for by itself: a tag for its character, and text for what its
references mean. -/
def Token.typed (token : Token) : List Char :=
  if token.kind = .inlineSpace then withCharacter token.text else Entity.decode token.text

/-- The tag of an empty element, with what stands between its name and its end. -/
def emptyTag (element : String) (body : List Char) : List Char :=
  '<' :: (element.toList ++ body ++ ['/', '>'])

/-- What an element for typed white space may have in its tag to be replaced. -/
def allowedIn (element : String) : List Char → Bool :=
  if element = "text:s" then isTagBody else (·.all isBlank)

/-- A piece of code as it is cut: text without brackets, or the tag of an element for typed white
space, which is replaced as it is. -/
inductive IsCodePiece : List Char → Prop
  | text {piece : List Char} (plain : '<' ∉ piece) : IsCodePiece piece
  | tag {element : String} {typed : Char} {body : List Char}
      (known : (element, typed) ∈ typedCharacters) (plain : '<' ∉ body) (open_ : '>' ∉ body)
      (allowed : allowedIn element body = true) : IsCodePiece (emptyTag element body)

section

variable {element : String} {typed : Char}

/-- An element is replaced within its own tag. -/
theorem replaceTyped_emptyTag {allowed : List Char → Bool} {body : List Char} (open_ : '>' ∉ body)
    (accepts : allowed body = true) (rest : List Char) :
    replaceTyped element allowed typed (emptyTag element body ++ rest)
      = typed :: replaceTyped element allowed typed rest := by
  have after : afterName? ("<" ++ element) (emptyTag element body ++ rest)
      = some (body ++ '/' :: '>' :: rest) := by
    unfold afterName? emptyTag
    simp
  have taken : (body ++ '/' :: '>' :: rest).takeWhile (· != '>') = body ++ ['/'] := by
    have dark : ∀ c ∈ body ++ ['/'], (c != '>') = true := by
      intro c member
      rcases List.mem_append.mp member with inside | last
      · exact bne_iff_ne.mpr fun same => open_ (same ▸ inside)
      · rw [List.mem_singleton.mp last]
        decide
    have split : body ++ '/' :: '>' :: rest = (body ++ ['/']) ++ '>' :: rest := by simp
    rw [split, List.takeWhile_append_of_pos dark]
    simp
  have length : emptyElementLength? element allowed (emptyTag element body ++ rest)
      = some (element.length + body.length + 3) := by
    unfold emptyElementLength?
    rw [after]
    simp only [taken]
    simp [accepts]
    omega
  have size : (element.toList ++ body ++ ['/', '>']).length = element.length + body.length + 3 - 1 := by
    simp only [List.length_append, List.length_cons, List.length_nil, String.length_toList]
    omega
  rw [emptyTag, List.cons_append] at length ⊢
  rw [replaceTyped, length]
  simp only
  rw [← size, List.drop_left]

/-- The tag of another element is left as it is. -/
theorem replaceTyped_emptyTag_other {allowed : List Char → Bool} {other : String} {body : List Char}
    (apart : ∀ rest, afterName? ("<" ++ element) (emptyTag other body ++ rest) = none)
    (noBracket : '<' ∉ other.toList) (plain : '<' ∉ body) (rest : List Char) :
    replaceTyped element allowed typed (emptyTag other body ++ rest)
      = emptyTag other body ++ replaceTyped element allowed typed rest := by
  have none_ : emptyElementLength? element allowed (emptyTag other body ++ rest) = none := by
    unfold emptyElementLength?
    rw [apart]
  have inside : '<' ∉ other.toList ++ body ++ ['/', '>'] := by simp [noBracket, plain]
  rw [emptyTag, List.cons_append] at none_ ⊢
  rw [replaceTyped, none_]
  simp only
  rw [replaceTyped_plain inside, List.cons_append]

end

/-- No tag of an element for typed white space begins as that of another one does. -/
theorem afterName?_emptyTag {element other : String} {typed kept : Char}
    (known : (element, typed) ∈ typedCharacters) (otherKnown : (other, kept) ∈ typedCharacters)
    (differs : other ≠ element) (body rest : List Char) :
    afterName? ("<" ++ element) (emptyTag other body ++ rest) = none := by
  simp only [typedCharacters, List.mem_cons, Prod.mk.injEq, List.not_mem_nil, or_false] at known otherKnown
  rcases known with ⟨rfl, -⟩ | ⟨rfl, -⟩ | ⟨rfl, -⟩ <;>
    rcases otherKnown with ⟨rfl, -⟩ | ⟨rfl, -⟩ | ⟨rfl, -⟩ <;>
    first | exact absurd rfl differs | rfl

theorem not_mem_of_typedCharacters {element : String} {typed : Char}
    (known : (element, typed) ∈ typedCharacters) : '<' ∉ element.toList ∧ typed ≠ '<' := by
  have each : ∀ row ∈ typedCharacters, '<' ∉ row.1.toList ∧ row.2 ≠ '<' := by decide
  exact each (element, typed) known

theorem isTagBody_of_allowedIn {element : String} {body : List Char}
    (allowed : allowedIn element body = true) (open_ : '>' ∉ body) : isTagBody body = true := by
  unfold allowedIn at allowed
  split at allowed
  · exact allowed
  · cases body with
    | nil => rfl
    | cons c rest =>
      simp only [List.all_cons, Bool.and_eq_true] at allowed
      simp only [isTagBody, Bool.and_eq_true, Bool.not_eq_true', List.contains_eq_mem,
        decide_eq_false_iff_not]
      exact ⟨allowed.1, fun member => open_ (List.mem_cons_of_mem c member)⟩

/-- The tag of an element for typed white space is known by its element. -/
theorem typedElement?_emptyTag {element : String} {typed : Char} {body : List Char}
    (known : (element, typed) ∈ typedCharacters) (isBody : isTagBody body = true) :
    typedElement? (emptyTag element body) = some (element, typed) := by
  have self : Shape.empty.matches element (emptyTag element body) = true := by
    have after : afterName? ("<" ++ element) (emptyTag element body) = some (body ++ ['/', '>']) := by
      unfold afterName? emptyTag
      simp
    unfold Shape.matches
    simp only [after]
    have split : body ++ ['/', '>'] = (body ++ ['/']) ++ ['>'] := by simp
    rw [split]
    simp [isBody]
  have other {row : String × Char} (isRow : row ∈ typedCharacters) (differs : element ≠ row.1) :
      Shape.empty.matches row.1 (emptyTag element body) = false := by
    have none_ := afterName?_emptyTag isRow known differs body []
    rw [List.append_nil] at none_
    unfold Shape.matches
    simp only [none_]
  have apart : ∀ row ∈ typedCharacters, Shape.empty.matches row.1 (emptyTag element body) = true →
      row = (element, typed) := by
    intro row isRow matched
    by_cases same : element = row.1
    · have once : ∀ first ∈ typedCharacters, ∀ second ∈ typedCharacters,
          first.1 = second.1 → first = second := by decide
      exact once row isRow _ known same.symm
    · rw [other isRow same] at matched
      cases matched
  cases found : typedElement? (emptyTag element body) with
  | none =>
    have never := List.find?_eq_none.mp found (element, typed) known
    exact absurd self never
  | some row =>
    have matched : Shape.empty.matches row.1 (emptyTag element body) = true :=
      List.find?_some (p := fun row : String × Char => Shape.empty.matches row.1 _) found
    exact congrArg some (apart row (List.mem_of_find?_eq_some found) matched)

theorem typedElement?_text {piece : List Char} (plain : '<' ∉ piece) : typedElement? piece = none := by
  unfold typedElement?
  rw [List.find?_eq_none]
  intro row _ matched
  unfold Shape.matches at matched
  dsimp only at matched
  split at matched
  · cases matched
  · rename_i tail found
    rw [eq_append_of_afterName? found] at plain
    simp at plain

/-! ## Elements become characters -/

/-- A piece of code after the elements of one name were replaced. -/
def withElement (element : String) (typed : Char) (piece : List Char) : List Char :=
  if (typedElement? piece).any (·.1 == element) then [typed] else piece

section

variable {element : String} {typed : Char} (known : (element, typed) ∈ typedCharacters)

include known

theorem IsCodePiece.withElement {piece : List Char} (isPiece : IsCodePiece piece) :
    IsCodePiece (withElement element typed piece) := by
  unfold Markup.withElement
  split
  · exact .text (by simpa using (not_mem_of_typedCharacters known).2.symm)
  · exact isPiece

/-- Replacing the elements of one name replaces those pieces that are their tags. -/
theorem replaceTyped_pieces {pieces : List (List Char)}
    (each : ∀ piece ∈ pieces, IsCodePiece piece) :
    replaceTyped element (allowedIn element) typed pieces.flatten
      = (pieces.map (withElement element typed)).flatten := by
  induction pieces with
  | nil => simp [replaceTyped]
  | cons piece rest ih =>
    have others := ih fun other member => each other (List.mem_cons_of_mem piece member)
    rw [List.flatten_cons, List.map_cons, List.flatten_cons, withElement]
    cases each piece List.mem_cons_self with
    | text plain =>
      rw [replaceTyped_plain plain, others, typedElement?_text plain]
      rfl
    | @tag other kept body otherKnown plain open_ allowed =>
      rw [typedElement?_emptyTag otherKnown (isTagBody_of_allowedIn allowed open_)]
      by_cases same : other = element
      · subst same
        rw [replaceTyped_emptyTag open_ allowed, others]
        simp
      · rw [replaceTyped_emptyTag_other (afterName?_emptyTag known otherKnown same body)
          (not_mem_of_typedCharacters otherKnown).1 plain, others]
        simp [same]

end

/-- When the elements of all names were replaced, a piece has its character. -/
theorem withElement_all {piece : List Char} (isPiece : IsCodePiece piece) :
    withElement "text:s" ' ' (withElement "text:tab" '\t' (withElement "text:line-break" '\n' piece))
      = withCharacter piece := by
  have settled (typed : Char) (plain : typed ≠ '<') : typedElement? [typed] = none :=
    typedElement?_text (by simpa using plain.symm)
  unfold withCharacter
  cases isPiece with
  | text plain => simp [withElement, typedElement?_text plain]
  | @tag element typed body known plain open_ allowed =>
    have isElement := typedElement?_emptyTag known (isTagBody_of_allowedIn allowed open_)
    simp only [typedCharacters, List.mem_cons, Prod.mk.injEq, List.not_mem_nil, or_false] at known
    rcases known with ⟨rfl, rfl⟩ | ⟨rfl, rfl⟩ | ⟨rfl, rfl⟩ <;>
      simp [withElement, isElement, settled]

/-- Before references are decoded, the text of a code is its pieces with their characters. -/
theorem typedText_pieces {pieces : List (List Char)} (each : ∀ piece ∈ pieces, IsCodePiece piece) :
    typedText pieces.flatten = Entity.decode (pieces.map withCharacter).flatten := by
  have breaks : ("text:line-break", '\n') ∈ typedCharacters := by decide
  have tabs : ("text:tab", '\t') ∈ typedCharacters := by decide
  have spaces : ("text:s", ' ') ∈ typedCharacters := by decide
  have afterBreaks : ∀ piece ∈ pieces.map (withElement "text:line-break" '\n'), IsCodePiece piece := by
    intro piece member
    obtain ⟨before, isBefore, rfl⟩ := List.mem_map.mp member
    exact (each before isBefore).withElement breaks
  have afterTabs : ∀ piece ∈ (pieces.map (withElement "text:line-break" '\n')).map
      (withElement "text:tab" '\t'), IsCodePiece piece := by
    intro piece member
    obtain ⟨before, isBefore, rfl⟩ := List.mem_map.mp member
    exact (afterBreaks before isBefore).withElement tabs
  have first := replaceTyped_pieces breaks each
  have second := replaceTyped_pieces tabs afterBreaks
  have third := replaceTyped_pieces spaces afterTabs
  have all : ((pieces.map (withElement "text:line-break" '\n')).map (withElement "text:tab" '\t')).map
      (withElement "text:s" ' ') = pieces.map withCharacter := by
    rw [List.map_map, List.map_map]
    exact List.map_congr_left fun piece member => withElement_all (each piece member)
  rw [all] at third
  unfold typedText typedSpaces
  simp only [List.foldl_cons, List.foldl_nil]
  rw [← third, ← second, ← first]
  rfl

/-! ## The tokens of a run -/

/-- Up to its end, a tag holds no opening bracket. -/
theorem not_mem_take_of_tagTailLength? {text : List Char} {length : Nat}
    (found : tagTailLength? text = some length) : '<' ∉ text.take length := by
  induction text generalizing length with
  | nil => cases found
  | cons c rest ih =>
    simp only [tagTailLength?] at found
    split at found
    · rename_i ends
      cases found
      rw [beq_iff_eq.mp ends]
      simp
    · split at found
      · cases found
      · rename_i _ goesOn
        obtain ⟨inner, isInner, rfl⟩ := Option.map_eq_some_iff.mp found
        rw [List.take_succ_cons, List.mem_cons, not_or]
        exact ⟨fun same => goesOn (beq_iff_eq.mpr same.symm), ih isInner⟩

/-- A token that begins with no bracket is the text up to the next bracket. -/
theorem tokenLength_of_dark {c : Char} (dark : c ≠ '<') (rest : List Char) :
    tokenLength (c :: rest) = (rest.takeWhile (· != '<')).length + 1 := by
  rw [tokenLength]
  · exact Nat.add_comm _ _
  · exact fun same => dark same

/-- A token that begins as a tag is the tag, or the bracket alone. -/
theorem tokenLength_of_tag {first : Char} (notMark : first ≠ '!') (notQuery : first ≠ '?')
    (more : List Char) : tokenLength ('<' :: first :: more)
      = ((tagTailLength? (first :: more)).map (· + 1)).getD 1 := by
  have noComment : "<!--".toList.isPrefixOf ('<' :: first :: more) = false := by
    simp [List.isPrefixOf, notMark.symm]
  have noLiteral : "<![CDATA[".toList.isPrefixOf ('<' :: first :: more) = false := by
    simp [List.isPrefixOf, notMark.symm]
  have noInstruction : "<?".toList.isPrefixOf ('<' :: first :: more) = false := by
    simp [List.isPrefixOf, notQuery.symm]
  rw [tokenLength_of_head rfl, enclosedLength?_eq_none noComment, enclosedLength?_eq_none noLiteral,
    enclosedLength?_eq_none noInstruction]
  rfl

/-- A piece of a part: text without a bracket, a bracket that begins no markup, or markup, which
holds no other opening bracket if it is a tag. -/
inductive IsCut : List Char → Prop
  | text {piece : List Char} (some_ : piece ≠ []) (plain : '<' ∉ piece) : IsCut piece
  | bracket : IsCut ['<']
  | tag {first : Char} {rest : List Char} (notMark : first ≠ '!') (notQuery : first ≠ '?')
      (plain : '<' ∉ first :: rest) : IsCut ('<' :: first :: rest)
  | other {first : Char} {rest : List Char} (mark : first = '!' ∨ first = '?') :
      IsCut ('<' :: first :: rest)

/-- The first token of a text is such a piece. -/
theorem isCut_first (c : Char) (rest : List Char) :
    IsCut ((c :: rest).take (max 1 (tokenLength (c :: rest)))) := by
  by_cases begins : c = '<'
  · subst begins
    cases rest with
    | nil => exact .bracket
    | cons first more =>
      by_cases isMark : first = '!' ∨ first = '?'
      · obtain ⟨size, isSize⟩ : ∃ size, max 1 (tokenLength ('<' :: first :: more)) = size + 1 :=
          Nat.exists_eq_succ_of_ne_zero (by omega)
        rw [isSize]
        cases size with
        | zero => exact .bracket
        | succ size => exact .other isMark
      · rw [not_or] at isMark
        rw [tokenLength_of_tag isMark.1 isMark.2]
        cases ends : tagTailLength? (first :: more) with
        | none => exact .bracket
        | some size =>
          have plain := not_mem_take_of_tagTailLength? ends
          cases size with
          | zero => exact .bracket
          | succ size =>
            have whole : max 1 (((some (size + 1)).map (· + 1)).getD 1) = size + 2 := by
              simp
            rw [whole]
            exact .tag isMark.1 isMark.2 plain
  · have whole : max 1 (tokenLength (c :: rest)) = (rest.takeWhile (· != '<')).length + 1 := by
      rw [tokenLength_of_dark begins]
      omega
    have same : rest.take (rest.takeWhile (· != '<')).length = rest.takeWhile (· != '<') :=
      (List.prefix_iff_eq_take.mp (List.takeWhile_prefix _)).symm
    rw [whole, List.take_succ_cons, same]
    refine .text (List.cons_ne_nil _ _) fun member => ?_
    rcases List.mem_cons.mp member with isOpen | inside
    · exact begins isOpen.symm
    · exact absurd (List.mem_takeWhile_imp inside) (by decide)

theorem isCut_of_mem (text : List Char) : ∀ piece ∈ cut text, IsCut piece := by
  fun_induction cut text with
  | case1 => simp
  | case2 c rest length ih =>
    intro piece member
    rcases List.mem_cons.mp member with rfl | later
    · exact isCut_first c rest
    · exact ih piece later

/-- Of two pieces that touch, one begins with a bracket: a text goes on to the next bracket. -/
theorem isChain_cut (text : List Char) :
    List.IsChain (fun first second : List Char => first.head? = some '<' ∨ second.head? = some '<')
      (cut text) := by
  fun_induction cut text with
  | case1 => exact .nil
  | case2 c rest length ih =>
    rw [List.isChain_cons]
    refine ⟨fun next isNext => ?_, ih⟩
    by_cases begins : c = '<'
    · refine Or.inl ?_
      have positive : length ≠ 0 := by simp only [length]; omega
      obtain ⟨size, isSize⟩ := Nat.exists_eq_succ_of_ne_zero positive
      rw [isSize, begins]
      rfl
    · refine Or.inr ?_
      have whole : length = (rest.takeWhile (· != '<')).length + 1 := by
        simp only [length]
        rw [tokenLength_of_dark begins]
        omega
      have left : (c :: rest).drop length = rest.dropWhile (· != '<') := by
        have parts := List.takeWhile_append_dropWhile (p := (· != '<')) (l := rest)
        rw [whole, List.drop_succ_cons, ← congrArg (List.drop _) parts, List.drop_left]
      rw [left] at isNext
      cases next_ : rest.dropWhile (· != '<') with
      | nil => rw [next_] at isNext; simp [cut] at isNext
      | cons d more =>
        have isOpen : d = '<' := by
          have stops := List.head?_dropWhile_not (· != '<') rest
          rw [next_] at stops
          simpa using stops
        rw [next_, cut] at isNext
        simp only [List.head?_cons, Option.mem_def, Option.some.injEq] at isNext
        subst isNext isOpen
        have positive : max 1 (tokenLength ('<' :: more)) ≠ 0 := by omega
        obtain ⟨size, isSize⟩ := Nat.exists_eq_succ_of_ne_zero positive
        rw [isSize]
        rfl

/-- What stands in the tag of an element between its name and its end. -/
def bodyOf (element : String) (text : List Char) : List Char :=
  (text.drop (element.length + 1)).dropLast.dropLast

/-- A token that is read as it is meant: a line break or a tab has no attributes, and a bracket
begins markup. -/
structure Token.IsReadable (token : Token) : Prop where
  begins : token.text ≠ ['<']
  bare : ∀ element ∈ ["text:line-break", "text:tab"],
    Shape.empty.matches element token.text = true →
      (bodyOf element token.text).all isBlank = true

/-- What an empty tag consists of. -/
theorem eq_emptyTag_of_matches {element : String} {text : List Char}
    (matched : Shape.empty.matches element text = true) :
    text = emptyTag element (bodyOf element text) ∧ isTagBody (bodyOf element text) = true := by
  unfold Shape.matches at matched
  dsimp only at matched
  split at matched
  · cases matched
  · rename_i tail found
    simp only [Bool.and_eq_true] at matched
    obtain ⟨⟨ends, slash⟩, isBody⟩ := matched
    have whole := eq_append_of_afterName? found
    have body : bodyOf element text = tail.dropLast.dropLast := by
      have lead : ("<" ++ element).toList.length = element.length + 1 := by
        rw [String.length_toList, String.length_append]
        exact Nat.add_comm 1 element.length
      unfold bodyOf
      rw [whole, ← lead, List.drop_left]
    rw [body]
    refine ⟨?_, isBody⟩
    have inner : tail = tail.dropLast.dropLast ++ ['/'] ++ ['>'] := by
      rw [← eq_dropLast_append slash, ← eq_dropLast_append ends]
    conv_lhs => rw [whole, inner]
    simp [emptyTag]

/-- A token for typed white space is the tag of one of the elements. -/
theorem exists_of_inlineSpace {text : List Char} (isSpace : kindOf text = .inlineSpace) :
    ∃ row ∈ typedCharacters, Shape.empty.matches row.1 text = true := by
  have rows : ∀ row ∈ tagKinds, row.2.2 = .inlineSpace →
      row.1 = .empty ∧ ∃ typed ∈ typedCharacters, typed.1 = row.2.1 := by decide
  unfold kindOf at isSpace
  split at isSpace
  · split at isSpace
    · rename_i shape element kind found
      obtain ⟨isEmpty, typed, known, same⟩ := rows _ (List.mem_of_find?_eq_some found) isSpace
      have matched := List.find?_some found
      dsimp only at isEmpty matched
      rw [isEmpty] at matched
      exact ⟨typed, known, same ▸ matched⟩
    · cases isSpace
  · cases isSpace
  · split at isSpace <;> cases isSpace

/-- A text of more than a bracket that begins with one is no token of text or white space. -/
theorem kindOf_tag_ne (first : Char) (rest : List Char) :
    kindOf ('<' :: first :: rest) ≠ .text ∧ kindOf ('<' :: first :: rest) ≠ .space := by
  have rows : ∀ row ∈ tagKinds, row.2.2 ≠ .text ∧ row.2.2 ≠ .space := by decide
  rw [kindOf]
  generalize found : tagKinds.find? _ = row
  cases row with
  | none => exact ⟨by decide, by decide⟩
  | some row => exact rows row (List.mem_of_find?_eq_some found)

/-- What a token of a run is to be read as: the tag of an element that is a character, or text. -/
inductive Token.IsRead (token : Token) : Prop
  | tag {element : String} {typed : Char} (known : (element, typed) ∈ typedCharacters)
      (matched : Shape.empty.matches element token.text = true) (isSpace : token.kind = .inlineSpace)
      (isTyped : withCharacter token.text = [typed])
  | text (notSpace : token.kind ≠ .inlineSpace) (plain : '<' ∉ token.text)

/-- The tokens of a run that are readable are pieces of code. -/
theorem Token.Genuine.isRead {token : Token} (genuine : token.Genuine) (isPiece : IsCut token.text)
    (content : Run.isContent token = true) (readable : token.IsReadable) :
    token.IsRead ∧ IsCodePiece token.text := by
  have tagged (isSpace : token.kind = .inlineSpace) (plain : '<' ∉ token.text.tail) :
      token.IsRead ∧ IsCodePiece token.text := by
    obtain ⟨⟨element, typed⟩, known, matched⟩ :=
      exists_of_inlineSpace (genuine.kind_eq.symm.trans isSpace)
    obtain ⟨whole, isBody⟩ := eq_emptyTag_of_matches matched
    have isElement := typedElement?_emptyTag known isBody
    rw [← whole] at isElement
    refine ⟨.tag known matched isSpace (by simp [withCharacter, isElement]), ?_⟩
    have open_ : '>' ∉ bodyOf element token.text := by
      intro member
      cases body : bodyOf element token.text with
      | nil => rw [body] at member; cases member
      | cons c rest =>
        rw [body] at member isBody
        simp only [isTagBody, Bool.and_eq_true, Bool.not_eq_true', List.contains_eq_mem,
          decide_eq_false_iff_not] at isBody
        rcases List.mem_cons.mp member with same | inside
        · exact absurd isBody.1 (by rw [← same]; decide)
        · exact isBody.2 inside
    have allowed : allowedIn element (bodyOf element token.text) = true := by
      unfold allowedIn
      split
      · exact isBody
      · rename_i notRun
        refine readable.bare element ?_ matched
        have names : ∀ row ∈ typedCharacters, row.1 ≠ "text:s" →
            row.1 ∈ ["text:line-break", "text:tab"] := by decide
        exact names _ known notRun
    rw [whole]
    refine .tag known (fun member => plain ?_) open_ allowed
    rw [whole]
    simp [emptyTag, member]
  cases isText : token.text with
  | nil => exact absurd isText genuine.text_ne_nil
  | cons c rest =>
    by_cases isSpace : token.kind = .inlineSpace
    · rw [← isText]
      refine tagged isSpace ?_
      rw [isText] at isPiece ⊢
      cases isPiece with
      | text some_ plain => exact fun member => plain (List.mem_cons_of_mem c member)
      | bracket => exact absurd isText readable.begins
      | tag notMark notQuery plain => exact plain
      | other mark =>
        obtain ⟨row, known, matched⟩ := exists_of_inlineSpace (genuine.kind_eq.symm.trans isSpace)
        have whole := (eq_emptyTag_of_matches matched).1
        have starts : ∀ row ∈ typedCharacters, row.1.toList.head? = some 't' := by decide
        have second := congrArg (fun text => text.tail.head?) (isText.symm.trans whole)
        simp [emptyTag, List.head?_append, starts row known] at second
        rw [second] at mark
        exact absurd mark (by decide)
    · have notTag (first : Char) (more : List Char) : token.text ≠ '<' :: first :: more := by
        intro same
        have kinds := kindOf_tag_ne first more
        rw [← same, ← genuine.kind_eq] at kinds
        simp [Run.isContent, kinds, isSpace] at content
      rw [isText] at isPiece
      cases isPiece with
      | text some_ plain =>
        refine ⟨.text isSpace ?_, .text plain⟩
        rw [isText]
        exact plain
      | bracket => exact absurd isText readable.begins
      | tag notMark notQuery plain => exact absurd isText (notTag _ _)
      | other mark => exact absurd isText (notTag _ _)

/-- Decoding goes token by token: behind a text stands a tag, or nothing. -/
theorem decode_tokens {tokens : List Token} (each : ∀ token ∈ tokens, token.IsRead)
    (chain : List.IsChain (fun first second : List Char =>
      first.head? = some '<' ∨ second.head? = some '<') (tokens.map Token.text)) :
    Entity.decode ((tokens.map Token.text).map withCharacter).flatten
      = tokens.flatMap Token.typed := by
  have stops : ∀ row ∈ typedCharacters, Entity.stopsReference row.2 = true := by decide
  induction tokens with
  | nil => simp [Entity.decode]
  | cons token rest ih =>
    rw [List.map_cons, List.isChain_cons] at chain
    have others := ih (fun other member => each other (List.mem_cons_of_mem token member)) chain.2
    rw [List.map_cons, List.map_cons, List.flatten_cons, List.flatMap_cons, ← others]
    cases each token List.mem_cons_self with
    | tag known matched isSpace isTyped =>
      rw [Token.typed, if_pos isSpace, isTyped]
      simpa [Entity.decode] using Entity.decode_of_stops (stops _ known) [] _
    | text notSpace plain =>
      have same : withCharacter token.text = token.text := by
        simp [withCharacter, typedElement?_text plain]
      rw [Token.typed, if_neg notSpace, same]
      cases rest with
      | nil => simp [Entity.decode]
      | cons next more =>
        have bracket : next.text.head? = some '<' := by
          refine (chain.1 next.text (by simp)).resolve_left fun begins => ?_
          exact plain (List.mem_of_head? begins)
        cases each next (by simp) with
        | tag known matched isSpace isTyped =>
          rw [List.map_cons, List.map_cons, List.flatten_cons, isTyped]
          exact Entity.decode_append_of_stops (stops _ known) _ _
        | text notSpace plain => exact absurd (List.mem_of_head? bracket) plain

/-- The code of a run is what its tokens stand for, one after the other.

The run may begin at any token of a part, which need not be well formed. Each of its tokens for typed
white space is the tag of one of the three elements, with any attributes, and stands for the
character of that element; all others stand for what their references mean. Where line breaks and
tabs have no attributes and each bracket begins markup, the code is what the tokens stand for, so no
tag is left in it. -/
theorem code_token_by_token {styles : Table} {part : List Char} {before rest : List Token} {run : Run}
    (isPart : tokenize part = before ++ rest) (begins : Run.start? styles rest = some run)
    (readable : ∀ token ∈ run.inner, token.IsReadable) :
    run.code = run.inner.flatMap Token.typed ∧
      ∀ token ∈ run.inner,
        (token.kind = .inlineSpace → ∃ row ∈ typedCharacters,
          Shape.empty.matches row.1 token.text = true ∧ token.typed = [row.2]) ∧
        (token.kind ≠ .inlineSpace → token.typed = Entity.decode token.text) := by
  have whole : tokenize part = before ++ (run.opening :: (run.inner ++ (run.closing ::
      rest.drop (run.inner.length + 2)))) := by
    have parts := Run.tokens_append_of_start? begins
    rw [isPart, ← parts]
    simp [Run.tokens]
  have inPart : ∀ token ∈ run.inner, token ∈ tokenize part := by
    intro token member
    rw [whole]
    simp [member]
  have read : ∀ token ∈ run.inner, token.IsRead ∧ IsCodePiece token.text := by
    intro token member
    have isPiece : token.text ∈ cut part := by
      rw [← tokenize_texts]
      exact List.mem_map_of_mem (inPart token member)
    exact (tokenize_genuine part token (inPart token member)).isRead (isCut_of_mem part _ isPiece)
      ((Run.fits_of_start? begins).inner token member) (readable token member)
  have chain : List.IsChain (fun first second : List Char =>
      first.head? = some '<' ∨ second.head? = some '<') (run.inner.map Token.text) := by
    have all := isChain_cut part
    rw [← tokenize_texts, whole] at all
    simp only [List.map_append, List.map_cons] at all
    exact all.right_of_append.tail.left_of_append
  have joined : Token.join run.inner = (run.inner.map Token.text).flatten := by
    rw [Token.join, List.flatMap_def]
  constructor
  · have pieces : ∀ piece ∈ run.inner.map Token.text, IsCodePiece piece := by
      intro piece member
      obtain ⟨token, inRun, rfl⟩ := List.mem_map.mp member
      exact (read token inRun).2
    rw [Run.code, joined, typedText_pieces pieces]
    exact decode_tokens (fun token member => (read token member).1) chain
  · intro token member
    constructor
    · intro isSpace
      cases (read token member).1 with
      | tag known matched _ isTyped => exact ⟨_, known, matched, by rw [Token.typed, if_pos isSpace, isTyped]⟩
      | text notSpace _ => exact absurd isSpace notSpace
    · intro notSpace
      rw [Token.typed, if_neg notSpace]

/-- A run with an element of each kind, the space with an attribute, and with the parts of a
reference on both sides of an element. -/
def mixedRun : Run where
  opening := ⟨.spanOpen, "<text:span text:style-name='V'>".toList⟩
  inner :=
    [⟨.text, "a".toList⟩, ⟨.inlineSpace, "<text:tab />".toList⟩,
      ⟨.inlineSpace, "<text:s text:c='2'/>".toList⟩, ⟨.text, "&lt; &am".toList⟩,
      ⟨.inlineSpace, "<text:line-break/>".toList⟩, ⟨.text, "p;".toList⟩]
  closing := ⟨.spanClose, "</text:span>".toList⟩

theorem code_token_by_token_mixed :
    tokenize ("<text:p>".toList ++ Token.join mixedRun.tokens ++ "</text:p>".toList)
        = [⟨.paragraphOpen, "<text:p>".toList⟩]
          ++ (mixedRun.tokens ++ [⟨.paragraphClose, "</text:p>".toList⟩]) ∧
      (∀ token ∈ mixedRun.inner, token.IsReadable) ∧ mixedRun.code = "a\t < &am\np;".toList := by
  have isPart : tokenize ("<text:p>".toList ++ Token.join mixedRun.tokens ++ "</text:p>".toList)
      = [⟨.paragraphOpen, "<text:p>".toList⟩]
        ++ (mixedRun.tokens ++ [⟨.paragraphClose, "</text:p>".toList⟩]) := by decide +kernel
  have begins : Run.start? [("V", .role .value)]
      (mixedRun.tokens ++ [⟨.paragraphClose, "</text:p>".toList⟩]) = some mixedRun := by
    decide +kernel
  have readable : ∀ token ∈ mixedRun.inner, token.IsReadable := fun token member =>
    { begins := by revert token; decide
      bare := by revert token; decide }
  refine ⟨isPart, readable, ?_⟩
  rw [(code_token_by_token isPart begins readable).1]
  decide +kernel

/-- A run with a tab that has an attribute. -/
def tabReferenceRun : Run where
  opening := ⟨.spanOpen, "<text:span text:style-name='C'>".toList⟩
  inner :=
    [⟨.text, "a".toList⟩, ⟨.inlineSpace, "<text:tab text:tab-ref='1'/>".toList⟩,
      ⟨.text, "b".toList⟩]
  closing := ⟨.spanClose, "</text:span>".toList⟩

/-- The tag of a tab with an attribute is taken for white space, and stays in the code. -/
theorem code_keeps_tabReference :
    tokenize (Token.join tabReferenceRun.tokens) = tabReferenceRun.tokens ∧
      Run.start? [("C", .role .value)] tabReferenceRun.tokens = some tabReferenceRun ∧
      tabReferenceRun.code = "a<text:tab text:tab-ref='1'/>b".toList ∧
      tabReferenceRun.inner.flatMap Token.typed = "a\tb".toList := by
  decide +kernel

end FormLetter.Markup
