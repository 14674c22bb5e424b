import FormLetter.Proofs.Markup.Cut
import FormLetter.Proofs.Markup.Decoding

/-!
# Kinds are read off tags

A token with a kind of its own is one tag: a bracket, text without brackets, and the bracket that
closes it. Cutting sees to it that no bracket opens inside, and the rows of the table of tags see to
it that none closes there. Comments, literal text and instructions hold what they like, but no row
begins as they do.

No text is a tag of two rows. Whether it opens or closes an element, and which one, is its bracket,
which is read off the text alone; an empty tag is no bracket, but its name ends at the first white
space or slash. So the table can be gone through in any order.
-/

namespace FormLetter.Markup

open FormLetter.Text

/-- One tag: nothing but its two ends is an angle bracket. -/
def IsSingleTag (text : List Char) : Prop :=
  ∃ inner, text = '<' :: (inner ++ ['>']) ∧ '<' ∉ inner ∧ '>' ∉ inner

/-- True when the text is a tag of the row's shape for the row's element. -/
def isTagOf (text : List Char) (row : Shape × String × Kind) : Bool :=
  row.1.matches row.2.1 text

/-! ## What a tag of a row consists of -/

/-- Behind an element name, a tag does not close before its end. -/
theorem not_mem_of_isTagBody {body : List Char} (isBody : isTagBody body = true) : '>' ∉ body := by
  cases body with
  | nil => exact List.not_mem_nil
  | cons c rest =>
    simp only [isTagBody, Bool.and_eq_true, Bool.not_eq_true', List.contains_eq_mem,
      decide_eq_false_iff_not] at isBody
    rw [List.mem_cons, not_or]
    refine ⟨fun same => ?_, isBody.2⟩
    rw [← same] at isBody
    exact absurd isBody.1 (by decide)

/-- What stands between the opening bracket of a tag and its element name. -/
def Shape.lead : Shape → List Char
  | .closing => ['/']
  | .opening | .empty => []

/-- The tag of a row is its name between two brackets, with a body that holds no closing one. -/
theorem exists_body_of_matches {shape : Shape} {element : String} {text : List Char}
    (matched : shape.matches element text = true) :
    ∃ body, text = '<' :: (shape.lead ++ element.toList ++ body ++ ['>']) ∧ '>' ∉ body := by
  cases shape with
  | opening =>
    simp only [Shape.matches] at matched
    split at matched
    · cases matched
    · rename_i tail found
      simp only [Bool.and_eq_true] at matched
      obtain ⟨⟨ends, isBody⟩, -⟩ := matched
      refine ⟨tail.dropLast, ?_, not_mem_of_isTagBody isBody⟩
      rw [eq_append_of_afterName? found, List.append_assoc, ← eq_dropLast_append ends]
      simp [Shape.lead]
  | closing =>
    simp only [Shape.matches] at matched
    split at matched
    · cases matched
    · rename_i tail found
      simp only [Bool.and_eq_true] at matched
      obtain ⟨ends, blank⟩ := matched
      refine ⟨tail.dropLast, ?_, fun member => ?_⟩
      · rw [eq_append_of_afterName? found, List.append_assoc, ← eq_dropLast_append ends]
        simp [Shape.lead]
      · exact absurd (List.all_eq_true.mp blank '>' member) (by decide)
  | empty =>
    obtain ⟨whole, isBody⟩ := eq_emptyTag_of_matches matched
    refine ⟨bodyOf element text ++ ['/'], ?_, ?_⟩
    · conv_lhs => rw [whole]
      simp [emptyTag, Shape.lead]
    · simpa using not_mem_of_isTagBody isBody

/-- No name in the table of tags holds a bracket that closes, and none begins as a comment, literal
text or an instruction does. -/
theorem tagKinds_names : ∀ row ∈ tagKinds, '>' ∉ row.1.lead ++ row.2.1.toList ∧
    (row.1.lead ++ row.2.1.toList).head? ≠ some '!' ∧
    (row.1.lead ++ row.2.1.toList).head? ≠ some '?' := by
  decide

/-- A piece of a part that a row of the table matches is a single tag. -/
theorem isSingleTag_of_matches {text : List Char} (isPiece : IsCut text)
    {row : Shape × String × Kind} (known : row ∈ tagKinds) (matched : isTagOf text row = true) :
    IsSingleTag text := by
  obtain ⟨body, whole, noEnd⟩ := exists_body_of_matches matched
  obtain ⟨closed, noMark, noQuery⟩ := tagKinds_names row known
  refine ⟨row.1.lead ++ row.2.1.toList ++ body, whole, fun member => ?_, fun member => ?_⟩
  · -- The bracket would be a second one in the piece.
    cases isPiece with
    | text some_ plain => simp [whole] at plain
    | bracket => simp at whole
    | tag notMark notQuery plain =>
      rw [(List.cons.inj whole).2] at plain
      exact plain (List.mem_append_left _ member)
    | @other first rest mark =>
      have starts : (row.1.lead ++ row.2.1.toList ++ body ++ ['>']).head? = some first := by
        rw [← (List.cons.inj whole).2, List.head?_cons]
      have named : row.1.lead ++ row.2.1.toList ≠ [] := by
        have each : ∀ row ∈ tagKinds, row.1.lead ++ row.2.1.toList ≠ [] := by decide
        exact each row known
      rw [List.append_assoc, List.head?_append_of_ne_nil _ named] at starts
      rcases mark with rfl | rfl
      · exact noMark starts
      · exact noQuery starts
  · rcases List.mem_append.mp member with inName | inBody
    · exact closed inName
    · exact noEnd inBody

/-! ## No text is a tag of two rows -/

/-- The element that an empty tag names. -/
def emptyNameOf (text : List Char) : List Char :=
  text.tail.takeWhile fun c => !isBlank c && c != '/'

/-- The name of an empty tag ends where its body begins. -/
theorem emptyNameOf_of_matches {element : String} {text : List Char}
    (plain : isPlainName element.toList = true)
    (matched : Shape.empty.matches element text = true) : emptyNameOf text = element.toList := by
  obtain ⟨whole, isBody⟩ := eq_emptyTag_of_matches matched
  have named : ∀ c ∈ element.toList, (!isBlank c && c != '/') = true := by
    unfold isPlainName isPlainNameBy at plain
    split at plain
    · cases plain
    · rename_i first rest spelled
      rw [Bool.and_eq_true] at plain
      exact List.all_eq_true.mp plain.2
  have ends : (bodyOf element text ++ ['/', '>']).takeWhile (fun c => !isBlank c && c != '/')
      = [] := by
    cases body : bodyOf element text with
    | nil => rfl
    | cons c rest =>
      rw [body] at isBody
      have blank : isBlank c = true := by simpa using head?_of_isTagBody isBody
      simp [blank]
  rw [whole, emptyNameOf, emptyTag, List.tail_cons, List.append_assoc,
    List.takeWhile_append_of_pos named, ends, List.append_nil]

/-- A shape and an element are read off a tag. -/
theorem shape_element_eq_of_matches {shape shape' : Shape} {element element' : String}
    {text : List Char} (plain : isPlainName element.toList = true)
    (plain' : isPlainName element'.toList = true) (matched : shape.matches element text = true)
    (matched' : shape'.matches element' text = true) : shape = shape' ∧ element = element' := by
  have brackets : shape.bracket element = shape'.bracket element' :=
    (bracketOf_of_matches plain matched).symm.trans (bracketOf_of_matches plain' matched')
  cases shape <;> cases shape' <;> simp only [Shape.bracket, Bracket.opens.injEq,
    Bracket.closes.injEq, reduceCtorEq, String.toList_inj] at brackets
  case opening.opening => exact ⟨rfl, brackets⟩
  case closing.closing => exact ⟨rfl, brackets⟩
  case empty.empty =>
    refine ⟨rfl, String.toList_inj.mp ?_⟩
    rw [← emptyNameOf_of_matches plain matched, ← emptyNameOf_of_matches plain' matched']

/-- No text is a tag of two rows of the table. -/
theorem row_eq_of_matches {text : List Char} {row other : Shape × String × Kind}
    (known : row ∈ tagKinds) (otherKnown : other ∈ tagKinds)
    (matched : isTagOf text row = true) (otherMatched : isTagOf text other = true) :
    row = other := by
  have once : ∀ first ∈ tagKinds, ∀ second ∈ tagKinds,
      first.1 = second.1 → first.2.1 = second.2.1 → first = second := by decide
  obtain ⟨sameShape, sameElement⟩ := shape_element_eq_of_matches (tagKinds_brackets row known).1
    (tagKinds_brackets other otherKnown).1 matched otherMatched
  exact once row known other otherKnown sameShape sameElement

/-- In whatever order the rows of the table are gone through, the same one is found. -/
theorem find?_isTagOf_perm {rows : List (Shape × String × Kind)} (reordered : rows.Perm tagKinds)
    (text : List Char) : rows.find? (isTagOf text) = tagKinds.find? (isTagOf text) := by
  cases found : tagKinds.find? (isTagOf text) with
  | none =>
    refine List.find?_eq_none.mpr fun row member => ?_
    exact List.find?_eq_none.mp found row (reordered.mem_iff.mp member)
  | some row =>
    have known := List.mem_of_find?_eq_some found
    have matched := List.find?_some found
    cases again : rows.find? (isTagOf text) with
    | none =>
      exact absurd matched (List.find?_eq_none.mp again row (reordered.mem_iff.mpr known))
    | some other =>
      have otherKnown := reordered.mem_iff.mp (List.mem_of_find?_eq_some again)
      exact congrArg some
        (row_eq_of_matches otherKnown known (List.find?_some again) matched)

/-! ## The kinds of tokens -/

/-- A text has a kind of its own only as a tag of a row with that kind. -/
theorem exists_row_of_kindOf {text : List Char}
    (own : kindOf text ∉ [Kind.text, Kind.space, Kind.other]) :
    ∃ row ∈ tagKinds, isTagOf text row = true ∧ row.2.2 = kindOf text := by
  unfold kindOf at own ⊢
  split at own
  · split at own
    · rename_i found
      exact ⟨_, List.mem_of_find?_eq_some found, List.find?_some (p := isTagOf _) found, rfl⟩
    · simp at own
  · simp at own
  · split at own <;> simp at own

/-- White space is told by its text. -/
theorem kindOf_eq_space_iff {text : List Char} (some_ : text ≠ []) :
    kindOf text = .space ↔ isBlankText text = true := by
  unfold kindOf
  split
  · rename_i first rest
    have isTag : kindOf ('<' :: first :: rest) ≠ .space := (kindOf_tag_ne first rest).2
    refine ⟨fun isSpace => absurd isSpace isTag, fun blank => ?_⟩
    exact absurd (List.all_eq_true.mp blank '<' List.mem_cons_self) (by decide)
  · exact absurd rfl some_
  · split
    · exact ⟨fun _ => ‹_›, fun _ => rfl⟩
    · rename_i notBlank
      exact ⟨fun isSpace => absurd isSpace (by decide), fun blank => absurd blank notBlank⟩

/-- Cutting a part loses nothing and names every tag without ambiguity. The texts of the tokens put
together are the part, and none is empty. A token with a kind of its own is one single tag; a token
is white space exactly when its text is. No text is a tag of two rows of the table of tags, so going
through the rows in another order finds the same. -/
theorem tokenize_classifies (part : List Char) :
    Token.join (tokenize part) = part ∧
    (∀ token ∈ tokenize part,
      token.text ≠ [] ∧
      (token.kind ∉ [Kind.text, Kind.space, Kind.other] → IsSingleTag token.text) ∧
      (token.kind = .space ↔ isBlankText token.text = true)) ∧
    (∀ text, ∀ row ∈ tagKinds, ∀ other ∈ tagKinds,
      isTagOf text row = true → isTagOf text other = true → row = other) ∧
    ∀ rows : List (Shape × String × Kind), rows.Perm tagKinds →
      ∀ text, rows.find? (isTagOf text) = tagKinds.find? (isTagOf text) := by
  refine ⟨join_tokenize part, fun token member => ?_, fun text row known other otherKnown =>
    row_eq_of_matches known otherKnown, fun rows reordered => find?_isTagOf_perm reordered⟩
  have genuine := tokenize_genuine part token member
  have isPiece : IsCut token.text := by
    obtain ⟨piece, isPiece, rfl⟩ := List.mem_map.mp member
    exact isCut_of_mem part piece isPiece
  rw [genuine.kind_eq]
  refine ⟨genuine.text_ne_nil, fun own => ?_, kindOf_eq_space_iff genuine.text_ne_nil⟩
  obtain ⟨row, known, matched, -⟩ := exists_row_of_kindOf own
  exact isSingleTag_of_matches isPiece known matched

/-- A tag between a comment that holds brackets, literal text that never ends and one more
bracket. -/
theorem tokenize_classifies_between_brackets :
    let part := "<!-- a > <b --> <text:s text:c='2'/><![CDATA[ < x".toList
    let tag := "<text:s text:c='2'/>".toList
    (tokenize part).map Token.kind = [.other, .space, .inlineSpace, .text, .text, .text, .text] ∧
      ⟨.inlineSpace, tag⟩ ∈ tokenize part ∧ Token.join (tokenize part) = part ∧
      IsSingleTag tag := by
  intro part tag
  have tokens : tokenize part = [
      ⟨.other, "<!-- a > <b -->".toList⟩, ⟨.space, [' ']⟩, ⟨.inlineSpace, tag⟩, ⟨.text, ['<']⟩,
      ⟨.text, "![CDATA[ ".toList⟩, ⟨.text, ['<']⟩, ⟨.text, " x".toList⟩] := by decide +kernel
  have member : (⟨.inlineSpace, tag⟩ : Token) ∈ tokenize part := by
    rw [tokens]
    simp
  have classified := tokenize_classifies part
  refine ⟨by rw [tokens]; rfl, member, classified.1, ?_⟩
  exact (classified.2.1 _ member).2.1 (by decide)

end FormLetter.Markup
