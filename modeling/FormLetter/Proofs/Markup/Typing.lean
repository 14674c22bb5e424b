import FormLetter.Proofs.Markup.Floor
import FormLetter.Proofs.Markup.Printed
import Mathlib.Data.List.Forall2

/-!
# Code runs as it was typed

A word processor writes typed code character by character: the three characters that mean markup
become references, line breaks and tabs become elements, and a space is a space or an element.
Whatever was typed, what is decoded is what was typed, and nothing is decoded twice: the elements
are replaced while every typed bracket is still a reference, and the decoder goes on behind each
reference. So between the tags of a span with a role the written code is a run, and its directive
holds the typed code.

The code must have a character that is no white space; a span without one is no run.
-/

namespace FormLetter.Markup

open FormLetter.Style
open FormLetter.Text

/-! ## Written forms -/

/-- The empty element for typed white space. -/
def spaceElement (element : String) : List Char := ("<" ++ element ++ "/>").toList

/-- The forms in which a typed character may be written. -/
def writtenForms : Char → List (List Char)
  | '&' => ["&amp;".toList]
  | '<' => ["&lt;".toList]
  | '>' => ["&gt;".toList]
  | '\n' => [spaceElement "text:line-break"]
  | '\t' => [spaceElement "text:tab"]
  | ' ' => [[' '], spaceElement "text:s"]
  | c => [[c]]

/-- Pieces in which a code is written, one for each character. -/
def Spells (code : List Char) (texts : List (List Char)) : Prop :=
  List.Forall₂ (fun c piece => piece ∈ writtenForms c) code texts

/-- The form of a character in which only references are left to be decoded. -/
def referenceForm : Char → List Char
  | '&' => "&amp;".toList
  | '<' => "&lt;".toList
  | '>' => "&gt;".toList
  | c => [c]

/-- A written character is one of the elements for white space, or it is its reference form. -/
theorem writtenForms_cases {c : Char} {piece : List Char} (written : piece ∈ writtenForms c) :
    (c, piece) ∈ [('\n', spaceElement "text:line-break"), ('\t', spaceElement "text:tab"),
      (' ', spaceElement "text:s")] ∨ piece = referenceForm c := by
  unfold writtenForms at written
  split at written
  all_goals simp only [List.mem_cons, List.not_mem_nil, or_false] at written
  · exact Or.inr written
  · exact Or.inr written
  · exact Or.inr written
  · simp [written]
  · simp [written]
  · rcases written with rfl | rfl
    · exact Or.inr rfl
    · simp
  · rename_i noAmpersand noLess noGreater _ _ _
    refine Or.inr ?_
    rw [written]
    unfold referenceForm
    split
    · exact absurd rfl noAmpersand
    · exact absurd rfl noLess
    · exact absurd rfl noGreater
    · rfl

/-- No bracket stands in a reference form. -/
theorem not_mem_referenceForm (c : Char) : '<' ∉ referenceForm c := by
  unfold referenceForm
  split
  · decide
  · decide
  · decide
  · rename_i noLess _
    intro member
    exact noLess (List.mem_singleton.mp member).symm

/-! ## Elements become characters -/

/-- A piece after the elements of one name were replaced. -/
def withTyped (element : String) (typed : Char) (piece : List Char) : List Char :=
  if piece = spaceElement element then [typed] else piece

/-- What may stand between elements for white space: no bracket. -/
def IsTypedPiece (piece : List Char) : Prop :=
  '<' ∉ piece ∨ piece ∈ ["text:line-break", "text:tab", "text:s"].map spaceElement

section

variable {element : String} {allowed : List Char → Bool} {typed : Char}

theorem emptyElementLength?_of_head {text : List Char} (plain : text.head? ≠ some '<') :
    emptyElementLength? element allowed text = none := by
  have absent : afterName? ("<" ++ element) text = none := by
    unfold afterName?
    rw [if_neg]
    intro begins
    obtain ⟨rest, rfl⟩ := List.isPrefixOf_iff_prefix.mp begins
    simp at plain
  unfold emptyElementLength?
  rw [absent]

/-- Where no bracket is, nothing is replaced. -/
theorem replaceTyped_plain {text rest : List Char} (plain : '<' ∉ text) :
    replaceTyped element allowed typed (text ++ rest)
      = text ++ replaceTyped element allowed typed rest := by
  induction text with
  | nil => rfl
  | cons c others ih =>
    have first : c ≠ '<' := fun same => plain (same ▸ List.mem_cons_self)
    have none_ : emptyElementLength? element allowed (c :: (others ++ rest)) = none :=
      emptyElementLength?_of_head (by simpa using first)
    rw [List.cons_append, replaceTyped, none_]
    simp only
    rw [ih fun member => plain (List.mem_cons_of_mem c member), List.cons_append]

theorem afterName?_spaceElement (element : String) (rest : List Char) :
    afterName? ("<" ++ element) (spaceElement element ++ rest) = some ('/' :: '>' :: rest) := by
  unfold afterName? spaceElement
  simp

/-- The element itself becomes its character. -/
theorem replaceTyped_self (alone : allowed [] = true) (rest : List Char) :
    replaceTyped element allowed typed (spaceElement element ++ rest)
      = typed :: replaceTyped element allowed typed rest := by
  have length : emptyElementLength? element allowed (spaceElement element ++ rest)
      = some (element.length + 3) := by
    unfold emptyElementLength?
    rw [afterName?_spaceElement]
    simp [alone]
  have size : (spaceElement element).length = element.length + 3 := by
    simp only [spaceElement, String.toList_append, List.length_append, String.length_toList]
    change 1 + element.length + 2 = _
    omega
  cases begins : spaceElement element with
  | nil => simp [begins] at size
  | cons c others =>
    rw [begins] at length size
    have taken : others.length = element.length + 3 - 1 := by
      rw [List.length_cons] at size
      omega
    rw [List.cons_append] at length ⊢
    rw [replaceTyped, length]
    simp only
    rw [← taken, List.drop_left]

/-- Another element is left as it is. -/
theorem replaceTyped_other {other : String} (apart : ∀ rest,
      afterName? ("<" ++ element) (spaceElement other ++ rest) = none) (plain : '<' ∉ other.toList)
    (rest : List Char) : replaceTyped element allowed typed (spaceElement other ++ rest)
      = spaceElement other ++ replaceTyped element allowed typed rest := by
  have none_ : emptyElementLength? element allowed (spaceElement other ++ rest) = none := by
    unfold emptyElementLength?
    rw [apart]
  have shape : spaceElement other = '<' :: (other.toList ++ "/>".toList) := by
    simp [spaceElement]
  rw [shape, List.cons_append] at none_ ⊢
  rw [replaceTyped, none_]
  simp only
  rw [replaceTyped_plain, List.cons_append]
  simpa using plain

/-- No name of an element for white space begins as the tag of another one does. -/
def IsApart (element : String) : Prop :=
  ∀ other ∈ ["text:line-break", "text:tab", "text:s"], other ≠ element → ∀ rest,
    afterName? ("<" ++ element) (spaceElement other ++ rest) = none

theorem isApart_of_mem {element : String}
    (known : element ∈ ["text:line-break", "text:tab", "text:s"]) : IsApart element := by
  simp only [List.mem_cons, List.not_mem_nil, or_false] at known
  rcases known with rfl | rfl | rfl
  all_goals
    intro other isOther differs rest
    simp only [List.mem_cons, List.not_mem_nil, or_false] at isOther
    rcases isOther with rfl | rfl | rfl <;> first | exact absurd rfl differs | rfl

/-- Replacing the elements of one name goes piece by piece. -/
theorem replaceTyped_flatten (alone : allowed [] = true)
    (apart : IsApart element) {texts : List (List Char)} (each : ∀ piece ∈ texts, IsTypedPiece piece) :
    replaceTyped element allowed typed texts.flatten
      = (texts.map (withTyped element typed)).flatten := by
  induction texts with
  | nil => simp [replaceTyped]
  | cons piece rest ih =>
    have others := ih fun other member => each other (List.mem_cons_of_mem piece member)
    rw [List.flatten_cons, List.map_cons, List.flatten_cons]
    rcases each piece List.mem_cons_self with plain | isElement
    · have differs : piece ≠ spaceElement element := by
        rintro rfl
        simp [spaceElement] at plain
      rw [replaceTyped_plain plain, others, withTyped, if_neg differs]
    · obtain ⟨other, known, rfl⟩ := List.mem_map.mp isElement
      by_cases same : other = element
      · subst same
        rw [replaceTyped_self alone, others, withTyped, if_pos rfl]
        rfl
      · have differs : spaceElement other ≠ spaceElement element := by
          intro equal
          have texts : "<" ++ other ++ "/>" = "<" ++ element ++ "/>" := String.toList_inj.mp equal
          simp only [String.append_left_inj, String.append_right_inj] at texts
          exact same texts
        have noBracket : ∀ name ∈ ["text:line-break", "text:tab", "text:s"], '<' ∉ name.toList := by
          decide
        rw [replaceTyped_other (apart other known same) (noBracket other known), others, withTyped,
          if_neg differs]

theorem IsTypedPiece.withTyped {piece : List Char} (isPiece : IsTypedPiece piece)
    (dark : typed ≠ '<') : IsTypedPiece (withTyped element typed piece) := by
  unfold Markup.withTyped
  split
  · exact Or.inl (by simpa using dark.symm)
  · exact isPiece

end

/-- A written character is a typed piece. -/
theorem isTypedPiece_of_mem {c : Char} {piece : List Char} (written : piece ∈ writtenForms c) :
    IsTypedPiece piece := by
  rcases writtenForms_cases written with isElement | rfl
  · refine Or.inr ?_
    simp only [List.mem_cons, Prod.mk.injEq, List.not_mem_nil, or_false] at isElement
    rcases isElement with ⟨-, rfl⟩ | ⟨-, rfl⟩ | ⟨-, rfl⟩ <;> simp
  · exact Or.inl (not_mem_referenceForm c)

/-- When all elements were replaced, a written character is its reference form. -/
theorem withTyped_written {c : Char} {piece : List Char} (written : piece ∈ writtenForms c) :
    withTyped "text:s" ' ' (withTyped "text:tab" '\t' (withTyped "text:line-break" '\n' piece))
      = referenceForm c := by
  rcases writtenForms_cases written with isElement | rfl
  · simp only [List.mem_cons, Prod.mk.injEq, List.not_mem_nil, or_false] at isElement
    rcases isElement with ⟨rfl, rfl⟩ | ⟨rfl, rfl⟩ | ⟨rfl, rfl⟩ <;> decide
  · have differs (element : String) : referenceForm c ≠ spaceElement element := by
      intro same
      have plain := not_mem_referenceForm c
      rw [same] at plain
      simp [spaceElement] at plain
    unfold withTyped
    rw [if_neg (differs _), if_neg (differs _), if_neg (differs _)]

/-! ## References become characters -/

/-- A name of the table that a semicolon closes is decoded, and the decoder goes on behind it. -/
theorem decode_named {name value : List Char} (known : Entity.named? name = some value)
    (free : name.all fun c => !Entity.endsName c) (short : name.length ≤ Entity.longestName)
    (rest : List Char) :
    Entity.decode ('&' :: (name ++ ';' :: rest)) = value ++ Entity.decode rest := by
  have allFree : ∀ c ∈ name, (!Entity.endsName c) = true := List.all_eq_true.mp free
  have word : ((name ++ ';' :: rest).takeWhile fun c => !Entity.endsName c) = name := by
    rw [List.takeWhile_append_of_pos allFree]
    simp [Entity.endsName]
  have isReference : Entity.reference? (name ++ ';' :: rest) = some (value, name.length + 1) := by
    unfold Entity.reference?
    split
    · rename_i others numeric
      cases name with
      | nil => simp [Entity.named?] at known
      | cons c more =>
        rw [List.cons_append, List.cons.injEq] at numeric
        have ends := allFree c List.mem_cons_self
        rw [numeric.1] at ends
        simp [Entity.endsName] at ends
    · simp [word, List.take_of_length_le short, known]
  rw [Entity.decode]
  simp only [beq_self_eq_true, if_true, isReference]
  simp

/-- A reference to one of the characters that mean markup is decoded, and nothing behind it. -/
theorem decode_referenceForm (c : Char) (rest : List Char) :
    Entity.decode (referenceForm c ++ rest) = c :: Entity.decode rest := by
  have ampersand : Entity.named? "amp".toList = some ['&'] := by decide
  have less : Entity.named? "lt".toList = some ['<'] := by decide
  have greater : Entity.named? "gt".toList = some ['>'] := by decide
  unfold referenceForm
  split
  · exact decode_named ampersand (by decide) (by decide) rest
  · exact decode_named less (by decide) (by decide) rest
  · exact decode_named greater (by decide) (by decide) rest
  · rename_i noAmpersand _ _
    rw [List.singleton_append, Entity.decode, if_neg (by simpa using noAmpersand)]

theorem decode_referenceForms (code : List Char) :
    Entity.decode (code.flatMap referenceForm) = code := by
  induction code with
  | nil => simp [Entity.decode]
  | cons c rest ih => rw [List.flatMap_cons, decode_referenceForm, ih]

/-- Each piece is a written form of a typed character. -/
theorem Spells.written {code : List Char} {texts : List (List Char)}
    (spells : Spells code texts) : ∀ piece ∈ texts, ∃ c ∈ code, piece ∈ writtenForms c := by
  induction spells with
  | nil => simp
  | cons written others ih =>
    intro piece member
    rcases List.mem_cons.mp member with rfl | later
    · exact ⟨_, List.mem_cons_self, written⟩
    · obtain ⟨c, inCode, isForm⟩ := ih piece later
      exact ⟨c, List.mem_cons_of_mem _ inCode, isForm⟩

/-- Each typed character has a written form among the texts. -/
theorem Spells.typed {code : List Char} {texts : List (List Char)}
    (spells : Spells code texts) : ∀ c ∈ code, ∃ piece ∈ texts, piece ∈ writtenForms c := by
  induction spells with
  | nil => simp
  | cons written others ih =>
    intro c member
    rcases List.mem_cons.mp member with rfl | later
    · exact ⟨_, List.mem_cons_self, written⟩
    · obtain ⟨piece, isPiece, isForm⟩ := ih c later
      exact ⟨piece, List.mem_cons_of_mem _ isPiece, isForm⟩

/-- Whatever was typed, what is read of its written form is what was typed. -/
theorem typedText_of_spells {code : List Char} {texts : List (List Char)}
    (spells : Spells code texts) : typedText texts.flatten = code := by
  let withBreaks := texts.map (withTyped "text:line-break" '\n')
  let withTabs := withBreaks.map (withTyped "text:tab" '\t')
  let withSpaces := withTabs.map (withTyped "text:s" ' ')
  have each : ∀ piece ∈ texts, IsTypedPiece piece := by
    intro piece member
    obtain ⟨c, -, written⟩ := spells.written piece member
    exact isTypedPiece_of_mem written
  have afterBreaks : ∀ piece ∈ withBreaks, IsTypedPiece piece := by
    intro piece member
    obtain ⟨before, isBefore, rfl⟩ := List.mem_map.mp member
    exact (each before isBefore).withTyped (by decide)
  have afterTabs : ∀ piece ∈ withTabs, IsTypedPiece piece := by
    intro piece member
    obtain ⟨before, isBefore, rfl⟩ := List.mem_map.mp member
    exact (afterBreaks before isBefore).withTyped (by decide)
  have referenced : withSpaces = code.map referenceForm := by
    have forms : List.Forall₂ (· = ·) (code.map referenceForm) (texts.map fun piece =>
        withTyped "text:s" ' ' (withTyped "text:tab" '\t'
          (withTyped "text:line-break" '\n' piece))) := by
      rw [List.forall₂_map_left_iff, List.forall₂_map_right_iff]
      exact List.Forall₂.imp (fun c piece written => (withTyped_written written).symm) spells
    rw [List.forall₂_eq_eq_eq] at forms
    simp only [withSpaces, withTabs, withBreaks, List.map_map]
    exact forms.symm
  calc typedText texts.flatten
      = Entity.decode withSpaces.flatten := by
        change Entity.decode (replaceTyped _ _ _ (replaceTyped _ _ _ (replaceTyped _ _ _ _))) = _
        rw [replaceTyped_flatten rfl (isApart_of_mem (by simp)) each,
          replaceTyped_flatten rfl (isApart_of_mem (by simp)) afterBreaks,
          replaceTyped_flatten rfl (isApart_of_mem (by simp)) afterTabs]
    _ = Entity.decode (code.flatMap referenceForm) := by
        rw [referenced, List.flatMap_def]
    _ = code := decode_referenceForms code

/-! ## The tokens of a written code -/

/-- What is left of a text after some of its texts is cut as if it stood alone. -/
theorem cut_of_append {text : List Char} {left right : List (List Char)}
    (isCut : cut text = left ++ right) : cut right.flatten = right := by
  induction left generalizing text with
  | nil =>
    rw [List.nil_append] at isCut
    rw [← isCut, cut_flatten]
  | cons piece rest ih =>
    cases text with
    | nil => simp [cut] at isCut
    | cons c others =>
      rw [cut, List.cons_append, List.cons.injEq] at isCut
      exact ih isCut.2

/-- What is left of a part after some of its tokens has the tokens that are left. -/
theorem tokenize_of_append {part : List Char} {left right : List Token}
    (isCut : tokenize part = left ++ right) : tokenize (Token.join right) = right := by
  have texts : cut part = left.map Token.text ++ right.map Token.text := by
    rw [← tokenize_texts, isCut, List.map_append]
  have same : cut (Token.join right) = right.map Token.text := by
    unfold Token.join
    rw [List.flatMap_def]
    exact cut_of_append texts
  have genuine : ∀ token ∈ right, (⟨kindOf token.text, token.text⟩ : Token) = token := by
    intro token member
    have isGenuine := tokenize_genuine part token (isCut ▸ List.mem_append_right left member)
    rw [← isGenuine.kind_eq]
  unfold tokenize
  rw [same, List.map_map]
  calc right.map _ = right.map id := List.map_congr_left genuine
    _ = right := List.map_id right

/-- The tag that closes a span is one piece of markup. -/
theorem isMarkup_of_spanClose {text : List Char} (kind : kindOf text = .spanClose) :
    isMarkup text = true := by
  unfold kindOf at kind
  split at kind
  · rename_i second rest
    split at kind
    · rename_i shape element name found
      subst kind
      have row : (shape, element, Kind.spanClose) = (.closing, "text:span", .spanClose) := by
        have closes : ∀ row ∈ tagKinds, row.2.2 = .spanClose →
            row = (.closing, "text:span", .spanClose) := by decide
        exact closes _ (List.mem_of_find?_eq_some found) rfl
      obtain ⟨rfl, isRest⟩ := Prod.mk.inj row
      obtain ⟨rfl, -⟩ := Prod.mk.inj isRest
      have isTag := List.find?_some found
      simp only [Shape.matches] at isTag
      split at isTag
      · cases isTag
      · rename_i tail isAfter
        rw [Bool.and_eq_true] at isTag
        obtain ⟨ends, blank⟩ := isTag
        have bracketless : IsBracketless ('/' :: ("text:span".toList ++ tail.dropLast)) := by
          intro c member
          rw [← List.cons_append, List.mem_append] at member
          rcases member with inName | inTail
          · have names : (('/' :: "text:span".toList).all fun c => c != '<' && c != '>') = true := by
              decide
            simpa using List.all_eq_true.mp names c inName
          · have isBlank := List.all_eq_true.mp blank c inTail
            constructor <;> (rintro rfl; exact absurd isBlank (by decide))
        have whole := isWhole_tag (by decide) (by decide) bracketless
        have same : '<' :: second :: rest
            = '<' :: ('/' :: ("text:span".toList ++ tail.dropLast) ++ ['>']) := by
          rw [eq_append_of_afterName? isAfter, eq_dropLast_append ends]
          simp
        rw [same]
        simpa [isWhole] using whole
    · cases kind
  · cases kind
  · split at kind <;> cases kind

/-- A text without a bracket at its beginning is a token of text, or of white space. -/
theorem kindOf_plain {text : List Char} (some_ : text ≠ []) (plain : text.head? ≠ some '<') :
    kindOf text = if isBlankText text then .space else .text := by
  unfold kindOf
  split
  · exact absurd rfl plain
  · exact absurd rfl some_
  · rfl

/-- A text that has not ended yet is part of the piece that it becomes. -/
theorem exists_mergeTexts_pending (texts : List (List Char)) {pending : List Char}
    (some_ : pending ≠ []) :
    ∃ piece ∈ mergeTexts pending texts, pending ⊆ piece ∧ piece.head? = pending.head? := by
  induction texts generalizing pending with
  | nil => exact ⟨pending, by simp [mergeTexts, flush, some_], fun _ => id, rfl⟩
  | cons text rest ih =>
    rw [mergeTexts]
    split
    · exact ⟨pending, by simp [flush, some_], fun _ => id, rfl⟩
    · obtain ⟨piece, member, inPiece, sameHead⟩ :=
        ih (List.append_ne_nil_of_left_ne_nil some_ text)
      refine ⟨piece, member, fun c inPending => inPiece (List.mem_append_left text inPending), ?_⟩
      rw [sameHead, List.head?_append_of_ne_nil _ some_]

/-- A text without a bracket at its beginning is part of such a piece. -/
theorem exists_mergeTexts {texts : List (List Char)} {pending text : List Char}
    (member : text ∈ texts) (some_ : text ≠ []) (plain : text.head? ≠ some '<')
    (noMarkup : pending.head? ≠ some '<') :
    ∃ piece ∈ mergeTexts pending texts, text ⊆ piece ∧ piece.head? ≠ some '<' := by
  induction texts generalizing pending with
  | nil => cases member
  | cons first rest ih =>
    rw [mergeTexts]
    split
    · rename_i begins
      have later : text ∈ rest := by
        refine (List.mem_cons.mp member).resolve_left fun same => ?_
        exact plain (same ▸ beq_iff_eq.mp begins)
      have noPending : ([] : List Char).head? ≠ some '<' := by simp
      obtain ⟨piece, inRest, inPiece, noBracket⟩ := ih later noPending
      exact ⟨piece, List.mem_append_right _ (List.mem_cons_of_mem _ inRest), inPiece, noBracket⟩
    · rename_i plainFirst
      have bothPlain : (pending ++ first).head? ≠ some '<' := by
        cases pending with
        | nil => simpa using plainFirst
        | cons c others => simpa using noMarkup
      rcases List.mem_cons.mp member with rfl | later
      · obtain ⟨piece, inMerged, inPiece, sameHead⟩ := exists_mergeTexts_pending rest
          (List.append_ne_nil_of_right_ne_nil pending some_)
        exact ⟨piece, inMerged, fun c inText => inPiece (List.mem_append_right pending inText),
          sameHead ▸ bothPlain⟩
      · exact ih later bothPlain

section

variable {code : List Char} {texts : List (List Char)} (spells : Spells code texts)

include spells

theorem Spells.isWhole : ∀ piece ∈ texts, isWhole piece = true := by
  intro piece member
  obtain ⟨c, -, written⟩ := spells.written piece member
  rcases isTypedPiece_of_mem written with plain | isElement
  · simp [Markup.isWhole, plain]
  · have elements : ∀ element ∈ ["text:line-break", "text:tab", "text:s"].map spaceElement,
        Markup.isWhole element = true := by decide
    exact elements piece isElement

/-- A written code is cut into tokens that may stand in a run. -/
theorem Spells.isContent : ∀ piece ∈ mergeTexts [] texts,
    Run.isContent ⟨kindOf piece, piece⟩ = true := by
  have isCut : cut texts.flatten = mergeTexts [] texts :=
    cut_flatten_whole spells.isWhole List.not_mem_nil
  intro piece member
  have some_ : piece ≠ [] := cut_ne_nil texts.flatten piece (isCut ▸ member)
  by_cases plain : piece.head? = some '<'
  · have isPiece : piece ∈ texts :=
      (mem_mergeTexts (by simp) member).resolve_right fun noMarkup => noMarkup plain
    obtain ⟨c, -, written⟩ := spells.written piece isPiece
    have elements : ∀ element ∈ ["text:line-break", "text:tab", "text:s"].map spaceElement,
        Run.isContent ⟨kindOf element, element⟩ = true := by decide
    refine elements piece ((isTypedPiece_of_mem written).resolve_left fun noBracket => ?_)
    exact noBracket (List.mem_of_head? plain)
  · rw [kindOf_plain some_ plain]
    split <;> rfl

/-- Where something else than white space was typed, there is a token of text. -/
theorem Spells.hasText (dark : ∃ c ∈ code, isBlank c = false) :
    ∃ piece ∈ mergeTexts [] texts, kindOf piece = .text := by
  obtain ⟨c, inCode, isDark⟩ := dark
  have darkPiece : ∃ text ∈ texts, text.head? ≠ some '<' ∧ ∃ c ∈ text, isBlank c = false := by
    obtain ⟨text, isPiece, written⟩ := spells.typed c inCode
    refine ⟨text, isPiece, ?_⟩
    rcases writtenForms_cases written with isElement | rfl
    · simp only [List.mem_cons, Prod.mk.injEq, List.not_mem_nil, or_false] at isElement
      rcases isElement with ⟨rfl, -⟩ | ⟨rfl, -⟩ | ⟨rfl, -⟩ <;> exact absurd isDark (by decide)
    · refine ⟨fun begins => not_mem_referenceForm c (List.mem_of_head? begins), ?_⟩
      unfold referenceForm
      split
      · exact ⟨'&', by decide, by decide⟩
      · exact ⟨'&', by decide, by decide⟩
      · exact ⟨'&', by decide, by decide⟩
      · exact ⟨c, List.mem_singleton_self c, isDark⟩
  obtain ⟨text, isPiece, plain, d, inText, isDarkToo⟩ := darkPiece
  have noPending : ([] : List Char).head? ≠ some '<' := nofun
  obtain ⟨piece, member, inPiece, noMarkup⟩ :=
    exists_mergeTexts isPiece (List.ne_nil_of_mem inText) plain noPending
  refine ⟨piece, member, ?_⟩
  rw [kindOf_plain (List.ne_nil_of_mem (inPiece inText)) noMarkup, if_neg]
  intro blank
  have isBlankToo := List.all_eq_true.mp blank d (inPiece inText)
  rw [isDarkToo] at isBlankToo
  cases isBlankToo

end

/-! ## Typed code in a part -/

/-- Where a tag that opens a span under a style of the table is a token, and behind it stand a
written code and a tag that closes a span, there is a run with these three, up to the rest of the
part. -/
theorem run_of_spells {styles : Table} {part before after opening closing : List Char}
    {code : List Char} {texts : List (List Char)} {left rest : List Token} {style : String}
    {mark : Mark} (spells : Spells code texts) (dark : ∃ c ∈ code, isBlank c = false)
    (isPart : part = before ++ opening ++ texts.flatten ++ closing ++ after)
    (seen : tokenize part = left ++ ⟨.spanOpen, opening⟩ :: rest)
    (isBefore : Token.join left = before) (styled : spanStyle? opening = some style)
    (marked : styles.find? style = some mark) (closes : kindOf closing = .spanClose) :
    ∃ inner, Token.join inner = texts.flatten ∧
      rest = inner ++ ⟨.spanClose, closing⟩ :: tokenize after ∧
      Run.start? styles (⟨.spanOpen, opening⟩ :: rest)
        = some ⟨⟨.spanOpen, opening⟩, inner, ⟨.spanClose, closing⟩⟩ := by
  have tokens : tokenize texts.flatten
      = (mergeTexts [] texts).map fun piece => ⟨kindOf piece, piece⟩ := by
    have isCut : cut texts.flatten = mergeTexts [] texts :=
      cut_flatten_whole spells.isWhole List.not_mem_nil
    rw [tokenize, isCut]
  have markup := isMarkup_of_spanClose closes
  have closingHead := head?_of_isMarkup markup
  have some_ : closing ≠ [] := by
    rintro rfl
    cases closingHead
  have bounded : (closing ++ after).head? = some '<' := by
    rw [List.head?_append, closingHead]
    rfl
  have isRest : Token.join rest = texts.flatten ++ (closing ++ after) := by
    have whole := congrArg Token.join seen
    rw [join_tokenize, isPart, Token.join_append, Token.join_cons, isBefore] at whole
    simp only [List.append_assoc, List.append_cancel_left_eq] at whole
    exact whole.symm
  have cutRest : cut (Token.join rest) = mergeTexts [] texts ++ closing :: cut after := by
    rw [isRest]
    have cutAll : cut ([] ++ (texts.flatten ++ (closing ++ after)))
        = mergeTexts [] texts ++ cut (closing ++ after) :=
      cut_flatten_append spells.isWhole List.not_mem_nil (Or.inl bounded)
    rwa [List.nil_append, cut_append some_ (tokenLength_of_isMarkup markup after)] at cutAll
  have split : rest = tokenize texts.flatten ++ ⟨.spanClose, closing⟩ :: tokenize after := by
    have isLast : tokenize part = (left ++ [⟨.spanOpen, opening⟩]) ++ rest := by
      rw [seen, List.append_assoc, List.singleton_append]
    rw [← tokenize_of_append isLast, tokens]
    unfold tokenize
    rw [cutRest, List.map_append, List.map_cons, closes]
  have content : ∀ token ∈ tokenize texts.flatten, Run.isContent token = true := by
    rw [tokens]
    simpa using spells.isContent
  have text : (tokenize texts.flatten).any (·.kind == .text) = true := by
    obtain ⟨piece, member, isText⟩ := spells.hasText dark
    rw [tokens, List.any_eq_true]
    exact ⟨⟨kindOf piece, piece⟩, List.mem_map_of_mem member, by simp [isText]⟩
  refine ⟨tokenize texts.flatten, join_tokenize _, split, ?_⟩
  have taken : rest.takeWhile Run.isContent = tokenize texts.flatten := by
    have stops : (⟨.spanClose, closing⟩ :: tokenize after : List Token).takeWhile Run.isContent
        = [] := rfl
    rw [split, List.takeWhile_append_of_pos content, stops, List.append_nil]
  have dropped : rest.drop (tokenize texts.flatten).length
      = ⟨.spanClose, closing⟩ :: tokenize after := by
    rw [split, List.drop_left]
  simp [Run.start?, taken, dropped, styled, marked, text]

/-- Code that was typed between the tags of a span with a role becomes the directive of that role
with exactly this code.

The code holds something else than white space, and each of its characters is written in one of its
forms. The opening tag names a style with a role and is a token of the part; then the closing tag is
one, too. There is a run with both tags, its tokens hold what was written, and its code is what was
typed. The scan meets the run, and its directive is written between what is written of the places
before it and after it. -/
theorem compile_typed_code {styles : Table} {part before after opening closing code : List Char}
    {texts : List (List Char)} {left rest : List Token} {style : String} {role : Role}
    (spells : Spells code texts) (dark : ∃ c ∈ code, isBlank c = false)
    (isPart : part = before ++ opening ++ texts.flatten ++ closing ++ after)
    (seen : tokenize part = left ++ ⟨.spanOpen, opening⟩ :: rest)
    (isBefore : Token.join left = before) (styled : spanStyle? opening = some style)
    (marked : styles.find? style = some (.role role)) (closes : kindOf closing = .spanClose) :
    ∃ (run : Run) (right : List Token) (found : Match) (earlier later : List Piece),
      run.opening = ⟨.spanOpen, opening⟩ ∧ run.closing = ⟨.spanClose, closing⟩ ∧
      Token.join run.inner = texts.flatten ∧ Token.join right = after ∧
      tokenize part = left ++ (run.tokens ++ right) ∧
      Run.start? styles (⟨.spanOpen, opening⟩ :: rest) = some run ∧
      found.run = run ∧ found.mark = .role role ∧
      pieces styles part = earlier ++ .matched found :: later ∧
      earlier.flatMap Piece.tokens ++ found.taken.lead = left ∧
      found.taken.trail ++ later.flatMap Piece.tokens = right ∧
      (compile styles part).source
        = (earlier.flatMap Piece.layout).flatMap Place.write ++ Token.join found.writtenBefore
          ++ directive role code
          ++ (Token.join found.writtenAfter ++ (later.flatMap Piece.layout).flatMap Place.write) := by
  obtain ⟨inner, joined, split, begins⟩ :=
    run_of_spells spells dark isPart seen isBefore styled marked closes
  let run : Run := ⟨⟨.spanOpen, opening⟩, inner, ⟨.spanClose, closing⟩⟩
  have isCode : run.code = code := by
    change typedText (Token.join inner) = code
    rw [joined]
    exact typedText_of_spells spells
  have stands : tokenize part = left ++ (run.tokens ++ tokenize after) := by
    rw [seen, split]
    simp [run, Run.tokens]
  have starts : Run.start? styles (run.tokens ++ tokenize after) = some run := by
    rw [split] at begins
    simpa [run, Run.tokens] using begins
  obtain ⟨earlier, found, later, isCut, isRun, isLeft, isRight⟩ := pieces_reach stands starts
  have regular : found.Regular styles :=
    pieces_regular (isCut ▸ List.mem_append_right earlier List.mem_cons_self)
  have isMark : found.mark = .role role := by
    refine regular.mark_of_find? ?_
    rw [isRun]
    change styles.find? ((spanStyle? opening).getD "") = _
    rw [styled]
    exact marked
  refine ⟨run, tokenize after, found, earlier, later, rfl, rfl, joined, join_tokenize after, stands,
    begins, isRun, isMark, isCut, isLeft, isRight, ?_⟩
  have written : (Piece.matched found).layout.flatMap Place.write
      = Token.join found.writtenBefore ++ directive role code ++ Token.join found.writtenAfter := by
    simp only [Piece.layout, List.flatMap_append, List.flatMap_cons, flatMap_write_plain]
    rw [isMark, Place.write, isRun, isCode]
    simp
  rw [compile_source, layout, isCut, List.flatMap_append, List.flatMap_cons, List.flatMap_append,
    List.flatMap_append, written]
  simp

/-- Code with every character that has a form of its own, in which a reference was typed. -/
def comparison : List Char := "x <\n\ty > '&lt;'  ".toList

/-- A form of `comparison`. Its last two spaces are written in different ways. -/
def comparisonForms : List (List Char) :=
  ["x", " ", "&lt;", "<text:line-break/>", "<text:tab/>", "y", "<text:s/>", "&gt;", " ", "'",
    "&amp;", "l", "t", ";", "'", " ", "<text:s/>"].map String.toList

/-- A paragraph in which `comparison` is a value. -/
def comparisonPart : List Char :=
  "<text:p>".toList ++ "<text:span text:style-name='V'>".toList ++ comparisonForms.flatten
    ++ "</text:span>".toList ++ "</text:p>".toList

/-- The typed reference is not decoded once more. -/
theorem compile_typed_code_comparison :
    Spells comparison comparisonForms ∧ (∃ c ∈ comparison, isBlank c = false) ∧
      kindOf "</text:span>".toList = .spanClose ∧
      ∃ front back, (compile [("V", .role .value)] comparisonPart).source
        = front ++ directive .value "x <\n\ty > '&lt;'  ".toList ++ back := by
  have spells : Spells comparison comparisonForms := by
    unfold Spells
    decide
  have dark : ∃ c ∈ comparison, isBlank c = false := ⟨'x', by decide, by decide⟩
  have closes : kindOf "</text:span>".toList = .spanClose := by decide
  have seen : tokenize comparisonPart = [⟨.paragraphOpen, "<text:p>".toList⟩]
      ++ ⟨.spanOpen, "<text:span text:style-name='V'>".toList⟩
        :: (tokenize comparisonPart).drop 2 := by decide +kernel
  have styled : spanStyle? "<text:span text:style-name='V'>".toList = some "V" := by decide +kernel
  have marked : Table.find? [("V", .role .value)] "V" = some (.role .value) := by decide
  obtain ⟨_, _, _, _, _, _, _, _, _, _, _, _, _, _, _, _, source⟩ :=
    compile_typed_code spells dark rfl seen rfl styled marked closes
  exact ⟨spells, dark, closes, _, _, source⟩

end FormLetter.Markup
