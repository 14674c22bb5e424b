import FormLetter.Proofs.Markup.Decoding
import FormLetter.Text.Escape

/-!
# Escaped text is decoded to what it was

Escaping writes five characters as references and all others as themselves. The decoder knows many
more references, names without a semicolon among them, but each reference that escaping writes has
its semicolon: the decoder reads exactly that far, whatever follows. A text that looks like a
reference before it is escaped has its ampersand written as one, and what the decoder makes of that
is not decoded again.
-/

namespace FormLetter.Text.Entity

/-- A decimal number that a semicolon closes is read to its end. -/
theorem numeric?_closed {digits : List Char} (some_ : digits ≠ [])
    (decimal : ∀ c ∈ digits, c.isDigit = true) (rest : List Char) :
    numeric? (digits ++ ';' :: rest) = some (ofNumber (number 10 digits), digits.length + 2) := by
  have taken : (digits ++ ';' :: rest).takeWhile Char.isDigit = digits := by
    rw [List.takeWhile_append_of_pos decimal]
    simp [Char.isDigit]
  have notBase {base : Char} (noDigit : base.isDigit = false) :
      (digits ++ ';' :: rest).head? ≠ some base := by
    intro same
    obtain ⟨first, others, rfl⟩ := List.exists_cons_of_ne_nil some_
    have isFirst := decimal first List.mem_cons_self
    rw [List.cons_append, List.head?_cons, Option.some.injEq] at same
    rw [same, noDigit] at isFirst
    cases isFirst
  have used : 1 + digits.length + closing (';' :: rest) = digits.length + 2 := by
    have one : closing (';' :: rest) = 1 := rfl
    omega
  have isNumber : digits.isEmpty = false := by simpa using some_
  rw [numeric?_decimal (notBase (by decide)) (notBase (by decide)), taken, List.drop_left, used,
    isNumber]
  rfl

/-- Such a number is decoded, and the decoder goes on behind it. -/
theorem decode_numbered (digits : List Char) (some_ : digits ≠ [])
    (decimal : ∀ c ∈ digits, c.isDigit = true) (rest : List Char) :
    decode ('&' :: '#' :: (digits ++ ';' :: rest)) =
      ofNumber (number 10 digits) ++ decode rest := by
  have isReference : reference? ('#' :: (digits ++ ';' :: rest))
      = some (ofNumber (number 10 digits), digits.length + 2) := numeric?_closed some_ decimal rest
  have behind : ('#' :: (digits ++ ';' :: rest)).drop (digits.length + 2) = rest := by simp
  rw [decode]
  simp only [beq_self_eq_true, if_true, isReference, behind]

end FormLetter.Text.Entity

namespace FormLetter.Text.Escape

/-- The characters that are not written as themselves. -/
def escapedChars : List Char := ['&', '<', '>', '"', '\'']

/-- The references that are written for them. -/
def references : List (List Char) :=
  ["&amp;".toList, "&lt;".toList, "&gt;".toList, "&#34;".toList, "&#39;".toList]

/-- A character is written as itself, or it is one of the five and is written as a reference. -/
theorem encodeChar_cases (c : Char) :
    encodeChar c ∈ references ∨ encodeChar c = [c] ∧ c ∉ escapedChars := by
  unfold encodeChar
  split
  case h_6 noAmpersand noLess noGreater noQuote noApostrophe =>
    refine Or.inr ⟨rfl, ?_⟩
    simp only [escapedChars, List.mem_cons, List.not_mem_nil, or_false, not_or]
    exact ⟨noAmpersand, noLess, noGreater, noQuote, noApostrophe⟩
  all_goals exact Or.inl (by decide)

/-- A written character is decoded to itself, and the decoder goes on behind it. -/
theorem decode_encodeChar (c : Char) (rest : List Char) :
    Entity.decode (encodeChar c ++ rest) = c :: Entity.decode rest := by
  unfold encodeChar
  split
  · exact Markup.decode_referenceForm '&' rest
  · exact Markup.decode_referenceForm '<' rest
  · exact Markup.decode_referenceForm '>' rest
  · exact Entity.decode_numbered ['3', '4'] nofun (List.all_eq_true.mp rfl) rest
  · exact Entity.decode_numbered ['3', '9'] nofun (List.all_eq_true.mp rfl) rest
  · rename_i noAmpersand _ _ _ _
    rw [List.singleton_append, Entity.decode, if_neg (by simpa using noAmpersand)]

/-- An escaped text is decoded to what it was. -/
theorem decode_encode (text : List Char) : Entity.decode (encode text) = text := by
  induction text with
  | nil => simp [Entity.decode]
  | cons c rest inductionHypothesis => rw [encode_cons, decode_encodeChar, inductionHypothesis]

/-- Of the five characters only the ampersand stands in an escaped text. -/
theorem not_mem_encode (text : List Char) :
    ∀ c ∈ encode text, c ∈ escapedChars → c = '&' := by
  have inReference : ∀ reference ∈ references, ∀ c ∈ reference, c ∈ escapedChars → c = '&' := by
    simp [references, escapedChars]
  intro c member isEscaped
  obtain ⟨d, -, inForm⟩ := List.mem_flatMap.mp member
  rcases encodeChar_cases d with isReference | ⟨itself, plain⟩
  · exact inReference _ isReference c inForm isEscaped
  · rw [itself, List.mem_singleton] at inForm
    exact absurd (inForm ▸ isEscaped) plain

/-- Each ampersand of an escaped text begins one of the five references. -/
theorem reference_of_ampersand {text lead rest : List Char}
    (parts : encode text = lead ++ '&' :: rest) :
    ∃ reference ∈ references, reference <+: '&' :: rest := by
  have onlyFirst : ∀ reference ∈ references, '&' ∉ reference.tail := by decide
  induction text generalizing lead with
  | nil => simp at parts
  | cons c more inductionHypothesis =>
    rw [encode_cons] at parts
    rcases List.append_eq_append_iff.mp parts with ⟨later, -, isRest⟩ | ⟨here, isForm, isRest⟩
    · exact inductionHypothesis isRest
    · cases here with
      | nil => exact inductionHypothesis (show encode more = [] ++ '&' :: rest from isRest.symm)
      | cons first others =>
        obtain ⟨rfl, -⟩ := List.cons.inj isRest
        rcases encodeChar_cases c with isReference | ⟨itself, plain⟩
        · -- Within a reference, an ampersand stands first.
          cases lead with
          | nil => exact ⟨_, isReference, by rw [isForm, isRest]; exact List.prefix_append _ _⟩
          | cons d others =>
            have absent := onlyFirst _ isReference
            rw [isForm] at absent
            exact absurd (by simp) absent
        · rw [itself] at isForm
          have isMark : '&' ∈ [c] := isForm ▸ by simp
          rw [List.mem_singleton] at isMark
          exact absurd (isMark ▸ by decide) plain

/-- An escaped text holds no element for white space, so it is also read as typed text. -/
theorem typedText_encode (text : List Char) : Markup.typedText (encode text) = text := by
  have plain : '<' ∉ encode text := fun member =>
    absurd (not_mem_encode text _ member (by decide)) (by decide)
  have isPiece : ∀ piece ∈ [encode text], Markup.IsCodePiece piece := by
    simpa using Markup.IsCodePiece.text plain
  have pieces := Markup.typedText_pieces isPiece
  have itself : Markup.withCharacter (encode text) = encode text := by
    simp [Markup.withCharacter, Markup.typedElement?_text plain]
  rw [List.map_singleton, itself, List.flatten_singleton, decode_encode] at pieces
  exact pieces

end FormLetter.Text.Escape
