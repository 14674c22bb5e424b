import FormLetter.Markup.Token

/-!
# Cutting a part loses nothing

The tokens of a part are its text, cut. No token is empty, and the kind of each is the one of its
text. These three facts are all that the laws of the compiler need to know about cutting.
-/

namespace FormLetter.Markup

/-- A token as cutting makes it: it has a text, and the kind of its text. -/
structure Token.Genuine (token : Token) : Prop where
  text_ne_nil : token.text ≠ []
  kind_eq : token.kind = kindOf token.text

/-- The pieces of a text put together are the text. -/
theorem cut_flatten (text : List Char) : (cut text).flatten = text := by
  fun_induction cut text with
  | case1 => rfl
  | case2 first rest length inductionHypothesis =>
    rw [List.flatten_cons, inductionHypothesis, List.take_append_drop]

/-- No piece of a text is empty. -/
theorem cut_ne_nil (text : List Char) : ∀ piece ∈ cut text, piece ≠ [] := by
  fun_induction cut text with
  | case1 => simp
  | case2 first rest length inductionHypothesis =>
    intro piece member
    rcases List.mem_cons.mp member with rfl | later
    · have positive : length ≠ 0 := by simp only [length]; omega
      simp [positive]
    · exact inductionHypothesis piece later

/-- The tokens of a part put together are the part. -/
theorem join_tokenize (part : List Char) : Token.join (tokenize part) = part := by
  simp only [Token.join, tokenize, List.flatMap_map]
  rw [List.flatMap_id']
  exact cut_flatten part

/-- Every token of a part is genuine. -/
theorem tokenize_genuine (part : List Char) : ∀ token ∈ tokenize part, token.Genuine := by
  intro token member
  obtain ⟨piece, isPiece, rfl⟩ := List.mem_map.mp member
  exact ⟨cut_ne_nil part piece isPiece, rfl⟩

end FormLetter.Markup
