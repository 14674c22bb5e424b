import FormLetter.Proofs.Markup.Cut
import FormLetter.Proofs.Markup.Nesting

/-!
# Cutting what is left

When tokens are taken out of a part and the rest is cut again, texts that come to touch become one
token. Markup is cut as it was, as long as each piece runs from its first character to its last: no
piece then begins or ends in another one. Texts open and close nothing, so a walk over the new
tokens is a walk over the old ones, for every reading of tags.
-/

namespace FormLetter.Markup

/-! ## Whole pieces -/

/-- A tag from its first bracket to its last. Declarations and instructions are no tags. -/
def isTag (text : List Char) : Bool :=
  match text with
  | '<' :: first :: rest =>
    first != '!' && first != '?' && tagTailLength? (first :: rest) == some (rest.length + 1)
  | _ => false

/-- A comment, a character data section, an instruction or a tag, from its first character to its
last. -/
def isMarkup (text : List Char) : Bool :=
  enclosedLength? "<!--".toList "-->".toList text == some text.length
    || enclosedLength? "<![CDATA[".toList "]]>".toList text == some text.length
    || enclosedLength? "<?".toList "?>".toList text == some text.length
    || isTag text

/-- A text that is one piece of markup, or that holds none. -/
def isWhole (text : List Char) : Bool :=
  isMarkup text || !text.contains '<'

/-! ## Markup before other text -/

/-- A mark that is found lies in the text. -/
theorem lengthThrough?_bounds {mark text : List Char} {length : Nat}
    (found : lengthThrough? mark text = some length) :
    mark.length ≤ length ∧ length ≤ text.length := by
  induction text generalizing length with
  | nil => simp [lengthThrough?] at found
  | cons c rest inductionHypothesis =>
    simp only [lengthThrough?] at found
    split at found
    · rename_i begins
      have bound := (List.isPrefixOf_iff_prefix.mp begins).length_le
      simp only [Option.some.injEq] at found
      subst found
      exact ⟨Nat.le_refl _, bound⟩
    · obtain ⟨inner, foundInner, rfl⟩ := Option.map_eq_some_iff.mp found
      have bounds := inductionHypothesis foundInner
      simp only [List.length_cons]
      omega

/-- A mark is found at the same place when more text follows: an occurrence that only the longer
text has would end behind one that lies in the text. -/
theorem lengthThrough?_append {mark text : List Char} {length : Nat}
    (found : lengthThrough? mark text = some length) (more : List Char) :
    lengthThrough? mark (text ++ more) = some length := by
  induction text generalizing length with
  | nil => simp [lengthThrough?] at found
  | cons c rest inductionHypothesis =>
    rw [List.cons_append, lengthThrough?]
    simp only [lengthThrough?] at found
    split at found
    · rename_i begins
      have longer : mark <+: c :: (rest ++ more) :=
        (List.isPrefixOf_iff_prefix.mp begins).trans (List.prefix_append (c :: rest) more)
      rw [if_pos (List.isPrefixOf_iff_prefix.mpr longer)]
      exact found
    · rename_i notHere
      obtain ⟨inner, foundInner, rfl⟩ := Option.map_eq_some_iff.mp found
      have bounds := lengthThrough?_bounds foundInner
      have notLonger : ¬mark.isPrefixOf (c :: (rest ++ more)) = true := by
        intro begins
        have longer : mark <+: (c :: rest) ++ more := List.isPrefixOf_iff_prefix.mp begins
        have fits : mark.length ≤ (c :: rest).length := by
          simp only [List.length_cons]
          omega
        exact notHere (List.isPrefixOf_iff_prefix.mpr
          (List.prefix_of_prefix_length_le longer (List.prefix_append _ _) fits))
      rw [if_neg notLonger, inductionHypothesis foundInner]
      rfl

theorem enclosedLength?_append {opening closing text : List Char} {length : Nat}
    (found : enclosedLength? opening closing text = some length) (more : List Char) :
    enclosedLength? opening closing (text ++ more) = some length := by
  simp only [enclosedLength?, Option.ite_none_right_eq_some] at found ⊢
  obtain ⟨begins, foundEnd⟩ := found
  obtain ⟨inner, foundInner, rfl⟩ := Option.map_eq_some_iff.mp foundEnd
  have isPrefix := List.isPrefixOf_iff_prefix.mp begins
  refine ⟨List.isPrefixOf_iff_prefix.mpr (isPrefix.trans (List.prefix_append _ _)), ?_⟩
  rw [List.drop_append_of_le_length isPrefix.length_le, lengthThrough?_append foundInner]
  rfl

theorem tagTailLength?_append {text : List Char} {length : Nat}
    (found : tagTailLength? text = some length) (more : List Char) :
    tagTailLength? (text ++ more) = some length := by
  induction text generalizing length with
  | nil => simp [tagTailLength?] at found
  | cons c rest inductionHypothesis =>
    rw [List.cons_append, tagTailLength?]
    rw [tagTailLength?] at found
    split at found
    · rename_i ends
      rw [if_pos ends]
      exact found
    · rename_i goesOn
      split at found
      · simp at found
      · rename_i opensNone
        obtain ⟨inner, foundInner, rfl⟩ := Option.map_eq_some_iff.mp found
        rw [if_neg goesOn, if_neg opensNone, inductionHypothesis foundInner]
        rfl

/-- An opening mark that does not stand at the beginning encloses nothing. -/
theorem enclosedLength?_eq_none {opening closing text : List Char}
    (begins : opening.isPrefixOf text = false) : enclosedLength? opening closing text = none := by
  simp [enclosedLength?, begins]

/-- A text that begins with an opening mark, when something is enclosed. -/
theorem prefix_of_enclosedLength? {opening closing text : List Char} {length : Nat}
    (found : enclosedLength? opening closing text = some length) : opening <+: text := by
  simp only [enclosedLength?, Option.ite_none_right_eq_some] at found
  exact List.isPrefixOf_iff_prefix.mp found.1

theorem tokenLength_of_head {text : List Char} (begins : text.head? = some '<') :
    tokenLength text =
      (enclosedLength? "<!--".toList "-->".toList text
        <|> enclosedLength? "<![CDATA[".toList "]]>".toList text
        <|> enclosedLength? "<?".toList "?>".toList text
        <|> (tagTailLength? text.tail).map (· + 1)).getD 1 := by
  obtain ⟨rest, rfl⟩ := List.head?_eq_some_iff.mp begins
  rfl

/-- The first token of a text that begins with a whole piece of markup is this piece: the marks that
begin comments, sections, instructions and tags differ in their first characters. -/
theorem tokenLength_of_isMarkup {text : List Char} (markup : isMarkup text = true)
    (more : List Char) : tokenLength (text ++ more) = text.length := by
  simp only [isMarkup, Bool.or_eq_true, beq_iff_eq] at markup
  rcases markup with ((comment | literal) | instruction) | tag
  · obtain ⟨rest, rfl⟩ := prefix_of_enclosedLength? comment
    have found := enclosedLength?_append comment more
    rw [tokenLength_of_head rfl, found]
    rfl
  · obtain ⟨rest, rfl⟩ := prefix_of_enclosedLength? literal
    have found := enclosedLength?_append literal more
    have noComment : enclosedLength? "<!--".toList "-->".toList
        ("<![CDATA[".toList ++ rest ++ more) = none := enclosedLength?_eq_none rfl
    rw [tokenLength_of_head rfl, noComment, found]
    rfl
  · obtain ⟨rest, rfl⟩ := prefix_of_enclosedLength? instruction
    have found := enclosedLength?_append instruction more
    have noComment : enclosedLength? "<!--".toList "-->".toList
        ("<?".toList ++ rest ++ more) = none := enclosedLength?_eq_none rfl
    have noLiteral : enclosedLength? "<![CDATA[".toList "]]>".toList
        ("<?".toList ++ rest ++ more) = none := enclosedLength?_eq_none rfl
    rw [tokenLength_of_head rfl, noComment, noLiteral, found]
    rfl
  · unfold isTag at tag
    split at tag
    · rename_i first rest
      simp only [Bool.and_eq_true, bne_iff_ne, beq_iff_eq] at tag
      obtain ⟨⟨notMark, notQuery⟩, ends⟩ := tag
      have found := tagTailLength?_append ends more
      have noComment : "<!--".toList.isPrefixOf ('<' :: first :: rest ++ more) = false := by
        simp [List.isPrefixOf, Ne.symm notMark]
      have noLiteral : "<![CDATA[".toList.isPrefixOf ('<' :: first :: rest ++ more) = false := by
        simp [List.isPrefixOf, Ne.symm notMark]
      have noInstruction : "<?".toList.isPrefixOf ('<' :: first :: rest ++ more) = false := by
        simp [List.isPrefixOf, Ne.symm notQuery]
      rw [tokenLength_of_head rfl, enclosedLength?_eq_none noComment,
        enclosedLength?_eq_none noLiteral, enclosedLength?_eq_none noInstruction]
      simp only [List.cons_append, List.tail_cons]
      rw [← List.cons_append, found]
      rfl
    · simp at tag

/-- The first token of a text that begins with a text without brackets, and then with a bracket or
not at all, is the text without brackets. -/
theorem tokenLength_of_plain {text more : List Char} (found : text ≠ []) (plain : '<' ∉ text)
    (bounded : more.head? = some '<' ∨ more = []) : tokenLength (text ++ more) = text.length := by
  have allPlain : ∀ c ∈ text, (c != '<') = true := by
    intro c member
    exact bne_iff_ne.mpr fun same => plain (same ▸ member)
  have stops : more.takeWhile (· != '<') = [] := by
    rcases bounded with begins | rfl
    · obtain ⟨rest, rfl⟩ := List.head?_eq_some_iff.mp begins
      rfl
    · rfl
  cases text with
  | nil => exact absurd rfl found
  | cons c rest =>
    have dark : c ≠ '<' := bne_iff_ne.mp (allPlain c List.mem_cons_self)
    have restTaken : (rest ++ more).takeWhile (· != '<') = rest := by
      rw [List.takeWhile_append_of_pos fun d member => allPlain d (List.mem_cons_of_mem c member),
        stops, List.append_nil]
    simp only [List.cons_append, tokenLength, restTaken, List.length_cons]
    omega

theorem cut_append {text more : List Char} (found : text ≠ [])
    (first : tokenLength (text ++ more) = text.length) : cut (text ++ more) = text :: cut more := by
  cases text with
  | nil => exact absurd rfl found
  | cons c rest =>
    rw [List.cons_append] at first ⊢
    have length : max 1 (tokenLength (c :: (rest ++ more))) = (c :: rest).length := by
      rw [first, List.length_cons]
      omega
    rw [cut]
    simp only [length]
    rw [← List.cons_append, List.take_left, List.drop_left]

/-! ## Cutting whole pieces again -/

/-- A text as a list of at most one piece. -/
def flush (pending : List Char) : List (List Char) :=
  if pending.isEmpty then [] else [pending]

/-- Puts pieces without markup that touch together. `pending` is the text that has not ended yet. -/
def mergeTexts (pending : List Char) : List (List Char) → List (List Char)
  | [] => flush pending
  | text :: rest =>
    if text.head? == some '<' then flush pending ++ text :: mergeTexts [] rest
    else mergeTexts (pending ++ text) rest

/-- Markup begins with an opening bracket. -/
theorem head?_of_isMarkup {text : List Char} (markup : isMarkup text = true) :
    text.head? = some '<' := by
  simp only [isMarkup, Bool.or_eq_true, beq_iff_eq] at markup
  rcases markup with ((comment | literal) | instruction) | tag
  · obtain ⟨rest, rfl⟩ := prefix_of_enclosedLength? comment
    rfl
  · obtain ⟨rest, rfl⟩ := prefix_of_enclosedLength? literal
    rfl
  · obtain ⟨rest, rfl⟩ := prefix_of_enclosedLength? instruction
    rfl
  · unfold isTag at tag
    split at tag
    · rfl
    · simp at tag

/-- A whole piece that begins with no bracket holds none. -/
theorem not_mem_of_isWhole {text : List Char} (whole : isWhole text = true)
    (noMarkup : text.head? ≠ some '<') : '<' ∉ text := by
  simp only [isWhole, Bool.or_eq_true, Bool.not_eq_true', List.contains_eq_mem,
    decide_eq_false_iff_not] at whole
  exact whole.resolve_left fun markup => noMarkup (head?_of_isMarkup markup)

/-- A pending text is cut off where markup follows, or nothing. -/
theorem cut_flush {pending more : List Char} (plain : '<' ∉ pending)
    (bounded : more.head? = some '<' ∨ more = []) :
    cut (pending ++ more) = flush pending ++ cut more := by
  by_cases none : pending = []
  · subst none
    rfl
  · rw [cut_append none (tokenLength_of_plain none plain bounded)]
    simp [flush, none]

/-- Cutting whole pieces again puts texts that touch together and leaves markup as it is, also when
markup follows them. -/
theorem cut_flatten_append {texts : List (List Char)}
    (whole : ∀ text ∈ texts, isWhole text = true) {pending more : List Char}
    (plain : '<' ∉ pending) (bounded : more.head? = some '<' ∨ more = []) :
    cut (pending ++ (texts.flatten ++ more)) = mergeTexts pending texts ++ cut more := by
  induction texts generalizing pending with
  | nil => exact cut_flush plain bounded
  | cons text rest inductionHypothesis =>
    have restWhole : ∀ other ∈ rest, isWhole other = true := fun other member =>
      whole other (List.mem_cons_of_mem text member)
    have textWhole := whole text List.mem_cons_self
    rw [List.flatten_cons, mergeTexts, List.append_assoc]
    by_cases begins : text.head? = some '<'
    · have markup : isMarkup text = true := by
        obtain ⟨tail, rfl⟩ := List.head?_eq_some_iff.mp begins
        simpa [isWhole] using textWhole
      have found : text ≠ [] := by
        rintro rfl
        simp at begins
      have begun : (text ++ (rest.flatten ++ more)).head? = some '<' := by
        rw [List.head?_append, begins]
        rfl
      have cutRest : cut (rest.flatten ++ more) = mergeTexts [] rest ++ cut more :=
        inductionHypothesis restWhole List.not_mem_nil
      rw [if_pos (beq_iff_eq.mpr begins), cut_flush plain (Or.inl begun),
        cut_append found (tokenLength_of_isMarkup markup _), cutRest]
      simp
    · have bothPlain : '<' ∉ pending ++ text := by
        simp [plain, not_mem_of_isWhole textWhole begins]
      rw [if_neg fun same => begins (beq_iff_eq.mp same), ← List.append_assoc]
      exact inductionHypothesis restWhole bothPlain

/-- Cutting whole pieces again puts texts that touch together and leaves markup as it is. -/
theorem cut_flatten_whole {texts : List (List Char)} (whole : ∀ text ∈ texts, isWhole text = true)
    {pending : List Char} (plain : '<' ∉ pending) :
    cut (pending ++ texts.flatten) = mergeTexts pending texts := by
  have cutAll := cut_flatten_append whole plain (Or.inr rfl)
  rwa [List.append_nil, cut, List.append_nil] at cutAll

/-- The pieces that were put together are whole. -/
theorem isWhole_mergeTexts {texts : List (List Char)} (whole : ∀ text ∈ texts, isWhole text = true)
    {pending : List Char} (plain : '<' ∉ pending) :
    ∀ text ∈ mergeTexts pending texts, isWhole text = true := by
  have flushed {pending : List Char} (plain : '<' ∉ pending) :
      ∀ text ∈ flush pending, isWhole text = true := by
    intro text member
    unfold flush at member
    split at member
    · simp at member
    · rw [List.mem_singleton.mp member]
      simp [isWhole, plain]
  induction texts generalizing pending with
  | nil => exact flushed plain
  | cons text rest inductionHypothesis =>
    have restWhole : ∀ other ∈ rest, isWhole other = true := fun other member =>
      whole other (List.mem_cons_of_mem text member)
    have textWhole := whole text List.mem_cons_self
    rw [mergeTexts]
    split
    · intro other member
      rcases List.mem_append.mp member with before | later
      · exact flushed plain other before
      · rcases List.mem_cons.mp later with rfl | inRest
        · exact textWhole
        · exact inductionHypothesis restWhole List.not_mem_nil other inRest
    · rename_i noMarkup
      have textPlain := not_mem_of_isWhole textWhole fun begins => noMarkup (beq_iff_eq.mpr begins)
      apply inductionHypothesis restWhole
      simp [plain, textPlain]

/-- A piece that was put together is one of the pieces, or no markup. -/
theorem mem_mergeTexts {texts : List (List Char)} {pending piece : List Char}
    (noMarkup : pending.head? ≠ some '<') (member : piece ∈ mergeTexts pending texts) :
    piece ∈ texts ∨ piece.head? ≠ some '<' := by
  have flushed {pending : List Char} (noMarkup : pending.head? ≠ some '<')
      (member : piece ∈ flush pending) : piece.head? ≠ some '<' := by
    unfold flush at member
    split at member
    · simp at member
    · rw [List.mem_singleton.mp member]
      exact noMarkup
  induction texts generalizing pending with
  | nil => exact Or.inr (flushed noMarkup member)
  | cons text rest inductionHypothesis =>
    rw [mergeTexts] at member
    split at member
    · rcases List.mem_append.mp member with before | later
      · exact Or.inr (flushed noMarkup before)
      · rcases List.mem_cons.mp later with rfl | inRest
        · exact Or.inl List.mem_cons_self
        · exact (inductionHypothesis (by simp) inRest).imp_left (List.mem_cons_of_mem text)
    · rename_i noneHere
      have bothNone : (pending ++ text).head? ≠ some '<' := by
        cases pending with
        | nil => exact fun begins => noneHere (beq_iff_eq.mpr begins)
        | cons c more => exact noMarkup
      exact (inductionHypothesis bothNone member).imp_left (List.mem_cons_of_mem text)

/-! ## Walking over pieces that were put together -/

/-- What begins with no bracket opens and closes nothing. -/
theorem bracketBy_of_head? {text : List Char} (noMarkup : text.head? ≠ some '<')
    (blank : Char → Bool) : bracketBy blank text = .neither := by
  unfold bracketBy
  split
  · exact absurd rfl noMarkup
  · rfl

theorem walkBy_flush (blank : Char → Bool) (opened : List (List Char)) {pending : List Char}
    (noMarkup : pending.head? ≠ some '<') (rest : List (List Char)) :
    walkBy (bracketBy blank) opened (flush pending ++ rest) =
      walkBy (bracketBy blank) opened rest := by
  unfold flush
  split
  · rfl
  · rw [List.singleton_append, walkBy, bracketBy_of_head? noMarkup]
    rfl

/-- A walk over pieces that were put together is the walk over the pieces. -/
theorem walkBy_mergeTexts (blank : Char → Bool) (opened : List (List Char))
    (texts : List (List Char)) {pending : List Char} (noMarkup : pending.head? ≠ some '<') :
    walkBy (bracketBy blank) opened (mergeTexts pending texts) =
      walkBy (bracketBy blank) opened texts := by
  induction texts generalizing pending opened with
  | nil =>
    rw [mergeTexts, ← List.append_nil (flush pending)]
    exact walkBy_flush blank opened noMarkup []
  | cons text rest inductionHypothesis =>
    rw [mergeTexts]
    split
    · rw [walkBy_flush blank opened noMarkup, walkBy, walkBy]
      congr 1
      funext after
      exact inductionHypothesis after (by simp)
    · rename_i noneHere
      have textNone : text.head? ≠ some '<' := fun begins => noneHere (beq_iff_eq.mpr begins)
      have bothNone : (pending ++ text).head? ≠ some '<' := by
        cases pending with
        | nil => exact textNone
        | cons c more => exact noMarkup
      rw [inductionHypothesis opened bothNone, walkBy, bracketBy_of_head? textNone]
      rfl

end FormLetter.Markup
