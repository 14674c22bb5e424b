import FormLetter.Proofs.Xml.Received

/-!
# Pieces that are taken back

What is written of names, values, tags and the other pieces of markup is taken back by the readers
of such pieces, whatever text stands behind it. Values are written without the characters that could
end them, and the references among them stand for what they were written for.
-/

namespace FormLetter.Xml

/-! ## Steps -/

/-- A step that took something goes on with it. -/
theorem bind_of_eq_ok {ε α β : Type} {taken : Except ε α} {value : α} (done : taken = .ok value)
    (next : α → Except ε β) : (taken >>= next) = next value := by
  rw [done]
  rfl

theorem map_of_eq_ok {ε α β : Type} {taken : Except ε α} {value : α} (done : taken = .ok value)
    (change : α → β) : taken.map change = .ok (change value) := by
  rw [done]
  rfl

/-! ## Marks and names -/

theorem after?_append (mark : String) (rest : List Char) :
    after? mark (mark.toList ++ rest) = some rest := by
  unfold after?
  rw [if_pos (List.isPrefixOf_iff_prefix.mpr (List.prefix_append _ _)), List.drop_left]

theorem expect_append (mark : String) (rest : List Char) :
    expect mark (mark.toList ++ rest) = .ok ((), rest) := by
  unfold expect
  rw [after?_append]

/-- A text does not begin with a mark that has another character in the second place. -/
theorem after?_eq_none {mark : String} {begins second : Char} {others : List Char}
    (isMark : mark.toList = begins :: second :: others) {first c : Char} (differs : second ≠ c)
    (rest : List Char) : after? mark (first :: c :: rest) = none := by
  unfold after?
  rw [isMark, List.isPrefixOf, List.isPrefixOf, beq_eq_false_iff_ne.mpr differs, Bool.false_and,
    Bool.and_false, if_neg Bool.false_ne_true]

/-- A text is split where the mark that ends it follows. -/
theorem splitAt?_of_isEndedBy {mark text : List Char} (found : mark ≠ [])
    (ended : isEndedBy mark text = true) (after : List Char) :
    splitAt? mark (text ++ mark ++ after) = some (text, after) := by
  induction text with
  | nil =>
    obtain ⟨first, others, rfl⟩ := List.exists_cons_of_ne_nil found
    rw [List.nil_append, List.cons_append, splitAt?, if_pos, ← List.cons_append, List.drop_left]
    exact List.isPrefixOf_iff_prefix.mpr (List.prefix_append (first :: others) after)
  | cons c rest ih =>
    simp only [isEndedBy, Bool.and_eq_true, Bool.not_eq_true'] at ended
    rw [List.cons_append, List.cons_append, splitAt?, if_neg, ih ended.2, Option.map_some]
    intro begins
    -- The mark is not longer than the text with the mark behind it, so it would begin there.
    have shorter : mark <+: c :: (rest ++ mark) :=
      List.prefix_of_prefix_length_le (List.isPrefixOf_iff_prefix.mp begins)
        (List.prefix_append (c :: (rest ++ mark)) after) (by simp; omega)
    exact Bool.false_ne_true (ended.1.symm.trans (List.isPrefixOf_iff_prefix.mpr shorter))

theorem takeThrough_append {mark : String} {text : List Char} (found : mark.toList ≠ [])
    (valid : IsValid text) (ended : isEndedBy mark.toList text = true) (rest : List Char) :
    takeThrough mark (text ++ mark.toList ++ rest) = .ok (text, rest) := by
  unfold takeThrough
  rw [splitAt?_of_isEndedBy found ended]
  dsimp only
  rw [if_pos (List.all_eq_true.mpr valid)]

/-- What begins with no character of names. -/
def EndsName (rest : List Char) : Prop := ∀ c ∈ rest.head?, isNameRest c = false

theorem takeWhile_of_endsName {name rest : List Char}
    (named : ∀ c ∈ name, isNameRest c = true) (ends : EndsName rest) :
    (name ++ rest).takeWhile isNameRest = name ∧ (name ++ rest).dropWhile isNameRest = rest := by
  rw [List.takeWhile_append_of_pos named, List.dropWhile_append_of_pos named]
  cases rest with
  | nil => exact ⟨List.append_nil _, rfl⟩
  | cons c rest =>
    have differs : ¬ isNameRest c = true := by rw [ends c rfl]; exact Bool.false_ne_true
    rw [List.takeWhile_cons_of_neg differs, List.dropWhile_cons_of_neg differs, List.append_nil]
    exact ⟨rfl, rfl⟩

theorem takeName_append {name : String} (named : isName name.toList = true) {rest : List Char}
    (ends : EndsName rest) : takeName (name.toList ++ rest) = .ok (name, rest) := by
  rcases whole : name.toList with _ | ⟨first, others⟩
  · rw [whole] at named
    cases named
  · rw [whole] at named
    simp only [isName, Bool.and_eq_true, List.all_eq_true] at named
    obtain ⟨taken, left⟩ := takeWhile_of_endsName named.2 ends
    rw [List.cons_append, takeName, if_pos named.1, taken, left, ← whole, String.ofList_toList]

/-! ## References -/

/-- The character that a reference stands for in any document. -/
def Reference.char? : Reference → Option Char
  | .character c => some c
  | .entity name => predefined? name

/-- A written form that is a reference to a character. -/
def RefersTo (c : Char) (written : List Char) : Prop :=
  ∃ code reference, written = '&' :: code ∧ reference.char? = some c ∧
    ∀ rest, takeReference (code ++ rest) = .ok (reference, rest)

/-- What a reference takes is shorter than the text that it begins. -/
theorem length_lt_of_takeReference {code rest : List Char} {reference : Reference}
    (taken : ∀ rest, takeReference (code ++ rest) = .ok (reference, rest)) :
    rest.length < (code ++ rest).length := by
  cases code with
  | nil => cases taken []
  | cons c others =>
    rw [List.length_append, List.length_cons]
    omega

/-- In text a character stands for itself or is referred to. -/
theorem escapeTextChar_cases (c : Char) :
    RefersTo c (escapeTextChar c) ∨ escapeTextChar c = [c] ∧ c ≠ '&' ∧ c ≠ '<' ∧ c ≠ '>' := by
  unfold escapeTextChar
  split
  · exact .inl ⟨"amp;".toList, .entity "amp", rfl, rfl, fun rest => rfl⟩
  · exact .inl ⟨"lt;".toList, .entity "lt", rfl, rfl, fun rest => rfl⟩
  · exact .inl ⟨"gt;".toList, .entity "gt", rfl, rfl, fun rest => rfl⟩
  · exact .inl ⟨"#13;".toList, .character '\r', rfl, rfl, fun rest => rfl⟩
  · rename_i notAmpersand notOpening notClosing _
    exact .inr ⟨rfl, notAmpersand, notOpening, notClosing⟩

/-- In values a character stands for itself or is referred to. White space is referred to, but for
blanks. -/
theorem escapeValueChar_cases (c : Char) :
    RefersTo c (escapeValueChar c) ∨ escapeValueChar c = [c] ∧ c ≠ '&' ∧ c ≠ '<' ∧ c ≠ '"' ∧
      (isSpace c = true → c = ' ') := by
  unfold escapeValueChar
  split
  · exact .inl ⟨"amp;".toList, .entity "amp", rfl, rfl, fun rest => rfl⟩
  · exact .inl ⟨"lt;".toList, .entity "lt", rfl, rfl, fun rest => rfl⟩
  · exact .inl ⟨"gt;".toList, .entity "gt", rfl, rfl, fun rest => rfl⟩
  · exact .inl ⟨"quot;".toList, .entity "quot", rfl, rfl, fun rest => rfl⟩
  · exact .inl ⟨"#9;".toList, .character '\t', rfl, rfl, fun rest => rfl⟩
  · exact .inl ⟨"#10;".toList, .character '\n', rfl, rfl, fun rest => rfl⟩
  · exact .inl ⟨"#13;".toList, .character '\r', rfl, rfl, fun rest => rfl⟩
  · rename_i notAmpersand notOpening _ notQuote notTab notBreak notReturn
    refine .inr ⟨rfl, notAmpersand, notOpening, notQuote, fun isBlank => ?_⟩
    simp only [isSpace, Bool.or_eq_true, beq_iff_eq] at isBlank
    rcases isBlank with ((isBlank | isTab) | isBreak) | isReturn
    · exact isBlank
    · exact absurd isTab notTab
    · exact absurd isBreak notBreak
    · exact absurd isReturn notReturn

/-! ## Values -/

theorem valid_escapeValueChar {c : Char} (valid : isChar c = true) :
    IsValid (escapeValueChar c) := by
  unfold escapeValueChar
  split
  case h_8 => exact List.forall_mem_singleton.mpr valid
  all_goals exact List.all_eq_true.mp (by decide)

theorem valid_escapeValue {value : String} (valid : IsValid value.toList) :
    IsValid (escapeValue value) := by
  intro c member
  obtain ⟨given, isGiven, written⟩ := List.mem_flatMap.mp member
  exact valid_escapeValueChar (valid given isGiven) c written

/-- The written form of a value holds neither a quote nor the beginning of a tag. -/
theorem not_mem_escapeValue_of {value : String} {mark : Char} (isMark : mark = '"' ∨ mark = '<') :
    mark ∉ escapeValue value := by
  intro member
  obtain ⟨given, -, written⟩ := List.mem_flatMap.mp member
  unfold escapeValueChar at written
  split at written
  case h_8 =>
    rename_i notOpening _ notQuote _ _ _
    rw [List.mem_singleton.mp written] at isMark
    exact isMark.elim notQuote notOpening
  all_goals
    revert written
    rcases isMark with rfl | rfl <;> decide

/-- A mark of one character ends what does not hold it. -/
theorem isEndedBy_singleton {mark : Char} {text : List Char} (free : mark ∉ text) :
    isEndedBy [mark] text = true := by
  induction text with
  | nil => rfl
  | cons c rest ih =>
    rw [List.mem_cons, not_or] at free
    rw [isEndedBy, List.isPrefixOf, beq_eq_false_iff_ne.mpr free.1, Bool.false_and, Bool.not_false,
      Bool.true_and]
    exact ih free.2

theorem attributeValueOf?_reference (doctype : Doctype) (inside : List Char → Option (List Char))
    {c : Char} {written : List Char} (refers : RefersTo c written) (rest : List Char) :
    attributeValueOf? doctype inside (written ++ rest)
      = (attributeValueOf? doctype inside rest).map (c :: ·) := by
  obtain ⟨code, reference, rfl, stands, taken⟩ := refers
  rw [List.cons_append, attributeValueOf?, taken]
  dsimp only
  rw [dif_pos (length_lt_of_takeReference taken)]
  cases reference with
  | character d =>
    cases stands
    rfl
  | entity name =>
    dsimp only [Reference.char?] at stands
    dsimp only
    rw [stands]
    rfl

/-- The value of an attribute is read as it was before it was written. -/
theorem attributeValueOf?_escape (doctype : Doctype) (inside : List Char → Option (List Char))
    (value : List Char) :
    attributeValueOf? doctype inside (value.flatMap escapeValueChar) = some value := by
  induction value with
  | nil => rw [List.flatMap_nil, attributeValueOf?]
  | cons c rest ih =>
    rw [List.flatMap_cons]
    rcases escapeValueChar_cases c with refers | ⟨itself, notAmpersand, notOpening, -, blank⟩
    · rw [attributeValueOf?_reference doctype inside refers, ih, Option.map_some]
    · rw [itself, List.singleton_append, attributeValueOf?, ih, Option.map_some]
      · split
        · rename_i isBlank
          rw [blank isBlank]
        · rfl
      · exact notAmpersand
      · exact notOpening

theorem attributeValue?_escape (doctype : Doctype) (nesting : Nat) (value : String) :
    attributeValue? doctype nesting (escapeValue value) = some value.toList := by
  cases nesting <;> exact attributeValueOf?_escape doctype _ value.toList

/-- Attributes as they stand in a tag. -/
def escapeValues (attributes : List (String × String)) : List (String × List Char) :=
  attributes.map fun given => (given.1, escapeValue given.2)

/-- The attributes of an element are read as they were before they were written. -/
theorem attributeValues?_escape (element : String) (attributes : List (String × String)) :
    attributeValues? .empty element (escapeValues attributes) = some attributes := by
  induction attributes with
  | nil => rfl
  | cons given rest ih =>
    unfold escapeValues at ih ⊢
    rw [List.map_cons, attributeValues?, attributeValue?_escape, ih]
    have same : String.ofList given.2.toList = given.2 := String.ofList_toList
    change some ((given.1, String.ofList given.2.toList) :: rest) = _
    rw [same]

/-! ## Tags -/

theorem takeQuoted_append {text : List Char} (valid : IsValid text) (free : '"' ∉ text)
    (rest : List Char) : takeQuoted ('"' :: (text ++ '"' :: rest)) = .ok (text, rest) := by
  have ended : isEndedBy "\"".toList text = true := isEndedBy_singleton free
  have taken := takeThrough_append (by decide) valid ended rest
  rw [List.append_assoc] at taken
  exact taken

theorem skipSpace_cons {c : Char} (stays : isSpace c = false) (rest : List Char) :
    skipSpace (c :: rest) = c :: rest :=
  List.dropWhile_cons_of_neg (by rw [stays]; exact Bool.false_ne_true)

/-- White space is skipped once. -/
theorem expectSpace_blank {text : List Char} (starts : startsBlank text = false) :
    expectSpace (' ' :: text) = .ok ((), text) := by
  have isBlank : startsBlank (' ' :: text) = true := rfl
  have skipped : skipSpace (' ' :: text) = text := by
    change skipSpace text = text
    cases text with
    | nil => rfl
    | cons c rest => exact skipSpace_cons starts rest
  unfold expectSpace
  rw [if_pos isBlank, skipped]

theorem isSpace_of_isNameRest {c : Char} (isRest : isNameRest c = true) : isSpace c = false := by
  have differs (mark : Char) (isMark : isNameRest mark = false) : (c == mark) = false :=
    beq_eq_false_iff_ne.mpr (ne_of_isNameRest isRest isMark)
  unfold isSpace
  rw [differs ' ' (by decide), differs '\t' (by decide), differs '\n' (by decide),
    differs '\r' (by decide)]
  rfl

/-- A name begins with a character that may begin one. -/
theorem exists_cons_of_isName {name : List Char} (named : isName name = true) :
    ∃ first others, name = first :: others ∧ isNameStart first = true := by
  cases name with
  | nil => cases named
  | cons first others => exact ⟨first, others, rfl, (Bool.and_eq_true _ _ ▸ named).1⟩

theorem startsBlank_name {name : List Char} (named : isName name = true) (rest : List Char) :
    startsBlank (name ++ rest) = false := by
  obtain ⟨first, others, rfl, starts⟩ := exists_cons_of_isName named
  exact isSpace_of_isNameRest (isNameRest_of_isNameStart starts)

/-- An attribute as it is written, part by part. -/
theorem printAttribute_append (name value : String) (rest : List Char) :
    printAttribute name value ++ rest
      = ' ' :: (name.toList ++ '=' :: '"' :: (escapeValue value ++ '"' :: rest)) := by
  simp [printAttribute]

theorem takeAttribute_append {name value : String} (named : isName name.toList = true)
    (valid : IsValid value.toList) (rest : List Char) :
    takeAttribute (printAttribute name value ++ rest) = .ok ((name, escapeValue value), rest) := by
  have quoted := takeQuoted_append (valid_escapeValue valid) (not_mem_escapeValue_of (.inl rfl)) rest
  have free : (escapeValue value).contains '<' = false := by
    rw [List.contains_eq_mem, decide_eq_false_iff_not]
    exact not_mem_escapeValue_of (.inr rfl)
  have equals (after : List Char) : expect "=" (skipSpace ('=' :: after)) = .ok ((), after) :=
    expect_append "=" after
  have ends : EndsName ('=' :: '"' :: (escapeValue value ++ '"' :: rest)) := by
    rintro _ ⟨⟩
    decide
  rw [printAttribute_append]
  unfold takeAttribute
  rw [bind_of_eq_ok (expectSpace_blank (startsBlank_name named _))]
  dsimp only
  rw [bind_of_eq_ok (takeName_append named ends)]
  dsimp only
  rw [bind_of_eq_ok (equals _)]
  dsimp only
  rw [skipSpace_cons (by decide), bind_of_eq_ok quoted]
  dsimp only
  rw [free, if_neg Bool.false_ne_true]
  rfl

theorem takeAttributes_cons {name value : String} (named : isName name.toList = true)
    (valid : IsValid value.toList) {after rest : List Char} {attributes : List (String × List Char)}
    {isEmpty : Bool} (taken : takeAttributes after = .ok ((attributes, isEmpty), rest)) :
    takeAttributes (printAttribute name value ++ after)
      = .ok (((name, escapeValue value) :: attributes, isEmpty), rest) := by
  have shorter : after.length < (printAttribute name value ++ after).length := by
    simp only [printAttribute, List.length_append, List.length_cons]
    omega
  have begins : ∃ c more, skipSpace (printAttribute name value ++ after) = c :: more
      ∧ isNameStart c = true := by
    obtain ⟨first, others, isFirst, starts⟩ := exists_cons_of_isName named
    rw [printAttribute_append, isFirst]
    exact ⟨first, others ++ _, skipSpace_cons
      (isSpace_of_isNameRest (isNameRest_of_isNameStart starts)) _, starts⟩
  obtain ⟨c, more, isBegin, starts⟩ := begins
  rw [takeAttributes, isBegin, takeAttribute_append named valid]
  split
  · rename_i same
    cases same
    cases starts
  · rename_i same
    cases same
    cases starts
  · dsimp only
    rw [dif_pos shorter, map_of_eq_ok taken]

/-- What stands behind the attributes of a tag ends the last of them. -/
theorem takeAttributes_append {attributes : List (String × String)}
    (named : ∀ given ∈ attributes, isName given.1.toList = true)
    (valid : ∀ given ∈ attributes, IsValid given.2.toList) {ending rest : List Char} {isEmpty : Bool}
    (ends : takeAttributes ending = .ok (([], isEmpty), rest)) :
    takeAttributes ((attributes.flatMap fun given => printAttribute given.1 given.2) ++ ending)
      = .ok ((escapeValues attributes, isEmpty), rest) := by
  induction attributes with
  | nil => exact ends
  | cons given others ih =>
    rw [List.forall_mem_cons] at named valid
    rw [List.flatMap_cons, List.append_assoc]
    exact takeAttributes_cons named.1 valid.1 (ih named.2 valid.2)

theorem takeAttributes_closing (rest : List Char) :
    takeAttributes ('>' :: rest) = .ok (([], false), rest) := by
  rw [takeAttributes, skipSpace_cons (by decide)]
  rfl

theorem takeAttributes_empty (rest : List Char) :
    takeAttributes ('/' :: '>' :: rest) = .ok (([], true), rest) := by
  rw [takeAttributes, skipSpace_cons (by decide)]
  rfl

/-! ## Markup -/

theorem takeMarkup_comment {value : List Char} (stands : Enclosable "--" value) (rest : List Char) :
    takeMarkup ("<!--".toList ++ value ++ "-->".toList ++ rest) = .ok (.comment value, rest) := by
  have hyphens : takeThrough "--" (value ++ "--".toList ++ '>' :: rest) = .ok (value, '>' :: rest) :=
    takeThrough_append (by decide) stands.valid stands.ended ('>' :: rest)
  have bracket : expect ">" ('>' :: rest) = .ok ((), rest) := expect_append ">" rest
  have taken : takeComment (value ++ "--".toList ++ '>' :: rest) = .ok (value, rest) := by
    unfold takeComment
    rw [bind_of_eq_ok hyphens]
    dsimp only
    rw [bind_of_eq_ok bracket]
    rfl
  have whole : "<!--".toList ++ value ++ "-->".toList ++ rest
      = "<!--".toList ++ (value ++ "--".toList ++ '>' :: rest) := by simp
  rw [whole]
  unfold takeMarkup
  rw [after?_append]
  exact map_of_eq_ok taken _

/-- The written form of an instruction. -/
theorem printNode_instruction (target : String) (value : Option (List Char)) :
    printNode (.instruction target value) = "<?".toList ++ (target.toList
      ++ ((value.map (' ' :: ·)).getD [] ++ "?>".toList)) := by
  cases value <;> simp [printNode]

theorem takeInstruction_append {target : String} {value : Option (List Char)}
    (named : isName target.toList = true) (isFree : (target.toLower == "xml") = false)
    (stands : ∀ text ∈ value, Enclosable "?>" text ∧ startsBlank text = false) (rest : List Char) :
    takeInstruction (target.toList ++ ((value.map (' ' :: ·)).getD [] ++ "?>".toList ++ rest))
      = .ok ((target, value), rest) := by
  have ends : EndsName ((value.map (' ' :: ·)).getD [] ++ "?>".toList ++ rest) := by
    cases value <;> · rintro _ ⟨⟩; decide
  unfold takeInstruction
  rw [bind_of_eq_ok (takeName_append named ends)]
  dsimp only
  rw [isFree, if_neg Bool.false_ne_true]
  cases value with
  | none =>
    have closes : after? "?>" (((none : Option (List Char)).map (' ' :: ·)).getD []
      ++ "?>".toList ++ rest) = some rest := after?_append "?>" rest
    rw [closes]
    rfl
  | some text =>
    obtain ⟨enclosable, starts⟩ := stands text rfl
    have through := takeThrough_append (by decide) enclosable.valid enclosable.ended rest
    have starts : startsBlank (text ++ "?>".toList ++ rest) = false := by
      cases text with
      | nil => rfl
      | cons c others => exact starts
    have open_ : after? "?>" (' ' :: (text ++ "?>".toList ++ rest)) = none := rfl
    rw [Option.map_some, Option.getD_some, List.cons_append, List.cons_append, open_]
    dsimp only
    rw [bind_of_eq_ok (expectSpace_blank starts)]
    dsimp only
    rw [bind_of_eq_ok through]
    rfl

theorem takeMarkup_instruction {target : String} {value : Option (List Char)}
    (named : isName target.toList = true) (isFree : (target.toLower == "xml") = false)
    (stands : ∀ text ∈ value, Enclosable "?>" text ∧ startsBlank text = false) (rest : List Char) :
    takeMarkup (printNode (.instruction target value) ++ rest)
      = .ok (.instruction target value, rest) := by
  have taken := takeInstruction_append named isFree stands rest
  have comment (after : List Char) : after? "<!--" ("<?".toList ++ after) = none :=
    after?_eq_none rfl (by decide) after
  have literal (after : List Char) : after? "<![CDATA[" ("<?".toList ++ after) = none :=
    after?_eq_none rfl (by decide) after
  have doctype (after : List Char) : after? "<!DOCTYPE" ("<?".toList ++ after) = none :=
    after?_eq_none rfl (by decide) after
  rw [printNode_instruction, List.append_assoc, List.append_assoc]
  unfold takeMarkup
  rw [comment, literal, doctype, after?_append]
  exact map_of_eq_ok taken _

theorem takeMarkup_closing {name : String} (named : isName name.toList = true) (rest : List Char) :
    takeMarkup ("</".toList ++ (name.toList ++ '>' :: rest)) = .ok (.closing name, rest) := by
  have comment (after : List Char) : after? "<!--" ("</".toList ++ after) = none :=
    after?_eq_none rfl (by decide) after
  have literal (after : List Char) : after? "<![CDATA[" ("</".toList ++ after) = none :=
    after?_eq_none rfl (by decide) after
  have doctype (after : List Char) : after? "<!DOCTYPE" ("</".toList ++ after) = none :=
    after?_eq_none rfl (by decide) after
  have instruction (after : List Char) : after? "<?" ("</".toList ++ after) = none :=
    after?_eq_none rfl (by decide) after
  have ends : EndsName ('>' :: rest) := by
    rintro _ ⟨⟩
    decide
  have bracket : expect ">" (skipSpace ('>' :: rest)) = .ok ((), rest) := expect_append ">" rest
  unfold takeMarkup
  rw [comment, literal, doctype, instruction, after?_append]
  dsimp only
  rw [bind_of_eq_ok (takeName_append named ends)]
  dsimp only
  rw [bind_of_eq_ok bracket]
  rfl

/-- The item of a tag that opens an element. -/
def Tag.item (tag : Tag) (isEmpty : Bool) : Item :=
  .opening tag.name.written (escapeValues tag.written) isEmpty

theorem takeMarkup_opening {scope : List Declaration} {tag : Tag} (sound : tag.Sound scope)
    {ending rest : List Char} {isEmpty : Bool} (ends : EndsName ending)
    (closes : takeAttributes ending = .ok (([], isEmpty), rest)) :
    takeMarkup (printTag tag ++ ending) = .ok (tag.item isEmpty, rest) := by
  obtain ⟨first, others, isName, starts⟩ := exists_cons_of_isName sound.named
  have taken := takeAttributes_append sound.attributesNamed sound.valid closes
  have attached : EndsName
      ((tag.written.flatMap fun given => printAttribute given.1 given.2) ++ ending) := by
    cases tag.written with
    | nil => exact ends
    | cons => rintro _ ⟨⟩; decide
  have differs {mark : Char} (isMark : isNameStart mark = false) : mark ≠ first := by
    rintro rfl
    exact Bool.false_ne_true (isMark.symm.trans starts)
  have other (mark : String) {second : Char} {more : List Char}
      (isMark : mark.toList = '<' :: second :: more) (foreign : isNameStart second = false)
      (after : List Char) : after? mark ('<' :: (tag.name.written.toList ++ after)) = none := by
    rw [isName]
    exact after?_eq_none isMark (differs foreign) _
  have bracket (after : List Char) : expect "<" ('<' :: after) = .ok ((), after) :=
    expect_append "<" after
  rw [printTag_eq, List.append_assoc, List.cons_append]
  unfold takeMarkup
  rw [other "<!--" rfl (by decide), other "<![CDATA[" rfl (by decide),
    other "<!DOCTYPE" rfl (by decide), other "<?" rfl (by decide), other "</" rfl (by decide)]
  dsimp only
  rw [bind_of_eq_ok (bracket _)]
  dsimp only
  rw [bind_of_eq_ok (takeName_append sound.named attached)]
  dsimp only
  rw [bind_of_eq_ok taken]
  rfl

end FormLetter.Xml
