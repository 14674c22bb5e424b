import FormLetter.Proofs.Markup.Decoding
import FormLetter.Proofs.Xml.Sound

/-!
# The style that a printed span names

The style of a span is searched for in the text of its tag: the first white space with the name of
the attribute and an equals sign behind it, and a value in quotes behind those. The search does not
know where attributes begin and end. A printed tag has its values between quotes, with every quote,
bracket and line end inside written as a reference, and what is found there is decoded to the value
that was printed.

So the search is led astray in two ways only. One kind of white space may stand in names, and what
follows it may be the name that is searched for. And a value may hold white space, the name, an
equals sign and an apostrophe that is closed later, or end behind the equals sign, so that the quote
that ends the value seems to open one. An attribute that does one of these imitates the one that
names the style; when none does so before that one, the style of the tag is found.
-/

namespace FormLetter.Markup

open FormLetter.Text
open FormLetter.Xml

/-- The name of the attribute that names the style of a span. -/
def styleName : String := "text:style-name"

theorem styleAttribute_eq : styleAttribute = styleName.toList ++ ['='] := by decide

/-! ## Attributes that are taken for another -/

/-- True for a name that ends with white space and the name that is searched for. -/
def endsAsStyle : List Char → Bool
  | [] => false
  | c :: rest => isBlank c && rest == styleName.toList || endsAsStyle rest

/-- True when the end of a value seems to begin a quoted one: the quote that ends the value opens
it, and there is another quote in what follows, or an apostrophe does and there is another one. -/
def looksQuoted (later : List (String × String)) : List Char → Bool
  | [] => !later.isEmpty
  | c :: rest =>
    c == '\'' && (rest.contains '\'' || later.any fun given => given.2.toList.contains '\'')

/-- True for a value in which an attribute with a style is found. Tabs and line ends are written as
references, so they do not count as white space. -/
def holdsStyle (later : List (String × String)) : List Char → Bool
  | [] => false
  | c :: rest =>
    isBlank c && escapeValueChar c == [c] && styleAttribute.isPrefixOf rest
        && looksQuoted later (rest.drop styleAttribute.length)
      || holdsStyle later rest

/-- True for an attribute that is taken for the one that names the style, with the attributes behind
it. -/
def imitates (given : String × String) (later : List (String × String)) : Bool :=
  endsAsStyle given.1.toList || holdsStyle later given.2.toList

/-- True when no attribute before the one that names the style imitates it, or none at all if there
is no such attribute. -/
def isUndisguised : List (String × String) → Bool
  | [] => true
  | given :: later => given.1 == styleName || !imitates given later && isUndisguised later

/-! ## Written values -/

/-- A value is decoded to what it was written for. -/
theorem decode_escapeValueChar (c : Char) (rest : List Char) :
    Entity.decode (escapeValueChar c ++ rest) = c :: Entity.decode rest := by
  have quote : Entity.named? "quot".toList = some ['"'] := by decide
  have numbered (digits : List Char) {n : Nat} (number : Entity.numeric? (digits ++ ';' :: rest)
      = some ([Char.ofNat n], digits.length + 2)) :
      Entity.decode ('&' :: '#' :: (digits ++ ';' :: rest))
        = Char.ofNat n :: Entity.decode rest := by
    have isReference : Entity.reference? ('#' :: (digits ++ ';' :: rest))
        = some ([Char.ofNat n], digits.length + 2) := number
    rw [Entity.decode]
    simp only [beq_self_eq_true, if_true, isReference]
    simp
  unfold escapeValueChar
  split
  · exact decode_referenceForm '&' rest
  · exact decode_referenceForm '<' rest
  · exact decode_referenceForm '>' rest
  · exact decode_named quote (by decide) (by decide) rest
  · exact numbered ['9'] (n := 9) rfl
  · exact numbered ['1', '0'] (n := 10) rfl
  · exact numbered ['1', '3'] (n := 13) rfl
  · rename_i noAmpersand _ _ _ _ _ _
    rw [List.singleton_append, Entity.decode, if_neg (by simpa using noAmpersand)]

theorem decode_escapeValue (value : String) :
    Entity.decode (escapeValue value) = value.toList := by
  unfold escapeValue
  induction value.toList with
  | nil => simp [Entity.decode]
  | cons c rest ih => rw [List.flatMap_cons, decode_escapeValueChar, ih]

/-- A character is written as itself, or as a reference without white space and apostrophes. -/
theorem escapeValueChar_cases (c : Char) :
    escapeValueChar c = [c] ∧ c ≠ '&' ∧ c ≠ '"' ∨
      (∃ reference, escapeValueChar c = '&' :: reference) ∧ c ≠ '\'' ∧
        ∀ d ∈ escapeValueChar c, isBlank d = false ∧ d ≠ '\'' ∧ d ≠ '"' := by
  unfold escapeValueChar
  split
  case h_8 =>
    rename_i noAmpersand _ _ noQuote _ _ _
    exact .inl ⟨rfl, noAmpersand, noQuote⟩
  all_goals exact .inr ⟨⟨_, rfl⟩, by decide, by simp [isBlank]⟩

/-- A quote is never written in a value, and an apostrophe is written as itself. -/
theorem mem_escape_iff (text : List Char) :
    '"' ∉ text.flatMap escapeValueChar ∧
      ('\'' ∈ text.flatMap escapeValueChar ↔ '\'' ∈ text) := by
  induction text with
  | nil => simp
  | cons c rest ih =>
    rw [List.flatMap_cons, List.mem_append, not_or, List.mem_append, List.mem_cons, ih.2]
    rcases escapeValueChar_cases c with ⟨itself, -, noQuote⟩ | ⟨-, noApostrophe, inside⟩
    · rw [itself, List.mem_singleton, List.mem_singleton]
      exact ⟨⟨noQuote.symm, ih.1⟩, Iff.rfl⟩
    · refine ⟨⟨fun member => (inside _ member).2.2 rfl, ih.1⟩, or_congr_left ?_⟩
      exact ⟨fun member => absurd rfl (inside _ member).2.1,
        fun same => absurd same.symm noApostrophe⟩

/-- A text of characters that are written as themselves begins what is written of a value only if it
begins the value. -/
theorem isPrefixOf_escape {plain : List Char}
    (free : ∀ c ∈ plain, escapeValueChar c = [c] ∧ c ≠ '&' ∧ c ≠ '"') (text more : List Char) :
    plain.isPrefixOf (text.flatMap escapeValueChar ++ '"' :: more) = plain.isPrefixOf text := by
  induction plain generalizing text with
  | nil => simp
  | cons c others ih =>
    obtain ⟨⟨itself, noAmpersand, noQuote⟩, free⟩ := List.forall_mem_cons.mp free
    cases text with
    | nil => simp [List.isPrefixOf, noQuote]
    | cons d rest =>
      rw [List.flatMap_cons, List.append_assoc]
      rcases escapeValueChar_cases d with ⟨written, -, -⟩ | ⟨⟨reference, written⟩, -, -⟩
      · rw [written, List.singleton_append, List.isPrefixOf, List.isPrefixOf, ih free]
      · have differs : c ≠ d := by
          rintro rfl
          rw [written, List.cons.injEq] at itself
          exact noAmpersand itself.1.symm
        rw [written, List.cons_append, List.isPrefixOf, List.isPrefixOf,
          beq_eq_false_iff_ne.mpr noAmpersand, beq_eq_false_iff_ne.mpr differs]
        rfl

/-! ## What stands behind an attribute -/

/-- A tag from one of its attributes on. -/
def restOfTag (given : List (String × String)) : List Char :=
  given.flatMap (fun given => printAttribute given.1 given.2) ++ ['>']

theorem restOfTag_cons (given : String × String) (later : List (String × String)) :
    restOfTag (given :: later) = ' ' :: (given.1.toList ++ '=' :: '"' ::
      (escapeValue given.2 ++ '"' :: restOfTag later)) := by
  simp [restOfTag, printAttribute]

section

variable {later : List (String × String)}

/-- There are quotes in a tag as long as there are attributes. -/
theorem contains_quote_restOfTag : (restOfTag later).contains '"' = !later.isEmpty := by
  cases later with
  | nil => decide
  | cons given others => simp [restOfTag_cons]

variable (named : ∀ given ∈ later, Xml.isName given.1.toList = true)

include named

/-- There are apostrophes in a tag only where there are some in values. -/
theorem contains_apostrophe_restOfTag :
    (restOfTag later).contains '\'' = later.any fun given => given.2.toList.contains '\'' := by
  induction later with
  | nil => decide
  | cons given others ih =>
    obtain ⟨isFirst, named⟩ := List.forall_mem_cons.mp named
    have notInName : '\'' ∉ given.1.toList := fun member =>
      ne_of_isNameRest (isNameRest_of_mem isFirst member) (by decide) rfl
    have inValue := (mem_escape_iff given.2.toList).2
    rw [List.any_cons, ← ih named, restOfTag_cons, Bool.eq_iff_iff]
    simp [notInName, escapeValue, inValue]

/-- A value seems to begin in the written form of a text exactly when the text looks quoted. -/
theorem isSome_quotedValue?_escape (text : List Char) :
    (quotedValue? (text.flatMap escapeValueChar ++ '"' :: restOfTag later)).isSome
      = looksQuoted later text := by
  cases text with
  | nil =>
    rw [looksQuoted, ← contains_quote_restOfTag]
    simp only [List.flatMap_nil, List.nil_append, quotedValue?, beq_self_eq_true, Bool.true_or,
      Bool.true_and]
    split
    · exact (‹_ = true›).symm
    · exact (Bool.eq_false_iff.mpr ‹_›).symm
  | cons c rest =>
    rw [looksQuoted, ← contains_apostrophe_restOfTag named, List.flatMap_cons, List.append_assoc]
    rcases escapeValueChar_cases c with
      ⟨itself, -, noQuote⟩ | ⟨⟨reference, written⟩, noApostrophe, -⟩
    · rw [itself, List.singleton_append, quotedValue?, beq_eq_false_iff_ne.mpr noQuote,
        Bool.false_or]
      by_cases apostrophe : c = '\''
      · subst apostrophe
        have closes : (rest.flatMap escapeValueChar ++ '"' :: restOfTag later).contains '\''
            = (rest.contains '\'' || (restOfTag later).contains '\'') := by
          rw [Bool.eq_iff_iff]
          simp [-List.mem_flatMap, (mem_escape_iff rest).2]
        rw [closes, beq_self_eq_true, Bool.true_and]
        split <;> simp_all
      · simp [apostrophe]
    · rw [written, List.cons_append, quotedValue?]
      simp [noApostrophe]

end

/-! ## Searching -/

theorem styleValue?_cons (c : Char) (rest : List Char) :
    styleValue? (c :: rest) = (styleValueAt? (c :: rest)).or (styleValue? rest) :=
  Option.orElse_eq_or

theorem styleValueAt?_of_dark {c : Char} (dark : isBlank c = false) (rest : List Char) :
    styleValueAt? (c :: rest) = none := by
  rw [styleValueAt?, dark, Bool.false_and, if_neg Bool.false_ne_true]

/-- The search goes on behind a character that is not white space. -/
theorem styleValue?_cons_of_dark {c : Char} (dark : isBlank c = false) (rest : List Char) :
    styleValue? (c :: rest) = styleValue? rest := by
  rw [styleValue?_cons, styleValueAt?_of_dark dark, Option.none_or]

/-- The search goes on behind a text without white space. -/
theorem styleValue?_append_of_dark {lead : List Char} (dark : ∀ c ∈ lead, isBlank c = false)
    (rest : List Char) : styleValue? (lead ++ rest) = styleValue? rest := by
  induction lead with
  | nil => rfl
  | cons c others ih =>
    obtain ⟨first, dark⟩ := List.forall_mem_cons.mp dark
    rw [List.cons_append, styleValue?_cons_of_dark first, ih dark]

/-- What is found somewhere behind a text keeps the search from failing. -/
theorem isSome_styleValue?_append {rest : List Char} (found : (styleValue? rest).isSome = true)
    (lead : List Char) : (styleValue? (lead ++ rest)).isSome = true := by
  induction lead with
  | nil => exact found
  | cons c others ih =>
    rw [List.cons_append, styleValue?_cons, Option.isSome_or, ih, Bool.or_true]

/-- In front of an equals sign, a style is found exactly behind its name. -/
theorem styleValueAt?_name {c : Char} {tail : List Char} (free : '=' ∉ tail) (more : List Char) :
    styleValueAt? (c :: (tail ++ '=' :: more))
      = if isBlank c && tail == styleName.toList then quotedValue? more else none := by
  have begins : styleAttribute.isPrefixOf (tail ++ '=' :: more) = (tail == styleName.toList) := by
    rw [Bool.eq_iff_iff, List.isPrefixOf_iff_prefix, beq_iff_eq]
    constructor
    · rintro ⟨after, whole⟩
      rw [styleAttribute_eq, List.append_assoc, List.singleton_append] at whole
      have upTo := congrArg (List.takeWhile (· != '=')) whole
      have name : styleName.toList.takeWhile (· != '=') = styleName.toList := by decide
      have all : tail.takeWhile (· != '=') = tail :=
        List.takeWhile_eq_self_iff.mpr fun d member =>
          bne_iff_ne.mpr fun same => free (same ▸ member)
      rw [Entity.takeWhile_of_refused (by decide), Entity.takeWhile_of_refused (by decide), name,
        all] at upTo
      exact upTo.symm
    · rintro rfl
      rw [styleAttribute_eq]
      exact ⟨more, by simp⟩
  rw [styleValueAt?, begins]
  split
  · rename_i isStyle
    rw [Bool.and_eq_true, beq_iff_eq] at isStyle
    have whole : tail ++ '=' :: more = styleAttribute ++ more := by
      rw [isStyle.2, styleAttribute_eq, List.append_assoc, List.singleton_append]
    rw [whole, List.drop_left]
  · rfl

/-- The search goes through a name. -/
theorem styleValue?_name {name : List Char} (free : '=' ∉ name) (more : List Char) :
    (endsAsStyle name = false → styleValue? (name ++ '=' :: more) = styleValue? more) ∧
      (endsAsStyle name = true → (quotedValue? more).isSome = true →
        (styleValue? (name ++ '=' :: more)).isSome = true) := by
  induction name with
  | nil =>
    refine ⟨fun _ => ?_, fun ends => absurd ends Bool.false_ne_true⟩
    rw [List.nil_append, styleValue?_cons_of_dark (by decide)]
  | cons c rest ih =>
    rw [List.mem_cons, not_or] at free
    obtain ⟨goesOn, finds⟩ := ih free.2
    rw [endsAsStyle, List.cons_append, styleValue?_cons, styleValueAt?_name free.2]
    constructor
    · intro notStyle
      rw [Bool.or_eq_false_iff] at notStyle
      rw [notStyle.1, if_neg Bool.false_ne_true, Option.none_or, goesOn notStyle.2]
    · intro isStyle quoted
      rw [Option.isSome_or, Bool.or_eq_true]
      rcases Bool.or_eq_true _ _ ▸ isStyle with here | later
      · exact .inl (by rw [if_pos here, quoted])
      · exact .inr (finds later quoted)

section

variable {later : List (String × String)}
  (named : ∀ given ∈ later, Xml.isName given.1.toList = true)

include named

/-- In a value, a style is found exactly where one is imitated. -/
theorem isSome_styleValueAt?_escape (c : Char) (rest : List Char) :
    (styleValueAt? (c :: (rest.flatMap escapeValueChar ++ '"' :: restOfTag later))).isSome
      = (isBlank c && styleAttribute.isPrefixOf rest
          && looksQuoted later (rest.drop styleAttribute.length)) := by
  have all : styleAttribute.all
      (fun c => escapeValueChar c == [c] && c != '&' && c != '"') = true := by rfl
  have plain : ∀ c ∈ styleAttribute, escapeValueChar c = [c] ∧ c ≠ '&' ∧ c ≠ '"' := by
    simpa only [List.all_eq_true, Bool.and_eq_true, beq_iff_eq, bne_iff_ne, and_assoc] using all
  rw [styleValueAt?, isPrefixOf_escape plain]
  split
  · rename_i begins
    rw [begins, Bool.true_and, ← isSome_quotedValue?_escape named]
    rw [Bool.and_eq_true, List.isPrefixOf_iff_prefix] at begins
    obtain ⟨tail, rfl⟩ := begins.2
    have itself : styleAttribute.flatMap escapeValueChar = styleAttribute := by decide
    rw [List.flatMap_append, itself, List.append_assoc, List.drop_left, List.drop_left]
  · rename_i never
    rw [Bool.eq_false_iff.mpr never, Bool.false_and]
    rfl

/-- The search goes through a value. -/
theorem styleValue?_escape (text : List Char) :
    (holdsStyle later text = false →
      styleValue? (text.flatMap escapeValueChar ++ '"' :: restOfTag later)
        = styleValue? (restOfTag later)) ∧
    (holdsStyle later text = true →
      (styleValue? (text.flatMap escapeValueChar ++ '"' :: restOfTag later)).isSome = true) := by
  induction text with
  | nil =>
    refine ⟨fun _ => ?_, fun holds => absurd holds Bool.false_ne_true⟩
    exact styleValue?_cons_of_dark (by decide) _
  | cons c rest ih =>
    obtain ⟨goesOn, finds⟩ := ih
    rw [holdsStyle, List.flatMap_cons, List.append_assoc]
    rcases escapeValueChar_cases c with ⟨itself, -, -⟩ | ⟨⟨reference, written⟩, -, dark⟩
    · have here := isSome_styleValueAt?_escape named c rest
      rw [itself, List.singleton_append, styleValue?_cons, beq_self_eq_true,
        Bool.and_true, ← here]
      constructor
      · intro nowhere
        rw [Bool.or_eq_false_iff, Option.isSome_eq_false_iff, Option.isNone_iff_eq_none] at nowhere
        rw [nowhere.1, Option.none_or, goesOn nowhere.2]
      · intro somewhere
        rw [Option.isSome_or, Bool.or_eq_true]
        exact (Bool.or_eq_true _ _ ▸ somewhere).imp_right finds
    · -- A reference holds no white space, so nothing is found in it.
      have differs : (escapeValueChar c == [c]) = false := by
        rw [beq_eq_false_iff_ne]
        intro itself
        have blank := dark c (itself ▸ List.mem_singleton_self c)
        rw [written, List.cons.injEq] at itself
        have reference : escapeValueChar '&' = "&amp;".toList := rfl
        rw [← itself.1, reference] at written
        exact absurd (List.cons.inj written).2.symm (by rw [itself.2]; decide)
      rw [differs, Bool.and_false, Bool.false_and, Bool.false_and, Bool.false_or,
        styleValue?_append_of_dark fun d member => (dark d member).1]
      exact ⟨goesOn, finds⟩

end

section

variable {given : String × String} {later : List (String × String)}

/-- The attribute that names the style is found. -/
theorem styleValue?_own (own : given.1 = styleName) :
    styleValue? (restOfTag (given :: later)) = some (escapeValue given.2) := by
  have free : '=' ∉ styleName.toList := by decide
  have quoted : quotedValue? ('"' :: (escapeValue given.2 ++ '"' :: restOfTag later))
      = some (escapeValue given.2) := by
    have inside : ∀ c ∈ escapeValue given.2, (c != '"') = true := by
      intro c member
      rw [bne_iff_ne]
      rintro rfl
      exact (mem_escape_iff given.2.toList).1 member
    rw [quotedValue?, List.takeWhile_append_of_pos inside]
    simp
  have blank : isBlank ' ' = true := by decide
  rw [restOfTag_cons, own, styleValue?_cons, styleValueAt?_name free, blank, beq_self_eq_true,
    Bool.true_and, if_pos rfl, quoted]
  rfl

/-- Another attribute is passed unless it imitates that one. -/
theorem styleValue?_other (named : ∀ other ∈ given :: later, Xml.isName other.1.toList = true)
    (other : given.1 ≠ styleName) :
    (imitates given later = false →
      styleValue? (restOfTag (given :: later)) = styleValue? (restOfTag later)) ∧
    (imitates given later = true →
      (styleValue? (restOfTag (given :: later))).isSome = true) := by
  obtain ⟨isFirst, laterNamed⟩ := List.forall_mem_cons.mp named
  have free : '=' ∉ given.1.toList := fun member =>
    ne_of_isNameRest (isNameRest_of_mem isFirst member) (by decide) rfl
  have notHere : (given.1.toList == styleName.toList) = false :=
    beq_eq_false_iff_ne.mpr fun same => other (String.toList_inj.mp same)
  obtain ⟨passesName, findsName⟩ := styleValue?_name free
    ('"' :: (escapeValue given.2 ++ '"' :: restOfTag later))
  obtain ⟨passesValue, findsValue⟩ := styleValue?_escape laterNamed given.2.toList
  have opens (rest : List Char) : styleValue? ('"' :: rest) = styleValue? rest :=
    styleValue?_cons_of_dark (by decide) rest
  rw [restOfTag_cons, styleValue?_cons, styleValueAt?_name free, notHere, Bool.and_false,
    if_neg Bool.false_ne_true, Option.none_or, imitates]
  constructor
  · intro plain
    rw [Bool.or_eq_false_iff] at plain
    rw [passesName plain.1, opens]
    exact passesValue plain.2
  · intro imitating
    rcases Bool.or_eq_true _ _ ▸ imitating with inName | inValue
    · refine findsName inName ?_
      simp [quotedValue?]
    · have found := isSome_styleValue?_append (findsValue inValue) (given.1.toList ++ ['=', '"'])
      simpa [escapeValue] using found

end

/-- The style that is found among the attributes of a tag, as long as none is imitated. -/
theorem styleValue?_restOfTag {written : List (String × String)}
    (named : ∀ given ∈ written, Xml.isName given.1.toList = true)
    (plain : isUndisguised written = true) :
    styleValue? (restOfTag written) = (written.lookup styleName).map escapeValue := by
  induction written with
  | nil => decide
  | cons given later ih =>
    rw [isUndisguised, Bool.or_eq_true, beq_iff_eq] at plain
    by_cases own : given.1 = styleName
    · rw [styleValue?_own own, ← own, List.lookup_cons_self]
      rfl
    · have rest := plain.resolve_left own
      rw [Bool.and_eq_true, Bool.not_eq_true'] at rest
      have differs : (styleName == given.1) = false :=
        beq_eq_false_iff_ne.mpr fun same => own same.symm
      rw [(styleValue?_other named own).1 rest.1, List.lookup_cons, differs,
        ih (List.forall_mem_cons.mp named).2 rest.2]

/-- In a tag without a style, one is found exactly when an attribute imitates it. -/
theorem isSome_styleValue?_iff {written : List (String × String)}
    (named : ∀ given ∈ written, Xml.isName given.1.toList = true)
    (absent : ∀ given ∈ written, given.1 ≠ styleName) :
    (styleValue? (restOfTag written)).isSome = true ↔ isUndisguised written = false := by
  induction written with
  | nil => decide
  | cons given later ih =>
    obtain ⟨other, absent⟩ := List.forall_mem_cons.mp absent
    obtain ⟨passes, finds⟩ := styleValue?_other named other
    rw [isUndisguised, beq_eq_false_iff_ne.mpr other, Bool.false_or]
    cases imitating : imitates given later with
    | false => rw [passes imitating, ih (List.forall_mem_cons.mp named).2 absent]; simp
    | true => simp [finds imitating]

/-- The style of a printed span is the value of the attribute that names it, and none without one,
when no attribute before it imitates it. A tag without a style needs this: in it, one is found
exactly when some attribute imitates it. -/
theorem spanStyle?_printTag {tag : Tag} (isSpan : tag.name.written = "text:span")
    (named : ∀ given ∈ tag.written, Xml.isName given.1.toList = true) :
    (isUndisguised tag.written = true →
      spanStyle? (printTag tag ++ ['>']) = tag.written.lookup styleName) ∧
    ((∀ given ∈ tag.written, given.1 ≠ styleName) →
      (spanStyle? (printTag tag ++ ['>']) = none ↔ isUndisguised tag.written = true)) := by
  have lead : styleValue? (printTag tag ++ ['>']) = styleValue? (restOfTag tag.written) := by
    have dark : ∀ c ∈ '<' :: "text:span".toList, isBlank c = false := by
      simp [isBlank]
    rw [Xml.printTag_eq, isSpan, List.append_assoc]
    exact styleValue?_append_of_dark dark _
  unfold spanStyle?
  rw [lead]
  constructor
  · intro plain
    rw [styleValue?_restOfTag named plain, Option.map_map]
    cases tag.written.lookup styleName with
    | none => rfl
    | some value =>
      rw [Option.map_some, Function.comp_apply, decode_escapeValue, String.ofList_toList]
  · intro absent
    have found := isSome_styleValue?_iff named absent
    rw [Option.map_eq_none_iff, ← Option.not_isSome_iff_eq_none, found, Bool.not_eq_false]

/-- The tag of a span with a style and other attributes before it. -/
def tagOfSpan (others : List (String × String)) (style : Option String) : Tag where
  name := ⟨some "text", some textNamespace, "span"⟩
  declarations := []
  attributes := others.map (fun (name, value) => ⟨⟨none, none, name⟩, value⟩)
    ++ style.toList.map fun style => ⟨⟨some "text", some textNamespace, "style-name"⟩, style⟩

/-- The name in a value leads nobody astray while no quoted value follows it, or a tab comes before
it. -/
theorem spanStyle?_printTag_quoting :
    let others := [("a", " text:style-name=X"), ("b", "\ttext:style-name='X'")]
    let styled := tagOfSpan others (some "A & \"B\"\n")
    let bare := tagOfSpan others none
    (styled.name.written = "text:span" ∧ bare.name.written = "text:span") ∧
      (∀ given ∈ styled.written, Xml.isName given.1.toList = true) ∧
      isUndisguised styled.written = true ∧
      spanStyle? (printTag styled ++ ['>']) = some "A & \"B\"\n" ∧
      spanStyle? (printTag bare ++ ['>']) = none := by
  intro others styled bare
  have named : ∀ given ∈ styled.written, Xml.isName given.1.toList = true := by decide
  have bareNamed : ∀ given ∈ bare.written, Xml.isName given.1.toList = true := by decide
  have absent : ∀ given ∈ bare.written, given.1 ≠ styleName := by decide
  have plain : isUndisguised styled.written = true := by decide
  refine ⟨⟨rfl, rfl⟩, named, plain, ?_, ?_⟩
  · exact (spanStyle?_printTag rfl named).1 plain
  · exact ((spanStyle?_printTag rfl bareNamed).2 absent).mpr (by decide)

/-- A value that holds the name and a value in apostrophes is taken for the style of the span,
though the names are distinct and the tag is written as it should be. -/
theorem spanStyle?_misled :
    let tag := tagOfSpan [("a", " text:style-name='X'")] (some "Y")
    printTag tag ++ ['>'] = "<text:span a=\" text:style-name='X'\" text:style-name=\"Y\">".toList ∧
      tag.name.written = "text:span" ∧ (tag.written.map (·.1)).Nodup ∧
      (∀ given ∈ tag.written, Xml.isName given.1.toList = true) ∧
      tag.written.lookup styleName = some "Y" ∧ spanStyle? (printTag tag ++ ['>']) = some "X" := by
  refine ⟨by decide, by decide, by decide, by decide, by decide, ?_⟩
  decide +kernel

end FormLetter.Markup
