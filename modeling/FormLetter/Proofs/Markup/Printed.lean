import FormLetter.Proofs.Markup.Written
import FormLetter.Proofs.Xml.Document

/-!
# Printed documents are written

What is printed for a document consists of whole pieces, and every element that it opens is closed.
A tree prints to such a text node by node, so the proof follows the tree. Documents that were read
have only names, comments and instructions that print to one piece each, and so the text that the
compiler is given is always a written part.
-/

namespace FormLetter.Markup

open FormLetter.Xml

/-! ## Complete texts -/

/-- The white space of plain text that may stand in a name. -/
def nameBlank : Char := '\u1680'

/-- A whole piece whose name ends for the compiler where it ends in XML, as far as no white space
stands in it. -/
structure IsPiece (piece : List Char) : Prop where
  whole : isWhole piece = true
  alike : nameBlank ∉ piece → xmlBracketOf piece = bracketOf piece

/-- A text of whole pieces that closes the elements which it opens, and no others. -/
def IsComplete (text : List Char) : Prop :=
  ∃ pieces : List (List Char), pieces.flatten = text ∧ (∀ piece ∈ pieces, IsPiece piece) ∧
    ∀ opened, walkBy xmlBracketOf opened pieces = some opened

/-- A part that is complete is written: what cutting finds in it are its pieces, with the texts
that touch put together. -/
theorem IsComplete.isWritten {part : List Char} (complete : IsComplete part) : IsWritten part := by
  obtain ⟨pieces, rfl, arePieces, nested⟩ := complete
  have whole : ∀ piece ∈ pieces, isWhole piece = true := fun piece member =>
    (arePieces piece member).whole
  have cutPieces := cut_flatten_whole whole List.not_mem_nil
  rw [List.nil_append] at cutPieces
  refine ⟨?_, ?_⟩
  · rw [cutPieces]
    exact isWhole_mergeTexts whole List.not_mem_nil
  · rw [cutPieces]
    change walkBy (bracketBy Xml.isSpace) [] _ = some []
    rw [walkBy_mergeTexts _ _ _ (by simp)]
    exact nested []

/-- The names of a part agree where its tags hold no white space but that of XML. -/
theorem IsComplete.namesAgree {part : List Char} (complete : IsComplete part)
    (absent : nameBlank ∉ part) : NamesAgree part := by
  obtain ⟨pieces, rfl, arePieces, nested⟩ := complete
  have cutPieces := cut_flatten_whole (fun piece member => (arePieces piece member).whole)
    List.not_mem_nil
  rw [List.nil_append] at cutPieces
  intro piece member
  rw [cutPieces] at member
  rcases mem_mergeTexts (by simp) member with isPiece | noMarkup
  · exact (arePieces piece isPiece).alike fun inside =>
      absent (List.mem_flatten.mpr ⟨piece, isPiece, inside⟩)
  · exact (bracketBy_of_head? noMarkup _).trans (bracketBy_of_head? noMarkup _).symm

theorem isComplete_nil : IsComplete [] :=
  ⟨[], rfl, by simp, fun _ => rfl⟩

theorem IsComplete.append {left right : List Char} (leftComplete : IsComplete left)
    (rightComplete : IsComplete right) : IsComplete (left ++ right) := by
  obtain ⟨before, rfl, arePieces, beforeNested⟩ := leftComplete
  obtain ⟨after, rfl, areMore, afterNested⟩ := rightComplete
  refine ⟨before ++ after, List.flatten_append, List.forall_mem_append.mpr ⟨arePieces, areMore⟩,
    fun opened => ?_⟩
  rw [walkBy_append, beforeNested, Option.bind_some, afterNested]

/-- One whole piece that opens and closes nothing. -/
theorem isComplete_of_neither {piece : List Char} (whole : isWhole piece = true)
    (neither : ∀ blank, bracketBy blank piece = .neither) : IsComplete piece := by
  have isPiece : IsPiece piece := ⟨whole, fun _ => (neither _).trans (neither _).symm⟩
  refine ⟨[piece], by simp, by simpa using isPiece, fun opened => ?_⟩
  rw [walkBy, xmlBracketOf, neither]
  rfl

/-- An opening tag, a complete text, and the closing tag of the same name. -/
theorem IsComplete.enclose {opening closing text name : List Char} (complete : IsComplete text)
    (openingPiece : IsPiece opening) (closingPiece : IsPiece closing)
    (opens : xmlBracketOf opening = .opens name) (closes : xmlBracketOf closing = .closes name) :
    IsComplete (opening ++ text ++ closing) := by
  obtain ⟨pieces, rfl, arePieces, nested⟩ := complete
  refine ⟨[opening] ++ pieces ++ [closing], by simp, ?_, fun opened => ?_⟩
  · intro piece member
    simp only [List.mem_append, List.mem_singleton] at member
    rcases member with (rfl | inside) | rfl
    · exact openingPiece
    · exact arePieces piece inside
    · exact closingPiece
  · rw [walkBy_append, walkBy_append]
    simp [walkBy, opens, closes, nested, Bracket.step]

/-! ## Printed pieces -/

/-- A text without brackets is complete. -/
theorem isComplete_of_plain {text : List Char} (plain : '<' ∉ text) : IsComplete text := by
  apply isComplete_of_neither
  · simp [isWhole, plain]
  · exact bracketBy_of_head? fun begins => plain (List.mem_of_head? begins)

/-- A mark that ends a text is found right behind it. -/
theorem lengthThrough?_of_isEndedBy {mark text : List Char} (found : mark ≠ [])
    (ended : isEndedBy mark text = true) :
    lengthThrough? mark (text ++ mark) = some (text.length + mark.length) := by
  induction text with
  | nil =>
    obtain ⟨first, rest, rfl⟩ := List.exists_cons_of_ne_nil found
    simp [lengthThrough?]
  | cons c rest inductionHypothesis =>
    simp only [isEndedBy, Bool.and_eq_true, Bool.not_eq_true'] at ended
    rw [List.cons_append, lengthThrough?, if_neg (Bool.eq_false_iff.mp ended.1),
      inductionHypothesis ended.2, Option.map_some, List.length_cons]
    congr 1
    omega

/-- A mark, a text that another one ends, and this one, are enclosed. -/
theorem enclosedLength?_of_isEndedBy (opening : List Char) {closing text : List Char}
    (found : closing ≠ []) (ended : isEndedBy closing text = true) :
    enclosedLength? opening closing (opening ++ text ++ closing) =
      some (opening ++ text ++ closing).length := by
  have begins : opening.isPrefixOf (opening ++ text ++ closing) = true := by
    rw [List.isPrefixOf_iff_prefix, List.append_assoc]
    exact List.prefix_append _ _
  rw [enclosedLength?, if_pos begins, List.append_assoc, List.drop_left,
    lengthThrough?_of_isEndedBy found ended, Option.map_some]
  simp only [List.length_append]

theorem isComplete_comment {value : List Char} (ended : isEndedBy "-->".toList value = true) :
    IsComplete ("<!--".toList ++ value ++ "-->".toList) := by
  apply isComplete_of_neither
  · have enclosed := enclosedLength?_of_isEndedBy "<!--".toList (by decide) ended
    simp only [isWhole, isMarkup, enclosed, beq_self_eq_true, Bool.true_or]
  · exact fun _ => rfl

theorem isComplete_instruction {value : List Char} (ended : isEndedBy "?>".toList value = true) :
    IsComplete ("<?".toList ++ value ++ "?>".toList) := by
  apply isComplete_of_neither
  · have enclosed := enclosedLength?_of_isEndedBy "<?".toList (by decide) ended
    simp only [isWhole, isMarkup, enclosed, beq_self_eq_true, Bool.true_or, Bool.or_true]
  · exact fun _ => rfl

/-! ## Printed tags -/

/-- A text without angle brackets. -/
def IsBracketless (text : List Char) : Prop :=
  ∀ c ∈ text, c ≠ '<' ∧ c ≠ '>'

theorem isBracketless_append {left right : List Char} :
    IsBracketless (left ++ right) ↔ IsBracketless left ∧ IsBracketless right := by
  simp only [IsBracketless, List.forall_mem_append]

/-- What may stand between the name of an element and the end of its tag. -/
structure IsGiven (text : List Char) : Prop where
  bracketless : IsBracketless text
  begins : text.head?.all Xml.isSpace = true
  ends : text.getLast? ≠ some '/'

theorem isGiven_nil : IsGiven [] :=
  ⟨by simp [IsBracketless], rfl, by simp⟩

theorem IsGiven.append {left right : List Char} (leftGiven : IsGiven left)
    (rightGiven : IsGiven right) : IsGiven (left ++ right) := by
  refine ⟨isBracketless_append.mpr ⟨leftGiven.bracketless, rightGiven.bracketless⟩, ?_, ?_⟩
  · cases left with
    | nil => exact rightGiven.begins
    | cons c rest => exact leftGiven.begins
  · rw [List.getLast?_append]
    cases last : right.getLast? with
    | none => exact leftGiven.ends
    | some c => exact fun same => rightGiven.ends (last.trans same)

theorem isGiven_flatMap {α : Type} {print : α → List Char} {values : List α}
    (given : ∀ value ∈ values, IsGiven (print value)) : IsGiven (values.flatMap print) := by
  induction values with
  | nil => exact isGiven_nil
  | cons first rest inductionHypothesis =>
    rw [List.forall_mem_cons] at given
    rw [List.flatMap_cons]
    exact given.1.append (inductionHypothesis given.2)

/-- The closing bracket is the first bracket of a tag. -/
theorem tagTailLength?_of_isBracketless {text : List Char} (bracketless : IsBracketless text) :
    tagTailLength? (text ++ ['>']) = some (text.length + 1) := by
  induction text with
  | nil => rfl
  | cons c rest inductionHypothesis =>
    obtain ⟨⟨notOpening, notClosing⟩, restBracketless⟩ := List.forall_mem_cons.mp bracketless
    rw [List.cons_append, tagTailLength?, if_neg (by simpa using notClosing),
      if_neg (by simpa using notOpening), inductionHypothesis restBracketless]
    rfl

/-- A tag is whole when no bracket stands in it. -/
theorem isWhole_tag {first : Char} {rest : List Char} (notMark : first ≠ '!')
    (notQuery : first ≠ '?') (bracketless : IsBracketless (first :: rest)) :
    isWhole ('<' :: (first :: rest ++ ['>'])) = true := by
  have tag : isTag ('<' :: (first :: rest ++ ['>'])) = true := by
    have ends := tagTailLength?_of_isBracketless bracketless
    simp only [List.cons_append] at ends ⊢
    simp [isTag, ends, notMark, notQuery]
  rw [isWhole, isMarkup, tag, Bool.or_true, Bool.true_or]

/-- The characters of a name are no brackets. -/
theorem isBracketless_of_isName {name : List Char} (named : isName name = true) :
    IsBracketless name := by
  intro c member
  have isRest := isNameRest_of_mem named member
  exact ⟨ne_of_isNameRest isRest (by decide), ne_of_isNameRest isRest (by decide)⟩

/-- The code points of all other white space. -/
def otherBlanks : List Nat := [9, 10, 11, 12, 13, 28, 29, 30, 31, 32, 0x85, 0xA0, 0x2000, 0x2001,
  0x2002, 0x2003, 0x2004, 0x2005, 0x2006, 0x2007, 0x2008, 0x2009, 0x200A, 0x2028, 0x2029, 0x202F,
  0x205F, 0x3000]

/-- There is one white space only that may stand in a name. -/
theorem eq_nameBlank {c : Char} (isRest : isNameRest c = true) (blank : Text.isBlank c = true) :
    c = nameBlank := by
  have known : c.toNat = 0x1680 ∨ c.toNat ∈ otherBlanks := by
    simp only [Text.isBlank, Bool.or_eq_true, Bool.and_eq_true, decide_eq_true_eq,
      beq_iff_eq] at blank
    simp only [otherBlanks, List.mem_cons, List.not_mem_nil, or_false]
    omega
  have none : ∀ n ∈ otherBlanks, isNameRest (Char.ofNat n) = false := by decide
  rcases known with isNumber | isOther
  · exact Char.toNat_inj.mp isNumber
  · have notRest := none _ isOther
    rw [Char.ofNat_toNat] at notRest
    exact absurd (notRest.symm.trans isRest) Bool.false_ne_true

/-- The name of an element can be read back from its tags when no white space stands in it. -/
theorem isPlainNameBy_of_isName {blank : Char → Bool} {name : List Char}
    (named : isName name = true) (dark : ∀ c ∈ name, blank c = false) :
    isPlainNameBy blank name = true := by
  cases name with
  | nil => exact absurd named Bool.false_ne_true
  | cons first rest =>
    have differs {c : Char} (member : c ∈ first :: rest) {mark : Char}
        (isMark : isNameRest mark = false) : c ≠ mark :=
      ne_of_isNameRest (isNameRest_of_mem named member) isMark
    simp only [isPlainNameBy, Bool.and_eq_true, bne_iff_ne, List.all_eq_true, Bool.not_eq_true']
    exact ⟨⟨differs List.mem_cons_self (by decide), differs List.mem_cons_self (by decide)⟩,
      fun c member => ⟨dark c member, differs member (by decide)⟩⟩

/-- No white space of XML stands in a name. -/
theorem isSpace_of_isName {name : List Char} (named : isName name = true) :
    ∀ c ∈ name, Xml.isSpace c = false := by
  intro c member
  have isRest := isNameRest_of_mem named member
  simp only [Xml.isSpace, Bool.or_eq_false_iff, beq_eq_false_iff_ne]
  exact ⟨⟨⟨ne_of_isNameRest isRest (by decide), ne_of_isNameRest isRest (by decide)⟩,
    ne_of_isNameRest isRest (by decide)⟩, ne_of_isNameRest isRest (by decide)⟩

/-- No white space stands in a name that does not hold the one that may. -/
theorem isBlank_of_isName {name : List Char} (named : isName name = true)
    (absent : nameBlank ∉ name) : ∀ c ∈ name, Text.isBlank c = false := by
  intro c member
  refine Bool.eq_false_iff.mpr fun blank => absent ?_
  rw [← eq_nameBlank (isNameRest_of_mem named member) blank]
  exact member

/-- The white space of XML is white space of plain text. -/
theorem isBlank_of_isSpace {c : Char} (space : Xml.isSpace c = true) : Text.isBlank c = true := by
  simp only [Xml.isSpace, Bool.or_eq_true, beq_iff_eq] at space
  rcases space with ((rfl | rfl) | rfl) | rfl <;> decide

/-- A tag that begins with a name is whole when no bracket stands in it. -/
theorem isWhole_tag_of_isName {name body : List Char} (named : isName name = true)
    (bracketless : IsBracketless body) : isWhole ('<' :: (name ++ body ++ ['>'])) = true := by
  have together := isBracketless_append.mpr ⟨isBracketless_of_isName named, bracketless⟩
  cases name with
  | nil => exact absurd named Bool.false_ne_true
  | cons first rest =>
    have isRest := isNameRest_of_mem named List.mem_cons_self
    exact isWhole_tag (ne_of_isNameRest isRest (by decide)) (ne_of_isNameRest isRest (by decide))
      together

/-- What is written for the characters that are not written as themselves. -/
theorem isBracketless_references : ∀ reference ∈ ["&amp;", "&lt;", "&gt;", "&quot;", "&#9;",
    "&#10;", "&#13;"], ∀ c ∈ reference.toList, c ≠ '<' ∧ c ≠ '>' := by
  simp

/-- Escaped text holds no brackets. -/
theorem isBracketless_escapeText (text : List Char) : IsBracketless (escapeText text) := by
  intro c member
  obtain ⟨original, -, isPart⟩ := List.mem_flatMap.mp member
  unfold escapeTextChar at isPart
  split at isPart
  case h_5 _ notLess notGreater _ =>
    rw [List.mem_singleton.mp isPart]
    exact ⟨notLess, notGreater⟩
  all_goals exact isBracketless_references _ (by decide) c isPart

/-- Escaped values hold no brackets. -/
theorem isBracketless_escapeValue (value : String) : IsBracketless (escapeValue value) := by
  intro c member
  obtain ⟨original, -, isPart⟩ := List.mem_flatMap.mp member
  unfold escapeValueChar at isPart
  split at isPart
  case h_8 _ notLess notGreater _ _ _ _ =>
    rw [List.mem_singleton.mp isPart]
    exact ⟨notLess, notGreater⟩
  all_goals exact isBracketless_references _ (by decide) c isPart

theorem isGiven_printAttribute {name : String} (bracketless : IsBracketless name.toList)
    (value : String) : IsGiven (printAttribute name value) := by
  refine ⟨?_, ?_, ?_⟩
  · intro c member
    simp only [printAttribute, List.cons_append, List.mem_cons, List.mem_append, List.not_mem_nil,
      or_false] at member
    rcases member with rfl | ((inName | rfl | rfl) | inValue) | rfl
    · decide
    · exact bracketless c inName
    · decide
    · decide
    · exact isBracketless_escapeValue value c inValue
    · decide
  · rfl
  · rw [printAttribute, List.getLast?_append]
    simp

theorem isGiven_printDeclaration {declaration : Declaration}
    (named : ∀ qualifier ∈ declaration.qualifier, isName qualifier.toList = true) :
    IsGiven (printDeclaration declaration) := by
  unfold printDeclaration
  split
  · exact isGiven_printAttribute (by simp [IsBracketless]) _
  · rename_i qualifier isQualifier
    apply isGiven_printAttribute
    rw [String.toList_append, isBracketless_append]
    exact ⟨by simp [IsBracketless], isBracketless_of_isName (named qualifier isQualifier)⟩

/-- A tag up to its end is its bracket, its name, and what is given. -/
theorem printTag_eq {tag : Tag} (proper : tag.Proper) :
    ∃ given, IsGiven given ∧ printTag tag = '<' :: (tag.name.written.toList ++ given) := by
  refine ⟨tag.declarations.flatMap printDeclaration ++
    tag.attributes.flatMap fun given => printAttribute given.name.written given.value, ?_, ?_⟩
  · refine (isGiven_flatMap fun declaration member => ?_).append
      (isGiven_flatMap fun given member => ?_)
    · exact isGiven_printDeclaration (proper.declarations declaration member)
    · exact isGiven_printAttribute (isBracketless_of_isName (proper.attributes given member)) _
  · simp only [printTag, List.cons_append, List.append_assoc]

/-- The opening tag of an element. -/
theorem isPiece_openingTag {tag : Tag} (proper : tag.Proper) :
    IsPiece (printTag tag ++ ['>']) ∧
      xmlBracketOf (printTag tag ++ ['>']) = .opens tag.name.written.toList := by
  obtain ⟨given, isGiven, printed⟩ := printTag_eq proper
  have opens : xmlBracketOf ('<' :: (tag.name.written.toList ++ given ++ ['>'])) =
      .opens tag.name.written.toList :=
    bracketBy_opening (isPlainNameBy_of_isName proper.name (isSpace_of_isName proper.name))
      isGiven.begins isGiven.ends
  rw [printed, List.cons_append]
  refine ⟨⟨isWhole_tag_of_isName proper.name isGiven.bracketless, fun absent => ?_⟩, opens⟩
  have inName : nameBlank ∉ tag.name.written.toList := fun member => absent (by simp [member])
  have begins : given.head?.all Text.isBlank = true := by
    cases given with
    | nil => rfl
    | cons c rest => exact isBlank_of_isSpace isGiven.begins
  rw [opens, bracketOf, bracketBy_opening (isPlainNameBy_of_isName proper.name
    (isBlank_of_isName proper.name inName)) begins isGiven.ends]

/-- The closing tag of an element. -/
theorem isPiece_closingTag {name : List Char} (named : isName name = true) :
    IsPiece ("</".toList ++ name ++ ['>']) ∧
      xmlBracketOf ("</".toList ++ name ++ ['>']) = .closes name := by
  have bracketless : IsBracketless ('/' :: name) :=
    List.forall_mem_cons.mpr ⟨by decide, isBracketless_of_isName named⟩
  have closes {blank : Char → Bool} (dark : ∀ c ∈ name, blank c = false) :
      bracketBy blank ("</".toList ++ name ++ ['>']) = .closes name := by
    have bare : bracketBy blank ('<' :: '/' :: (name ++ [] ++ ['>'])) = .closes name :=
      bracketBy_closing (isPlainNameBy_of_isName named dark) rfl
    rw [List.append_nil] at bare
    exact bare
  refine ⟨⟨isWhole_tag (by decide) (by decide) bracketless, fun absent => ?_⟩,
    closes (isSpace_of_isName named)⟩
  have inName : nameBlank ∉ name := fun member => absent (by simp [member])
  exact (closes (isSpace_of_isName named)).trans (closes (isBlank_of_isName named inName)).symm

/-- The tag of an element without content. -/
theorem isComplete_emptyTag {tag : Tag} (proper : tag.Proper) :
    IsComplete (printTag tag ++ "/>".toList) := by
  obtain ⟨given, isGiven, printed⟩ := printTag_eq proper
  have shape : printTag tag ++ "/>".toList =
      '<' :: (tag.name.written.toList ++ (given ++ ['/']) ++ ['>']) := by
    rw [printed]
    simp
  have bracketless : IsBracketless (given ++ ['/']) :=
    isBracketless_append.mpr ⟨isGiven.bracketless, by simp [IsBracketless]⟩
  obtain ⟨first, begins, notSlash⟩ := head?_of_isPlainNameBy
    (isPlainNameBy_of_isName proper.name (isSpace_of_isName proper.name))
  rw [shape]
  exact isComplete_of_neither (isWhole_tag_of_isName proper.name bracketless)
    (bracketBy_empty begins notSlash)

/-! ## Printed documents -/

/-- A content is complete when all of its nodes are. -/
theorem isComplete_printNodes {content : List Node}
    (complete : ∀ node ∈ content, IsComplete (printNode node)) :
    IsComplete (printNodes content) := by
  induction content with
  | nil => exact isComplete_nil
  | cons first rest inductionHypothesis =>
    rw [List.forall_mem_cons] at complete
    rw [printNodes]
    exact complete.1.append (inductionHypothesis complete.2)

/-- A node prints to a complete text. -/
theorem isComplete_printNode {node : Node} (proper : node.Proper) :
    IsComplete (printNode node) := by
  induction proper with
  | text value =>
    rw [printNode]
    exact isComplete_of_plain fun member => (isBracketless_escapeText value _ member).1 rfl
  | comment stands =>
    rw [printNode]
    exact isComplete_comment (isEndedBy_append stands.ended ['>'])
  | @instruction target value named stands =>
    have noMark : ∀ c ∈ target.toList, "?>".toList.head? ≠ some c := fun c member same =>
      ne_of_isNameRest (isNameRest_of_mem named member) (by decide) (Option.some.inj same).symm
    cases value with
    | none =>
      rw [printNode]
      have targetEnded : isEndedBy "?>".toList (target.toList ++ []) = true :=
        isEndedBy_append_left noMark (by decide) rfl
      rw [List.append_nil] at targetEnded
      exact isComplete_instruction targetEnded
    | some value =>
      have valueEnded : isEndedBy "?>".toList ([' '] ++ value) = true :=
        isEndedBy_append_left (by simp) (by decide) (stands value rfl).ended
      have complete := isComplete_instruction (isEndedBy_append_left noMark (by decide) valueEnded)
      rw [printNode]
      simpa using complete
  | @element tag content tagProper _ inductionHypothesis =>
    cases content with
    | nil =>
      rw [printNode]
      exact isComplete_emptyTag tagProper
    | cons first rest =>
      have contentComplete := isComplete_printNodes inductionHypothesis
      obtain ⟨openingPiece, opens⟩ := isPiece_openingTag tagProper
      obtain ⟨closingPiece, closes⟩ := isPiece_closingTag tagProper.name
      have enclosed := contentComplete.enclose openingPiece closingPiece opens closes
      rw [printNodes] at enclosed
      rw [printNode]
      simpa using enclosed

/-- A document that can be written prints to a complete text. -/
theorem isComplete_print {document : Document} (proper : document.Proper) :
    IsComplete document.print := by
  have noMark : ∀ c ∈ "xml version='".toList ++ document.version.toList ++
      "' encoding='UTF-8'".toList, "?>".toList.head? ≠ some c := by
    have inVersion : ∀ c ∈ document.version.toList, "?>".toList.head? ≠ some c := by
      intro c member same
      have isMark : '?' = c := Option.some.inj same
      exact not_mem_of_isVersion proper.version (by decide) (isMark ▸ member)
    exact List.forall_mem_append.mpr
      ⟨List.forall_mem_append.mpr ⟨by simp, inVersion⟩, by simp⟩
  have headingEnded : isEndedBy "?>".toList ("xml version='".toList ++ document.version.toList ++
      "' encoding='UTF-8'".toList ++ []) = true :=
    isEndedBy_append_left noMark (by decide) rfl
  have heading := isComplete_instruction headingEnded
  have lineEnd : IsComplete ['\n'] := isComplete_of_plain (by decide)
  have root := isComplete_printNode (.element proper.root proper.content)
  have complete := (heading.append lineEnd).append root
  simpa [Document.print] using complete

theorem isComplete_pretty {bytes : ByteArray} {part : List Char}
    (printed : pretty bytes = .ok part) : IsComplete part := by
  obtain ⟨document, isRead, rfl⟩ := map_eq_ok printed
  exact isComplete_print (proper_of_read isRead).indent

/-- The text that the compiler is given for a document is a written part. -/
theorem isWritten_pretty {bytes : ByteArray} {part : List Char}
    (printed : pretty bytes = .ok part) : IsWritten part :=
  (isComplete_pretty printed).isWritten

/-- Its names end for the compiler where they end in XML, unless it holds the one white space that
may stand in a name. -/
theorem namesAgree_pretty {bytes : ByteArray} {part : List Char}
    (printed : pretty bytes = .ok part) (absent : nameBlank ∉ part) : NamesAgree part :=
  (isComplete_pretty printed).namesAgree absent

end FormLetter.Markup
