import FormLetter.Proofs.Xml.Pieces
import FormLetter.Xml.Indent

/-!
# Documents that can be written

A tree that was read consists of names, comments and instructions that can stand in a document. The
invariant of the reader says this of every element that is open. Indentation adds text only, so it
keeps the property.
-/

namespace FormLetter.Xml

/-! ## Proper trees -/

/-- A tag whose names can be written: its own, those of its attributes, and the qualifiers that it
declares. -/
structure Tag.Proper (tag : Tag) : Prop where
  name : isName tag.name.written.toList = true
  declarations : ∀ declaration ∈ tag.declarations, ∀ qualifier ∈ declaration.qualifier,
    isName qualifier.toList = true
  attributes : ∀ given ∈ tag.attributes, isName given.name.written.toList = true

/-- A node whose names can be written and whose comments and instructions can stand in a document.
Text and values are free, since writing escapes what they hold. -/
inductive Node.Proper : Node → Prop where
  | text (value : List Char) : Proper (.text value)
  | comment {value : List Char} (stands : Enclosable "--" value) : Proper (.comment value)
  | instruction {target : String} {value : Option (List Char)}
      (named : isName target.toList = true) (stands : ∀ text ∈ value, Enclosable "?>" text) :
      Proper (.instruction target value)
  | element {tag : Tag} {content : List Node} (tagProper : tag.Proper)
      (contentProper : ∀ node ∈ content, node.Proper) : Proper (.element tag content)

/-- A document whose version can be declared and whose root can be written. -/
structure Document.Proper (document : Document) : Prop where
  version : Heading.isVersion document.version.toList = true
  root : document.root.Proper
  content : ∀ node ∈ document.content, node.Proper

/-! ## Names of tags -/

/-- What follows the part of a text before its first colon begins with the colon. -/
theorem drop_takeWhile_colon {text tail : List Char} {c : Char}
    (dropped : text.drop (text.takeWhile (· != ':')).length = c :: tail) :
    text = text.takeWhile (· != ':') ++ ':' :: tail := by
  induction text with
  | nil => simp at dropped
  | cons first rest inductionHypothesis =>
    by_cases isColon : first = ':'
    · subst isColon
      simp only [bne_self_eq_false, Bool.false_eq_true, not_false_eq_true,
        List.takeWhile_cons_of_neg, List.length_nil, List.drop_zero, List.cons.injEq] at dropped ⊢
      rw [dropped.2, List.nil_append]
    · have goesOn : (first != ':') = true := bne_iff_ne.mpr isColon
      simp only [List.takeWhile_cons, goesOn, if_true, List.length_cons,
        List.drop_succ_cons] at dropped ⊢
      rw [List.cons_append, ← inductionHypothesis dropped]

/-- A name with a qualifier is the qualifier, a colon and the base, which can begin a name. -/
theorem splitName_some {written qualifier base : String} {isWell : Bool}
    (split : splitName written = (some qualifier, base, isWell)) :
    written = qualifier ++ ":" ++ base ∧
      ∃ c rest, base.toList = c :: rest ∧ isNameStart c = true := by
  unfold splitName at split
  dsimp only at split
  split at split
  · simp at split
  · rename_i colon tail dropped
    have whole := drop_takeWhile_colon dropped
    split at split
    · simp at split
    · simp at split
    · rename_i c more _
      split at split
      · rename_i starts
        simp only [Prod.mk.injEq, Option.some.injEq] at split
        obtain ⟨rfl, rfl, -⟩ := split
        simp only [Bool.and_eq_true] at starts
        refine ⟨?_, c, more, String.toList_ofList, starts.2⟩
        apply String.toList_injective
        simpa using whole
      · simp at split

/-- A name without a qualifier is its base. -/
theorem splitName_none {written base : String} {isWell : Bool}
    (split : splitName written = (none, base, isWell)) : base = written := by
  unfold splitName at split
  dsimp only at split
  split at split
  · simp_all
  · split at split
    · simp_all
    · simp_all
    · split at split <;> simp_all

/-- The name of an element is written as it was read. -/
theorem written_elementName (scope : List Declaration) (written : String) :
    (elementName scope written).1.written = written := by
  obtain ⟨qualifier, base, isWell, split⟩ : ∃ qualifier base isWell,
      splitName written = (qualifier, base, isWell) := ⟨_, _, _, rfl⟩
  rw [elementName, split]
  cases qualifier with
  | none =>
    dsimp only
    split <;> simp_all [Name.written, splitName_none split]
  | some qualifier =>
    dsimp only
    split <;> simp_all [Name.written, (splitName_some split).1]

/-- The name of an attribute is written as it was read. -/
theorem written_attributeName (scope : List Declaration) (written : String) :
    (attributeName scope written).1.written = written := by
  unfold attributeName
  split
  · rename_i base isWell split
    exact splitName_none split
  · exact written_elementName scope written

/-- The qualifier of a declaration is a name. -/
theorem isName_of_declaredQualifier? {written qualifier : String}
    (named : isName written.toList = true)
    (declared : declaredQualifier? written = some (some qualifier)) :
    isName qualifier.toList = true := by
  unfold declaredQualifier? at declared
  split at declared
  · simp at declared
  · split at declared
    · rename_i base isWell split
      simp only [Option.some.injEq] at declared
      subst declared
      obtain ⟨whole, first, rest, begins, starts⟩ := splitName_some split
      rw [begins, isName, starts, Bool.true_and, List.all_eq_true]
      intro c member
      apply isNameRest_of_mem named
      simp [whole, begins, member]
    · simp at declared

/-- A declaration binds the qualifier that it names. -/
theorem qualifier_of_declare {qualifier : Option String} {uri : String} {declaration : Declaration}
    (declared : (declare qualifier uri).1 = some declaration) :
    declaration.qualifier = qualifier := by
  unfold declare at declared
  split at declared
  all_goals repeat' split at declared
  all_goals cases declared
  all_goals rfl

/-- A tag is proper when the names that it is resolved from are names. -/
theorem proper_resolveTag (scope : List Declaration) {written : String}
    {attributes : List (String × String)} (named : isName written.toList = true)
    (attributesNamed : ∀ given ∈ attributes, isName given.1.toList = true) :
    (resolveTag scope written attributes).1.Proper := by
  refine ⟨?_, ?_, ?_⟩
  · change isName (elementName _ written).1.written.toList = true
    rw [written_elementName]
    exact named
  · intro declaration member qualifier isQualifier
    obtain ⟨declared, isDeclared, isDeclaration⟩ := List.mem_filterMap.mp member
    obtain ⟨⟨name, value⟩, isGiven, same⟩ := List.mem_filterMap.mp isDeclared
    obtain ⟨bound, isBound, rfl⟩ := Option.map_eq_some_iff.mp (same : declaration? name value = _)
    rw [qualifier_of_declare isDeclaration] at isQualifier
    rw [Option.mem_def.mp isQualifier] at isBound
    exact isName_of_declaredQualifier? (attributesNamed _ isGiven) isBound
  · intro given member
    obtain ⟨noticed, isNoticed, rfl⟩ := List.mem_map.mp member
    obtain ⟨⟨name, value⟩, isPlain, rfl⟩ := List.mem_map.mp isNoticed
    change isName (attributeName _ name).1.written.toList = true
    rw [written_attributeName]
    exact attributesNamed _ (List.mem_filter.mp isPlain).1

/-! ## Reading -/

/-- An open element that can be written as far as it was read. -/
structure Level.Proper (level : Level) : Prop where
  tag : level.tag.Proper
  content : ∀ node ∈ level.content, node.Proper

namespace Level

theorem Proper.add {level : Level} (proper : level.Proper) {node : Node}
    (nodeProper : node.Proper) : (level.add node).Proper :=
  ⟨proper.tag, List.forall_mem_cons.mpr ⟨nodeProper, proper.content⟩⟩

theorem Proper.addText {level : Level} (proper : level.Proper) (text : List Char) :
    (level.addText text).Proper := by
  unfold Level.addText
  split
  · rename_i before rest isContent
    have contentProper := proper.content
    rw [isContent, List.forall_mem_cons] at contentProper
    exact ⟨proper.tag, List.forall_mem_cons.mpr ⟨.text _, contentProper.2⟩⟩
  · exact proper.add (.text text)

theorem Proper.close {level : Level} (proper : level.Proper) : level.close.Proper :=
  .element proper.tag fun node member => proper.content node (List.mem_reverse.mp member)

end Level

/-- Nothing after the root element changes it. -/
theorem eq_of_readEpilog {remarks : Remarks} {root result : Level} {pending : List (Placed Event)}
    (read : readEpilog remarks root pending = .ok result) : result = root := by
  fun_induction readEpilog remarks root pending with
  | case2 => exact (Except.ok.inj read).symm
  | case3 | case4 | case5 =>
    rename_i inductionHypothesis
    exact inductionHypothesis read
  | case1 | case6 | case7 => cases read

/-- The elements that are open stay proper, and so the root is. -/
theorem proper_of_readContent {remarks : Remarks} {level root : Level} {outer : List Level}
    {pending : List (Placed Event)} (read : readContent remarks level outer pending = .ok root)
    (eventsProper : ∀ placed ∈ pending, placed.value.Proper) (levelProper : level.Proper)
    (outerProper : ∀ level ∈ outer, level.Proper) : root.Proper := by
  fun_induction readContent remarks level outer pending with
  | case1 | case6 | case9 | case12 => cases read
  | case2 | case3 =>
    rename_i inductionHypothesis
    rw [List.forall_mem_cons] at eventsProper
    exact inductionHypothesis read eventsProper.2 (levelProper.addText _) outerProper
  | case4 =>
    rename_i inductionHypothesis
    rw [List.forall_mem_cons] at eventsProper
    exact inductionHypothesis read eventsProper.2 (levelProper.add (.comment eventsProper.1))
      outerProper
  | case5 =>
    rename_i inductionHypothesis
    rw [List.forall_mem_cons] at eventsProper
    obtain ⟨⟨named, ended⟩, restProper⟩ := eventsProper
    exact inductionHypothesis read restProper (levelProper.add (.instruction named ended))
      outerProper
  | case7 remarks level =>
    rename_i resolved _ inductionHypothesis
    rw [List.forall_mem_cons] at eventsProper
    obtain ⟨⟨named, attributesNamed⟩, restProper⟩ := eventsProper
    have tagProper := proper_resolveTag level.scope named attributesNamed
    rw [resolved] at tagProper
    exact inductionHypothesis read restProper (levelProper.add (.element tagProper (by simp)))
      outerProper
  | case8 remarks level =>
    rename_i resolved _ _ inductionHypothesis
    rw [List.forall_mem_cons] at eventsProper
    obtain ⟨⟨named, attributesNamed⟩, restProper⟩ := eventsProper
    have tagProper := proper_resolveTag level.scope named attributesNamed
    rw [resolved] at tagProper
    exact inductionHypothesis read restProper ⟨tagProper, by simp⟩
      (List.forall_mem_cons.mpr ⟨levelProper, outerProper⟩)
  | case10 =>
    rw [eq_of_readEpilog read]
    exact levelProper
  | case11 =>
    rename_i inductionHypothesis
    rw [List.forall_mem_cons] at eventsProper outerProper
    exact inductionHypothesis read eventsProper.2
      (outerProper.1.add levelProper.close) outerProper.2

/-- A root element is proper when its events are. -/
theorem proper_of_readRoot {pending : List (Placed Event)} {root : Level}
    (read : readRoot pending = .ok root) (proper : ∀ placed ∈ pending, placed.value.Proper) :
    root.Proper := by
  unfold readRoot at read
  split at read
  · rename_i name attributes isEmpty unread rest
    rw [List.forall_mem_cons] at proper
    obtain ⟨⟨named, attributesNamed⟩, restProper⟩ := proper
    have tagProper := proper_resolveTag [] named attributesNamed
    dsimp only at read
    split at read
    · cases read
    · have levelProper : Level.Proper ⟨(resolveTag [] name attributes).1, name, [],
          (resolveTag [] name attributes).1.declarations.reverse⟩ := ⟨tagProper, by simp⟩
      split at read
      · rw [eq_of_readEpilog read]
        exact levelProper
      · exact proper_of_readContent read restProper levelProper (by simp)
  · cases read
  · cases read

/-- What comes after the prolog are items of the document. -/
theorem subset_of_readProlog {declared : Option Doctype} {pending rest : List (Placed Item)}
    {doctype : Doctype} (read : readProlog declared pending = .ok (doctype, rest)) :
    rest ⊆ pending := by
  fun_induction readProlog declared pending with
  | case1 | case2 | case3 | case5 =>
    rename_i inductionHypothesis
    exact List.subset_cons_of_subset _ (inductionHypothesis read)
  | case7 =>
    cases read
    exact List.Subset.refl _
  | case4 | case6 | case8 | case9 => cases read

/-- The version of a document is one that can be read again. -/
theorem isVersion_of_take {text rest : List Char} {heading : Heading}
    (taken : Heading.take text = .ok (heading, rest)) :
    Heading.isVersion heading.version.toList = true := by
  unfold Heading.take at taken
  split at taken
  · cases taken
    decide
  · split at taken
    · obtain ⟨⟨version, _⟩, -, taken⟩ := bind_eq_ok taken
      obtain ⟨⟨encoding, _⟩, -, taken⟩ := bind_eq_ok taken
      obtain ⟨⟨standalone, _⟩, -, taken⟩ := bind_eq_ok taken
      obtain ⟨⟨_, _⟩, -, taken⟩ := bind_eq_ok taken
      dsimp only at taken
      split at taken
      · rename_i valid
        cases taken
        simp only [Bool.and_eq_true] at valid
        rw [String.toList_ofList]
        exact valid.1.1
      · cases taken
    · cases taken
      decide

/-- Reading a heading leaves an end of the text. -/
theorem Heading.leaves_take (text : List Char) : Leaves text (Heading.take text) := by
  have setting (name : String) (text : List Char) : Leaves text (Heading.takeSetting name text) := by
    unfold Heading.takeSetting
    refine (leaves_expect name text).bind fun _ rest => ?_
    refine ((leaves_expect _ _).within (skipSpace_suffix rest)).bind fun _ rest => ?_
    exact (leaves_takeQuoted _).within (skipSpace_suffix rest)
  have optional (name : String) (text : List Char) :
      Leaves text (Heading.takeOptional name text) := by
    unfold Heading.takeOptional
    split
    · refine (leaves_expectSpace text).bind fun _ rest => (setting name rest).bind ?_
      exact fun _ _ => Leaves.ok List.suffix_rfl
    · exact Leaves.ok List.suffix_rfl
  unfold Heading.take
  split
  · exact Leaves.ok List.suffix_rfl
  · rename_i found
    split
    · refine Leaves.within ?_ (suffix_of_after? found)
      refine ((setting _ _).within (skipSpace_suffix _)).bind fun version rest => ?_
      refine (optional _ rest).bind fun encoding rest => (optional _ rest).bind ?_
      refine fun standalone rest => ((leaves_expect _ _).within (skipSpace_suffix rest)).bind ?_
      intro _ rest
      dsimp only
      split
      · exact Leaves.ok List.suffix_rfl
      · exact Leaves.error
    · exact Leaves.ok List.suffix_rfl

/-- The text of a document has one form of line breaks. -/
theorem not_mem_decodeDocument? {bytes : ByteArray} {text : List Char}
    (decoded : decodeDocument? bytes = some text) : '\r' ∉ text := by
  unfold decodeDocument? at decoded
  split at decoded
  · cases decoded
    exact not_mem_normalizeLines _
  · obtain ⟨charset, -, rfl⟩ := Option.map_eq_some_iff.mp decoded
    exact not_mem_normalizeLines _

/-- A document is read in four steps: its characters, its heading, what stands before the root, and
the root with what follows. -/
theorem Document.read_eq_ok_iff {bytes : ByteArray} {document : Document} :
    Document.read bytes = .ok document ↔
      ∃ text heading rest doctype pending root, decodeDocument? bytes = some text ∧
        Heading.take text = .ok (heading, rest) ∧
        readProlog none (items rest) = .ok (doctype, pending) ∧
        readRoot (events doctype Doctype.nestingLimit pending) = .ok root ∧
        document = ⟨heading.version, root.tag, root.content.reverse⟩ := by
  constructor
  · intro read
    unfold Document.read at read
    split at read
    · cases read
    · rename_i text decoded
      unfold Document.readText at read
      dsimp only at read
      split at read
      · cases read
      · rename_i heading rest isHeading
        split at read
        · cases read
        · rename_i doctype pending isProlog
          split at read
          · cases read
          · rename_i root isRoot
            cases read
            exact ⟨text, heading, rest, doctype, pending, root, decoded, isHeading, isProlog,
              isRoot, rfl⟩
  · rintro ⟨text, heading, rest, doctype, pending, root, decoded, isHeading, isProlog, isRoot, rfl⟩
    unfold Document.read
    rw [decoded]
    dsimp only
    unfold Document.readText
    rw [isHeading]
    dsimp only
    rw [isProlog]
    dsimp only
    rw [isRoot]

/-- A document that was read can be written. -/
theorem proper_of_read {bytes : ByteArray} {document : Document}
    (read : Document.read bytes = .ok document) : document.Proper := by
  obtain ⟨text, heading, rest, doctype, pending, root, decoded, isHeading, isProlog, isRoot, rfl⟩ :=
    Document.read_eq_ok_iff.mp read
  have inRest : '\r' ∉ rest := fun member =>
    not_mem_decodeDocument? decoded ((Heading.leaves_take text heading rest isHeading).mem member)
  have itemsProper : ∀ placed ∈ pending, placed.value.Proper := fun placed member =>
    proper_of_mem_items inRest placed (subset_of_readProlog isProlog member)
  have rootProper := proper_of_readRoot isRoot
    (proper_of_mem_events doctype Doctype.nestingLimit pending itemsProper)
  exact ⟨isVersion_of_take isHeading, rootProper.tag,
    fun node member => rootProper.content node (List.mem_reverse.mp member)⟩

/-! ## Indentation -/

/-- Spreading a content over lines keeps its nodes, as far as they are indented properly. -/
theorem proper_indentNodes {content : List Node}
    (proper : ∀ node ∈ content, ∀ depth, (indentNode depth node).Proper) (depth : Nat) :
    ∀ node ∈ indentNodes depth content, node.Proper := by
  induction content with
  | nil => simp [indentNodes]
  | cons first rest inductionHypothesis =>
    rw [List.forall_mem_cons] at proper
    rw [indentNodes]
    split
    · exact inductionHypothesis proper.2
    · exact List.forall_mem_cons.mpr ⟨.text _,
        List.forall_mem_cons.mpr ⟨proper.1 depth, inductionHypothesis proper.2⟩⟩

theorem Node.Proper.indentNode {node : Node} (proper : node.Proper) (depth : Nat) :
    (indentNode depth node).Proper := by
  induction proper generalizing depth with
  | text value => exact .text value
  | comment stands => exact .comment stands
  | instruction named stands => exact .instruction named stands
  | element tagProper contentProper inductionHypothesis =>
    rw [Xml.indentNode]
    split
    · refine .element tagProper fun node member => ?_
      rcases List.mem_append.mp member with inContent | isLast
      · exact proper_indentNodes inductionHypothesis _ node inContent
      · rw [List.mem_singleton.mp isLast]
        exact .text _
    · exact .element tagProper contentProper

theorem Document.Proper.indent {document : Document} (proper : document.Proper) :
    document.indent.Proper := by
  unfold Document.indent
  split
  · rename_i tag content isRoot
    have rootProper := (Node.Proper.element proper.root proper.content).indentNode 0
    rw [isRoot] at rootProper
    cases rootProper with
    | element _ contentProper => exact ⟨proper.version, proper.root, contentProper⟩
  · exact proper

/-! ## Line breaks -/

theorem not_mem_escapeText (text : List Char) : '\r' ∉ escapeText text := by
  intro member
  obtain ⟨c, -, written⟩ := List.mem_flatMap.mp member
  unfold escapeTextChar at written
  split at written
  case h_5 notReturn => exact notReturn (List.mem_singleton.mp written).symm
  all_goals revert written; decide

theorem not_mem_escapeValue (value : String) : '\r' ∉ escapeValue value := by
  intro member
  obtain ⟨c, -, written⟩ := List.mem_flatMap.mp member
  unfold escapeValueChar at written
  split at written
  case h_8 notReturn => exact notReturn (List.mem_singleton.mp written).symm
  all_goals revert written; decide

theorem not_mem_of_isName {name : List Char} (named : isName name = true) : '\r' ∉ name :=
  fun member => ne_of_isNameRest (isNameRest_of_mem named member) (by decide) rfl

theorem not_mem_printAttribute {name : String} (unbroken : '\r' ∉ name.toList) (value : String) :
    '\r' ∉ printAttribute name value := by
  simp [printAttribute, unbroken, not_mem_escapeValue]

theorem not_mem_printTag {tag : Tag} (proper : tag.Proper) : '\r' ∉ printTag tag := by
  have declarations : '\r' ∉ tag.declarations.flatMap printDeclaration := by
    intro member
    obtain ⟨declaration, isDeclared, written⟩ := List.mem_flatMap.mp member
    unfold printDeclaration at written
    split at written
    · exact not_mem_printAttribute (by decide) _ written
    · rename_i qualifier isQualifier
      have named := not_mem_of_isName (proper.declarations _ isDeclared qualifier isQualifier)
      exact not_mem_printAttribute (by simp [named]) _ written
  have attributes : '\r' ∉ tag.attributes.flatMap fun given =>
      printAttribute given.name.written given.value := by
    intro member
    obtain ⟨given, isGiven, written⟩ := List.mem_flatMap.mp member
    exact not_mem_printAttribute (not_mem_of_isName (proper.attributes given isGiven)) _ written
  simp [printTag, not_mem_of_isName proper.name, declarations, attributes]

/-- A content holds no line break that is read as another one when none of its nodes does. -/
theorem not_mem_printNodes {content : List Node}
    (unbroken : ∀ node ∈ content, '\r' ∉ printNode node) : '\r' ∉ printNodes content := by
  induction content with
  | nil => exact List.not_mem_nil
  | cons first rest inductionHypothesis =>
    rw [List.forall_mem_cons] at unbroken
    simp [printNodes, unbroken.1, inductionHypothesis unbroken.2]

theorem Node.Proper.not_mem_printNode {node : Node} (proper : node.Proper) :
    '\r' ∉ printNode node := by
  induction proper with
  | text value =>
    rw [printNode]
    exact not_mem_escapeText value
  | comment stands => simp [printNode, stands.unbroken]
  | @instruction target value named stands =>
    have targetUnbroken := not_mem_of_isName named
    cases value with
    | none => simp [printNode, targetUnbroken]
    | some value => simp [printNode, targetUnbroken, (stands value rfl).unbroken]
  | @element tag content tagProper _ inductionHypothesis =>
    have tagUnbroken := not_mem_printTag tagProper
    cases content with
    | nil => simp [printNode, tagUnbroken]
    | cons first rest =>
      have contentUnbroken := not_mem_printNodes inductionHypothesis
      rw [printNodes] at contentUnbroken
      simpa [printNode, tagUnbroken, not_mem_of_isName tagProper.name] using contentUnbroken

/-- A version consists of digits and a point. -/
theorem not_mem_of_isVersion {text : List Char} (valid : Heading.isVersion text = true) {c : Char}
    (foreign : (c.isDigit || c == '.') = false) : c ∉ text := by
  rw [Bool.or_eq_false_iff, beq_eq_false_iff_ne] at foreign
  unfold Heading.isVersion at valid
  split at valid
  · intro member
    rcases List.mem_cons.mp member with rfl | later
    · exact absurd foreign.1 (by decide)
    · rcases List.mem_cons.mp later with isPoint | digit
      · exact foreign.2 isPoint
      · exact Bool.false_ne_true (foreign.1.symm.trans (List.all_eq_true.mp valid c digit))
  · exact absurd valid Bool.false_ne_true

/-- The printed form of a document holds no line break that would be read as another one. -/
theorem not_mem_pretty {bytes : ByteArray} {part : List Char} (printed : pretty bytes = .ok part) :
    '\r' ∉ part := by
  obtain ⟨document, isRead, rfl⟩ := map_eq_ok printed
  have proper := (proper_of_read isRead).indent
  have root := (Node.Proper.element proper.root proper.content).not_mem_printNode
  have version : '\r' ∉ document.indent.version.toList :=
    not_mem_of_isVersion proper.version (by decide)
  simp [Document.print, version, root]

end FormLetter.Xml
