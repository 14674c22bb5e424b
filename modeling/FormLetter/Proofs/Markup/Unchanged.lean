import FormLetter.Proofs.Markup.Printed
import FormLetter.Proofs.Script.FormText

/-!
# Documents without template code

The mark that opens template code begins with an angle bracket. What is written for a document has
such a bracket only where markup begins, and no tag begins like the mark, so it can only stand in a
comment or in an instruction, which are written as they are. A document in which it stands in
neither, and in which no run begins, passes through compiling and rendering unchanged.
-/

namespace FormLetter.Xml

mutual

/-- The comments of a node and the values of its instructions, at any depth. -/
def Node.remarks : Node → List (List Char)
  | .text _ => []
  | .comment value => [value]
  | .instruction _ value => value.toList
  | .element _ content => remarksOf content

/-- The remarks of several nodes. -/
def remarksOf : List Node → List (List Char)
  | [] => []
  | node :: rest => node.remarks ++ remarksOf rest

end

theorem remarks_subset_remarksOf {node : Node} {content : List Node} (member : node ∈ content) :
    node.remarks ⊆ remarksOf content := by
  induction content with
  | nil => cases member
  | cons first rest inductionHypothesis =>
    rw [remarksOf]
    rcases List.mem_cons.mp member with rfl | later
    · exact List.subset_append_left _ _
    · exact List.Subset.trans (inductionHypothesis later) (List.subset_append_right _ _)

@[simp]
theorem remarksOf_append (left right : List Node) :
    remarksOf (left ++ right) = remarksOf left ++ remarksOf right := by
  induction left with
  | nil => rfl
  | cons node rest inductionHypothesis =>
    rw [List.cons_append, remarksOf, remarksOf, inductionHypothesis, List.append_assoc]

mutual

/-- Indentation adds text and takes text away, so the remarks stay. -/
theorem remarks_indentNode (depth : Nat) : (node : Node) →
    (indentNode depth node).remarks = node.remarks
  | .text _ | .comment _ | .instruction _ _ => by simp [indentNode]
  | .element tag content => by
    rw [indentNode]
    split
    · rw [Node.remarks, remarksOf_append, remarksOf_indentNodes (depth + 1) content]
      exact List.append_nil _
    · rfl

theorem remarksOf_indentNodes (depth : Nat) : (content : List Node) →
    remarksOf (indentNodes depth content) = remarksOf content
  | [] => rfl
  | node :: rest => by
    rw [indentNodes, remarksOf]
    split
    · rename_i isText
      have none : node.remarks = [] := by
        cases node with
        | text value => rfl
        | _ => cases isText
      rw [none, remarksOf_indentNodes depth rest]
      rfl
    · rw [remarksOf, remarksOf, remarks_indentNode depth node, remarksOf_indentNodes depth rest]
      rfl

end

/-- The remarks of a document. -/
def Document.remarks (document : Document) : List (List Char) :=
  remarksOf document.content

theorem Document.remarks_indent (document : Document) :
    document.indent.remarks = document.remarks := by
  have same := remarks_indentNode 0 (.element document.root document.content)
  unfold Document.indent
  split
  · rename_i content isElement
    rw [isElement] at same
    exact same
  · rfl

end FormLetter.Xml

namespace FormLetter.Markup

open FormLetter.Xml
open FormLetter.Style

/-! ## Texts without the mark -/

/-- A text in which template code does not begin, whatever comes after it. -/
structure Unmarked (text : List Char) : Prop where
  ended : isEndedBy "<%".toList text = true
  last : text.getLast? ≠ some '<'

/-- The mark begins where a bracket is followed by the other character. -/
theorem isEndedBy_opening_cons {c : Char} {rest : List Char} :
    isEndedBy "<%".toList (c :: rest) = true ↔
      ¬ (c = '<' ∧ rest.head? = some '%') ∧ isEndedBy "<%".toList rest = true := by
  have begins : "<%".toList.isPrefixOf (c :: (rest ++ "<%".toList)) = true ↔
      c = '<' ∧ rest.head? = some '%' := by
    change ['<', '%'].isPrefixOf (c :: (rest ++ ['<', '%'])) = true ↔ _
    rw [List.isPrefixOf_iff_prefix, List.cons_prefix_cons]
    cases rest with
    | nil => simp [List.cons_prefix_cons]
    | cons first more => simp [List.cons_prefix_cons, eq_comm]
  rw [isEndedBy, Bool.and_eq_true, Bool.not_eq_true', ← begins, Bool.not_eq_true]

/-- A text in which the mark does not occur is ended by it. -/
theorem isEndedBy_opening_of_absent {text : List Char} (absent : ¬ "<%".toList <:+: text) :
    isEndedBy "<%".toList text = true := by
  induction text with
  | nil => rfl
  | cons c rest inductionHypothesis =>
    refine isEndedBy_opening_cons.mpr ⟨?_, inductionHypothesis fun inside => absent ?_⟩
    · rintro ⟨rfl, next⟩
      obtain ⟨more, rfl⟩ := List.head?_eq_some_iff.mp next
      exact absent (List.prefix_append "<%".toList more).isInfix
    · exact inside.trans (List.suffix_cons c rest).isInfix

namespace Unmarked

theorem nil : Unmarked [] := ⟨rfl, by simp⟩

theorem of_not_mem {text : List Char} (noBracket : '<' ∉ text) : Unmarked text := by
  refine ⟨isEndedBy_opening_of_absent fun inside => noBracket ?_, fun last => noBracket ?_⟩
  · exact inside.subset List.mem_cons_self
  · exact List.mem_of_getLast? last

/-- Two texts that touch, when the mark does not begin where they do. -/
theorem touch {left right : List Char} (first : isEndedBy "<%".toList left = true)
    (second : Unmarked right) (found : left.getLast? = some '<' → right ≠ [])
    (differs : left.getLast? = some '<' → right.head? ≠ some '%') : Unmarked (left ++ right) := by
  constructor
  · induction left with
    | nil => exact second.ended
    | cons c rest inductionHypothesis =>
      obtain ⟨here, later⟩ := isEndedBy_opening_cons.mp first
      rw [List.cons_append]
      cases rest with
      | nil =>
        refine isEndedBy_opening_cons.mpr ⟨fun both => differs ?_ both.2, second.ended⟩
        rw [both.1]
        rfl
      | cons next more =>
        rw [List.getLast?_cons_cons] at found differs
        exact isEndedBy_opening_cons.mpr ⟨here, inductionHypothesis later found differs⟩
  · rw [List.getLast?_append]
    intro same
    cases last : right.getLast? with
    | none =>
      rw [last] at same
      exact found same (List.getLast?_eq_none_iff.mp last)
    | some c => exact second.last (last.trans (by simpa [last] using same))

theorem append {left right : List Char} (first : Unmarked left) (second : Unmarked right) :
    Unmarked (left ++ right) :=
  touch first.ended second (fun last => absurd last first.last)
    (fun last => absurd last first.last)

/-- A bracket before a text that does not begin with the other character of the mark. -/
theorem bracket {rest : List Char} (unmarked : Unmarked rest) (found : rest ≠ [])
    (differs : rest.head? ≠ some '%') : Unmarked ('<' :: rest) :=
  touch (rfl : isEndedBy _ ['<'] = true) unmarked (fun _ => found) (fun _ => differs)

end Unmarked

/-! ## Printed nodes -/

theorem unmarked_of_isBracketless {text : List Char} (bracketless : IsBracketless text) :
    Unmarked text :=
  .of_not_mem fun member => (bracketless _ member).1 rfl

/-- A name does not begin with the second character of the mark. -/
theorem unmarked_of_isName {name rest : List Char} (named : isName name = true)
    (unmarked : Unmarked rest) : Unmarked ('<' :: (name ++ rest)) := by
  have together := (unmarked_of_isBracketless (isBracketless_of_isName named)).append unmarked
  cases name with
  | nil => exact absurd named Bool.false_ne_true
  | cons first more =>
    refine together.bracket (by simp) fun same => ?_
    exact ne_of_isNameRest (isNameRest_of_mem named List.mem_cons_self) (by decide)
      (Option.some.inj same)

theorem unmarked_printTag {tag : Tag} (proper : tag.Proper) {rest : List Char}
    (unmarked : Unmarked rest) : Unmarked (printTag tag ++ rest) := by
  obtain ⟨given, isGiven, printed⟩ := printTag_eq proper
  rw [printed, List.cons_append, List.append_assoc]
  exact unmarked_of_isName proper.name
    ((unmarked_of_isBracketless isGiven.bracketless).append unmarked)

/-- A remark in which the mark does not stand, and the end of it. -/
theorem unmarked_remark {value closing : List Char} (noMark : ¬ "<%".toList <:+: value)
    (ending : Unmarked closing) (found : closing ≠ []) (differs : closing.head? ≠ some '%') :
    Unmarked (value ++ closing) :=
  .touch (isEndedBy_opening_of_absent noMark) ending (fun _ => found) (fun _ => differs)

theorem unmarked_printNodes {content : List Node}
    (unmarked : ∀ node ∈ content, Unmarked (printNode node)) : Unmarked (printNodes content) := by
  induction content with
  | nil => exact .nil
  | cons first rest inductionHypothesis =>
    rw [List.forall_mem_cons] at unmarked
    rw [printNodes]
    exact unmarked.1.append (inductionHypothesis unmarked.2)

/-- A node in whose remarks the mark does not stand is written without it. -/
theorem unmarked_printNode {node : Node} (proper : node.Proper)
    (noMark : ∀ remark ∈ node.remarks, ¬ "<%".toList <:+: remark) :
    Unmarked (printNode node) := by
  induction proper with
  | text value =>
    rw [printNode]
    exact unmarked_of_isBracketless (isBracketless_escapeText value)
  | @comment value stands =>
    have ending : Unmarked "-->".toList := .of_not_mem (by decide)
    have absent := noMark value (by simp [Node.remarks])
    have inside := unmarked_remark absent ending (by decide) (by decide)
    have dashes : Unmarked "!--".toList := .of_not_mem (by decide)
    rw [printNode, List.append_assoc]
    exact (dashes.append inside).bracket (by simp) (by simp)
  | @instruction target value named stands =>
    have ending : Unmarked "?>".toList := .of_not_mem (by decide)
    have target := unmarked_of_isBracketless (isBracketless_of_isName named)
    have query : Unmarked ['?'] := .of_not_mem (by decide)
    cases value with
    | none =>
      have whole := (query.append (target.append ending)).bracket (by simp) (by simp)
      rw [printNode]
      simpa using whole
    | some value =>
      have absent := noMark value (by simp [Node.remarks])
      have inside := unmarked_remark absent ending (by decide) (by decide)
      have blank : Unmarked [' '] := .of_not_mem (by decide)
      have whole := (query.append (target.append (blank.append inside))).bracket (by simp) (by simp)
      rw [printNode]
      simpa using whole
  | @element tag content tagProper _ inductionHypothesis =>
    have inside : ∀ node ∈ content, Unmarked (printNode node) := fun node member =>
      inductionHypothesis node member fun remark found =>
        noMark remark (by rw [Node.remarks]; exact remarks_subset_remarksOf member found)
    cases content with
    | nil =>
      rw [printNode]
      exact unmarked_printTag tagProper (.of_not_mem (by simp))
    | cons first rest =>
      have content := unmarked_printNodes inside
      rw [printNodes] at content
      have closing : Unmarked ("</".toList ++ tag.name.written.toList ++ ['>']) := by
        have name := unmarked_of_isBracketless (isBracketless_of_isName tagProper.name)
        have bare : Unmarked ['/'] := .of_not_mem (by simp)
        have slash : Unmarked ('/' :: (tag.name.written.toList ++ ['>'])) :=
          bare.append (name.append (.of_not_mem (by simp)))
        simpa using slash.bracket (by simp) (by simp)
      have bracket : Unmarked ['>'] := .of_not_mem (by simp)
      have whole := unmarked_printTag tagProper (bracket.append (content.append closing))
      rw [printNode]
      simpa using whole

/-- A document in whose remarks the mark does not stand is written without it. -/
theorem unmarked_print {document : Document} (proper : document.Proper)
    (noMark : ∀ remark ∈ document.remarks, ¬ "<%".toList <:+: remark) :
    Unmarked document.print := by
  have version : Unmarked document.version.toList :=
    .of_not_mem (not_mem_of_isVersion proper.version (by decide))
  have ending : Unmarked "' encoding='UTF-8'?>\n".toList := .of_not_mem (by decide)
  have opening : Unmarked "?xml version='".toList := .of_not_mem (by decide)
  have heading := (opening.append (version.append ending)).bracket (by simp) (by simp)
  have root := unmarked_printNode (.element proper.root proper.content) noMark
  have whole := heading.append root
  rw [Document.print, String.toList_append, String.toList_append]
  rw [← List.append_assoc] at whole
  exact whole

/-! ## Parts without runs -/

/-- Where no run begins, a scan copies. -/
theorem scan_eq_copied {styles : Table} {tokens : List Token}
    (noRun : ∀ rest ∈ tokens.tails, Run.start? styles rest = none) (pending : List Token) :
    scan styles pending tokens = [.copied (pending.reverse ++ tokens)] := by
  induction tokens generalizing pending with
  | nil => rw [scan, List.append_nil]
  | cons token rest inductionHypothesis =>
    rw [List.tails_cons, List.forall_mem_cons] at noRun
    rw [scan, noRun.1]
    simp only [inductionHypothesis noRun.2, List.reverse_cons, List.append_assoc,
      List.singleton_append]

/-- A part in which no run begins is its own source. -/
theorem compile_eq_self {styles : Table} {part : List Char}
    (noRun : ∀ rest ∈ (tokenize part).tails, Run.start? styles rest = none) :
    compile styles part = ⟨part, []⟩ := by
  rw [compile, pieces, scan_eq_copied noRun]
  rfl

end FormLetter.Markup

namespace FormLetter

open FormLetter.Markup
open FormLetter.Script
open FormLetter.Style

/-- A document in which no run begins, and in whose comments and instructions the mark of template
code does not stand, passes through compiling and rendering unchanged, whatever its names are given
and whatever the world outside is. -/
theorem process_unchanged {σ : Type} [World σ] {bytes : ByteArray} {document : Xml.Document}
    {part : List Char} (isRead : Xml.Document.read bytes = .ok document)
    (printed : Xml.pretty bytes = .ok part)
    (noMark : ∀ remark ∈ document.remarks, ¬ "<%".toList <:+: remark) {styles : Table}
    (noRun : ∀ rest ∈ (tokenize part).tails, Run.start? styles rest = none)
    (host : Host σ) (bound : List (String × Value)) (name : String) (store : Store σ) :
    ∃ after, ((Part.ofSource name (compile styles part).source).process host bound).runFrom store
      = (.ok ⟨part, name, some part⟩, after) := by
  obtain rfl : document.indent.print = part := by
    rw [Xml.pretty, isRead] at printed
    exact Except.ok.inj printed
  have unmarked : Unmarked document.indent.print :=
    unmarked_print (Xml.proper_of_read isRead).indent (by rwa [document.remarks_indent])
  have form : Form.Legible ⟨document.indent.print, []⟩ :=
    ⟨unmarked.ended, by simp, by simp, by simpa [Form.write] using Xml.not_mem_pretty printed⟩
  have written : Form.write ⟨document.indent.print, []⟩ = document.indent.print :=
    List.append_nil _
  have filled (shown : List Char → List Char) :
      Form.fill ⟨document.indent.print, []⟩ shown = document.indent.print := List.append_nil _
  rw [compile_eq_self noRun]
  have processed := form.process host bound (by simp) name store
  rwa [written, filled] at processed

/-- A document that holds the mark as a value and as text, and a comment without it. -/
def plainComment : ByteArray :=
  "<a b='&lt;%= 1 %>'><!-- < % -->&lt;% endif %></a>".toUTF8

/-- How `plainComment` is written. -/
def plainCommentPart : List Char :=
  ["<?xml version='1.0' encoding='UTF-8'?>\n", "<a b=\"&lt;%= 1 %&gt;\">", "<!-- < % -->",
    "&lt;% endif %&gt;", "</a>"].flatMap String.toList

theorem process_unchanged_plainComment :
    ∃ document, Xml.Document.read plainComment = .ok document ∧
      Xml.pretty plainComment = .ok plainCommentPart ∧
      (∀ remark ∈ document.remarks, ¬ "<%".toList <:+: remark) ∧
      (∀ rest ∈ (tokenize plainCommentPart).tails, Run.start? [] rest = none) ∧
      ∃ after, ((Part.ofSource "content.xml" (compile [] plainCommentPart).source).process
          Host.none []).runFrom (Store.start false ())
        = (.ok ⟨plainCommentPart, "content.xml", some plainCommentPart⟩, after) := by
  have isPrinted : (Xml.pretty plainComment).toOption = some plainCommentPart := by decide +kernel
  have noRun : ∀ rest ∈ (tokenize plainCommentPart).tails, Run.start? [] rest = none := by
    decide +kernel
  have remarks : (Xml.Document.read plainComment).toOption.map (·.remarks)
      = some [" < % ".toList] := by decide +kernel
  cases isRead : Xml.Document.read plainComment with
  | error malformed =>
    rw [isRead] at remarks
    cases remarks
  | ok document =>
    rw [isRead] at remarks
    have printed : Xml.pretty plainComment = .ok plainCommentPart := by
      rw [Xml.pretty, isRead] at isPrinted ⊢
      exact congrArg Except.ok (Option.some.inj isPrinted)
    have remarks : document.remarks = [" < % ".toList] := Option.some.inj remarks
    have noMark : ∀ remark ∈ document.remarks, ¬ "<%".toList <:+: remark := by
      rw [remarks]
      decide
    exact ⟨document, rfl, printed, noMark, noRun,
      process_unchanged isRead printed noMark noRun Host.none [] "content.xml" _⟩

/-- A document with template code in a comment. -/
def codeInComment : ByteArray := "<a><!--<%= 1 %>--></a>".toUTF8

/-- The code in the comment is run, though no run begins in the document. -/
theorem process_changes_comment :
    ∃ part, (Xml.pretty codeInComment).toOption = some part ∧
      (∀ rest ∈ (tokenize part).tails, Run.start? [] rest = none) ∧
      (((Part.ofSource "content.xml" (compile [] part).source).process Host.none []).runFrom
        (Store.start false ())).1.toOption.bind (·.rendered) ≠ some part := by
  refine ⟨["<?xml version='1.0' encoding='UTF-8'?>\n", "<a>\n", "  <!--<%= 1 %>-->\n",
    "</a>"].flatMap String.toList, ?_⟩
  decide +kernel

end FormLetter
