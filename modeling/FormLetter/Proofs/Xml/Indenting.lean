import FormLetter.Proofs.Xml.Checking
import FormLetter.Proofs.Xml.Roundtrip
import FormLetter.Xml.Indent

/-!
# What indentation keeps

A document that is indented, written and read again is compared with what it was. For this, an
element has the text before its first child, and every child the text behind it; a text that is
missing is empty, so it does not matter in how many pieces a text was read. All of this is kept but
for the texts between the children of an element that has no text of its own, and paragraphs are
kept with all that is inside of them.
-/

namespace FormLetter.Xml

/-! ## Texts and their places -/

/-- A node with the text behind it. An element has the text before its first child, and its
children. -/
inductive Arranged where
  | comment (value tail : List Char)
  | instruction (target : String) (value : Option (List Char)) (tail : List Char)
  | element (tag : Tag) (text : List Char) (children : List Arranged) (tail : List Char)

namespace Arranged

/-- The text behind a node. -/
def tail : Arranged → List Char
  | comment _ tail | instruction _ _ tail | element _ _ _ tail => tail

end Arranged

/-- The text before the first child of a content. -/
def textBefore : List Node → List Char
  | .text value :: rest => value ++ textBefore rest
  | _ => []

mutual

/-- A node with the text behind it, unless it is text itself. -/
def childOf (tail : List Char) : Node → Option Arranged
  | .text _ => none
  | .comment value => some (.comment value tail)
  | .instruction target value => some (.instruction target value tail)
  | .element tag content => some (.element tag (textBefore content) (childrenOf content) tail)

/-- The children of a content, each with the text behind it. -/
def childrenOf : List Node → List Arranged
  | [] => []
  | node :: rest => (childOf (textBefore rest) node).toList ++ childrenOf rest

end

/-- The root element of a document. Nothing stands behind it. -/
def Document.arranged (document : Document) : Arranged :=
  .element document.root (textBefore document.content) (childrenOf document.content) []

/-! ## What may change -/

/-- True for the content of an element whose texts may change: the element is outside of all
paragraphs, it has children, and there is nothing but white space between them. -/
def isLoose (inside : Bool) (text : List Char) (children : List Arranged) : Bool :=
  !inside && !children.isEmpty && Text.isBlankText text
    && children.all fun child => Text.isBlankText child.tail

/-- A text is what it was, or it may change and is white space before and after. -/
def KeepsText (mayChange : Bool) (before after : List Char) : Prop :=
  after = before ∨
    mayChange = true ∧ Text.isBlankText before = true ∧ Text.isBlankText after = true

mutual

/-- A node is what it was, but for texts that may change. `inside` tells whether it is inside of a
paragraph, and `mayChange` whether the text behind it may change. -/
def Arranged.Keeps (inside mayChange : Bool) : Arranged → Arranged → Prop
  | .comment value tail, .comment value' tail' => value' = value ∧ KeepsText mayChange tail tail'
  | .instruction target value tail, .instruction target' value' tail' =>
    target' = target ∧ value' = value ∧ KeepsText mayChange tail tail'
  | .element tag text children tail, .element tag' text' children' tail' =>
    let within := inside || tag.name.isParagraph
    let isLoose := isLoose within text children
    tag' = tag ∧ KeepsText isLoose text text' ∧ AllKeep within isLoose children children'
      ∧ KeepsText mayChange tail tail'
  | _, _ => False

/-- Nodes are what they were, one by one. -/
def AllKeep (inside mayChange : Bool) : List Arranged → List Arranged → Prop
  | [], [] => True
  | first :: rest, first' :: rest' =>
    first.Keeps inside mayChange first' ∧ AllKeep inside mayChange rest rest'
  | _, _ => False

end

mutual

/-- The paragraphs of a node that are in no other ones: the tag, the text and the children of
each. -/
def Arranged.paragraphs : Arranged → List (Tag × List Char × List Arranged)
  | .element tag text children _ =>
    if tag.name.isParagraph then [(tag, text, children)] else paragraphsOf children
  | .comment _ _ => []
  | .instruction _ _ _ => []

/-- The paragraphs of several nodes. -/
def paragraphsOf : List Arranged → List (Tag × List Char × List Arranged)
  | [] => []
  | first :: rest => first.paragraphs ++ paragraphsOf rest

end

/-! ## Nothing in a paragraph changes -/

mutual

theorem Arranged.Keeps.refl (inside mayChange : Bool) :
    (node : Arranged) → node.Keeps inside mayChange node
  | .comment _ _ => ⟨rfl, .inl rfl⟩
  | .instruction _ _ _ => ⟨rfl, rfl, .inl rfl⟩
  | .element _ _ children _ => ⟨rfl, .inl rfl, AllKeep.refl _ _ children, .inl rfl⟩

theorem AllKeep.refl (inside mayChange : Bool) :
    (nodes : List Arranged) → AllKeep inside mayChange nodes nodes
  | [] => trivial
  | first :: rest =>
    ⟨Arranged.Keeps.refl inside mayChange first, AllKeep.refl inside mayChange rest⟩

end

theorem KeepsText.eq {before after : List Char} (keeps : KeepsText false before after) :
    after = before :=
  keeps.resolve_right fun changed => Bool.false_ne_true changed.1

mutual

theorem Arranged.Keeps.eq : {before after : Arranged} → before.Keeps true false after →
    after = before
  | .comment _ _, .comment _ _, keeps => by
    obtain ⟨rfl, tail⟩ := keeps
    rw [tail.eq]
  | .instruction _ _ _, .instruction _ _ _, keeps => by
    obtain ⟨rfl, rfl, tail⟩ := keeps
    rw [tail.eq]
  | .element _ _ _ _, .element _ _ _ _, keeps => by
    obtain ⟨rfl, text, children, tail⟩ := keeps
    rw [KeepsText.eq text, AllKeep.eq children, tail.eq]

theorem AllKeep.eq : {before after : List Arranged} → AllKeep true false before after →
    after = before
  | [], [], _ => rfl
  | _ :: _, _ :: _, keeps => by rw [keeps.1.eq, AllKeep.eq keeps.2]

end

mutual

/-- The paragraphs of a node are what they were. -/
theorem Arranged.Keeps.paragraphs {mayChange : Bool} : {before after : Arranged} →
    before.Keeps false mayChange after → after.paragraphs = before.paragraphs
  | .comment _ _, .comment _ _, _ => rfl
  | .instruction _ _ _, .instruction _ _ _, _ => rfl
  | .element _ _ _ _, .element tag _ _ _, keeps => by
    obtain ⟨rfl, text, children, -⟩ := keeps
    rw [Arranged.paragraphs, Arranged.paragraphs]
    cases isParagraph : tag.name.isParagraph with
    | true =>
      rw [isParagraph] at text children
      rw [KeepsText.eq text, AllKeep.eq children]
    | false =>
      rw [isParagraph] at children
      exact AllKeep.paragraphs children

theorem AllKeep.paragraphs {mayChange : Bool} : {before after : List Arranged} →
    AllKeep false mayChange before after → paragraphsOf after = paragraphsOf before
  | [], [], _ => rfl
  | _ :: _, _ :: _, keeps => by
    rw [paragraphsOf, paragraphsOf, keeps.1.paragraphs, AllKeep.paragraphs keeps.2]

end

/-! ## Texts in pieces -/

/-- Two contents with the same texts between the same children. -/
structure Alike (left right : List Node) : Prop where
  text : textBefore left = textBefore right
  children : childrenOf left = childrenOf right

namespace Alike

variable {left right third : List Node}

theorem refl (content : List Node) : Alike content content := ⟨rfl, rfl⟩

theorem symm (alike : Alike left right) : Alike right left := ⟨alike.text.symm, alike.children.symm⟩

theorem trans (first : Alike left right) (second : Alike right third) : Alike left third :=
  ⟨first.text.trans second.text, first.children.trans second.children⟩

theorem cons (node : Node) (alike : Alike left right) : Alike (node :: left) (node :: right) := by
  refine ⟨?_, ?_⟩
  · cases node with
    | text value => exact congrArg (value ++ ·) alike.text
    | _ => rfl
  · rw [childrenOf, childrenOf, alike.text, alike.children]

theorem append (lead : List Node) (alike : Alike left right) :
    Alike (lead ++ left) (lead ++ right) := by
  induction lead with
  | nil => exact alike
  | cons node rest ih => exact ih.cons node

theorem empty (rest : List Node) : Alike (.text [] :: rest) rest := ⟨rfl, rfl⟩

/-- Two texts side by side are one. -/
theorem merge (first second : List Char) (rest : List Node) :
    Alike (.text first :: .text second :: rest) (.text (first ++ second) :: rest) :=
  ⟨(List.append_assoc first second _).symm, rfl⟩

/-- It does not matter how texts are joined when a node is put behind others. -/
theorem putNode (before : List Node) (node : Node) (rest : List Node) :
    Alike ((putNode before node).reverse ++ rest) (before.reverse ++ node :: rest) := by
  unfold Xml.putNode
  split
  · exact ((empty rest).append before.reverse).symm
  · rename_i text before others _
    rw [List.reverse_cons, List.reverse_cons, List.append_assoc, List.append_assoc]
    exact ((merge before text rest).append others.reverse).symm
  · rw [List.reverse_cons, List.append_assoc]
    exact refl _

end Alike

mutual

theorem childOf_joined (tail : List Char) : (node : Node) →
    childOf tail node.joined = childOf tail node
  | .text _ => rfl
  | .comment _ => rfl
  | .instruction _ _ => rfl
  | .element tag content => by
    have alike : Alike (joinedOnto [] content).reverse content := alike_joinedOnto [] content
    rw [Node.joined, childOf, childOf, alike.text, alike.children]

/-- A content has the same texts and children when its texts are joined. -/
theorem alike_joinedOnto (before : List Node) : (content : List Node) →
    Alike (joinedOnto before content).reverse (before.reverse ++ content)
  | [] => by
    rw [List.append_nil]
    exact .refl _
  | first :: rest => by
    have single : Alike (first.joined :: rest) (first :: rest) := by
      refine ⟨by cases first <;> rfl, ?_⟩
      rw [childrenOf, childrenOf, childOf_joined _ first]
    rw [joinedOnto]
    exact ((alike_joinedOnto _ rest).trans (.putNode before first.joined rest)).trans
      (single.append before.reverse)

end

/-- A document that is written and read has its texts where they were. -/
theorem arranged_joined (document : Document) : document.joined.arranged = document.arranged := by
  have alike : Alike (joinedOnto [] document.content).reverse document.content :=
    alike_joinedOnto [] document.content
  exact congrArg₂ (Arranged.element document.root · · []) alike.text alike.children

/-! ## Indentation -/

/-- What is text stays text, and nothing else becomes text. -/
theorem isText_indentNode (depth : Nat) (node : Node) :
    (indentNode depth node).isText = node.isText := by
  cases node with
  | element tag content =>
    rw [indentNode]
    split <;> rfl
  | _ => rfl

theorem isEmpty_childrenOf (content : List Node) :
    (childrenOf content).isEmpty = !content.any (!·.isText) := by
  induction content with
  | nil => rfl
  | cons node rest ih =>
    cases node with
    | text value => exact ih
    | _ => rfl

/-- A content has no text but white space when there is none before, between and behind its
children. -/
theorem all_isBlank (content : List Node) :
    (content.all fun node => !node.isText || node.isBlankText)
      = (Text.isBlankText (textBefore content)
        && (childrenOf content).all fun child => Text.isBlankText child.tail) := by
  induction content with
  | nil => rfl
  | cons node rest ih =>
    rw [List.all_cons, ih]
    cases node with
    | text value =>
      have blank : Text.isBlankText (value ++ textBefore rest)
          = (Text.isBlankText value && Text.isBlankText (textBefore rest)) := List.all_append
      change _ = (Text.isBlankText (value ++ textBefore rest) && _)
      rw [blank, Bool.and_assoc]
      rfl
    | _ => rfl

/-- Where indentation spreads the content of an element, its texts may change. -/
theorem isLoose_eq (content : List Node) :
    isLoose false (textBefore content) (childrenOf content) = isStructural content := by
  rw [isLoose, isEmpty_childrenOf, Bool.not_not, Bool.and_assoc, Bool.and_assoc, ← all_isBlank]
  rfl

theorem isBlankText_break (depth : Nat) :
    Text.isBlankText ('\n' :: List.replicate (2 * depth) ' ') = true := by
  refine List.all_eq_true.mpr fun c member => ?_
  rcases List.mem_cons.mp member with rfl | blank
  · decide
  · rw [List.eq_of_mem_replicate blank]
    decide

theorem textBefore_of_not_isText {node : Node} (notText : node.isText = false) (rest : List Node) :
    textBefore (node :: rest) = [] := by
  cases node with
  | text value => cases notText
  | _ => rfl

/-- What stands before the first line of a content that was spread is white space. -/
theorem isBlank_textBefore_indentNodes (depth outer : Nat) (content : List Node) :
    Text.isBlankText (textBefore (indentNodes depth content ++ [lineBreak outer])) = true := by
  induction content with
  | nil =>
    change Text.isBlankText (_ ++ []) = true
    rw [List.append_nil]
    exact isBlankText_break outer
  | cons node rest ih =>
    rw [indentNodes]
    cases isText : node.isText with
    | true => exact ih
    | false =>
      rw [if_neg Bool.false_ne_true]
      have notText := (isText_indentNode depth node).trans isText
      change Text.isBlankText (_ ++ textBefore (indentNode depth node :: _)) = true
      rw [textBefore_of_not_isText notText, List.append_nil]
      exact isBlankText_break depth

mutual

/-- Indentation keeps a node that is in no paragraph, but for texts that may change. -/
theorem keeps_indentNode (depth : Nat) {mayChange : Bool} {tail tail' : List Char}
    (keeps : KeepsText mayChange tail tail') : (node : Node) → ∀ before ∈ childOf tail node,
      ∃ after, childOf tail' (indentNode depth node) = some after ∧
        before.Keeps false mayChange after
  | .text _ => fun _ found => by cases found
  | .comment _ => fun _ found => by
    cases found
    exact ⟨_, rfl, rfl, keeps⟩
  | .instruction _ _ => fun _ found => by
    cases found
    exact ⟨_, rfl, rfl, rfl, keeps⟩
  | .element tag content => fun _ found => by
    rw [childOf] at found
    cases found
    cases spread : !tag.name.isParagraph && isStructural content with
    | false =>
      rw [indentNode, spread]
      exact ⟨_, rfl, rfl, .inl rfl, AllKeep.refl _ _ _, keeps⟩
    | true =>
      rw [indentNode, spread]
      rw [Bool.and_eq_true, Bool.not_eq_true'] at spread
      obtain ⟨outside, structural⟩ := spread
      have blank := (Bool.and_eq_true_iff.mp structural).2
      refine ⟨_, rfl, rfl, ?_⟩
      rw [outside, Bool.false_or, isLoose_eq, structural]
      refine ⟨.inr ⟨rfl, ?_, isBlank_textBefore_indentNodes _ _ content⟩,
        allKeep_indentNodes (depth + 1) depth content blank, keeps⟩
      rw [all_isBlank, Bool.and_eq_true] at blank
      exact blank.1

theorem allKeep_indentNodes (depth outer : Nat) : (content : List Node) →
    (content.all fun node => !node.isText || node.isBlankText) = true →
      AllKeep false true (childrenOf content)
        (childrenOf (indentNodes depth content ++ [lineBreak outer]))
  | [], _ => trivial
  | node :: rest, blank => by
    rw [List.all_cons, Bool.and_eq_true] at blank
    have others := allKeep_indentNodes depth outer rest blank.2
    have restBlank := blank.2
    rw [all_isBlank, Bool.and_eq_true] at restBlank
    have keeps : KeepsText true (textBefore rest)
        (textBefore (indentNodes depth rest ++ [lineBreak outer])) :=
      .inr ⟨rfl, restBlank.1, isBlank_textBefore_indentNodes depth outer rest⟩
    rw [indentNodes]
    cases isText : node.isText with
    | true =>
      cases node with
      | text value => exact others
      | _ => cases isText
    | false =>
      obtain ⟨before, found⟩ : ∃ before, childOf (textBefore rest) node = some before := by
        cases node with
        | text value => cases isText
        | comment | instruction => exact ⟨_, rfl⟩
        | element => exact ⟨_, by rw [childOf]⟩
      obtain ⟨after, isAfter, kept⟩ := keeps_indentNode depth keeps node before found
      rw [if_neg Bool.false_ne_true, childrenOf, found]
      change AllKeep false true (before :: childrenOf rest)
        (childrenOf (indentNode depth node :: (indentNodes depth rest ++ [lineBreak outer])))
      rw [childrenOf, isAfter]
      exact ⟨kept, others⟩

end

/-! ## Indented documents -/

/-- The root of an indented document is the indented root. -/
theorem element_indent (document : Document) :
    Node.element document.indent.root document.indent.content
        = indentNode 0 (.element document.root document.content) ∧
      document.indent.version = document.version := by
  cases spread : !document.root.name.isParagraph && isStructural document.content with
  | true =>
    rw [Document.indent, indentNode, spread]
    exact ⟨rfl, rfl⟩
  | false =>
    rw [Document.indent, indentNode, spread]
    exact ⟨rfl, rfl⟩

/-- Indentation keeps a document, but for texts that may change. -/
theorem keeps_indent (document : Document) :
    document.arranged.Keeps false false document.indent.arranged := by
  have root (document : Document) : childOf [] (.element document.root document.content)
      = some document.arranged := by
    rw [childOf]
    rfl
  obtain ⟨after, found, keeps⟩ := keeps_indentNode 0 (.inl rfl : KeepsText false [] [])
    (.element document.root document.content) document.arranged (root document)
  rw [← (element_indent document).1, root] at found
  cases found
  exact keeps

mutual

/-- Indentation brings no notices. -/
theorem noticesOf_indentNode (scope : List Declaration) (depth : Nat) : (node : Node) →
    noticesOf scope (indentNode depth node) = noticesOf scope node
  | .text _ => rfl
  | .comment _ => rfl
  | .instruction _ _ => rfl
  | .element tag content => by
    rw [indentNode]
    split
    · rw [noticesOf, noticesOf, noticesOfAll_append, noticesOfAll_indentNodes _ _ content]
      exact congrArg (_ ++ ·) (List.append_nil _)
    · rfl

theorem noticesOfAll_indentNodes (scope : List Declaration) (depth : Nat) :
    (content : List Node) → noticesOfAll scope (indentNodes depth content)
      = noticesOfAll scope content
  | [] => rfl
  | node :: rest => by
    have others := noticesOfAll_indentNodes scope depth rest
    rw [indentNodes, noticesOfAll]
    cases isText : node.isText with
    | true =>
      cases node with
      | text value => exact others
      | _ => cases isText
    | false =>
      rw [if_neg Bool.false_ne_true, noticesOfAll, noticesOfAll,
        noticesOf_indentNode scope depth node, others]
      rfl

end

theorem sound_lineBreak (room : Nat) (scope : List Declaration) (depth : Nat) :
    (lineBreak depth).Sound room scope := by
  refine .text fun c member => ?_
  rcases List.mem_cons.mp member with rfl | blank
  · decide
  · rw [List.eq_of_mem_replicate blank]
    decide

/-- A content that was spread can be read again if each of its nodes can. -/
theorem sound_indentNodes {room : Nat} {scope : List Declaration} {content : List Node}
    (sound : ∀ node ∈ content, ∀ depth, (indentNode depth node).Sound room scope) (depth : Nat) :
    ∀ node ∈ indentNodes depth content, node.Sound room scope := by
  induction content with
  | nil => exact fun _ member => absurd member List.not_mem_nil
  | cons first rest ih =>
    rw [List.forall_mem_cons] at sound
    rw [indentNodes]
    split
    · exact ih sound.2
    · exact List.forall_mem_cons.mpr ⟨sound_lineBreak _ _ _,
        List.forall_mem_cons.mpr ⟨sound.1 depth, ih sound.2⟩⟩

/-- What is indented can be written and read again if it could before. -/
theorem Node.Sound.indentNode {room : Nat} {scope : List Declaration} {node : Node}
    (sound : node.Sound room scope) (depth : Nat) : (indentNode depth node).Sound room scope := by
  induction sound generalizing depth with
  | text valid => exact .text valid
  | comment stands => exact .comment stands
  | instruction named isFree stands => exact .instruction named isFree stands
  | @element room scope tag content tagSound contentSound ih =>
    rw [Xml.indentNode]
    split
    · refine .element tagSound fun node member => ?_
      rcases List.mem_append.mp member with isLine | isLast
      · exact sound_indentNodes ih _ node isLine
      · rw [List.mem_singleton.mp isLast]
        exact sound_lineBreak _ _ _
    · exact .element tagSound contentSound

/-- An indented document can be written and read again if it could before. -/
theorem Document.Sound.indent {document : Document} (sound : document.Sound) :
    document.indent.Sound := by
  obtain ⟨root, version⟩ := element_indent document
  refine ⟨?_, ?_, ?_⟩
  · rw [version]
    exact sound.version
  · rw [root]
    exact sound.tree.indentNode 0
  · rw [root, noticesOf_indentNode]
    exact sound.accepted

/-- The indented text of a document is read as the indented document. -/
theorem read_pretty {bytes : ByteArray} {document : Document}
    (read : Document.read bytes = .ok document) :
    pretty bytes = .ok document.indent.print ∧
      Document.read (String.ofList document.indent.print).toUTF8 = .ok document.indent.joined := by
  refine ⟨?_, read_print (sound_of_read read).indent⟩
  unfold pretty
  rw [read]
  rfl

/-- The tag of an element of a text document. -/
def textTag (base : String) (declarations : List Declaration) : Tag :=
  ⟨⟨some "text", some textNamespace, base⟩, declarations, []⟩

/-- A list on one line: a paragraph with blanks, a comment, and an item with text of its own. -/
def listOnOneLine : Document where
  version := "1.0"
  root := textTag "list" [⟨some "text", textNamespace⟩]
  content := [.element (textTag "p" []) [.text [' '], .element (textTag "span" []) [.text ['a']]],
    .text ['\t'], .comment ['c'], .element (textTag "item" []) [.text ['b'],
      .element (textTag "h" []) []]]

end FormLetter.Xml
