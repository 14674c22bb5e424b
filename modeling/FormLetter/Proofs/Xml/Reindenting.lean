import FormLetter.Proofs.Xml.Indenting
import FormLetter.Proofs.Xml.Reprinting

/-!
# Indenting again

A document that was indented, written and read is indented as it is: every line break is put where
one was taken away, and what has text of its own still has it. So indenting a text again changes
nothing, unless an element is hollow, which only an empty literal section leaves. Such an element is
written with two tags at first, and with one when it was read again.
-/

namespace FormLetter.Xml

/-! ## Spread contents -/

/-- Nodes of which each is on a line of its own. -/
def spread (depth : Nat) (nodes : List Node) : List Node :=
  nodes.flatMap fun node => [lineBreak depth, node]

/-- Indentation spreads the children of a content. -/
theorem indentNodes_eq (depth : Nat) (content : List Node) : indentNodes depth content
    = spread depth ((content.filter (!·.isText)).map (indentNode depth)) := by
  induction content with
  | nil => rfl
  | cons node rest ih =>
    rw [indentNodes, ih]
    cases isText : node.isText with
    | true =>
      rw [List.filter_cons_of_neg (by rw [isText]; exact Bool.false_ne_true)]
      rfl
    | false =>
      rw [List.filter_cons_of_pos (by rw [isText]; rfl)]
      rfl

theorem isText_joined (node : Node) : node.joined.isText = node.isText := by
  cases node <;> rfl

/-- A node is put behind what is not text. -/
theorem putNode_of_apart {before : List Node} {node : Node} (some_ : node.isEmptyText = false)
    (apart : node.isText = false ∨ ∀ last ∈ before.head?, last.isText = false) :
    putNode before node = node :: before := by
  unfold putNode
  split
  · cases some_
  · rename_i text before others _
    rcases apart with notText | notText
    · cases notText
    · cases notText _ rfl
  · rfl

/-- Nothing is joined where texts and children take turns. -/
theorem joinedOnto_spread (depth outer : Nat) {nodes : List Node}
    (children : ∀ node ∈ nodes, node.isText = false) {before : List Node}
    (apart : ∀ last ∈ before.head?, last.isText = false) :
    joinedOnto before (spread depth nodes ++ [lineBreak outer])
      = lineBreak outer :: ((spread depth (nodes.map Node.joined)).reverse ++ before) := by
  have break_ (depth : Nat) {before : List Node}
      (apart : ∀ last ∈ before.head?, last.isText = false) :
      putNode before (lineBreak depth).joined = lineBreak depth :: before :=
    putNode_of_apart rfl (.inr apart)
  induction nodes generalizing before with
  | nil => exact break_ outer apart
  | cons node rest ih =>
    rw [List.forall_mem_cons] at children
    have notText : node.joined.isText = false := (isText_joined node).trans children.1
    have notEmpty : node.joined.isEmptyText = false := by
      cases same : node.joined with
      | text value =>
        rw [same] at notText
        cases notText
      | _ => rfl
    have here : spread depth (node :: rest) ++ [lineBreak outer]
        = lineBreak depth :: node :: (spread depth rest ++ [lineBreak outer]) := rfl
    have joined : spread depth ((node :: rest).map Node.joined)
        = lineBreak depth :: node.joined :: spread depth (rest.map Node.joined) := rfl
    rw [here, joinedOnto, break_ depth apart, joinedOnto,
      putNode_of_apart notEmpty (.inl notText),
      ih children.2 (fun last isLast => by cases isLast; exact notText), joined]
    simp only [List.reverse_cons, List.append_assoc, List.cons_append, List.nil_append]

/-- What was spread is spread again. -/
theorem isStructural_spread (depth outer : Nat) {nodes : List Node} (some_ : nodes ≠ [])
    (children : ∀ node ∈ nodes, node.isText = false) :
    isStructural (spread depth nodes ++ [lineBreak outer]) = true := by
  obtain ⟨child, rest, rfl⟩ := List.exists_cons_of_ne_nil some_
  rw [isStructural, Bool.and_eq_true]
  refine ⟨List.any_eq_true.mpr ⟨child, ?_, ?_⟩, List.all_eq_true.mpr fun node member => ?_⟩
  · exact List.mem_append_left _ (List.mem_cons_of_mem _ List.mem_cons_self)
  · rw [children child List.mem_cons_self]
    rfl
  · rcases List.mem_append.mp member with inside | last
    · obtain ⟨owner, isOwner, isLine⟩ := List.mem_flatMap.mp inside
      rcases List.mem_cons.mp isLine with rfl | isOwn
      · exact isBlankText_break depth
      · rw [List.mem_singleton.mp isOwn, children owner isOwner]
        rfl
    · rw [List.mem_singleton.mp last]
      exact isBlankText_break outer

/-- The children of what was spread are those that were spread. -/
theorem filter_spread (depth outer : Nat) {nodes : List Node}
    (children : ∀ node ∈ nodes, node.isText = false) :
    (spread depth nodes ++ [lineBreak outer]).filter (!·.isText) = nodes := by
  induction nodes with
  | nil => rfl
  | cons node rest ih =>
    rw [List.forall_mem_cons] at children
    change (lineBreak depth :: node :: (spread depth rest ++ [lineBreak outer])).filter _ = _
    rw [List.filter_cons_of_neg (by exact Bool.false_ne_true),
      List.filter_cons_of_pos (by rw [children.1]; rfl), ih children.2]

/-! ## Indenting once more -/

theorem isStructural_joined (content : List Node) :
    isStructural (joinedOnto [] content).reverse = isStructural content := by
  have alike : Alike (joinedOnto [] content).reverse content := alike_joinedOnto [] content
  rw [← isLoose_eq, ← isLoose_eq, alike.text, alike.children]

mutual

/-- A node that was indented, written and read is indented as it is. -/
theorem indentNode_again (depth : Nat) : (node : Node) →
    indentNode depth (indentNode depth node).joined = (indentNode depth node).joined
  | .text _ => rfl
  | .comment _ => rfl
  | .instruction _ _ => rfl
  | .element tag content => by
    cases spreads : !tag.name.isParagraph && isStructural content with
    | false =>
      have still : indentNode depth (.element tag content) = .element tag content := by
        rw [indentNode, spreads]
        rfl
      rw [still, Node.joined, indentNode, isStructural_joined, spreads]
      rfl
    | true =>
      have parts := Bool.and_eq_true_iff.mp spreads
      let nodes := (content.filter (!·.isText)).map (indentNode (depth + 1))
      have children : ∀ node ∈ nodes, node.isText = false := by
        intro node member
        obtain ⟨child, isChild, rfl⟩ := List.mem_map.mp member
        rw [isText_indentNode]
        exact (Bool.not_eq_true' _).mp (List.mem_filter.mp isChild).2
      have joinedChildren : ∀ node ∈ nodes.map Node.joined, node.isText = false := by
        intro node member
        obtain ⟨child, isChild, rfl⟩ := List.mem_map.mp member
        rw [isText_joined]
        exact children child isChild
      have some_ : nodes.map Node.joined ≠ [] := by
        obtain ⟨child, member, isChild⟩ := List.any_eq_true.mp (Bool.and_eq_true_iff.mp parts.2).1
        have kept : child ∈ content.filter (!·.isText) := List.mem_filter.mpr ⟨member, isChild⟩
        exact List.ne_nil_of_mem (List.mem_map_of_mem (List.mem_map_of_mem kept))
      have again :
          (nodes.map Node.joined).map (indentNode (depth + 1)) = nodes.map Node.joined := by
        rw [List.map_map]
        refine List.map_congr_left fun node member => ?_
        obtain ⟨child, isChild, rfl⟩ := List.mem_map.mp member
        exact indentNode_again_of_mem (depth + 1) content child (List.mem_filter.mp isChild).1
      have indented : indentNode depth (.element tag content)
          = .element tag (spread (depth + 1) nodes ++ [lineBreak depth]) := by
        rw [indentNode, spreads, indentNodes_eq]
        rfl
      have joined : (indentNode depth (.element tag content)).joined
          = .element tag (spread (depth + 1) (nodes.map Node.joined) ++ [lineBreak depth]) := by
        rw [indented, Node.joined, joinedOnto_spread _ _ children (by simp), List.append_nil,
          List.reverse_cons, List.reverse_reverse]
      rw [joined, indentNode, parts.1, isStructural_spread _ _ some_ joinedChildren, indentNodes_eq,
        filter_spread _ _ joinedChildren, again]
      rfl

theorem indentNode_again_of_mem (depth : Nat) : (content : List Node) → ∀ node ∈ content,
    indentNode depth (indentNode depth node).joined = (indentNode depth node).joined
  | [] => fun _ member => absurd member List.not_mem_nil
  | first :: rest =>
    List.forall_mem_cons.mpr ⟨indentNode_again depth first, indentNode_again_of_mem depth rest⟩

end

/-- A content with a child is not hollow. -/
theorem isHollow_of_isStructural {content : List Node} (structural : isStructural content = true) :
    isHollow content = false := by
  obtain ⟨child, member, notText⟩ := List.any_eq_true.mp (Bool.and_eq_true_iff.mp structural).1
  refine Bool.and_eq_false_iff.mpr (.inr (List.all_eq_false.mpr ⟨child, member, ?_⟩))
  cases child with
  | text value => cases notText
  | _ => exact Bool.false_ne_true

mutual

/-- Indentation leaves hollow elements hollow, and makes none. -/
theorem hasHollow_indentNode (depth : Nat) : (node : Node) →
    (indentNode depth node).hasHollow = node.hasHollow
  | .text _ => rfl
  | .comment _ => rfl
  | .instruction _ _ => rfl
  | .element tag content => by
    cases spreads : !tag.name.isParagraph && isStructural content with
    | false =>
      rw [indentNode, spreads]
      rfl
    | true =>
      have structural := (Bool.and_eq_true_iff.mp spreads).2
      have lines : isHollow (indentNodes (depth + 1) content ++ [lineBreak depth]) = false := by
        refine Bool.and_eq_false_iff.mpr (.inr (List.all_eq_false.mpr ⟨lineBreak depth, ?_, ?_⟩))
        · exact List.mem_append_right _ List.mem_cons_self
        · exact Bool.false_ne_true
      rw [indentNode, spreads, if_pos rfl, Node.hasHollow, Node.hasHollow, lines,
        isHollow_of_isStructural structural, haveHollow_indentNodes]

theorem haveHollow_indentNodes (depth outer : Nat) : (content : List Node) →
    haveHollow (indentNodes depth content ++ [lineBreak outer]) = haveHollow content
  | [] => rfl
  | first :: rest => by
    have others := haveHollow_indentNodes depth outer rest
    rw [indentNodes, haveHollow]
    cases isText : first.isText with
    | true =>
      cases first with
      | text value => exact others
      | _ => cases isText
    | false =>
      rw [if_neg Bool.false_ne_true, ← hasHollow_indentNode depth first, ← others]
      rfl

end

/-! ## Indented texts -/

/-- A document that was indented, written and read is indented as it is. -/
theorem indent_again (document : Document) :
    document.indent.joined.indent = document.indent.joined := by
  obtain ⟨root, -⟩ := element_indent document
  obtain ⟨again, version⟩ := element_indent document.indent.joined
  have joined : Node.element document.indent.joined.root document.indent.joined.content
      = (Node.element document.indent.root document.indent.content).joined := by
    rw [Node.joined]
    rfl
  rw [joined, root, indentNode_again, ← root, ← joined] at again
  obtain ⟨sameRoot, sameContent⟩ := Node.element.inj again
  rw [Document.mk.injEq]
  exact ⟨version, sameRoot, sameContent⟩

/-- The tag of an element that is hollow. -/
def hollowTag : Tag := ⟨⟨none, none, "a"⟩, [], []⟩

/-- A document of one element, which holds an empty literal section. -/
def hollowText : List Char := headingOf "1.0" ++ "\n<a><![CDATA[]]></a>".toList

/-- The document that is read of it. -/
def hollowDocument : Document := ⟨"1.0", hollowTag, [.text []]⟩

theorem read_hollowText : Document.read (String.ofList hollowText).toUTF8 = .ok hollowDocument := by
  have valid : Heading.isVersion "1.0".toList = true := by decide
  have named : isName "a".toList = true := by decide
  have sound : hollowTag.Sound [] := by decide
  have ends : EndsName ('>' :: "<![CDATA[]]></a>".toList) := by
    rintro _ ⟨⟩
    decide
  have root : items "<a><![CDATA[]]></a>".toList
      = ⟨hollowTag.item false, 16⟩ :: items "<![CDATA[]]></a>".toList :=
    items_opening sound ends (takeAttributes_closing _)
  have taken : takeMarkup ('<' :: "![CDATA[]]></a>".toList)
      = .ok (.literal [], "</a>".toList) := rfl
  have literal : items "<![CDATA[]]></a>".toList = ⟨.literal [], 4⟩ :: items "</a>".toList :=
    items_markup taken (by decide)
  have closing : items "</a>".toList = ⟨.closing "a", 0⟩ :: items [] :=
    items_markup (takeMarkup_closing named []) (by decide)
  have none_ : items [] = [] := by rw [items]
  have prolog : readProlog none (items "\n<a><![CDATA[]]></a>".toList)
      = .ok (.empty, items "<a><![CDATA[]]></a>".toList) := by
    have whole : items "\n<a><![CDATA[]]></a>".toList = _ :=
      items_break "a><![CDATA[]]></a>".toList
    have isRoot : items ('<' :: "a><![CDATA[]]></a>".toList) = _ := root
    rw [whole, isRoot, root]
    rfl
  rw [root, literal, closing, none_] at prolog
  exact Document.read_eq_ok_iff.mpr ⟨_, _, _, _, _, _, decodeDocument?_print valid (by decide),
    take_headingOf valid _, prolog, rfl, rfl⟩

end FormLetter.Xml
