import FormLetter.Proofs.Xml.Moving
import FormLetter.Proofs.Xml.Rereading

/-!
# Documents that are written again

A document that is written and read is written as before. Texts that stood side by side have become
one, which does not show; but an element that is hollow, as it holds nothing except empty texts, is
written with two tags at first and with one afterwards. Nothing else changes, so a tree is written as
before just where nothing in it is hollow. A tree without empty texts is such a tree.
-/

namespace FormLetter.Xml

mutual

/-- True for a node without empty texts. -/
def Node.isFilled : Node → Bool
  | .element _ content => areFilled content
  | .text value => !value.isEmpty
  | .comment _ | .instruction _ _ => true

/-- True for nodes without empty texts. -/
def areFilled : List Node → Bool
  | [] => true
  | first :: rest => first.isFilled && areFilled rest

end

/-- True for a document without empty texts. -/
def Document.isFilled (document : Document) : Bool := areFilled document.content

theorem areFilled_iff {content : List Node} :
    areFilled content = true ↔ ∀ node ∈ content, node.isFilled = true := by
  induction content with
  | nil => simp [areFilled]
  | cons first rest ih => rw [areFilled, Bool.and_eq_true, ih, List.forall_mem_cons]

mutual

/-- Qualifiers do not matter. -/
theorem Node.isFilled_unqualified : (node : Node) → node.unqualified.isFilled = node.isFilled
  | .element tag content => by
    rw [Node.unqualified, Node.isFilled, Node.isFilled, areFilled_unqualified content]
  | .text _ => rfl
  | .comment _ => rfl
  | .instruction _ _ => rfl

theorem areFilled_unqualified : (content : List Node) →
    areFilled (unqualifiedAll content) = areFilled content
  | [] => rfl
  | first :: rest => by
    rw [unqualifiedAll, areFilled, areFilled, first.isFilled_unqualified,
      areFilled_unqualified rest]

end

/-! ## Writing -/

theorem printNodes_append (left right : List Node) :
    printNodes (left ++ right) = printNodes left ++ printNodes right := by
  induction left with
  | nil => rfl
  | cons first rest ih => rw [List.cons_append, printNodes, printNodes, ih, List.append_assoc]

/-- An element with content is written with two tags. -/
theorem printNode_of_ne_nil {tag : Tag} {content : List Node} (some_ : content ≠ []) :
    printNode (.element tag content) = printTag tag ++ '>' :: printNodes content
      ++ "</".toList ++ tag.name.written.toList ++ ['>'] := by
  cases content with
  | nil => exact absurd rfl some_
  | cons first rest => rfl

theorem printNodes_putNode (before : List Node) (node : Node) :
    printNodes (putNode before node).reverse = printNodes before.reverse ++ printNode node := by
  have put (before : List Node) :
      printNodes (node :: before).reverse = printNodes before.reverse ++ printNode node := by
    rw [List.reverse_cons, printNodes_append, printNodes, printNodes, List.append_nil]
  unfold putNode
  split
  · exact (List.append_nil _).symm
  · rename_i text before rest _
    simp only [List.reverse_cons, printNodes_append, printNodes, printNode, escapeText,
      List.flatMap_append, List.append_nil, List.append_assoc]
  · exact put before

/-! ## Hollow elements -/

/-- True for a text without characters. -/
def Node.isEmptyText : Node → Bool
  | .text value => value.isEmpty
  | _ => false

/-- True for a content that is there, but has neither children nor characters. -/
def isHollow (content : List Node) : Bool := !content.isEmpty && content.all (·.isEmptyText)

mutual

/-- True for a node with an element in it that is hollow. -/
def Node.hasHollow : Node → Bool
  | .element _ content => isHollow content || haveHollow content
  | .text _ | .comment _ | .instruction _ _ => false

/-- True for nodes of which one has an element in it that is hollow. -/
def haveHollow : List Node → Bool
  | [] => false
  | first :: rest => first.hasHollow || haveHollow rest

end

mutual

/-- Where no text is empty, nothing is hollow. -/
theorem Node.hasHollow_of_isFilled : (node : Node) → node.isFilled = true → node.hasHollow = false
  | .element _ content, filled => by
    rw [Node.isFilled] at filled
    rw [Node.hasHollow, haveHollow_of_areFilled content filled, Bool.or_false]
    cases content with
    | nil => rfl
    | cons first rest =>
      rw [areFilled, Bool.and_eq_true] at filled
      rw [isHollow, List.all_cons]
      cases first with
      | text value =>
        have some_ := filled.1
        rw [Node.isFilled, Bool.not_eq_true'] at some_
        rw [Node.isEmptyText, some_]
        rfl
      | _ => rfl
  | .text _, _ => rfl
  | .comment _, _ => rfl
  | .instruction _ _, _ => rfl

theorem haveHollow_of_areFilled : (content : List Node) → areFilled content = true →
    haveHollow content = false
  | [], _ => rfl
  | first :: rest, filled => by
    rw [areFilled, Bool.and_eq_true] at filled
    rw [haveHollow, first.hasHollow_of_isFilled filled.1, haveHollow_of_areFilled rest filled.2]
    rfl

end

theorem putNode_joined_eq_nil (before : List Node) (node : Node) :
    putNode before node.joined = [] ↔ before = [] ∧ node.isEmptyText = true := by
  unfold putNode
  split
  · rename_i same
    cases node with
    | text value =>
      cases same
      exact ⟨fun none_ => ⟨none_, rfl⟩, fun none_ => none_.1⟩
    | _ => cases same
  · exact ⟨nofun, fun none_ => nomatch none_.1⟩
  · rename_i some_ _
    refine ⟨nofun, fun ⟨_, isEmpty⟩ => ?_⟩
    cases node with
    | text value =>
      cases value with
      | nil => exact absurd rfl some_
      | cons => cases isEmpty
    | _ => cases isEmpty

/-- Joining takes a content away if it has neither children nor characters. -/
theorem joinedOnto_eq_nil (before content : List Node) :
    joinedOnto before content = [] ↔ before = [] ∧ content.all (·.isEmptyText) = true := by
  induction content generalizing before with
  | nil => exact ⟨fun none_ => ⟨none_, rfl⟩, fun none_ => none_.1⟩
  | cons first rest ih =>
    rw [joinedOnto, ih, putNode_joined_eq_nil, List.all_cons, Bool.and_eq_true, and_assoc]

theorem joined_eq_nil {content : List Node} (some_ : content ≠ []) :
    (joinedOnto [] content).reverse = [] ↔ isHollow content = true := by
  rw [List.reverse_eq_nil_iff, joinedOnto_eq_nil, isHollow, List.isEmpty_eq_false_iff.mpr some_]
  simp

mutual

/-- A node in which nothing is hollow is written as before when its texts are joined. -/
theorem printNode_joined : (node : Node) → node.hasHollow = false →
    printNode node.joined = printNode node
  | .element tag [], _ => rfl
  | .element tag (first :: rest), solid => by
    obtain ⟨notHollow, solid⟩ := Bool.or_eq_false_iff.mp solid
    have some_ : first :: rest ≠ [] := List.cons_ne_nil _ _
    have left : (joinedOnto [] (first :: rest)).reverse ≠ [] :=
      mt (joined_eq_nil some_).mp (Bool.eq_false_iff.mp notHollow)
    rw [Node.joined, printNode_of_ne_nil left, printNode_of_ne_nil some_,
      printNodes_joinedOnto [] (first :: rest) solid]
    rfl
  | .text _, _ => rfl
  | .comment _, _ => rfl
  | .instruction _ _, _ => rfl

theorem printNodes_joinedOnto (before : List Node) : (content : List Node) →
    haveHollow content = false →
    printNodes (joinedOnto before content).reverse = printNodes before.reverse ++ printNodes content
  | [], _ => (List.append_nil _).symm
  | first :: rest, solid => by
    obtain ⟨firstSolid, restSolid⟩ := Bool.or_eq_false_iff.mp solid
    rw [joinedOnto, printNodes_joinedOnto _ rest restSolid, printNodes_putNode,
      printNode_joined first firstSolid, List.append_assoc]
    rfl

end

mutual

/-- A node is written shorter when its texts are joined and something in it was hollow. -/
theorem length_printNode_joined : (node : Node) →
    (printNode node.joined).length + node.hasHollow.toNat ≤ (printNode node).length
  | .element tag [] => Nat.le_refl _
  | .element tag (first :: rest) => by
    have some_ : first :: rest ≠ [] := List.cons_ne_nil _ _
    have inside := length_printNodes_joinedOnto [] (first :: rest)
    rw [Node.joined, printNode_of_ne_nil some_, Node.hasHollow]
    cases hollow : isHollow (first :: rest) with
    | true =>
      have gone := (joined_eq_nil some_).mpr hollow
      have marks : "/>".length = 2 ∧ "</".length = 2 := ⟨rfl, rfl⟩
      rw [gone, printNode, Bool.true_or, Bool.toNat_true]
      simp only [List.length_append, List.length_cons, List.length_nil, String.length_toList]
      omega
    | false =>
      have left : (joinedOnto [] (first :: rest)).reverse ≠ [] :=
        mt (joined_eq_nil some_).mp (Bool.eq_false_iff.mp hollow)
      rw [printNode_of_ne_nil left, Bool.false_or]
      simp only [List.length_append, List.length_cons, List.reverse_nil, printNodes,
        List.length_nil] at inside ⊢
      omega
  | .text _ => Nat.le_refl _
  | .comment _ => Nat.le_refl _
  | .instruction _ _ => Nat.le_refl _

theorem length_printNodes_joinedOnto (before : List Node) : (content : List Node) →
    (printNodes (joinedOnto before content).reverse).length + (haveHollow content).toNat
      ≤ (printNodes before.reverse).length + (printNodes content).length
  | [] => Nat.le_refl _
  | first :: rest => by
    have begun := length_printNode_joined first
    have others := length_printNodes_joinedOnto (putNode before first.joined) rest
    rw [printNodes_putNode, List.length_append] at others
    rw [joinedOnto, haveHollow, printNodes, List.length_append]
    have either : (first.hasHollow || haveHollow rest).toNat
        ≤ first.hasHollow.toNat + (haveHollow rest).toNat := by
      cases first.hasHollow <;> cases haveHollow rest <;> decide
    omega

end

/-- A node is written as before when its texts are joined, if and only if nothing in it is hollow. -/
theorem printNode_joined_iff (node : Node) :
    printNode node.joined = printNode node ↔ node.hasHollow = false := by
  refine ⟨fun same => ?_, printNode_joined node⟩
  have shorter := length_printNode_joined node
  rw [same] at shorter
  cases hollow : node.hasHollow with
  | false => rfl
  | true =>
    rw [hollow, Bool.toNat_true] at shorter
    omega

/-- A document is written as before when its texts are joined. -/
theorem print_joined {document : Document} (filled : document.isFilled = true) :
    document.joined.print = document.print :=
  congrArg (("<?xml version='" ++ document.version ++ "' encoding='UTF-8'?>\n").toList ++ ·)
    (printNode_joined (.element document.root document.content)
      (Node.hasHollow_of_isFilled _ filled))

end FormLetter.Xml
