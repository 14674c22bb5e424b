import FormLetter.Proofs.Xml.Sound

/-!
# Checking trees

Whether a tree can be written and read again can be found out: every tag is checked against the
declarations around it, and every text by its characters.
-/

namespace FormLetter.Xml

instance (text : List Char) : Decidable (IsValid text) :=
  decidable_of_iff (text.all isChar = true) List.all_eq_true

instance (mark : String) (text : List Char) : Decidable (Enclosable mark text) :=
  decidable_of_iff (IsValid text ∧ '\r' ∉ text ∧ isEndedBy mark.toList text = true)
    ⟨fun ⟨valid, unbroken, ended⟩ => ⟨valid, unbroken, ended⟩,
      fun ⟨valid, unbroken, ended⟩ => ⟨valid, unbroken, ended⟩⟩

instance (scope : List Declaration) (tag : Tag) : Decidable (tag.Sound scope) :=
  decidable_of_iff (isName tag.name.written.toList = true
      ∧ (∀ given ∈ tag.written, isName given.1.toList = true)
      ∧ (∀ given ∈ tag.written, IsValid given.2.toList)
      ∧ (tag.written.map (·.1)).Nodup
      ∧ (resolveTag scope tag.name.written tag.written).1 = tag)
    ⟨fun ⟨named, attributesNamed, valid, distinct, resolved⟩ =>
        ⟨named, attributesNamed, valid, distinct, resolved⟩,
      fun ⟨named, attributesNamed, valid, distinct, resolved⟩ =>
        ⟨named, attributesNamed, valid, distinct, resolved⟩⟩

mutual

/-- True for a node that can be read again. -/
def Node.isSound (room : Nat) (scope : List Declaration) : Node → Bool
  | .text value => decide (IsValid value)
  | .comment value => decide (Enclosable "--" value)
  | .instruction target value => isName target.toList && !(target.toLower == "xml")
      && decide (∀ text ∈ value, Enclosable "?>" text ∧ startsBlank text = false)
  | .element tag content => 0 < room && decide (tag.Sound scope)
      && areSound (room - 1) (tag.declarations.reverse ++ scope) content

/-- True for nodes that can be read again. -/
def areSound (room : Nat) (scope : List Declaration) : List Node → Bool
  | [] => true
  | first :: rest => first.isSound room scope && areSound room scope rest

end

mutual

theorem Node.isSound_iff (room : Nat) (scope : List Declaration) :
    (node : Node) → (node.isSound room scope = true ↔ node.Sound room scope)
  | .text value => by
    rw [Node.isSound, decide_eq_true_iff]
    exact ⟨.text, fun (.text valid) => valid⟩
  | .comment value => by
    rw [Node.isSound, decide_eq_true_iff]
    exact ⟨.comment, fun (.comment stands) => stands⟩
  | .instruction target value => by
    rw [Node.isSound, Bool.and_eq_true, Bool.and_eq_true, decide_eq_true_iff, Bool.not_eq_true']
    exact ⟨fun ⟨⟨named, isFree⟩, stands⟩ => .instruction named isFree stands,
      fun (.instruction named isFree stands) => ⟨⟨named, isFree⟩, stands⟩⟩
  | .element tag content => by
    rw [Node.isSound, Bool.and_eq_true, Bool.and_eq_true, decide_eq_true_iff, decide_eq_true_iff,
      areSound_iff]
    constructor
    · rintro ⟨⟨some_, tagSound⟩, contentSound⟩
      obtain ⟨left, rfl⟩ := Nat.exists_eq_add_of_le' some_
      exact .element tagSound contentSound
    · rintro (_ | _ | _ | ⟨tagSound, contentSound⟩)
      exact ⟨⟨Nat.succ_pos _, tagSound⟩, contentSound⟩

theorem areSound_iff (room : Nat) (scope : List Declaration) : (content : List Node) →
    (areSound room scope content = true ↔ ∀ node ∈ content, node.Sound room scope)
  | [] => by simp [areSound]
  | first :: rest => by
    rw [areSound, Bool.and_eq_true, first.isSound_iff, areSound_iff room scope rest,
      List.forall_mem_cons]

end

instance (room : Nat) (scope : List Declaration) (node : Node) : Decidable (node.Sound room scope) :=
  decidable_of_iff _ (node.isSound_iff room scope)

instance (document : Document) : Decidable document.Sound :=
  decidable_of_iff (Heading.isVersion document.version.toList = true
      ∧ (Node.element document.root document.content).Sound depthLimit []
      ∧ (noticesOf [] (.element document.root document.content)).getLast? ≠ some .error)
    ⟨fun ⟨version, tree, accepted⟩ => ⟨version, tree, accepted⟩,
      fun ⟨version, tree, accepted⟩ => ⟨version, tree, accepted⟩⟩

end FormLetter.Xml
