import FormLetter.Proofs.Letter.Saving
import FormLetter.Proofs.Xml.Indenting
import FormLetter.Proofs.Xml.Standing
import FormLetter.Proofs.Xml.Unheaded

/-!
# Bodies that are put into other documents

The body of a letter is given as text, one piece for each element of the first text in its bodies,
less those that stay in their document. Each piece makes the declarations that were made around the
element, so it means the same without them.

A piece can be read by itself when the last that is noticed in it is no error. Errors in the use of
namespaces do not count in a document as long as a mere warning is noticed behind them; so a piece
may hold an error that did not count where it came from. From a document without errors every piece
can be read by itself, and is the element that it was made of.
-/

namespace FormLetter

open FormLetter.Script
open FormLetter.Style
open FormLetter.Xml

namespace Body

/-! ## The elements of a body -/

/-- The first of some items of which something holds. -/
def IsFirst {α : Type} (holds : α → Prop) (found : α) (items : List α) : Prop :=
  ∃ before after, items = before ++ found :: after ∧ holds found ∧ ∀ other ∈ before, ¬ holds other

theorem IsFirst.holds {α : Type} {holds : α → Prop} {found : α} {items : List α}
    (first : IsFirst holds found items) : holds found := by
  obtain ⟨-, -, -, isFound, -⟩ := first
  exact isFound

theorem IsFirst.mem {α : Type} {holds : α → Prop} {found : α} {items : List α}
    (first : IsFirst holds found items) : found ∈ items := by
  obtain ⟨before, after, rfl, -⟩ := first
  exact List.mem_append_right _ List.mem_cons_self

/-- There is at most one first item. -/
theorem IsFirst.unique {α : Type} {holds : α → Prop} {one other : α} {items : List α}
    (isOne : IsFirst holds one items) (isOther : IsFirst holds other items) : one = other := by
  classical
  have find {found : α} (first : IsFirst holds found items) :
      items.find? (holds ·) = some found := by
    obtain ⟨before, after, whole, isFound, others⟩ := first
    refine List.find?_eq_some_iff_append.mpr ⟨decide_eq_true isFound, before, after, whole, ?_⟩
    exact fun passed member => by
      rw [decide_eq_false (others passed member), Bool.not_false]
  exact Option.some.inj ((find isOne).symm.trans (find isOther))

/-- A text. -/
def IsText (element : Tag × List Node) : Prop :=
  element.1.name.is officeNamespace "text" = true

/-- A body with a text in it. -/
def HoldsText (element : Tag × List Node) : Prop :=
  element.1.name.is officeNamespace "body" = true ∧ ∃ child ∈ elements element.2, IsText child

/-- The first body with a text in it, and its first text. -/
structure IsTextOf (document : Document) (body text : Tag × List Node) : Prop where
  first_body : IsFirst HoldsText body (elements document.content)
  first_text : IsFirst IsText text (elements body.2)

/-- The elements that the body of a document gives. -/
inductive Gives (document : Document) : List (Tag × List Node) → Prop where
  | found {body text : Tag × List Node} (isTextOf : IsTextOf document body text) :
      Gives document ((elements text.2).filter fun child => !isKept child.1.name)
  | none (without : ∀ element ∈ elements document.content, ¬ HoldsText element) :
      Gives document []

variable {document : Document}

/-- The body of a document gives one list of elements. -/
theorem Gives.unique {one other : List (Tag × List Node)} (givesOne : Gives document one)
    (givesOther : Gives document other) : one = other := by
  cases givesOne with
  | found isTextOf =>
    cases givesOther with
    | found isOther =>
      have sameBody := isTextOf.first_body.unique isOther.first_body
      subst sameBody
      rw [isTextOf.first_text.unique isOther.first_text]
    | none without =>
      exact absurd isTextOf.first_body.holds (without _ isTextOf.first_body.mem)
  | none without =>
    cases givesOther with
    | found isOther =>
      exact absurd isOther.first_body.holds (without _ isOther.first_body.mem)
    | none => rfl

theorem findElement?_text_eq_none {content : List Node}
    (without : findElement? officeNamespace "text" content = none) :
    ∀ child ∈ elements content, ¬ IsText child :=
  List.find?_eq_none.mp without

theorem isFirst_of_findElement? {content : List Node} {text : Tag × List Node}
    (found : findElement? officeNamespace "text" content = some text) :
    IsFirst IsText text (elements content) := by
  obtain ⟨isText, before, after, whole, others⟩ := List.find?_eq_some_iff_append.mp found
  refine ⟨before, after, whole, isText, fun other member isOther => ?_⟩
  have differs := others other member
  rw [Bool.not_eq_true'] at differs
  exact Bool.false_ne_true (differs.symm.trans isOther)

/-- A body without a text is passed over. -/
theorem not_holdsText {body : Tag × List Node}
    (passed : (if body.1.name.is officeNamespace "body" = true then
      (findElement? officeNamespace "text" body.2).map fun (text, content) =>
        (body.1, text, content) else none) = none) : ¬ HoldsText body := by
  rintro ⟨isBody, child, member, isText⟩
  rw [if_pos isBody, Option.map_eq_none_iff] at passed
  exact findElement?_text_eq_none passed child member isText

/-- The text that is found is the first one in the bodies. -/
theorem isTextOf_of_text? {body text : Tag} {content : List Node}
    (found : text? document = some (body, text, content)) :
    ∃ inside, IsTextOf document (body, inside) (text, content) := by
  obtain ⟨before, ⟨tag, inside⟩, after, whole, isFound, passed⟩ :=
    List.findSome?_eq_some_iff.mp found
  dsimp only at isFound
  split at isFound
  · rename_i isBody
    obtain ⟨first, isFirst, same⟩ := Option.map_eq_some_iff.mp isFound
    cases same
    have isText := isFirst_of_findElement? isFirst
    have holdsText : HoldsText (body, inside) := ⟨isBody, first, isText.mem, isText.holds⟩
    refine ⟨inside, ⟨before, after, whole, holdsText, ?_⟩, isText⟩
    exact fun other member => not_holdsText (passed other member)
  · cases isFound

theorem not_holdsText_of_text? (without : text? document = none) :
    ∀ element ∈ elements document.content, ¬ HoldsText element :=
  fun element member => not_holdsText (List.findSome?_eq_none_iff.mp without element member)

theorem mem_of_mem_elements {content : List Node} {element : Tag × List Node}
    (member : element ∈ elements content) : .element element.1 element.2 ∈ content := by
  obtain ⟨node, isNode, isElement⟩ := List.mem_filterMap.mp member
  cases node with
  | element tag inside =>
    cases isElement
    exact isNode
  | text | comment | instruction => cases isElement

/-- A body gives what stands alone of its elements, one after the other. -/
theorem fragments_eq {body text : Tag} {content : List Node}
    (found : text? document = some (body, text, content)) :
    fragments document = ((elements content).filter fun child => !isKept child.1.name).map
      fun child => standAlone [text, body, document.root] child.1 child.2 := by
  unfold fragments
  rw [found]
  dsimp only
  induction elements content with
  | nil => rfl
  | cons first rest ih =>
    rw [List.filterMap_cons, List.filter_cons, ih]
    cases isKept first.1.name <;> rfl

/-! ## What stands alone -/

/-- A text that is read by itself as an element, but for what the element declares. -/
def IsReadAs (text : List Char) (element : Tag × List Node) : Prop :=
  ∃ alone, Document.read (String.ofList text).toUTF8 = .ok alone ∧
    alone.root.name = element.1.name ∧ alone.root.attributes = element.1.attributes ∧
    textBefore alone.content = textBefore element.2 ∧
    childrenOf alone.content = childrenOf element.2

/-- An element that is sound where it stands is read as it was when it stands alone, unless the last
that is noticed is an error. -/
theorem isReadAs_standAlone_iff {around : List Tag} {tag : Tag} {content : List Node}
    (nested : Nested around)
    (sound : (Node.element tag content).Sound Xml.depthLimit (scopeOf around)) :
    IsReadAs (printNode (standAlone around tag content)) (tag, content) ↔
      (noticesOf [] (standAlone around tag content)).getLast? ≠ some .error := by
  have alone := sound.standAlone nested
  rw [standAlone_eq] at alone ⊢
  constructor
  · rintro ⟨document, read, -⟩ refused
    obtain ⟨fault, isRefused⟩ := refused_printNode alone refused
    rw [isRefused] at read
    cases read
  · intro accepted
    have alike := alike_joinedOnto [] content
    exact ⟨_, read_printNode alone accepted, rfl, rfl, alike.text, alike.children⟩

/-- What is inside of a text is sound where it stands. -/
theorem IsTextOf.within {body text : Tag × List Node} (isTextOf : IsTextOf document body text)
    (sound : document.Sound) : SoundWithin [text.1, body.1, document.root] text.2 :=
  ((sound.within.enter List.mem_cons_self).enter
    (mem_of_mem_elements isTextOf.first_body.mem)).enter
      (mem_of_mem_elements isTextOf.first_text.mem)

/-- No error is noticed of what is inside of a text if none is noticed in the document. -/
theorem IsTextOf.faultlessWithin {body text : Tag × List Node}
    (isTextOf : IsTextOf document body text) (sound : document.Sound)
    (faultless : .error ∉ noticesOf [] (.element document.root document.content)) :
    FaultlessWithin [text.1, body.1, document.root] text.2 := by
  have inDocument : FaultlessWithin [] [.element document.root document.content] :=
    ⟨fun _ member => absurd member List.not_mem_nil, List.forall_mem_singleton.mpr faultless⟩
  have isBody := mem_of_mem_elements isTextOf.first_body.mem
  have inRoot := sound.within.enter List.mem_cons_self
  exact ((inDocument.enter sound.within List.mem_cons_self).enter inRoot isBody).enter
    (inRoot.enter isBody) (mem_of_mem_elements isTextOf.first_text.mem)

/-- A property of each made item and the one it is made of. -/
theorem forall₂_made {α β : Type} {relation : β → α → Prop} (make : α → β) {items : List α}
    (each : ∀ item ∈ items, relation (make item) item) :
    List.Forall₂ relation (items.map make) items :=
  List.forall₂_map_left_iff.mpr (List.forall₂_same.mpr each)

theorem printNodes_eq_flatMap (nodes : List Node) : printNodes nodes = nodes.flatMap printNode := by
  induction nodes with
  | nil => rfl
  | cons first rest ih => rw [printNodes, ih, List.flatMap_cons]

end Body

namespace Work

open Body

theorem runFrom_body {id : Nat} {store : Store Workspace} {rendered : List Char}
    {document : Document}
    (isRendered : (store.world.letter id).content.bind (·.rendered) = some rendered)
    (parses : Document.read (String.ofList rendered).toUTF8 = .ok document) :
    M.runFrom (body id) store = (.ok (Body.ofDocument document), store) := by
  unfold body
  rw [M.runFrom_bind, runFrom_letter]
  dsimp only
  rw [isRendered]
  dsimp only
  unfold Part.readRendered
  rw [parses]
  rfl

/-- A letter whose content is a markup, rendered. -/
def renderedMarkup (content : String) : Store Workspace :=
  ((justOpened content "s").after 0 (renderWith 1)).store (beforeOpening "" "").toHeap

/-- A document with its qualifiers declared at the root, and something that stays in it. -/
def invitation : String :=
  "<d xmlns=\"urn:oasis:names:tc:opendocument:xmlns:office:1.0\" xmlns:t=\"u\"><body><text>" ++
    " <forms/><t:p t:a=\"&lt;\">Hi <b/></t:p>, <p/></text></body></d>"

/-- What the invitation gives. -/
def invitationBody : String :=
  "<t:p xmlns:t=\"u\" xmlns=\"urn:oasis:names:tc:opendocument:xmlns:office:1.0\" t:a=\"&lt;\">" ++
    "Hi <b/></t:p>" ++
    "<p xmlns=\"urn:oasis:names:tc:opendocument:xmlns:office:1.0\" xmlns:t=\"u\"/>"

/-- A document that declares a qualifier with a colon in it. A warning that follows lets it pass. -/
def dividedMarkup : String :=
  "<o:d xmlns:o=\"urn:oasis:names:tc:opendocument:xmlns:office:1.0\"><o:body><o:text>" ++
    "<x xmlns:a:b=\"u\"/><t-decls xmlns=\"rel\"/></o:text></o:body></o:d>"

end Work

end FormLetter
