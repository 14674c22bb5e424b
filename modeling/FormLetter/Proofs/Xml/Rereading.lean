import FormLetter.Proofs.Xml.Rescanning

/-!
# Documents that are read again

A sound document that is written can be read, and what is read is the document, with texts that
stand side by side made one. The reader goes through what is written of a node and has the node in
the content of the element that is open, whatever stands behind it; so it goes through a content,
and in the end through the root.
-/

namespace FormLetter.Xml

/-! ## Joining texts -/

/-- Puts a node before a content, of which the last node stands first. A text goes on with the text
before it. -/
def putNode (content : List Node) (node : Node) : List Node :=
  match node, content with
  | .text [], content => content
  | .text text, .text before :: rest => .text (before ++ text) :: rest
  | node, content => node :: content

mutual

/-- A node as it is read when it was written: no two texts stand side by side, and none is empty. -/
def Node.joined : Node → Node
  | .element tag content => .element tag (joinedOnto [] content).reverse
  | .text value => .text value
  | .comment value => .comment value
  | .instruction target value => .instruction target value

/-- Puts the nodes of a content behind others, of which the last one stands first. -/
def joinedOnto (before : List Node) : List Node → List Node
  | [] => before
  | first :: rest => joinedOnto (putNode before first.joined) rest

end

/-- A document as it is read when it was written. -/
def Document.joined (document : Document) : Document :=
  { document with content := (joinedOnto [] document.content).reverse }

namespace Level

/-- Puts a node into the content of an element. A text goes on with the text before it. -/
def put (level : Level) (node : Node) : Level :=
  { level with content := putNode level.content node }

theorem addText_eq_put (level : Level) {text : List Char} (found : text ≠ []) :
    level.addText text = level.put (.text text) := by
  obtain ⟨c, rest, rfl⟩ := List.exists_cons_of_ne_nil found
  obtain ⟨tag, written, content, scope⟩ := level
  rcases content with _ | ⟨_ | _ | _ | _, others⟩ <;> rfl

/-- Two texts that are put one after the other are one. -/
theorem addText_addText (level : Level) (first second : List Char) :
    (level.addText first).addText second = level.addText (first ++ second) := by
  obtain ⟨tag, written, content, scope⟩ := level
  rcases content with _ | ⟨before | _ | _ | _, others⟩
  case cons.text =>
    exact congrArg (fun text => Level.mk tag written (.text text :: others) scope)
      (List.append_assoc before first second)
  all_goals rfl

end Level

/-! ## Events of what is written -/

variable (inside : List Char → Option (List (Placed Event)))

/-- The events of a text without a document type declaration. -/
def eventsIn (text : List Char) : List (Placed Event) := eventsOf .empty inside (items text)

theorem items_of_takeItem {c : Char} {rest after : List Char} {item : Item}
    (taken : takeItem (c :: rest) = .ok (item, after)) (shorter : after.length < (c :: rest).length) :
    items (c :: rest) = ⟨item, after.length⟩ :: items after := by
  rw [items, taken]
  exact dif_pos shorter

variable {inside} {remarks : Remarks} {level : Level} {outer : List Level}

/-- A reference that is written is read as the character that it stands for. -/
theorem readContent_reference {c : Char} {written : List Char} (refers : RefersTo c written)
    (rest : List Char) : readContent remarks level outer (eventsIn inside (written ++ rest))
      = readContent remarks (level.addText [c]) outer (eventsIn inside rest) := by
  obtain ⟨code, reference, rfl, stands, taken⟩ := refers
  have shorter : rest.length < ('&' :: (code ++ rest)).length :=
    Nat.lt_succ_of_lt (length_lt_of_takeReference taken)
  unfold eventsIn
  rw [List.cons_append]
  cases reference with
  | character d =>
    cases stands
    have isItem : takeItem ('&' :: (code ++ rest)) = .ok (.character c, rest) := by
      refine Eq.trans (b := Except.map _ (takeReference (code ++ rest))) rfl ?_
      rw [taken]
      rfl
    rw [items_of_takeItem isItem shorter, eventsOf, readContent]
  | entity name =>
    dsimp only [Reference.char?] at stands
    have isItem : takeItem ('&' :: (code ++ rest)) = .ok (.reference name, rest) := by
      refine Eq.trans (b := Except.map _ (takeReference (code ++ rest))) rfl ?_
      rw [taken]
      rfl
    rw [items_of_takeItem isItem shorter, eventsOf, stands, readContent]

theorem takeCharacters_append (text : List Char) :
    (takeCharacters text).1 ++ (takeCharacters text).2 = text := by
  induction text with
  | nil => rfl
  | cons c rest ih =>
    rw [takeCharacters]
    split
    · rfl
    · exact congrArg (c :: ·) ih

/-- Characters are one item up to the next markup. -/
theorem items_of_takeCharacters {text : List Char} (found : (takeCharacters text).1 ≠ []) :
    items text
      = ⟨.characters (takeCharacters text).1, (takeCharacters text).2.length⟩
        :: items (takeCharacters text).2 := by
  have whole := congrArg List.length (takeCharacters_append text)
  have some_ := List.length_pos_of_ne_nil found
  rw [List.length_append] at whole
  cases text with
  | nil => exact absurd rfl found
  | cons c rest =>
    refine items_of_takeItem ?_ (by omega)
    have notEmpty : (takeCharacters (c :: rest)).1.isEmpty = false := by
      rw [List.isEmpty_eq_false_iff]
      exact found
    unfold takeItem
    split
    · rename_i same
      cases same
      exact absurd rfl found
    · rename_i same
      cases same
      exact absurd rfl found
    · dsimp only
      rw [notEmpty, if_neg Bool.false_ne_true]

/-- A character of text is read as itself, unless it begins the mark that ends a literal section. -/
theorem readContent_character {c : Char} (valid : isChar c = true) (notOpening : c ≠ '<')
    (notAmpersand : c ≠ '&') {rest : List Char}
    (free : "]]>".toList.isPrefixOf (c :: rest) = false) :
    readContent remarks level outer (eventsIn inside (c :: rest))
      = readContent remarks (level.addText [c]) outer (eventsIn inside rest) := by
  have taken : takeCharacters (c :: rest)
      = (c :: (takeCharacters rest).1, (takeCharacters rest).2) := by
    rw [takeCharacters, beq_eq_false_iff_ne.mpr notOpening, beq_eq_false_iff_ne.mpr notAmpersand,
      valid, free]
    rfl
  have whole : items (c :: rest) = _ :=
    items_of_takeCharacters (by rw [taken]; exact List.cons_ne_nil _ _)
  rw [taken] at whole
  unfold eventsIn
  rw [whole, eventsOf, readContent]
  by_cases found : (takeCharacters rest).1 = []
  · have same := takeCharacters_append rest
    rw [found, List.nil_append] at same
    rw [found, same]
  · rw [items_of_takeCharacters found, eventsOf, readContent, Level.addText_addText]
    rfl

/-- A text before which no mark that ends a literal section can be completed: no closing bracket
stands in it before the next markup. -/
def Unclosing (rest : List Char) : Prop := '>' ∉ rest.takeWhile (· != '<')

theorem Unclosing.markup (rest : List Char) : Unclosing ('<' :: rest) := List.not_mem_nil

theorem not_mem_escapeText_of {text : List Char} {mark : Char} (isMark : mark = '<' ∨ mark = '>') :
    mark ∉ escapeText text := by
  intro member
  obtain ⟨given, -, written⟩ := List.mem_flatMap.mp member
  unfold escapeTextChar at written
  split at written
  case h_5 =>
    rename_i _ notOpening notClosing _
    rw [List.mem_singleton.mp written] at isMark
    exact isMark.elim notOpening notClosing
  all_goals
    revert written
    rcases isMark with rfl | rfl <;> decide

theorem Unclosing.text {rest : List Char} (unclosing : Unclosing rest) (text : List Char) :
    Unclosing (escapeText text ++ rest) := by
  have inText : ∀ c ∈ escapeText text, (c != '<') = true := by
    rintro c member
    rw [bne_iff_ne]
    rintro rfl
    exact not_mem_escapeText_of (.inl rfl) member
  unfold Unclosing at unclosing ⊢
  rw [List.takeWhile_append_of_pos inText, List.mem_append, not_or]
  exact ⟨not_mem_escapeText_of (.inr rfl), unclosing⟩

theorem Unclosing.node {rest : List Char} (unclosing : Unclosing rest) (node : Node) :
    Unclosing (printNode node ++ rest) := by
  cases node with
  | text value =>
    rw [printNode]
    exact unclosing.text value
  | comment value => exact .markup _
  | instruction target value => cases value <;> exact .markup _
  | element tag content => cases content <;> exact .markup _

theorem Unclosing.nodes {rest : List Char} (unclosing : Unclosing rest) (content : List Node) :
    Unclosing (printNodes content ++ rest) := by
  induction content with
  | nil => exact unclosing
  | cons first others ih =>
    rw [printNodes, List.append_assoc]
    exact ih.node first

/-- No mark that ends a literal section begins in such a text, or right before it. -/
theorem Unclosing.isPrefixOf {rest : List Char} (unclosing : Unclosing rest) (c : Char) :
    "]]>".toList.isPrefixOf (c :: rest) = false := by
  refine Bool.eq_false_iff.mpr fun begins => unclosing ?_
  obtain ⟨after, same⟩ := List.isPrefixOf_iff_prefix.mp begins
  obtain ⟨-, rfl⟩ := List.cons.inj same
  exact List.mem_cons_of_mem _ List.mem_cons_self

/-- A text that is written is read as it was. -/
theorem readContent_text {text rest : List Char} (valid : IsValid text)
    (unclosing : Unclosing rest) (level : Level) :
    readContent remarks level outer (eventsIn inside (escapeText text ++ rest))
      = readContent remarks (level.put (.text text)) outer (eventsIn inside rest) := by
  induction text generalizing level with
  | nil => rfl
  | cons c others ih =>
    have first : readContent remarks level outer
        (eventsIn inside (escapeText (c :: others) ++ rest))
          = readContent remarks (level.addText [c]) outer
            (eventsIn inside (escapeText others ++ rest)) := by
      have whole : escapeText (c :: others) = escapeTextChar c ++ escapeText others := rfl
      rw [whole, List.append_assoc]
      rcases escapeTextChar_cases c with refers | ⟨itself, notAmpersand, notOpening, -⟩
      · exact readContent_reference refers _
      · rw [itself]
        exact readContent_character (valid c List.mem_cons_self) notOpening notAmpersand
          ((unclosing.text others).isPrefixOf c)
    rw [first, ih (fun c member => valid c (List.mem_cons_of_mem _ member))]
    congr 1
    rw [← Level.addText_eq_put _ (List.cons_ne_nil c others)]
    cases others with
    | nil => rfl
    | cons d more =>
      rw [← Level.addText_eq_put _ (List.cons_ne_nil d more), Level.addText_addText]
      rfl

/-! ## Reading what is written of a node -/

/-- A piece of markup that is taken is the first item. -/
theorem items_markup {text rest : List Char} {item : Item}
    (taken : takeMarkup ('<' :: text) = .ok (item, rest)) (shorter : rest.length < text.length) :
    items ('<' :: text) = ⟨item, rest.length⟩ :: items rest :=
  items_of_takeItem (taken : takeItem ('<' :: text) = .ok (item, rest)) (Nat.lt_succ_of_lt shorter)

/-- What is read of a node that was written, wherever it stands: the content of the element that is
open has the node, and what was noticed of the node is noticed. -/
def ReadsBack (inside : List Char → Option (List (Placed Event))) (room : Nat)
    (scope : List Declaration) (node : Node) : Prop :=
  ∀ (remarks : Remarks) (level : Level) (outer : List Level) (rest : List Char),
    level.scope = scope → outer.length + 1 + room = depthLimit → Unclosing rest →
      ∃ more : Remarks, more.map (·.value) = noticesOf scope node ∧
        readContent remarks level outer (eventsIn inside (printNode node ++ rest))
          = readContent (remarks ++ more) (level.put node.joined) outer (eventsIn inside rest)

theorem readsBack_text {room : Nat} {scope : List Declaration} {value : List Char}
    (valid : IsValid value) : ReadsBack inside room scope (.text value) := by
  intro remarks level outer rest _ _ unclosing
  refine ⟨[], rfl, ?_⟩
  rw [List.append_nil, printNode]
  exact readContent_text valid unclosing level

theorem readsBack_comment {room : Nat} {scope : List Declaration} {value : List Char}
    (stands : Enclosable "--" value) : ReadsBack inside room scope (.comment value) := by
  intro remarks level outer rest _ _ _
  have taken := takeMarkup_comment stands rest
  refine ⟨[], rfl, ?_⟩
  have isEvent : eventsIn inside (printNode (.comment value) ++ rest)
      = ⟨.comment value, rest.length⟩ :: eventsIn inside rest := by
    rw [printNode]
    exact congrArg (eventsOf .empty inside) (items_markup taken (by simp; omega))
  rw [List.append_nil, isEvent, readContent]
  rfl

theorem readsBack_instruction {room : Nat} {scope : List Declaration} {target : String}
    {value : Option (List Char)} (named : isName target.toList = true)
    (isFree : (target.toLower == "xml") = false)
    (stands : ∀ text ∈ value, Enclosable "?>" text ∧ startsBlank text = false) :
    ReadsBack inside room scope (.instruction target value) := by
  intro remarks level outer rest _ _ _
  have taken := takeMarkup_instruction named isFree stands rest
  have isEvent : eventsIn inside (printNode (.instruction target value) ++ rest)
      = ⟨.instruction target value, rest.length⟩ :: eventsIn inside rest := by
    rw [printNode_instruction] at taken ⊢
    exact congrArg (eventsOf .empty inside) (items_markup taken (by simp; omega))
  rw [isEvent, readContent, noticesOf]
  split
  · exact ⟨[⟨.error, rest.length⟩], rfl, rfl⟩
  · exact ⟨[], rfl, by rw [List.append_nil]; rfl⟩

/-- The nodes of a content are read one after the other. -/
theorem readContent_nodes {room : Nat} {scope : List Declaration} {content : List Node}
    (readsBack : ∀ node ∈ content, ReadsBack inside room scope node)
    (remarks : Remarks) (level : Level) (outer : List Level) {rest : List Char}
    (inScope : level.scope = scope) (bound : outer.length + 1 + room = depthLimit)
    (unclosing : Unclosing rest) :
    ∃ more : Remarks, more.map (·.value) = noticesOfAll scope content ∧
      readContent remarks level outer (eventsIn inside (printNodes content ++ rest))
        = readContent (remarks ++ more) { level with content := joinedOnto level.content content }
          outer (eventsIn inside rest) := by
  induction content generalizing remarks level with
  | nil => exact ⟨[], rfl, by rw [List.append_nil]; rfl⟩
  | cons first others ih =>
    rw [List.forall_mem_cons] at readsBack
    obtain ⟨begun, isBegun, first_⟩ := readsBack.1 remarks level outer (printNodes others ++ rest)
      inScope bound (unclosing.nodes others)
    obtain ⟨more, isMore, others_⟩ := ih readsBack.2 (remarks ++ begun) (level.put first.joined)
      inScope
    refine ⟨begun ++ more, ?_, ?_⟩
    · rw [List.map_append, isBegun, isMore, noticesOfAll]
    · rw [printNodes, List.append_assoc, first_, others_, List.append_assoc]
      rfl

/-- A tag that opens an element is one item. -/
theorem items_opening {scope : List Declaration} {tag : Tag} (sound : tag.Sound scope)
    {ending rest : List Char} {isEmpty : Bool} (ends : EndsName ending)
    (closes : takeAttributes ending = .ok (([], isEmpty), rest)) :
    items (printTag tag ++ ending) = ⟨tag.item isEmpty, rest.length⟩ :: items rest := by
  have shorter : rest.length < (tag.name.written.toList
      ++ ((tag.written.flatMap fun given => printAttribute given.1 given.2) ++ ending)).length := by
    have left := (leaves_takeAttributes ending _ rest closes).length_le
    obtain ⟨first, others, isName, -⟩ := exists_cons_of_isName sound.named
    rw [isName, List.length_append, List.length_append, List.length_cons]
    omega
  have taken := takeMarkup_opening sound ends closes
  rw [printTag_eq, List.append_assoc, List.cons_append] at taken ⊢
  exact items_markup taken shorter

/-- The event of a tag that opens an element. -/
theorem eventsIn_opening {scope : List Declaration} {tag : Tag} (sound : tag.Sound scope)
    {ending rest : List Char} {isEmpty : Bool} (ends : EndsName ending)
    (closes : takeAttributes ending = .ok (([], isEmpty), rest)) :
    eventsIn inside (printTag tag ++ ending)
      = ⟨.opening tag.name.written tag.written isEmpty, rest.length⟩ :: eventsIn inside rest := by
  unfold eventsIn
  rw [items_opening sound ends closes, Tag.item, eventsOf, attributeValues?_escape]

/-- A tag that opens an element is read where it may be nested. -/
theorem readContent_opening (remarks : Remarks) {level : Level} {outer : List Level}
    {scope : List Declaration} {tag : Tag} (sound : tag.Sound scope) (inScope : level.scope = scope)
    (shallow : outer.length + 1 < depthLimit) (unread : Nat) (isEmpty : Bool)
    (pending : List (Placed Event)) :
    ∃ more : Remarks, more.map (·.value) = (resolveTag scope tag.name.written tag.written).2 ∧
      readContent remarks level outer
          (⟨.opening tag.name.written tag.written isEmpty, unread⟩ :: pending)
        = readContent (remarks ++ more)
            (if isEmpty then level.add (.element tag [])
              else ⟨tag, tag.name.written, [], tag.declarations.reverse ++ scope⟩)
            (if isEmpty then outer else level :: outer) pending := by
  have distinct := length_eraseDups_of_nodup sound.distinct
  have resolved := sound.resolved
  have fits : ¬ ((tag.written.map (·.1)).eraseDups.length != (tag.written.map (·.1)).length
      || decide (depthLimit ≤ outer.length + 1)) = true := by
    rw [Bool.or_eq_true, not_or, bne_iff_ne, not_not, decide_eq_true_eq, Nat.not_le]
    exact ⟨distinct, shallow⟩
  refine ⟨(resolveTag scope tag.name.written tag.written).2.map (⟨·, unread⟩), ?_, ?_⟩
  · rw [List.map_map, values_of_notices]
  rw [readContent]
  dsimp only
  rw [if_neg fits, inScope]
  cases isEmpty with
  | false =>
    rw [if_neg Bool.false_ne_true, if_neg Bool.false_ne_true, if_neg Bool.false_ne_true, resolved]
  | true => rw [if_pos rfl, if_pos rfl, if_pos rfl, resolved]

/-- The tag that closes an element is read as such. -/
theorem eventsIn_closing {name : String} (named : isName name.toList = true) (rest : List Char) :
    eventsIn inside ("</".toList ++ (name.toList ++ '>' :: rest))
      = ⟨.closing name, rest.length⟩ :: eventsIn inside rest := by
  refine congrArg (eventsOf .empty inside) (items_markup (takeMarkup_closing named rest) ?_)
  change rest.length < ('/' :: (name.toList ++ '>' :: rest)).length
  rw [List.length_cons, List.length_append, List.length_cons]
  omega

theorem readContent_closing {parent : Level} {name : String} (same : level.written = name)
    (unread : Nat) (pending : List (Placed Event)) :
    readContent remarks level (parent :: outer) (⟨.closing name, unread⟩ :: pending)
      = readContent remarks (parent.add level.close) outer pending := by
  subst same
  rw [readContent, bne_self_eq_false, if_neg Bool.false_ne_true]

/-- The written form of an element that has content, part by part. -/
theorem printNode_element (tag : Tag) {content : List Node} (found : content ≠ [])
    (rest : List Char) :
    printNode (.element tag content) ++ rest = printTag tag ++ '>' :: (printNodes content
      ++ ("</".toList ++ (tag.name.written.toList ++ '>' :: rest))) := by
  obtain ⟨first, others, rfl⟩ := List.exists_cons_of_ne_nil found
  simp [printNode, printNodes]

theorem readsBack_element {room : Nat} {scope : List Declaration} {tag : Tag} {content : List Node}
    (sound : tag.Sound scope)
    (readsBack : ∀ node ∈ content,
      ReadsBack inside room (tag.declarations.reverse ++ scope) node) :
    ReadsBack inside (room + 1) scope (.element tag content) := by
  intro remarks level outer rest inScope bound unclosing
  have shallow : outer.length + 1 < depthLimit := by omega
  by_cases found : content = []
  · subst found
    have ends : EndsName ('/' :: '>' :: rest) := by
      rintro _ ⟨⟩
      decide
    obtain ⟨more, isMore, opened⟩ := readContent_opening remarks sound inScope shallow
      rest.length true (eventsIn inside rest)
    have isEvent : eventsIn inside (printNode (.element tag []) ++ rest)
        = ⟨.opening tag.name.written tag.written true, rest.length⟩ :: eventsIn inside rest := by
      rw [printNode, List.append_assoc]
      exact eventsIn_opening sound ends (takeAttributes_empty rest)
    refine ⟨more, ?_, ?_⟩
    · rw [isMore, noticesOf, noticesOfAll, List.append_nil]
    · rw [isEvent, opened]
      rfl
  · have ends : EndsName ('>' :: (printNodes content
        ++ ("</".toList ++ (tag.name.written.toList ++ '>' :: rest)))) := by
      rintro _ ⟨⟩
      decide
    obtain ⟨begun, isBegun, opened⟩ := readContent_opening remarks sound inScope shallow
      _ false (eventsIn inside (printNodes content
        ++ ("</".toList ++ (tag.name.written.toList ++ '>' :: rest))))
    have closing : Unclosing ("</".toList ++ (tag.name.written.toList ++ '>' :: rest)) :=
      .markup _
    obtain ⟨more, isMore, filled⟩ := readContent_nodes readsBack (remarks ++ begun)
      ⟨tag, tag.name.written, [], tag.declarations.reverse ++ scope⟩ (level :: outer) rfl
      (by rw [List.length_cons]; omega) closing
    refine ⟨begun ++ more, ?_, ?_⟩
    · rw [List.map_append, isBegun, isMore, noticesOf]
    · rw [printNode_element tag found, eventsIn_opening sound ends (takeAttributes_closing _), opened,
        if_neg Bool.false_ne_true, if_neg Bool.false_ne_true, filled, eventsIn_closing sound.named,
        readContent_closing rfl, List.append_assoc]
      rfl

/-- A sound node is read as it was written. -/
theorem Node.Sound.readsBack {room : Nat} {scope : List Declaration} {node : Node}
    (sound : node.Sound room scope) : ReadsBack inside room scope node := by
  induction sound with
  | text valid => exact readsBack_text valid
  | comment stands => exact readsBack_comment stands
  | instruction named isFree stands => exact readsBack_instruction named isFree stands
  | element tagSound _ ih => exact readsBack_element tagSound ih

/-! ## Documents -/

/-- Where the last notice is no error, a document is accepted. -/
theorem readEpilog_nil {remarks : Remarks} (root : Level)
    (accepted : (remarks.map (·.value)).getLast? ≠ some .error) :
    readEpilog remarks root [] = .ok root := by
  have passed : verdict? remarks = none := by
    unfold verdict?
    split
    · rename_i unread last
      rw [List.getLast?_map, last] at accepted
      exact absurd rfl accepted
    · rfl
  rw [readEpilog, passed]

theorem eventsIn_nil : eventsIn inside [] = [] := by
  rw [eventsIn, items, eventsOf]

/-- Where the last notice is an error, a document is refused. -/
theorem readEpilog_refused {remarks : Remarks} (root : Level)
    (refused : (remarks.map (·.value)).getLast? = some .error) :
    ∃ unread, readEpilog remarks root [] = .error unread := by
  rw [List.getLast?_map, Option.map_eq_some_iff] at refused
  obtain ⟨⟨_, unread⟩, last, rfl⟩ := refused
  rw [readEpilog, verdict?, last]
  exact ⟨_, rfl⟩

theorem readContent_root {name : String} (same : level.written = name) (unread : Nat) :
    readContent remarks level [] [⟨.closing name, unread⟩] = readEpilog remarks level [] := by
  subst same
  rw [readContent, bne_self_eq_false, if_neg Bool.false_ne_true]

/-- The tag of the root is read where no declarations are around it. -/
theorem readRoot_opening {tag : Tag} (sound : tag.Sound []) (unread : Nat) (isEmpty : Bool)
    (pending : List (Placed Event)) :
    ∃ remarks : Remarks, remarks.map (·.value) = (resolveTag [] tag.name.written tag.written).2 ∧
      readRoot (⟨.opening tag.name.written tag.written isEmpty, unread⟩ :: pending)
        = if isEmpty then
            readEpilog remarks ⟨tag, tag.name.written, [], tag.declarations.reverse ++ []⟩ pending
          else
            readContent remarks ⟨tag, tag.name.written, [], tag.declarations.reverse ++ []⟩ []
              pending := by
  have distinct := length_eraseDups_of_nodup sound.distinct
  have resolved := sound.resolved
  have fits : ¬ ((tag.written.map (·.1)).eraseDups.length != (tag.written.map (·.1)).length)
      = true := by
    rw [bne_iff_ne, not_not]
    exact distinct
  refine ⟨(resolveTag [] tag.name.written tag.written).2.map (⟨·, unread⟩), ?_, ?_⟩
  · rw [List.map_map, values_of_notices]
  rw [readRoot]
  dsimp only
  rw [if_neg fits, resolved, List.append_nil]

/-- The root of a sound tree is read as it was written, and then what was noticed decides. -/
theorem readRoot_eq_readEpilog {tag : Tag} {content : List Node}
    (sound : (Node.element tag content).Sound depthLimit []) :
    ∃ (remarks : Remarks) (root : Level),
      remarks.map (·.value) = noticesOf [] (.element tag content) ∧
        readRoot (eventsIn inside (printNode (.element tag content)))
          = readEpilog remarks root [] ∧
        root.tag = tag ∧ root.content = joinedOnto [] content := by
  cases sound with
  | element tagSound contentSound =>
    by_cases found : content = []
    · subst found
      have ends : EndsName ['/', '>'] := by
        rintro _ ⟨⟩
        decide
      have isEvent : eventsIn inside (printNode (.element tag []))
          = [⟨.opening tag.name.written tag.written true, 0⟩] := by
        rw [printNode]
        exact (eventsIn_opening tagSound ends (takeAttributes_empty [])).trans
          (congrArg _ eventsIn_nil)
      obtain ⟨remarks, isNoticed, opened⟩ := readRoot_opening tagSound 0 true []
      refine ⟨remarks, ⟨tag, tag.name.written, [], tag.declarations.reverse ++ []⟩, ?_, ?_, rfl,
        rfl⟩
      · rw [noticesOf, noticesOfAll, List.append_nil, isNoticed]
      · rw [isEvent, opened, if_pos rfl]
    · have ends : EndsName ('>' :: (printNodes content
          ++ ("</".toList ++ (tag.name.written.toList ++ ['>'])))) := by
        rintro _ ⟨⟩
        decide
      have closing : Unclosing ("</".toList ++ (tag.name.written.toList ++ ['>'])) := .markup _
      obtain ⟨begun, isBegun, opened⟩ := readRoot_opening tagSound _ false (eventsIn inside
        (printNodes content ++ ("</".toList ++ (tag.name.written.toList ++ ['>']))))
      obtain ⟨more, isMore, filled⟩ := readContent_nodes
        (fun node member => (contentSound node member).readsBack) begun
        ⟨tag, tag.name.written, [], tag.declarations.reverse ++ []⟩ [] rfl (by decide) closing
      have whole := printNode_element tag found []
      rw [List.append_nil] at whole
      refine ⟨begun ++ more,
        ⟨tag, tag.name.written, joinedOnto [] content, tag.declarations.reverse ++ []⟩, ?_, ?_, rfl,
        rfl⟩
      · rw [noticesOf, List.map_append, isBegun, isMore]
      · rw [whole, eventsIn_opening tagSound ends (takeAttributes_closing _), opened,
          if_neg Bool.false_ne_true, filled, eventsIn_closing tagSound.named, eventsIn_nil,
          readContent_root rfl]

/-- The root of a sound document is read as it was written. -/
theorem readRoot_print {document : Document} (sound : document.Sound) :
    ∃ root, readRoot (eventsIn inside (printNode (.element document.root document.content)))
        = .ok root ∧ root.tag = document.root ∧
          root.content = joinedOnto [] document.content := by
  obtain ⟨remarks, root, isNoticed, read, isTag, isContent⟩ := readRoot_eq_readEpilog sound.tree
  have accepted := sound.accepted
  rw [← isNoticed] at accepted
  exact ⟨root, read.trans (readEpilog_nil root accepted), isTag, isContent⟩

end FormLetter.Xml
