import FormLetter.Proofs.Xml.Unread

/-!
# Pieces that can be read back

The names, comments and instructions that a reader takes off a text are such that they can stand in
a document again: a name is made of the characters of names, and what a mark ends does not hold the
mark itself. Entities give pieces of their own text, which were taken in the same way, so nothing
has to be known about the document type declaration.
-/

namespace FormLetter.Xml

/-! ## Readers that took something -/

theorem isName_of_takeName {text rest : List Char} {name : String}
    (taken : takeName text = .ok (name, rest)) : isName name.toList = true := by
  unfold takeName at taken
  split at taken
  · split at taken
    · rename_i first tail starts
      simp only [Except.ok.injEq, Prod.mk.injEq] at taken
      rw [← taken.1, String.toList_ofList, isName, starts, Bool.true_and]
      exact List.all_takeWhile
    · simp at taken
  · simp at taken

/-- What is taken up to a mark can stand before the mark. -/
theorem enclosable_of_takeThrough {mark : String} {text value rest : List Char}
    (taken : takeThrough mark text = .ok (value, rest)) (unbroken : '\r' ∉ text) :
    Enclosable mark value := by
  unfold takeThrough at taken
  split at taken
  · simp at taken
  · rename_i before after split
    obtain ⟨whole, ended⟩ := splitAt?_spec split
    split at taken
    · rename_i valid
      cases taken
      exact ⟨List.all_eq_true.mp valid, fun member => unbroken (by simp [whole, member]), ended⟩
    · simp at taken

/-- Two hyphens end a comment. -/
theorem enclosable_of_takeComment {text value rest : List Char}
    (taken : takeComment text = .ok (value, rest)) (unbroken : '\r' ∉ text) :
    Enclosable "--" value := by
  obtain ⟨first, hyphens, ends⟩ := bind_eq_ok taken
  obtain ⟨second, bracket, same⟩ := bind_eq_ok ends
  have isValue : first.1 = value := congrArg Prod.fst (Except.ok.inj same)
  rw [← isValue]
  exact enclosable_of_takeThrough hyphens unbroken

/-- An instruction has a name for its target, and its closing mark ends it. -/
theorem enclosable_of_takeInstruction {text rest : List Char} {target : String}
    {value : Option (List Char)} (taken : takeInstruction text = .ok ((target, value), rest))
    (unbroken : '\r' ∉ text) :
    isName target.toList = true ∧ ∀ text ∈ value, Enclosable "?>" text := by
  obtain ⟨⟨name, unread⟩, isNamed, ends⟩ := bind_eq_ok taken
  have targetNamed := isName_of_takeName isNamed
  have inText := leaves_takeName text name unread isNamed
  dsimp only at ends
  split at ends
  · cases ends
  · split at ends
    · simp only [pure, Except.pure, Except.ok.injEq, Prod.mk.injEq] at ends
      obtain ⟨⟨rfl, rfl⟩, -⟩ := ends
      exact ⟨targetNamed, by simp⟩
    · obtain ⟨⟨_, spaced⟩, skipped, ends⟩ := bind_eq_ok ends
      obtain ⟨through, isThrough, ends⟩ := bind_eq_ok ends
      simp only [pure, Except.pure, Except.ok.injEq, Prod.mk.injEq] at ends
      obtain ⟨⟨rfl, rfl⟩, -⟩ := ends
      have spacedInText := (leaves_expectSpace unread _ spaced skipped).trans inText
      refine ⟨targetNamed, fun text isText => ?_⟩
      rw [← Option.some.inj isText]
      exact enclosable_of_takeThrough isThrough fun member => unbroken (spacedInText.mem member)

/-- The attributes of a tag have names. -/
theorem isName_of_takeAttributes {text rest : List Char} {attributes : List (String × List Char)}
    {isEmpty : Bool} (taken : takeAttributes text = .ok ((attributes, isEmpty), rest)) :
    ∀ given ∈ attributes, isName given.1.toList = true := by
  fun_induction takeAttributes text generalizing attributes isEmpty rest with
  | case1 => simp_all
  | case2 => simp_all
  | case3 => simp at taken
  | case4 =>
    rename_i given unread isGiven _ _ _ inductionHypothesis
    obtain ⟨⟨⟨others, closes⟩, after⟩, takenOthers, same⟩ := map_eq_ok taken
    simp only [Prod.mk.injEq] at same
    obtain ⟨⟨rfl, -⟩, -⟩ := same
    obtain ⟨⟨_, _⟩, -, isGiven⟩ := bind_eq_ok isGiven
    obtain ⟨⟨name, _⟩, isNamed, isGiven⟩ := bind_eq_ok isGiven
    obtain ⟨⟨_, _⟩, -, isGiven⟩ := bind_eq_ok isGiven
    obtain ⟨⟨_, _⟩, -, isGiven⟩ := bind_eq_ok isGiven
    dsimp only at isGiven
    split at isGiven
    · cases isGiven
    · simp only [pure, Except.pure, Except.ok.injEq, Prod.mk.injEq] at isGiven
      obtain ⟨rfl, -⟩ := isGiven
      exact List.forall_mem_cons.mpr
        ⟨isName_of_takeName isNamed, inductionHypothesis takenOthers⟩
  | case5 => simp at taken

/-! ## Items and events -/

/-- An item whose names are names and whose comment or instruction can stand in a document. -/
def Item.Proper : Item → Prop
  | .opening name attributes _ =>
    isName name.toList = true ∧ ∀ given ∈ attributes, isName given.1.toList = true
  | .comment text => Enclosable "--" text
  | .instruction target text =>
    isName target.toList = true ∧ ∀ value ∈ text, Enclosable "?>" value
  | _ => True

/-- An event whose names are names and whose comment or instruction can stand in a document. -/
def Event.Proper : Event → Prop
  | .opening name attributes _ =>
    isName name.toList = true ∧ ∀ given ∈ attributes, isName given.1.toList = true
  | .comment text => Enclosable "--" text
  | .instruction target text =>
    isName target.toList = true ∧ ∀ value ∈ text, Enclosable "?>" value
  | _ => True

theorem proper_of_takeMarkup {text rest : List Char} {item : Item}
    (taken : takeMarkup text = .ok (item, rest)) (unbroken : '\r' ∉ text) : item.Proper := by
  have inside {mark : String} {after : List Char} (found : after? mark text = some after) :
      '\r' ∉ after := fun member => unbroken ((suffix_of_after? found).mem member)
  unfold takeMarkup at taken
  split at taken
  · rename_i found
    obtain ⟨_, isComment, same⟩ := map_eq_ok taken
    simp only [Prod.mk.injEq] at same
    rw [← same.1]
    exact enclosable_of_takeComment isComment (inside found)
  split at taken
  · obtain ⟨_, -, same⟩ := map_eq_ok taken
    simp only [Prod.mk.injEq] at same
    rw [← same.1]
    trivial
  split at taken
  · obtain ⟨_, -, same⟩ := map_eq_ok taken
    simp only [Prod.mk.injEq] at same
    rw [← same.1]
    trivial
  split at taken
  · rename_i found
    obtain ⟨_, isInstruction, same⟩ := map_eq_ok taken
    simp only [Prod.mk.injEq] at same
    rw [← same.1]
    exact enclosable_of_takeInstruction isInstruction (inside found)
  split at taken
  · obtain ⟨_, -, taken⟩ := bind_eq_ok taken
    obtain ⟨_, -, same⟩ := bind_eq_ok taken
    simp only [pure, Except.pure, Except.ok.injEq, Prod.mk.injEq] at same
    rw [← same.1]
    trivial
  · obtain ⟨_, -, taken⟩ := bind_eq_ok taken
    obtain ⟨_, isNamed, taken⟩ := bind_eq_ok taken
    obtain ⟨_, areGiven, same⟩ := bind_eq_ok taken
    simp only [pure, Except.pure, Except.ok.injEq, Prod.mk.injEq] at same
    rw [← same.1]
    exact ⟨isName_of_takeName isNamed, isName_of_takeAttributes areGiven⟩

theorem proper_of_takeItem {text rest : List Char} {item : Item}
    (taken : takeItem text = .ok (item, rest)) (unbroken : '\r' ∉ text) : item.Proper := by
  unfold takeItem at taken
  split at taken
  · exact proper_of_takeMarkup taken unbroken
  · obtain ⟨⟨reference, _⟩, -, same⟩ := map_eq_ok taken
    cases reference <;> · cases same; trivial
  · dsimp only at taken
    split at taken
    · cases taken
    · cases taken
      trivial

/-- Every item of a text is proper, unless the text holds a line break that is read as another
one. -/
theorem proper_of_mem_items {text : List Char} (unbroken : '\r' ∉ text) :
    ∀ placed ∈ items text, placed.value.Proper := by
  fun_induction items text with
  | case1 => simp
  | case2 => simp [Item.Proper]
  | case3 first rest item after isItem _ inductionHypothesis =>
    have inside : '\r' ∉ after := fun member =>
      unbroken ((leaves_takeItem _ item after isItem).mem member)
    exact List.forall_mem_cons.mpr
      ⟨proper_of_takeItem isItem unbroken, inductionHypothesis inside⟩
  | case4 => simp [Item.Proper]

/-- Where line breaks have one form, there is none of another form. -/
theorem not_mem_normalizeLines (text : List Char) : '\r' ∉ normalizeLines text := by
  fun_induction normalizeLines text with
  | case1 rest inductionHypothesis | case2 rest _ inductionHypothesis =>
    simpa using inductionHypothesis
  | case3 c rest _ notReturn inductionHypothesis =>
    rw [List.mem_cons, not_or]
    exact ⟨fun same => notReturn same.symm, inductionHypothesis⟩
  | case4 => exact List.not_mem_nil

/-- Reading the values of attributes keeps their names. -/
theorem isName_of_attributeValues? {doctype : Doctype} {element : String}
    {written : List (String × List Char)} {given : List (String × String)}
    (valued : attributeValues? doctype element written = some given)
    (named : ∀ attached ∈ written, isName attached.1.toList = true) :
    ∀ attached ∈ given, isName attached.1.toList = true := by
  induction written generalizing given with
  | nil =>
    cases valued
    simp
  | cons first rest inductionHypothesis =>
    obtain ⟨_, -, valued⟩ := Option.bind_eq_some_iff.mp valued
    obtain ⟨others, othersValued, same⟩ := Option.bind_eq_some_iff.mp valued
    cases same
    rw [List.forall_mem_cons] at named ⊢
    exact ⟨named.1, inductionHypothesis othersValued named.2⟩

theorem Event.proper_ofEntity {event : Event} (proper : event.Proper) :
    event.ofEntity.Proper := by
  cases event <;> exact proper

/-- Every event of proper items is proper, when those of entities are. -/
theorem proper_of_mem_eventsOf (doctype : Doctype)
    {inside : List Char → Option (List (Placed Event))}
    (properInside : ∀ text inner, inside text = some inner →
      ∀ placed ∈ inner, placed.value.Proper)
    (pending : List (Placed Item)) (proper : ∀ placed ∈ pending, placed.value.Proper) :
    ∀ placed ∈ eventsOf doctype inside pending, placed.value.Proper := by
  fun_induction eventsOf doctype inside pending with
  | case1 => simp
  | case2 | case3 | case4 | case5 | case6 | case7 | case10 =>
    rename_i inductionHypothesis
    rw [List.forall_mem_cons] at proper ⊢
    exact ⟨proper.1, inductionHypothesis proper.2⟩
  | case8 =>
    rename_i valued inductionHypothesis
    rw [List.forall_mem_cons] at proper ⊢
    exact ⟨⟨proper.1.1, isName_of_attributeValues? valued proper.1.2⟩, inductionHypothesis proper.2⟩
  | case11 =>
    rename_i inner isInside _ inductionHypothesis
    rw [List.forall_mem_cons] at proper
    intro placed member
    rcases List.mem_append.mp member with inEntity | later
    · obtain ⟨event, isEvent, rfl⟩ := List.mem_map.mp inEntity
      exact Event.proper_ofEntity (properInside _ inner isInside event isEvent)
    · exact inductionHypothesis proper.2 placed later
  | case9 | case12 | case13 | case14 | case15 | case16 => simp [Event.Proper]

/-- Every event of proper items is proper: an entity gives the events of its own items. -/
theorem proper_of_mem_events (doctype : Doctype) (nesting : Nat) (pending : List (Placed Item))
    (proper : ∀ placed ∈ pending, placed.value.Proper) :
    ∀ placed ∈ events doctype nesting pending, placed.value.Proper := by
  induction nesting generalizing pending with
  | zero =>
    refine proper_of_mem_eventsOf doctype (fun text inner isInside => ?_) pending proper
    cases isInside
  | succ nested inductionHypothesis =>
    refine proper_of_mem_eventsOf doctype (fun text inner isInside => ?_) pending proper
    cases isInside
    exact inductionHypothesis _ (proper_of_mem_items (not_mem_normalizeLines text))

end FormLetter.Xml
