import FormLetter.Proofs.Xml.Moving
import FormLetter.Style.Merge

/-!
# Styles that are added

Merging adds to each section what is missing in it: the styles of the other documents in their
order, without those whose family and name are known in the section or were added before. A section
that is not there is made, but only for a document that has something to put into it. All else stays
as it is.
-/

namespace FormLetter.Style

open FormLetter.Xml

/-! ## Sections -/

section

variable {base other : String} {tag : Tag} {added more content rest : List Node} {node : Node}

/-- A tag is that of one section only. -/
theorem is_eq_false (named : tag.name.is officeNamespace base = true) (differs : base ≠ other) :
    tag.name.is officeNamespace other = false := by
  simp only [Name.is, Bool.and_eq_true, beq_iff_eq] at named
  simp only [Name.is, named.2, beq_eq_false_iff_ne.mpr differs, Bool.and_false]

theorem findElement?_element : findElement? officeNamespace base (.element tag content :: rest)
    = if tag.name.is officeNamespace base then some (tag, content)
      else findElement? officeNamespace base rest := by
  have first : elements (.element tag content :: rest) = (tag, content) :: elements rest := rfl
  unfold findElement?
  rw [first, List.find?_cons]
  by_cases named : tag.name.is officeNamespace base
  · simp only [named, if_true]
  · simp only [named, Bool.false_eq_true, if_false]

theorem findElement?_other (isOther : node.element? = none) :
    findElement? officeNamespace base (node :: rest) = findElement? officeNamespace base rest := by
  unfold findElement? elements
  rw [List.filterMap_cons_none isOther]

theorem extendSection_other (isOther : node.element? = none) :
    extendSection base added (node :: rest) = node :: extendSection base added rest := by
  cases node with
  | element tag content => cases isOther
  | _ =>
    rw [extendSection]
    intro _ _ same
    cases same

theorem extendSection_here (named : tag.name.is officeNamespace base = true) :
    extendSection base added (.element tag content :: rest)
      = .element tag (content ++ added) :: rest := by
  rw [extendSection, if_pos named]

theorem extendSection_later (notNamed : tag.name.is officeNamespace base = false) :
    extendSection base added (.element tag content :: rest)
      = .element tag content :: extendSection base added rest := by
  rw [extendSection, if_neg (Bool.not_eq_true _ ▸ notNamed)]

/-- What is added to a section is behind what it held. -/
theorem findElement?_extendSection :
    findElement? officeNamespace base (extendSection base added content)
      = (findElement? officeNamespace base content).map fun (tag, present) =>
        (tag, present ++ added) := by
  induction content with
  | nil => rfl
  | cons first rest ih =>
    cases first with
    | element tag inner =>
      by_cases named : tag.name.is officeNamespace base
      · rw [extendSection_here named, findElement?_element, if_pos named, findElement?_element,
          if_pos named]
        rfl
      · rw [extendSection_later (Bool.not_eq_true _ ▸ named), findElement?_element, if_neg named,
          findElement?_element, if_neg named, ih]
    | _ => rw [extendSection_other rfl, findElement?_other rfl, findElement?_other rfl, ih]

/-- The other sections are as they were. -/
theorem findElement?_extendSection_of_ne (differs : base ≠ other) :
    findElement? officeNamespace other (extendSection base added content)
      = findElement? officeNamespace other content := by
  induction content with
  | nil => rfl
  | cons first rest ih =>
    cases first with
    | element tag inner =>
      by_cases named : tag.name.is officeNamespace base
      · have notOther := is_eq_false named differs
        rw [extendSection_here named, findElement?_element, findElement?_element, notOther]
        rfl
      · rw [extendSection_later (Bool.not_eq_true _ ▸ named), findElement?_element,
          findElement?_element, ih]
    | _ => rw [extendSection_other rfl, findElement?_other rfl, findElement?_other rfl, ih]

theorem extendSection_nil : extendSection base [] content = content := by
  induction content with
  | nil => rfl
  | cons first rest ih =>
    cases first with
    | element tag inner =>
      by_cases named : tag.name.is officeNamespace base
      · rw [extendSection_here named, List.append_nil]
      · rw [extendSection_later (Bool.not_eq_true _ ▸ named), ih]
    | _ => rw [extendSection_other rfl, ih]

/-- What is added to a section twice is added one after the other. -/
theorem extendSection_extendSection :
    extendSection base more (extendSection base added content)
      = extendSection base (added ++ more) content := by
  induction content with
  | nil => rfl
  | cons first rest ih =>
    cases first with
    | element tag inner =>
      by_cases named : tag.name.is officeNamespace base
      · rw [extendSection_here named, extendSection_here named, extendSection_here named,
          List.append_assoc]
      · have notNamed : tag.name.is officeNamespace base = false := Bool.not_eq_true _ ▸ named
        rw [extendSection_later notNamed, extendSection_later notNamed,
          extendSection_later notNamed, ih]
    | _ =>
      rw [extendSection_other rfl, extendSection_other rfl, extendSection_other rfl, ih]

/-- Two sections are extended in whatever order. -/
theorem extendSection_comm (differs : base ≠ other) :
    extendSection base more (extendSection other added content)
      = extendSection other added (extendSection base more content) := by
  induction content with
  | nil => rfl
  | cons first rest ih =>
    cases first with
    | element tag inner =>
      by_cases isOther : tag.name.is officeNamespace other
      · have notNamed := is_eq_false isOther differs.symm
        rw [extendSection_here isOther, extendSection_later notNamed, extendSection_later notNamed,
          extendSection_here isOther]
      · have notOther : tag.name.is officeNamespace other = false := Bool.not_eq_true _ ▸ isOther
        by_cases named : tag.name.is officeNamespace base
        · rw [extendSection_later notOther, extendSection_here named, extendSection_here named,
            extendSection_later notOther]
        · have notNamed : tag.name.is officeNamespace base = false := Bool.not_eq_true _ ▸ named
          rw [extendSection_later notOther, extendSection_later notNamed,
            extendSection_later notNamed, extendSection_later notOther, ih]
    | _ =>
      rw [extendSection_other rfl, extendSection_other rfl, extendSection_other rfl,
        extendSection_other rfl, ih]

end

/-! ## New sections -/

/-- True for the master styles. -/
def isMasterStyles : Node → Bool
  | .element tag _ => tag.name.is officeNamespace "master-styles"
  | _ => false

/-- A content with new sections before the master styles, or at the end where there are none. -/
def withSections (new : List Tag) (content : List Node) : List Node :=
  content.takeWhile (!isMasterStyles ·) ++ new.map (Node.element · [])
    ++ content.dropWhile (!isMasterStyles ·)

theorem drop_length_takeWhile {α : Type} (test : α → Bool) (items : List α) :
    items.drop (items.takeWhile test).length = items.dropWhile test := by
  induction items with
  | nil => rfl
  | cons first rest ih =>
    by_cases passes : test first
    · rw [List.takeWhile_cons_of_pos passes, List.dropWhile_cons_of_pos passes, List.length_cons,
        List.drop_succ_cons, ih]
    · rw [List.takeWhile_cons_of_neg passes, List.dropWhile_cons_of_neg passes]
      rfl

theorem takeWhile_dropWhile {α : Type} (test : α → Bool) (items : List α) :
    (items.dropWhile test).takeWhile test = [] := by
  induction items with
  | nil => rfl
  | cons first rest ih =>
    by_cases passes : test first
    · rw [List.dropWhile_cons_of_pos passes, ih]
    · rw [List.dropWhile_cons_of_neg passes, List.takeWhile_cons_of_neg passes]

theorem dropWhile_dropWhile {α : Type} (test : α → Bool) (items : List α) :
    (items.dropWhile test).dropWhile test = items.dropWhile test := by
  have whole := List.takeWhile_append_dropWhile (p := test) (l := items.dropWhile test)
  rw [takeWhile_dropWhile, List.nil_append] at whole
  exact whole

theorem insertSection_eq (new : Node) (content : List Node) : insertSection new content
    = content.takeWhile (!isMasterStyles ·) ++ new :: content.dropWhile (!isMasterStyles ·) := by
  rw [← drop_length_takeWhile]
  rfl

section

variable {base : String} {tag : Tag} {new : List Tag} {added content rest : List Node} {first : Node}

theorem insertSection_cons (isMaster : isMasterStyles first = false) (node : Node) :
    insertSection node (first :: rest) = first :: insertSection node rest := by
  simp only [insertSection_eq, List.takeWhile_cons, List.dropWhile_cons, isMaster, Bool.not_false,
    if_true, List.cons_append]

theorem insertSection_master (isMaster : isMasterStyles first = true) (node : Node) :
    insertSection node (first :: rest) = node :: first :: rest := by
  simp only [insertSection_eq, List.takeWhile_cons, List.dropWhile_cons, isMaster, Bool.not_true,
    Bool.false_eq_true, if_false, List.nil_append]

theorem withSections_nil : withSections [] content = content := by
  rw [withSections, List.map_nil, List.append_nil, List.takeWhile_append_dropWhile]

/-- A section is put behind the other new ones. -/
theorem insertSection_withSections
    (noMaster : ∀ tag ∈ new, isMasterStyles (.element tag []) = false) :
    insertSection (.element tag []) (withSections new content)
      = withSections (new ++ [tag]) content := by
  have passes : ∀ node ∈ content.takeWhile (!isMasterStyles ·) ++ new.map (Node.element · []),
      (!isMasterStyles node) = true := by
    intro node member
    rcases List.mem_append.mp member with early | isNew
    · exact List.all_eq_true.mp (List.all_takeWhile) node early
    · obtain ⟨tag, isTag, rfl⟩ := List.mem_map.mp isNew
      rw [noMaster tag isTag]
      rfl
  have stops := takeWhile_dropWhile (!isMasterStyles ·) content
  have stays := dropWhile_dropWhile (!isMasterStyles ·) content
  rw [insertSection_eq]
  conv => left; unfold withSections
  rw [List.takeWhile_append_of_pos passes, List.dropWhile_append_of_pos passes, stops, stays]
  simp [withSections]

/-- A new section is put into a content whose other sections are extended already. -/
theorem insertSection_extendSection
    (isOther : tag.name.is officeNamespace base = false ∨ added = []) :
    insertSection (.element tag []) (extendSection base added content)
      = extendSection base added (insertSection (.element tag []) content) := by
  rcases isOther with isOther | rfl
  · induction content with
    | nil => exact (extendSection_later isOther).symm
    | cons first rest ih =>
      cases first with
      | element inner children =>
        have sameTag (content : List Node) : isMasterStyles (.element inner content)
            = isMasterStyles (.element inner children) := rfl
        cases named : inner.name.is officeNamespace base <;>
          cases isMaster : isMasterStyles (.element inner children)
        · rw [extendSection_later named, insertSection_cons isMaster, insertSection_cons isMaster,
            extendSection_later named, ih]
        · rw [extendSection_later named, insertSection_master isMaster,
            insertSection_master isMaster, extendSection_later isOther, extendSection_later named]
        · rw [extendSection_here named, insertSection_cons ((sameTag _).trans isMaster),
            insertSection_cons isMaster, extendSection_here named]
        · rw [extendSection_here named, insertSection_master ((sameTag _).trans isMaster),
            insertSection_master isMaster, extendSection_later isOther, extendSection_here named]
      | _ =>
        rw [extendSection_other rfl, insertSection_cons rfl, insertSection_cons rfl,
          extendSection_other rfl, ih]
  · rw [extendSection_nil, extendSection_nil]

end

/-! ## Finding sections again -/

section

variable {base : String} {tag : Tag} {new : List Tag} {content : List Node}

theorem findElement?_append (left right : List Node) :
    findElement? officeNamespace base (left ++ right)
      = (findElement? officeNamespace base left).or (findElement? officeNamespace base right) := by
  unfold findElement? elements
  rw [List.filterMap_append, List.find?_append]

theorem findElement?_new : findElement? officeNamespace base (new.map (Node.element · []))
    = (new.find? (·.name.is officeNamespace base)).map (·, []) := by
  have same : elements (new.map (Node.element · [])) = new.map (·, []) := by
    unfold elements
    rw [List.filterMap_map]
    exact congrFun List.filterMap_eq_map new
  unfold findElement?
  rw [same, List.find?_map]
  rfl

/-- The sections of a content, and new ones among them, of which none has the given name. -/
theorem findElement?_withSections_of_ne
    (noneNew : ∀ tag ∈ new, tag.name.is officeNamespace base = false) :
    findElement? officeNamespace base (withSections new content)
      = findElement? officeNamespace base content := by
  have whole := congrArg (findElement? officeNamespace base)
    (List.takeWhile_append_dropWhile (p := (!isMasterStyles ·)) (l := content))
  have nothing : new.find? (·.name.is officeNamespace base) = none :=
    List.find?_eq_none.mpr fun tag member => Bool.not_eq_true _ ▸ noneNew tag member
  rw [findElement?_append] at whole
  rw [withSections, findElement?_append, findElement?_append, findElement?_new, nothing,
    Option.map_none, Option.or_none, whole]

/-- A section that a content does not have is a new one. -/
theorem findElement?_withSections_of_none
    (missing : findElement? officeNamespace base content = none) :
    findElement? officeNamespace base (withSections new content)
      = (new.find? (·.name.is officeNamespace base)).map (·, []) := by
  have whole := congrArg (findElement? officeNamespace base)
    (List.takeWhile_append_dropWhile (p := (!isMasterStyles ·)) (l := content))
  rw [findElement?_append, missing, Option.or_eq_none_iff] at whole
  rw [withSections, findElement?_append, findElement?_append, findElement?_new, whole.1, whole.2,
    Option.none_or, Option.or_none]

end

/-- A section that was not there is found where it is put. -/
theorem findElement?_insertSection {base : String} {tag : Tag} {content : List Node}
    (absent : findElement? officeNamespace base content = none)
    (named : tag.name.is officeNamespace base = true) :
    findElement? officeNamespace base (insertSection (.element tag []) content)
      = some (tag, []) := by
  have same : insertSection (.element tag []) content = withSections [tag] content := by
    rw [insertSection_eq, withSections, List.map_singleton, List.append_assoc, List.singleton_append]
  rw [same, findElement?_withSections_of_none absent, List.find?_singleton, named]
  rfl

/-! ## What is added -/

/-- Adds nodes to each merged section. -/
def extendAll (added : String → List Node) (content : List Node) : List Node :=
  mergedSections.foldl (fun content base => extendSection base (added base) content) content

section

variable {base : String} {added : String → List Node} {content : List Node}

theorem eq_of_mem_mergedSections (merged : base ∈ mergedSections) :
    base = "styles" ∨ base = "automatic-styles" := by
  simpa [mergedSections] using merged

theorem extendAll_eq : extendAll added content = extendSection "automatic-styles"
    (added "automatic-styles") (extendSection "styles" (added "styles") content) := rfl

theorem findElement?_extendAll (merged : base ∈ mergedSections) :
    findElement? officeNamespace base (extendAll added content)
      = (findElement? officeNamespace base content).map fun (tag, present) =>
        (tag, present ++ added base) := by
  rw [extendAll_eq]
  rcases eq_of_mem_mergedSections merged with rfl | rfl
  · rw [findElement?_extendSection_of_ne (by decide), findElement?_extendSection]
  · rw [findElement?_extendSection, findElement?_extendSection_of_ne (by decide)]

/-- More that is added under one name. -/
def addTo {α : Type} (base : String) (more : List α) (added : String → List α) (other : String) :
    List α :=
  if other = base then added other ++ more else added other

theorem extendSection_extendAll (merged : base ∈ mergedSections) (more : List Node) :
    extendSection base more (extendAll added content) = extendAll (addTo base more added) content := by
  rw [extendAll_eq, extendAll_eq]
  rcases eq_of_mem_mergedSections merged with rfl | rfl
  · rw [extendSection_comm (by decide), extendSection_extendSection]
    rfl
  · rw [extendSection_extendSection]
    rfl

/-- A section to which nothing was added yet is new. -/
theorem insertSection_extendAll {tag : Tag} (merged : base ∈ mergedSections)
    (named : tag.name.is officeNamespace base = true) (untouched : added base = []) :
    insertSection (.element tag []) (extendAll added content)
      = extendAll added (insertSection (.element tag []) content) := by
  rw [extendAll_eq, extendAll_eq]
  rcases eq_of_mem_mergedSections merged with rfl | rfl
  · rw [insertSection_extendSection (.inl (is_eq_false named (by decide))),
      insertSection_extendSection (.inr untouched)]
  · rw [insertSection_extendSection (.inr untouched),
      insertSection_extendSection (.inl (is_eq_false named (by decide)))]

end

/-! ## Missing styles -/

namespace Addition

/-- What an addition is known by. -/
def key (addition : Addition) : Key := keyOf addition.tag

/-- The nodes of an addition, as they were where it comes from. -/
def whole (addition : Addition) : List Node := .element addition.tag addition.content :: addition.tail

end Addition

/-- Takes an addition, unless it has a name and is known already or was taken before. -/
def takeMissing (known : List Key) (taken : List Addition) (addition : Addition) : List Addition :=
  if addition.key.name.isSome
      && (known.contains addition.key || (taken.map Addition.key).contains addition.key) then taken
  else taken ++ [addition]

/-- Those of the additions that are missing where some keys are known. -/
def missing (known : List Key) (additions : List Addition) : List Addition :=
  additions.foldl (takeMissing known) []

/-- What is known for a document is what was known at first, and what was taken since. -/
theorem foldl_takeMissing {known now : List Key} {taken : List Addition}
    (same : ∀ key, key.name.isSome = true →
      now.contains key = (known.contains key || (taken.map Addition.key).contains key))
    (additions : List Addition) :
    additions.foldl (takeMissing known) taken = taken ++ newOnes now additions := by
  induction additions generalizing now taken with
  | nil => rw [List.foldl_nil, newOnes, List.append_nil]
  | cons first rest ih =>
    have sameTest : (first.key.name.isSome && (known.contains first.key
        || (taken.map Addition.key).contains first.key))
        = (first.key.name.isSome && now.contains first.key) := by
      cases named : first.key.name.isSome
      · rfl
      · rw [same _ named]
    rw [List.foldl_cons, newOnes, takeMissing, sameTest]
    change _ = taken ++ if (first.key.name.isSome && now.contains first.key) = true then _ else _
    split
    · exact ih same
    · rw [ih fun key named => ?_, List.append_assoc, List.singleton_append]
      rw [List.contains_cons, same key named, List.map_append, List.contains_append, List.map_cons,
        List.map_nil, List.contains_cons, List.contains_nil, Bool.or_false, Bool.or_comm,
        Bool.or_assoc]
      rfl

/-! ## Keys -/

/-- The elements among nodes that are none. -/
theorem elements_eq_nil {content : List Node} (texts : ∀ node ∈ content, node.isText = true) :
    elements content = [] := by
  refine List.filterMap_eq_nil_iff.mpr fun node member => ?_
  have isText := texts node member
  cases node with
  | element => cases isText
  | _ => rfl

theorem elements_append (left right : List Node) :
    elements (left ++ right) = elements left ++ elements right :=
  List.filterMap_append

theorem keyOf_unqualified (tag : Tag) : keyOf tag.unqualified = keyOf tag := by
  unfold keyOf
  rw [Tag.attribute?_unqualified, Tag.attribute?_unqualified]

/-- Keys are found by what names mean. -/
theorem namedKeys_unqualified (content : List Node) :
    namedKeys (unqualifiedAll content) = namedKeys content := by
  have same : (elements (unqualifiedAll content)).map (fun (tag, _) => keyOf tag)
      = (elements content).map fun (tag, _) => keyOf tag := by
    induction content with
    | nil => rfl
    | cons first rest ih =>
      cases first with
      | element tag inner =>
        change keyOf tag.unqualified :: _ = keyOf tag :: _
        rw [keyOf_unqualified]
        exact congrArg (keyOf tag :: ·) ih
      | _ => exact ih
  unfold namedKeys
  rw [same]

theorem namedKeys_append (left right : List Node) :
    namedKeys (left ++ right) = namedKeys left ++ namedKeys right := by
  simp only [namedKeys, elements_append, List.map_append, List.filter_append]

/-- The texts behind additions are no elements. -/
def Tailed (additions : List Addition) : Prop :=
  ∀ addition ∈ additions, ∀ node ∈ addition.tail, node.isText = true

theorem tailed_withTails (content : List Node) : Tailed (withTails content) := by
  fun_induction withTails content with
  | case1 => exact fun _ member => absurd member List.not_mem_nil
  | case2 tag content rest ih =>
    exact List.forall_mem_cons.mpr ⟨fun node member => List.all_eq_true.mp List.all_takeWhile node member, ih⟩
  | case3 _ _ _ ih => exact ih

theorem namedKeys_flatMap_whole {additions : List Addition} (tailed : Tailed additions) :
    namedKeys (additions.flatMap Addition.whole)
      = (additions.map Addition.key).filter (·.name.isSome) := by
  induction additions with
  | nil => rfl
  | cons first rest ih =>
    rw [Tailed, List.forall_mem_cons] at tailed
    have single : namedKeys first.whole = [first.key].filter (·.name.isSome) := by
      have first_ : elements first.whole = (first.tag, first.content) :: elements first.tail := rfl
      unfold namedKeys
      rw [first_, elements_eq_nil tailed.1]
      rfl
    rw [List.flatMap_cons, namedKeys_append, ih tailed.2, single, List.map_cons,
      ← List.filter_append, List.singleton_append]

/-- There is nothing to add where there is only text. -/
theorem withTails_eq_nil {styles : List Node} (texts : styles.all Node.isText = true) :
    withTails styles = [] := by
  induction styles with
  | nil => rfl
  | cons first rest ih =>
    rw [List.all_cons, Bool.and_eq_true] at texts
    cases first with
    | element => cases texts.1
    | _ => exact ih texts.2

theorem takeMissing_subset (known : List Key) (additions taken : List Addition) :
    additions.foldl (takeMissing known) taken ⊆ taken ++ additions := by
  induction additions generalizing taken with
  | nil => exact fun _ member => List.mem_append_left _ member
  | cons first rest ih =>
    rw [List.foldl_cons]
    refine fun addition member => ?_
    have found := ih _ member
    unfold takeMissing at found
    split at found
    · exact (List.mem_append.mp found).elim (List.mem_append_left _) fun late =>
        List.mem_append_right _ (List.mem_cons_of_mem _ late)
    · rwa [List.append_assoc, List.singleton_append] at found

theorem missing_subset (known : List Key) (additions : List Addition) :
    missing known additions ⊆ additions := by
  have kept := takeMissing_subset known additions []
  rwa [List.nil_append] at kept

/-- What a section knows to which missing additions were added. -/
theorem contains_namedKeys {known present added : List Node} {additions : List Addition}
    (tailed : Tailed additions) (holds : present = known ++ added)
    (same : unqualifiedAll added
      = unqualifiedAll ((missing (namedKeys known) additions).flatMap Addition.whole))
    {key : Key} (named : key.name.isSome = true) :
    (namedKeys present).contains key = ((namedKeys known).contains key
      || ((missing (namedKeys known) additions).map Addition.key).contains key) := by
  have keys := congrArg namedKeys same
  have tails : Tailed (missing (namedKeys known) additions) :=
    fun addition member => tailed addition (missing_subset _ _ member)
  rw [namedKeys_unqualified, namedKeys_unqualified, namedKeys_flatMap_whole tails] at keys
  rw [holds, namedKeys_append, keys, List.contains_append]
  congr 1
  rw [List.contains_eq_mem, List.contains_eq_mem]
  refine decide_eq_decide.mpr ?_
  rw [List.mem_filter]
  exact and_iff_left named

/-! ## Growth -/

/-- How a content grows: new sections, and what is added to each section. -/
structure Growth where
  new : List Tag
  added : String → List Node

/-- A content that has grown. -/
def Growth.result (growth : Growth) (content : List Node) : List Node :=
  extendAll growth.added (withSections growth.new content)

/-- What is in the first section of a name, if there is one. -/
def sectionOf? (base : String) (content : List Node) : Option (List Node) :=
  (findElement? officeNamespace base content).map (·.2)

/-- What is in the first section of a name, or nothing. -/
def sectionOf (base : String) (content : List Node) : List Node :=
  (sectionOf? base content).getD []

/-- The tag of a section that is made, as far as it means something. -/
def sectionTag (base : String) : Tag := ⟨⟨none, some officeNamespace, base⟩, [], []⟩

/-- How a content grows when the styles of some sections are merged into it: the styles that are
missing in a section are added to it, in their order, and a section that is not there is made, once,
if there is more than text in one that is merged. -/
structure Growth.Fits (content : List Node) (given : String → List (List Node))
    (growth : Growth) : Prop where
  tags : ∀ tag ∈ growth.new, ∃ base ∈ mergedSections, tag.unqualified = sectionTag base
  once : (growth.new.map (·.name.base)).Nodup
  made : ∀ base ∈ mergedSections, (∃ tag ∈ growth.new, tag.name.base = base) ↔
    sectionOf? base content = none ∧ ∃ styles ∈ given base, styles.all Node.isText = false
  added : ∀ base ∈ mergedSections, unqualifiedAll (growth.added base)
    = unqualifiedAll ((missing (namedKeys (sectionOf base content))
        ((given base).flatMap withTails)).flatMap Addition.whole)

namespace Growth

variable {content : List Node} {given : String → List (List Node)} {growth : Growth} {base : String}

/-- Nothing grows where nothing is merged. -/
theorem fits_nothing : (⟨[], fun _ => []⟩ : Growth).Fits content fun _ => [] where
  tags := fun _ member => absurd member List.not_mem_nil
  once := List.nodup_nil
  made := by simp
  added := fun _ _ => rfl

theorem result_nothing : (⟨[], fun _ => []⟩ : Growth).result content = content := by
  simp only [result, extendAll_eq, withSections_nil, extendSection_nil]

/-- Only the sections that are merged matter. -/
theorem Fits.congr (fits : growth.Fits content given) {others : String → List (List Node)}
    (same : ∀ base ∈ mergedSections, given base = others base) : growth.Fits content others where
  tags := fits.tags
  once := fits.once
  made base merged := same base merged ▸ fits.made base merged
  added base merged := same base merged ▸ fits.added base merged

theorem is_of_unqualified {tag : Tag} (means : tag.unqualified = sectionTag base) (other : String) :
    tag.name.is officeNamespace other = (base == other) := by
  have named : tag.name.is officeNamespace other = (sectionTag base).name.is officeNamespace other :=
    congrArg (·.name.is officeNamespace other) means
  rw [named]
  simp [sectionTag, Name.is]

theorem base_of_unqualified {tag : Tag} (means : tag.unqualified = sectionTag base) :
    tag.name.base = base :=
  congrArg (·.name.base) means

/-- The new section of a name. -/
theorem Fits.is_iff (fits : growth.Fits content given) {tag : Tag} (member : tag ∈ growth.new) :
    tag.name.is officeNamespace base = true ↔ tag.name.base = base := by
  obtain ⟨other, -, means⟩ := fits.tags tag member
  rw [is_of_unqualified means, base_of_unqualified means, beq_iff_eq]

/-- The sections of a content that has grown. -/
theorem Fits.findElement?_result (fits : growth.Fits content given) (merged : base ∈ mergedSections) :
    findElement? officeNamespace base (growth.result content)
      = ((findElement? officeNamespace base content).or
          ((growth.new.find? (·.name.is officeNamespace base)).map (·, []))).map
        fun (tag, present) => (tag, present ++ growth.added base) := by
  rw [result, findElement?_extendAll merged]
  congr 1
  cases found : findElement? officeNamespace base content with
  | none => rw [findElement?_withSections_of_none found, Option.none_or]
  | some present =>
    rw [findElement?_withSections_of_ne, found, Option.some_or]
    intro tag member
    refine Bool.eq_false_iff.mpr fun named => ?_
    have absent := ((fits.made base merged).mp ⟨tag, member, (fits.is_iff member).mp named⟩).1
    rw [sectionOf?, found] at absent
    cases absent

/-- What is in a section that has grown. -/
theorem Fits.sectionOf?_result (fits : growth.Fits content given) (merged : base ∈ mergedSections) :
    sectionOf? base (growth.result content)
      = if ∃ tag ∈ growth.new, tag.name.base = base then some (growth.added base)
        else (sectionOf? base content).map (· ++ growth.added base) := by
  have isNew := fits.made base merged
  rw [sectionOf?, fits.findElement?_result merged]
  split
  · rename_i made
    have absent := (isNew.mp made).1
    obtain ⟨tag, member, named⟩ := made
    rw [sectionOf?, Option.map_eq_none_iff] at absent
    rw [absent, Option.none_or]
    cases found : growth.new.find? (·.name.is officeNamespace base) with
    | none =>
      have notNamed := List.find?_eq_none.mp found tag member
      exact absurd ((fits.is_iff member).mpr named) notNamed
    | some tag => rfl
  · rename_i notMade
    have nothing : growth.new.find? (·.name.is officeNamespace base) = none :=
      List.find?_eq_none.mpr fun tag member named =>
        notMade ⟨tag, member, (fits.is_iff member).mp named⟩
    rw [nothing, sectionOf?]
    cases findElement? officeNamespace base content <;> rfl

/-- A section that is neither there nor made has got nothing. -/
theorem Fits.untouched (fits : growth.Fits content given) (merged : base ∈ mergedSections)
    (absent : sectionOf? base content = none)
    (notMade : ¬ ∃ tag ∈ growth.new, tag.name.base = base) : growth.added base = [] := by
  have texts : (given base).flatMap withTails = [] := by
    refine List.flatMap_eq_nil_iff.mpr fun styles member => ?_
    refine withTails_eq_nil (Bool.not_eq_false _ ▸ fun notText => ?_)
    exact notMade ((fits.made base merged).mpr ⟨absent, styles, member, notText⟩)
  have same := fits.added base merged
  rw [texts, unqualifiedAll_eq_map] at same
  exact List.map_eq_nil_iff.mp same

/-- What is in a section comes first, and then what is added to it. -/
theorem Fits.sectionOf_result (fits : growth.Fits content given) (merged : base ∈ mergedSections) :
    sectionOf base (growth.result content) = sectionOf base content ++ growth.added base := by
  unfold sectionOf
  rw [fits.sectionOf?_result merged]
  split
  · rename_i made
    rw [((fits.made base merged).mp made).1]
    rfl
  · rename_i notMade
    cases there : sectionOf? base content with
    | some present => rfl
    | none =>
      rw [fits.untouched merged there notMade]
      rfl

end Growth

/-! ## What is made of a document -/

/-- Whatever was numbered before, an action makes something of which a statement holds. -/
def Makes {α : Type} (action : StateM Nat α) (holds : α → Prop) : Prop :=
  ∀ made, holds (action.run made).run.1

namespace Makes

variable {α β : Type} {action : StateM Nat α} {holds : α → Prop}

theorem pure {value : α} (held : holds value) : Makes (pure value) holds := fun _ => held

theorem bind {next : α → StateM Nat β} {later : β → Prop} (first : Makes action holds)
    (others : ∀ value, holds value → Makes (next value) later) : Makes (action >>= next) later :=
  fun made => others _ (first made) _

end Makes

theorem makes_nodes (scope : List Declaration) (addition : Addition) :
    Makes (addition.nodes scope) fun nodes => unqualifiedAll nodes = unqualifiedAll addition.whole := by
  have adopted : Makes (adopt scope (selfContained addition.tag addition.content)) fun node =>
      node.unqualified = (Node.element addition.tag addition.content).unqualified :=
    fun made => (unqualified_adopt scope _ _ made).trans (unqualified_selfContained _ _)
  refine adopted.bind fun node same => .pure ?_
  rw [Addition.whole, unqualifiedAll, unqualifiedAll, same]

/-- What is added means what it meant where it comes from. -/
theorem makes_mapM_nodes (scope : List Declaration) (additions : List Addition) :
    Makes (additions.mapM (·.nodes scope)) fun added =>
      unqualifiedAll added.flatten = unqualifiedAll (additions.flatMap Addition.whole) := by
  induction additions with
  | nil => exact .pure rfl
  | cons first rest ih =>
    rw [List.mapM_cons]
    refine (makes_nodes scope first).bind fun nodes same => ih.bind fun others sameToo => .pure ?_
    rw [List.flatten_cons, List.flatMap_cons, unqualifiedAll_append, unqualifiedAll_append, same,
      sameToo]

/-- A section that is made has no attributes and no content. -/
theorem makes_newSection (scope : List Declaration) (base : String) :
    Makes (newSection scope base) fun node =>
      ∃ tag, node = .element tag [] ∧ tag.unqualified = sectionTag base := by
  intro made
  have same := unqualified_adopt scope ⟨⟨some "office", some officeNamespace, base⟩,
    [⟨some "office", officeNamespace⟩], []⟩ [] made
  change ((newSection scope base).run made).run.1.unqualified = _ at same
  revert same
  generalize ((newSection scope base).run made).run.1 = node
  intro same
  cases node with
  | element tag content =>
    rw [Node.unqualified, Node.unqualified, unqualifiedAll_eq_map] at same
    obtain ⟨sameTag, nothing⟩ := Node.element.inj same
    exact ⟨tag, by rw [List.map_eq_nil_iff.mp nothing], sameTag⟩
  | _ => cases same

/-! ## Merging a section -/

namespace Growth

variable {content styles : List Node} {given : String → List (List Node)} {growth : Growth}
  {base : String}

/-- A section in which there is only text is as good as none. -/
theorem Fits.text (fits : growth.Fits content given) (texts : styles.all Node.isText = true) :
    growth.Fits content (addTo base [styles] given) where
  tags := fits.tags
  once := fits.once
  made other merged := by
    rw [fits.made other merged, addTo]
    split
    · simp only [List.mem_append, List.mem_singleton, or_and_right, exists_or, exists_eq_left, texts,
        Bool.true_eq_false, or_false]
    · rfl
  added other merged := by
    rw [fits.added other merged, addTo]
    split
    · rw [List.flatMap_append, List.flatMap_singleton, withTails_eq_nil texts, List.append_nil]
    · rfl

/-- New sections among which there is one of the given name, if the content has none. -/
structure Opens (content : List Node) (growth : Growth) (base : String) (new : List Tag) : Prop where
  tags : ∀ tag ∈ new, ∃ base ∈ mergedSections, tag.unqualified = sectionTag base
  once : (new.map (·.name.base)).Nodup
  made : ∀ other, (∃ tag ∈ new, tag.name.base = other) ↔
    (∃ tag ∈ growth.new, tag.name.base = other) ∨ other = base ∧ sectionOf? base content = none

/-- A section that is there is what it was at first, with what was added to it. -/
theorem Fits.eq_of_sectionOf? (fits : growth.Fits content given) (merged : base ∈ mergedSections)
    {present : List Node} (there : sectionOf? base (growth.result content) = some present) :
    present = sectionOf base content ++ growth.added base := by
  rw [fits.sectionOf?_result merged] at there
  unfold sectionOf
  split at there
  · rename_i made
    rw [((fits.made base merged).mp made).1]
    exact (Option.some.inj there).symm
  · obtain ⟨found, isThere, rfl⟩ := Option.map_eq_some_iff.mp there
    rw [isThere]
    rfl

/-- A section that is not there was neither there at first nor was it made. -/
theorem Fits.absent_iff (fits : growth.Fits content given) (merged : base ∈ mergedSections) :
    sectionOf? base (growth.result content) = none ↔
      sectionOf? base content = none ∧ ¬ ∃ tag ∈ growth.new, tag.name.base = base := by
  rw [fits.sectionOf?_result merged]
  split
  · rename_i made
    simp [made]
  · rename_i notMade
    simp [notMade]

theorem Fits.opens_present (fits : growth.Fits content given) (merged : base ∈ mergedSections)
    (there : sectionOf? base (growth.result content) ≠ none) :
    growth.Opens content base growth.new where
  tags := fits.tags
  once := fits.once
  made other := by
    refine ⟨Or.inl, fun isMade => isMade.elim id fun ⟨same, absent⟩ => ?_⟩
    refine Classical.byContradiction fun notMade => there ?_
    exact (fits.absent_iff merged).mpr ⟨absent, same ▸ notMade⟩

theorem Fits.opens_absent (fits : growth.Fits content given) (merged : base ∈ mergedSections)
    (absent : sectionOf? base (growth.result content) = none) {tag : Tag}
    (means : tag.unqualified = sectionTag base) :
    growth.Opens content base (growth.new ++ [tag]) where
  tags := by
    refine fun other member => (List.mem_append.mp member).elim (fits.tags other) fun isNew => ?_
    exact ⟨base, merged, List.mem_singleton.mp isNew ▸ means⟩
  once := by
    rw [List.map_append, List.nodup_append]
    refine ⟨fits.once, by simp, fun early isEarly late isLate same => ?_⟩
    obtain ⟨other, member, rfl⟩ := List.mem_map.mp isEarly
    rw [List.map_singleton, List.mem_singleton, base_of_unqualified means] at isLate
    exact ((fits.absent_iff merged).mp absent).2 ⟨other, member, same.trans isLate⟩
  made other := by
    have nowhere := ((fits.absent_iff merged).mp absent).1
    simp only [List.mem_append, List.mem_singleton, or_and_right, exists_or, exists_eq_left]
    rw [base_of_unqualified means]
    exact or_congr Iff.rfl ⟨fun same => ⟨same.symm, nowhere⟩, fun found => found.1.symm⟩

/-- A section that is not there is put before the master styles. -/
theorem Fits.insertSection_result (fits : growth.Fits content given) (merged : base ∈ mergedSections)
    (absent : sectionOf? base (growth.result content) = none) {tag : Tag}
    (means : tag.unqualified = sectionTag base) :
    insertSection (.element tag []) (growth.result content)
      = (⟨growth.new ++ [tag], growth.added⟩ : Growth).result content := by
  have parts := (fits.absent_iff merged).mp absent
  rw [result, insertSection_extendAll merged _ (fits.untouched merged parts.1 parts.2),
    insertSection_withSections]
  · rfl
  · intro tag member
    obtain ⟨other, isMerged, same⟩ := fits.tags tag member
    rw [isMasterStyles, is_of_unqualified same]
    rcases eq_of_mem_mergedSections isMerged with rfl | rfl <;> decide
  · rw [is_of_unqualified means, beq_self_eq_true]

/-- A section in which styles are put is the one that is there, or a new one. -/
theorem Fits.makes_opened (fits : growth.Fits content given) (scope : List Declaration)
    (merged : base ∈ mergedSections) {β : Type} {next : List Node → StateM Nat β} {later : β → Prop}
    (others : ∀ opened new tag, growth.Opens content base new →
      opened = (⟨new, growth.added⟩ : Growth).result content →
      findElement? officeNamespace base opened
        = some (tag, sectionOf base content ++ growth.added base) → Makes (next opened) later) :
    Makes (if (findElement? officeNamespace base (growth.result content)).isSome then
        pure (growth.result content) >>= next
      else newSection scope base >>= fun new =>
        pure (insertSection new (growth.result content)) >>= next) later := by
  split
  · rename_i there
    obtain ⟨⟨tag, present⟩, found⟩ := Option.isSome_iff_exists.mp there
    have isPresent : sectionOf? base (growth.result content) = some present := by
      rw [sectionOf?, found, Option.map_some]
    have opens := fits.opens_present merged (isPresent ▸ Option.some_ne_none present)
    rw [pure_bind]
    refine others _ _ tag opens rfl ?_
    rw [found, fits.eq_of_sectionOf? merged isPresent]
  · rename_i notThere
    have nowhere : findElement? officeNamespace base (growth.result content) = none :=
      Option.not_isSome_iff_eq_none.mp notThere
    have absent : sectionOf? base (growth.result content) = none := by
      rw [sectionOf?, nowhere, Option.map_none]
    refine (makes_newSection scope base).bind fun node ⟨tag, isNode, means⟩ => ?_
    subst isNode
    rw [pure_bind]
    refine others _ _ tag (fits.opens_absent merged absent means)
      (fits.insertSection_result merged absent means) ?_
    have parts := (fits.absent_iff merged).mp absent
    rw [sectionOf, parts.1, fits.untouched merged parts.1 parts.2]
    exact findElement?_insertSection nowhere (by rw [is_of_unqualified means, beq_self_eq_true])

/-- The styles that are not known in a section are added to those that were added before. -/
theorem Fits.extend (fits : growth.Fits content given) (merged : base ∈ mergedSections)
    (more : styles.all Node.isText = false) {new : List Tag} (opens : growth.Opens content base new)
    {nodes : List Node} (means : unqualifiedAll nodes = unqualifiedAll
      ((newOnes (namedKeys (sectionOf base content ++ growth.added base))
        (withTails styles)).flatMap Addition.whole)) :
    (⟨new, addTo base nodes growth.added⟩ : Growth).Fits content (addTo base [styles] given) where
  tags := opens.tags
  once := opens.once
  made other isMerged := by
    rw [opens.made other, fits.made other isMerged, addTo]
    split
    · rename_i same
      subst same
      have isMore : ∃ found ∈ given other ++ [styles], found.all Node.isText = false :=
        ⟨styles, by simp, more⟩
      exact ⟨fun found => ⟨found.elim And.left And.right, isMore⟩, fun found => .inr ⟨rfl, found.1⟩⟩
    · rename_i differs
      simp [differs]
  added other isMerged := by
    unfold addTo
    dsimp only
    split
    · rename_i same
      subst same
      have tailed : Tailed ((given other).flatMap withTails) := by
        intro addition member
        obtain ⟨styles, -, isGiven⟩ := List.mem_flatMap.mp member
        exact tailed_withTails styles addition isGiven
      have known := foldl_takeMissing (fun key named =>
        contains_namedKeys tailed rfl (fits.added other isMerged) named) (withTails styles)
      rw [List.flatMap_append, List.flatMap_singleton, missing, List.foldl_append]
      rw [missing] at known
      rw [known, List.flatMap_append, unqualifiedAll_append, unqualifiedAll_append, means,
        fits.added other isMerged, missing]
    · exact fits.added other isMerged

end Growth

/-- What a document has in a section. -/
def givenBy (base : String) (source : List Node) : List (List Node) :=
  (sectionOf? base source).toList

variable {content : List Node} {given : String → List (List Node)} {base : String}

/-- Some content has grown from a given one, with the given sections merged into it. -/
def Grows (content : List Node) (given : String → List (List Node)) (merged : Merged) : Prop :=
  ∃ growth : Growth, growth.Fits content given ∧ merged.content = growth.result content

/-- One section is merged. -/
theorem makes_mergeSection (scope : List Declaration) (source : List Node) {merged : Merged}
    (grows : Grows content given merged) (isMerged : base ∈ mergedSections) :
    Makes (mergeSection scope source merged base)
      (Grows content (addTo base (givenBy base source) given)) := by
  obtain ⟨growth, fits, isContent⟩ := grows
  unfold mergeSection givenBy sectionOf?
  cases findElement? officeNamespace base source with
  | none =>
    refine .pure ⟨growth, fits.congr fun other _ => ?_, isContent⟩
    rw [addTo, Option.map_none, Option.toList_none, List.append_nil, ite_self]
  | some found =>
    obtain ⟨tag, styles⟩ := found
    dsimp only
    split
    · rename_i texts
      exact .pure ⟨growth, fits.text texts, isContent⟩
    · rename_i notText
      rw [isContent]
      refine fits.makes_opened scope isMerged fun opened new tag opens same found => ?_
      rw [found]
      dsimp only
      refine (makes_mapM_nodes _ _).bind fun added means => .pure ?_
      refine ⟨_, fits.extend isMerged (Bool.not_eq_true _ ▸ notText) opens means, ?_⟩
      dsimp only
      rw [same, Growth.result, extendSection_extendAll isMerged]
      rfl

/-- One document is merged. -/
theorem makes_mergeDocument (scope : List Declaration) (source : Document) {merged : Merged}
    (grows : Grows content given merged) : Makes (mergeDocument scope merged source)
      (Grows content fun base => given base ++ givenBy base source.content) := by
  unfold mergeDocument mergedSections
  rw [List.foldlM_cons]
  refine (makes_mergeSection scope source.content grows (by decide)).bind fun merged grows => ?_
  rw [List.foldlM_cons]
  refine (makes_mergeSection scope source.content grows (by decide)).bind fun merged grows => ?_
  obtain ⟨growth, fits, isContent⟩ := grows
  refine .pure ⟨growth, fits.congr fun base isMerged => ?_, isContent⟩
  rcases eq_of_mem_mergedSections isMerged with rfl | rfl <;> rfl

/-- What several documents have in a section, in their order. -/
def givenByAll (sources : List Document) (base : String) : List (List Node) :=
  sources.flatMap fun source => givenBy base source.content

theorem makes_mergeDocuments (scope : List Declaration) (sources : List Document) {merged : Merged}
    (grows : Grows content given merged) : Makes (sources.foldlM (mergeDocument scope) merged)
      (Grows content fun base => given base ++ givenByAll sources base) := by
  induction sources generalizing given merged with
  | nil =>
    simp only [givenByAll, List.flatMap_nil, List.append_nil]
    exact .pure grows
  | cons first rest ih =>
    rw [List.foldlM_cons]
    refine (makes_mergeDocument scope first grows).bind fun merged grows => ?_
    have others := ih grows
    simp only [List.append_assoc] at others
    exact others

/-- A document grows by what is missing in it, and is the same otherwise. -/
theorem merge_grows (target : Document) (sources : List Document) :
    ∃ growth : Growth, growth.Fits target.content (givenByAll sources) ∧
      (merge target sources).1 = { target with content := growth.result target.content } := by
  have begun : Grows target.content (fun _ => []) ⟨target.content, 0⟩ :=
    ⟨_, Growth.fits_nothing, Growth.result_nothing.symm⟩
  obtain ⟨growth, fits, isContent⟩ :=
    makes_mergeDocuments target.root.declarations sources begun 0
  refine ⟨growth, fits, ?_⟩
  unfold merge
  dsimp only
  rw [isContent]

end FormLetter.Style
