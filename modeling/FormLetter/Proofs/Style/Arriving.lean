import FormLetter.Proofs.Style.Remerging

/-!
# Styles that arrive

Every style of the documents that are merged arrives in the section it comes from, under whatever
qualifiers, unless one of its family and name is there when its turn comes. The ones that arrived
are read again when the merged document was written.
-/

namespace FormLetter.Style

open FormLetter.Xml

/-- A style as a node. -/
def Addition.node (style : Addition) : Node := .element style.tag style.content

/-- A style is there among other nodes: under other qualifiers perhaps, and read as it was
written. -/
def Addition.IsIn (style : Addition) (present : List Node) : Prop :=
  ∃ moved : Node, moved.unqualified = style.node.unqualified ∧ moved.joined ∈ present

/-- Where a style comes to be added, one of its family and name is known at first, or was among the
missing ones that came before. -/
def Addition.IsKnown (known : List Key) (additions : List Addition) (style : Addition) : Prop :=
  ∃ before later, additions = before ++ style :: later ∧
    (known.contains style.key = true ∨ style.key ∈ (missing known before).map Addition.key)

section

variable {known : List Key} {additions : List Addition} {style : Addition}

/-- A style is missing, or it is known where it comes to be added. -/
theorem mem_missing_or_isKnown (known : List Key) (member : style ∈ additions) :
    style ∈ missing known additions ∨ style.IsKnown known additions := by
  obtain ⟨before, later, rfl⟩ := List.append_of_mem member
  by_cases isNew : style ∈ takeMissing known (missing known before) style
  · refine .inl ?_
    rw [missing, List.foldl_append, List.foldl_cons]
    exact subset_foldl_takeMissing known later _ isNew
  · refine .inr ⟨before, later, rfl, ?_⟩
    unfold takeMissing at isNew
    split at isNew
    · rename_i isThere
      rw [Bool.and_eq_true, Bool.or_eq_true] at isThere
      exact isThere.2.imp id List.contains_iff_mem.mp
    · exact absurd (List.mem_append_right _ (List.mem_singleton.mpr rfl)) isNew

end

theorem mem_elements {tag : Tag} {inner content : List Node} :
    (tag, inner) ∈ elements content ↔ .element tag inner ∈ content := by
  constructor
  · intro member
    obtain ⟨node, isThere, isElement⟩ := List.mem_filterMap.mp member
    cases node with
    | element => cases isElement; exact isThere
    | _ => cases isElement
  · exact fun member => List.mem_filterMap.mpr ⟨_, member, rfl⟩

/-- The elements of a section are read again. -/
theorem mem_sectionOf_joined {base : String} {tag : Tag} {inner content : List Node}
    (member : .element tag inner ∈ sectionOf base content) :
    (Node.element tag inner).joined ∈ sectionOf base (joinedOnto [] content).reverse := by
  unfold sectionOf sectionOf? at member ⊢
  rw [findElement?_joined]
  cases found : findElement? officeNamespace base content with
  | none =>
    rw [found] at member
    cases member
  | some element =>
    rw [found] at member
    have isThere : (tag, inner) ∈ elements element.2 := mem_elements.mpr member
    refine mem_elements.mp ?_
    change _ ∈ elements (joinedOnto [] element.2).reverse
    rw [elements_joinedOnto]
    exact List.mem_append_right _ (List.mem_map.mpr ⟨_, isThere, rfl⟩)

/-- Every style of the documents that are merged is in its section afterwards, when that was written
and read, unless one of its family and name was there. -/
theorem isIn_or_isKnown_of_merge {target source : Document} {sources : List Document}
    (member : source ∈ sources) {base : String} (merged : base ∈ mergedSections) {style : Addition}
    (isStyle : style ∈ withTails (sectionOf base source.content)) :
    style.IsIn (sectionOf base (merge target sources).1.joined.content) ∨
      style.IsKnown (namedKeys (sectionOf base target.content))
        ((givenByAll sources base).flatMap withTails) := by
  obtain ⟨growth, fits, isMerged⟩ := merge_grows target sources
  have isGiven : style ∈ (givenByAll sources base).flatMap withTails := by
    unfold sectionOf at isStyle
    cases found : sectionOf? base source.content with
    | none =>
      rw [found] at isStyle
      cases isStyle
    | some styles =>
      rw [found] at isStyle
      refine List.mem_flatMap.mpr ⟨styles, List.mem_flatMap.mpr ⟨source, member, ?_⟩, isStyle⟩
      exact Option.mem_toList.mpr found
  refine (mem_missing_or_isKnown (namedKeys (sectionOf base target.content)) isGiven).imp_left
    fun isMissing => ?_
  have isWhole : style.node ∈ (missing (namedKeys (sectionOf base target.content))
      ((givenByAll sources base).flatMap withTails)).flatMap Addition.whole :=
    List.mem_flatMap.mpr ⟨style, isMissing, List.mem_cons_self⟩
  have means := List.mem_map_of_mem (f := Node.unqualified) isWhole
  rw [← unqualifiedAll_eq_map, ← fits.added base merged, unqualifiedAll_eq_map] at means
  obtain ⟨moved, isMoved, same⟩ := List.mem_map.mp means
  cases moved with
  | element tag inner =>
    refine ⟨_, same, ?_⟩
    rw [isMerged]
    refine mem_sectionOf_joined ?_
    rw [fits.sectionOf_result merged]
    exact List.mem_append_right _ isMoved
  | _ => cases same

end FormLetter.Style
