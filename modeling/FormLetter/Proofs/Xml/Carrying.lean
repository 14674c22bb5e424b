import FormLetter.Proofs.Xml.Harmony

/-!
# Trees that are carried elsewhere

Where all declarations are in harmony, an element that is known where it stands makes the
declarations that it needs, so that it is known anywhere; and when it arrives among other
declarations, what it gives up is known there. So nothing is lost on the way, and it can be read
where it arrives.
-/

namespace FormLetter.Xml

/-! ## Leaving -/

/-- Declarations that can be added to others. -/
structure Addable (all base added : List Declaration) : Prop where
  within : added ⊆ all
  distinct : ((base ++ added).map (·.qualifier)).Nodup

section

variable {all base inner added scope : List Declaration} {name : Name} {tag : Tag} {room : Nat}
  {content : List Node}

theorem Declaration.Clear.ne_xmlNamespace {qualifier uri : String}
    (clear : Declaration.Clear ⟨some qualifier, uri⟩) : uri ≠ xmlNamespace := by
  rintro rfl
  have declared := congrArg Prod.fst clear.declared
  unfold declare at declared
  dsimp only at declared
  rw [beq_false_of_ne clear.ne_xml, beq_self_eq_true, Bool.true_or, Bool.true_or, Bool.true_or]
    at declared
  cases declared

/-- What a name needs is declared. -/
theorem Name.Known.neededBy? (known : name.Known scope) (harmonic : Harmonic all)
    (within : scope ⊆ all) (innerWithin : inner ⊆ all) (outermost : base ⊆ inner)
    (addable : Addable all base added) :
    Addable all base (added ++ (neededBy? (inner ++ added) name).toList) ∧
      name.Known (inner ++ (added ++ (Xml.neededBy? (inner ++ added) name).toList)) := by
  unfold Xml.neededBy?
  rcases known.bound with ⟨isBare, isFree⟩ | ⟨qualifier, uri, isQualifier, isUri, bound⟩
  · rw [isFree]
    dsimp only
    rw [Option.toList_none, List.append_nil]
    exact ⟨addable, known.plain, .inl ⟨isBare, isFree⟩⟩
  · rw [isUri, isQualifier]
    dsimp only
    split
    · rename_i needless
      rw [Option.toList_none, List.append_nil]
      refine ⟨addable, known.plain, .inr ⟨qualifier, uri, isQualifier, isUri, ?_⟩⟩
      refine bound.imp_right fun member => ?_
      rw [Bool.or_eq_true, beq_iff_eq, List.any_eq_true] at needless
      rcases needless with isXml | ⟨declaration, isDeclared, same⟩
      · exact absurd isXml (harmonic.clear _ (within member)).ne_xmlNamespace
      · have inside := List.append_subset.mpr ⟨innerWithin, addable.within⟩ isDeclared
        have isSame := harmonic.single _ inside _ (within member) (beq_iff_eq.mp same)
        exact isSame ▸ isDeclared
    · rename_i needed
      rw [Bool.or_eq_true, beq_iff_eq, not_or, List.any_eq_true] at needed
      rw [Option.toList_some]
      rcases bound with ⟨-, isXml⟩ | member
      · exact absurd isXml needed.1
      · refine ⟨⟨List.append_subset.mpr ⟨addable.within, ?_⟩, ?_⟩, known.plain,
          .inr ⟨qualifier, uri, isQualifier, isUri, .inr ?_⟩⟩
        · exact List.forall_mem_singleton.mpr (within member)
        · rw [← List.append_assoc, List.map_append, List.nodup_append]
          refine ⟨addable.distinct, by simp, fun one isOne other isOther same => ?_⟩
          obtain ⟨declaration, isDeclared, rfl⟩ := List.mem_map.mp isOne
          rw [List.map_singleton, List.mem_singleton] at isOther
          refine needed.2 ⟨declaration, ?_, beq_iff_eq.mpr (same.trans isOther)⟩
          exact subset_append outermost (List.Subset.refl _) isDeclared
        · exact List.mem_append_right _ (List.mem_append_right _ (List.mem_singleton.mpr rfl))

/-- What several names need is declared. -/
theorem known_of_foldl_needed (harmonic : Harmonic all) (within : scope ⊆ all)
    (innerWithin : inner ⊆ all) (outermost : base ⊆ inner) {names : List Name}
    (known : ∀ name ∈ names, name.Known scope) (addable : Addable all base added) :
    added ⊆ names.foldl
        (fun added name => added ++ (neededBy? (inner ++ added) name).toList) added ∧
      Addable all base (names.foldl
        (fun added name => added ++ (neededBy? (inner ++ added) name).toList) added) ∧
      ∀ name ∈ names, name.Known (inner ++ names.foldl
        (fun added name => added ++ (neededBy? (inner ++ added) name).toList) added) := by
  induction names generalizing added with
  | nil => exact ⟨List.Subset.refl _, addable, fun _ member => absurd member List.not_mem_nil⟩
  | cons first rest ih =>
    rw [List.forall_mem_cons] at known
    have one := known.1.neededBy? harmonic within innerWithin outermost addable
    obtain ⟨kept, addable, others⟩ := ih known.2 one.1
    rw [List.foldl_cons]
    refine ⟨fun _ member => kept (List.mem_append_left _ member), addable,
      List.forall_mem_cons.mpr ⟨one.2.mono ?_, others⟩⟩
    exact subset_append (List.Subset.refl _) kept

/-- What a tag needs is declared. -/
theorem Tag.Known.addNeeded (known : tag.Known all scope) (harmonic : Harmonic all)
    (within : scope ⊆ all) (innerWithin : inner ⊆ all) (outermost : base ⊆ tag.declarations ++ inner)
    (addable : Addable all base added) :
    added ⊆ addNeeded (tag.declarations ++ inner) added tag ∧
      Addable all base (Xml.addNeeded (tag.declarations ++ inner) added tag) ∧
      tag.Known all (inner ++ Xml.addNeeded (tag.declarations ++ inner) added tag) := by
  have inside : tag.declarations ++ scope ⊆ all := List.append_subset.mpr ⟨known.declared, within⟩
  have around : tag.declarations ++ inner ⊆ all :=
    List.append_subset.mpr ⟨known.declared, innerWithin⟩
  have names : ∀ name ∈ tag.name :: tag.attributes.map (·.name),
      name.Known (tag.declarations ++ scope) := by
    refine List.forall_mem_cons.mpr ⟨known.named, fun name member => ?_⟩
    obtain ⟨given, isGiven, rfl⟩ := List.mem_map.mp member
    exact known.attributesNamed given isGiven
  obtain ⟨kept, addable, named⟩ := known_of_foldl_needed harmonic inside around outermost names addable
  rw [List.forall_mem_cons] at named
  refine ⟨kept, addable, { known with named := ?_, attributesNamed := fun given member => ?_ }⟩
  · rw [← List.append_assoc]
    exact named.1
  · rw [← List.append_assoc]
    exact named.2 _ (List.mem_map.mpr ⟨given, member, rfl⟩)

/-- What several nodes need is declared, if it is for each of them. -/
theorem known_of_needsOfAll {declared : List Declaration}
    (each : ∀ node ∈ content, ∀ added, Addable all base added →
      added ⊆ needsOf declared added node ∧ Addable all base (needsOf declared added node) ∧
        node.Known all room (declared ++ needsOf declared added node))
    (addable : Addable all base added) :
    added ⊆ needsOfAll declared added content ∧
      Addable all base (needsOfAll declared added content) ∧
      ∀ node ∈ content, node.Known all room (declared ++ needsOfAll declared added content) := by
  induction content generalizing added with
  | nil => exact ⟨List.Subset.refl _, addable, fun _ member => absurd member List.not_mem_nil⟩
  | cons first rest ih =>
    rw [List.forall_mem_cons] at each
    obtain ⟨keptFirst, addableFirst, knownFirst⟩ := each.1 added addable
    obtain ⟨kept, addable, known⟩ := ih each.2 addableFirst
    rw [needsOfAll]
    refine ⟨fun _ member => kept (keptFirst member), addable,
      List.forall_mem_cons.mpr ⟨knownFirst.mono ?_, known⟩⟩
    exact subset_append (List.Subset.refl _) kept

/-- What a node needs is declared. -/
theorem Node.Known.needsOf {node : Node} (known : node.Known all room scope)
    (harmonic : Harmonic all) (within : scope ⊆ all) (innerWithin : inner ⊆ all)
    (outermost : base ⊆ inner) (addable : Addable all base added) :
    added ⊆ needsOf inner added node ∧ Addable all base (Xml.needsOf inner added node) ∧
      node.Known all room (inner ++ Xml.needsOf inner added node) := by
  induction known generalizing inner added with
  | text valid => exact ⟨List.Subset.refl _, addable, .text valid⟩
  | comment stands => exact ⟨List.Subset.refl _, addable, .comment stands⟩
  | instruction named isFree stands plain =>
    exact ⟨List.Subset.refl _, addable, .instruction named isFree stands plain⟩
  | @element room scope tag content tagKnown _ ih =>
    have inside : tag.declarations ++ scope ⊆ all :=
      List.append_subset.mpr ⟨tagKnown.declared, within⟩
    have around : tag.declarations ++ inner ⊆ all :=
      List.append_subset.mpr ⟨tagKnown.declared, innerWithin⟩
    have outside : base ⊆ tag.declarations ++ inner :=
      fun _ member => List.mem_append_right _ (outermost member)
    obtain ⟨keptTag, addableTag, knownTag⟩ :=
      tagKnown.addNeeded harmonic within innerWithin outside addable
    obtain ⟨kept, addableAll, knownAll⟩ := known_of_needsOfAll
      (fun node member added addable => ih node member inside around outside addable) addableTag
    rw [Xml.needsOf]
    refine ⟨fun _ member => kept (keptTag member), addableAll, .element (knownTag.mono ?_)
      fun node member => ?_⟩
    · exact subset_append (List.Subset.refl _) kept
    · rw [← List.append_assoc]
      exact knownAll node member

/-- An element that makes the declarations that it needs is known anywhere. -/
theorem Node.Known.selfContained (known : (Node.element tag content).Known all room scope)
    (harmonic : Harmonic all) (within : scope ⊆ all) :
    (selfContained tag content).Known all room [] := by
  cases known with
  | @element room _ _ _ tagKnown contentKnown =>
    have inside : tag.declarations ++ scope ⊆ all :=
      List.append_subset.mpr ⟨tagKnown.declared, within⟩
    have around : tag.declarations ++ [] ⊆ all :=
      List.append_subset.mpr ⟨tagKnown.declared, List.nil_subset _⟩
    have outside : tag.declarations ⊆ tag.declarations ++ [] := List.subset_append_left _ _
    have nothing : Addable all tag.declarations [] :=
      ⟨List.nil_subset _, (List.append_nil _).symm ▸ tagKnown.distinct⟩
    obtain ⟨-, addableTag, knownTag⟩ :=
      tagKnown.addNeeded harmonic within (List.nil_subset _) outside nothing
    obtain ⟨kept, addable, known⟩ := known_of_needsOfAll
      (fun node member added addable =>
        (contentKnown node member).needsOf harmonic inside around outside addable) addableTag
    have wider := knownTag.mono (subset_append (List.Subset.refl []) kept)
    unfold Xml.selfContained
    rw [Xml.needsOf]
    have bare : tag.declarations ++ [] ⊆ tag.declarations := by
      rw [List.append_nil]
      exact List.Subset.refl _
    refine .element ⟨List.append_subset.mpr ⟨tagKnown.declared, addable.within⟩, addable.distinct, ?_,
      fun given member => ?_, tagKnown.free, tagKnown.valid, tagKnown.keys, tagKnown.silent⟩
      fun node member => ?_
    all_goals
      dsimp only
      rw [List.append_nil]
    · exact wider.named
    · exact wider.attributesNamed given member
    · exact (known node member).mono (subset_append bare (List.Subset.refl _))

end

/-! ## Arriving -/

/-- What is declared around a node where it comes from is known where it arrives, under the
qualifiers that take the place of its own. -/
structure Carries (declared : List Declaration) (renames : Renaming) (scope : List Declaration) :
    Prop where
  renamed : ∀ qualifier uri, ⟨some qualifier, uri⟩ ∈ declared →
    ∃ other, renames.lookup (some qualifier) = some (some other) ∧ ⟨some other, uri⟩ ∈ scope
  free : renames.lookup (some "xml") = none

section

variable {all declared scope : List Declaration} {renames : Renaming} {name : Name} {tag : Tag}
  {room : Nat} {node : Node} {content : List Node}

theorem carries_nothing : Carries [] [] scope :=
  ⟨fun _ _ member => absurd member List.not_mem_nil, rfl⟩

/-- A name is known under its new qualifier. -/
theorem Carries.known (carries : Carries declared renames scope) (known : name.Known declared) :
    (renameElement renames name).Known scope := by
  unfold renameElement
  rcases known.bound with ⟨isBare, isFree⟩ | ⟨qualifier, uri, isQualifier, isUri, ⟨isXml, isUriOf⟩ | member⟩
  · rw [isFree]
    exact ⟨known.plain, .inl ⟨isBare, isFree⟩⟩
  · rw [isQualifier, isXml, carries.free]
    split
    · rename_i found
      cases found
    · exact ⟨known.plain, .inr ⟨qualifier, uri, isQualifier, isUri, .inl ⟨isXml, isUriOf⟩⟩⟩
  · obtain ⟨other, found, isDeclared⟩ := carries.renamed qualifier uri member
    rw [isUri, isQualifier, found]
    exact ⟨known.plain, .inr ⟨other, uri, rfl, rfl, .inr isDeclared⟩⟩

/-- A name that has no qualifier afterwards had none before. -/
theorem Carries.eq_of_bare (carries : Carries declared renames scope) (known : name.Known declared)
    (bare : (renameElement renames name).qualifier = none) : renameElement renames name = name := by
  unfold renameElement at bare ⊢
  rcases known.bound with ⟨-, isFree⟩ | ⟨qualifier, uri, isQualifier, isUri, ⟨isXml, -⟩ | member⟩
  · rw [isFree]
  · rw [isUri, isQualifier, isXml, carries.free]
  · obtain ⟨other, found, -⟩ := carries.renamed qualifier uri member
    rw [isUri, isQualifier, found] at bare
    cases bare

/-- So no attribute needs a declaration of its own. -/
theorem Carries.renameAttribute (carries : Carries declared renames scope)
    (known : name.Known declared) (outermost : List Declaration) :
    renameAttribute renames outermost name = pure (renameElement renames name) := by
  unfold Xml.renameAttribute renameElement
  rcases known.bound with ⟨isBare, isFree⟩ | ⟨qualifier, uri, isQualifier, isUri, ⟨isXml, -⟩ | member⟩
  · rw [isFree]
  · rw [isUri, isQualifier, isXml, carries.free]
  · obtain ⟨other, found, -⟩ := carries.renamed qualifier uri member
    rw [isUri, isQualifier, found]

/-- The qualifier that takes the place of the one that is declared. -/
def newQualifier (scope : List Declaration) (declaration : Declaration) : Option String :=
  (knownAs? scope declaration.uri fun _ => true).getD declaration.qualifier

/-- True for a declaration of a namespace that is not known. -/
def isKept (scope : List Declaration) (declaration : Declaration) : Bool :=
  (knownAs? scope declaration.uri fun _ => true).isNone

/-- Settles one declaration more. -/
def settleNext (scope : List Declaration) (settled : List Declaration × Renaming)
    (declaration : Declaration) : List Declaration × Renaming :=
  (settled.1 ++ [declaration].filter (isKept scope),
    (declaration.qualifier, newQualifier scope declaration) :: settled.2)

theorem settle_eq_foldl (scope : List Declaration) (tag : Tag) :
    settle scope tag = tag.declarations.foldl (settleNext scope) ([], []) := by
  unfold settle
  refine congrArg (List.foldl · ([], []) tag.declarations)
    (funext fun settled => funext fun declaration => ?_)
  unfold settleNext isKept newQualifier
  rw [List.filter_singleton]
  obtain ⟨kept, renames⟩ := settled
  cases knownAs? scope declaration.uri fun _ => true with
  | some known => exact congrArg (·, (declaration.qualifier, known) :: renames) (List.append_nil kept).symm
  | none => rfl

/-- A tag keeps the declarations of namespaces that are not known, and goes by what is known. -/
theorem settle_eq (scope : List Declaration) (tag : Tag) : settle scope tag
    = (tag.declarations.filter (isKept scope),
      (tag.declarations.map fun declaration =>
        (declaration.qualifier, newQualifier scope declaration)).reverse) := by
  have settles (declarations : List Declaration) (settled : List Declaration × Renaming) :
      declarations.foldl (settleNext scope) settled
        = (settled.1 ++ declarations.filter (isKept scope),
          (declarations.map fun declaration =>
            (declaration.qualifier, newQualifier scope declaration)).reverse ++ settled.2) := by
    induction declarations generalizing settled with
    | nil =>
      rw [List.filter_nil, List.append_nil]
      rfl
    | cons first rest ih =>
      rw [List.foldl_cons, ih, settleNext, List.map_cons, List.reverse_cons, List.append_assoc,
        List.append_assoc, ← List.filter_append]
      rfl
  rw [settle_eq_foldl, settles, List.nil_append, List.append_nil]

/-- What takes the place of a qualifier is known, or declared still. -/
theorem newQualifier_spec (harmonic : Harmonic all) (within : scope ⊆ all)
    {declaration : Declaration} (clear : declaration.Clear) :
    ∃ qualifier, newQualifier scope declaration = some qualifier ∧
      (⟨some qualifier, declaration.uri⟩ ∈ scope ∨
        isKept scope declaration = true ∧ declaration = ⟨some qualifier, declaration.uri⟩) := by
  unfold newQualifier isKept
  cases known : knownAs? scope declaration.uri fun _ => true with
  | none =>
    obtain ⟨qualifier, uri, rfl⟩ := clear.eq_mk
    exact ⟨qualifier, rfl, .inr ⟨rfl, rfl⟩⟩
  | some found =>
    obtain ⟨other, member, rfl, -, bound⟩ := bound_of_knownAs? known
    have isClear := harmonic.clear _ (within member)
    obtain ⟨qualifier, uri, rfl⟩ := isClear.eq_mk
    refine ⟨qualifier, rfl, .inl ?_⟩
    rcases (harmonic.boundTo?_iff within).mp bound with ⟨isXml, -⟩ | isDeclared
    · exact absurd isXml isClear.ne_xml
    · exact isDeclared

/-- What is declared around and in a tag is known where the tag arrives. -/
theorem Carries.settle (carries : Carries declared renames scope) (harmonic : Harmonic all)
    (within : scope ⊆ all) (declaredWithin : declared ⊆ all) (tagWithin : tag.declarations ⊆ all) :
    Carries (tag.declarations ++ declared) ((Xml.settle scope tag).2 ++ renames)
      ((Xml.settle scope tag).1 ++ scope) := by
  rw [settle_eq]
  dsimp only
  refine ⟨fun qualifier uri member => ?_, ?_⟩
  · rw [List.lookup_append]
    cases found : ((tag.declarations.map fun declaration =>
        (declaration.qualifier, newQualifier scope declaration)).reverse).lookup (some qualifier) with
    | none =>
      have isOuter : ⟨some qualifier, uri⟩ ∈ declared := by
        refine (List.mem_append.mp member).elim (fun isInner => ?_) id
        have differs := List.lookup_eq_none_iff.mp found _
          (List.mem_reverse.mpr (List.mem_map.mpr ⟨_, isInner, rfl⟩))
        simp at differs
      obtain ⟨other, isOther, isKnown⟩ := carries.renamed qualifier uri isOuter
      exact ⟨other, isOther, List.mem_append_right _ isKnown⟩
    | some target =>
      obtain ⟨before, behind, split, -⟩ := List.lookup_eq_some_iff.mp found
      have isEntry : (some qualifier, target) ∈ (tag.declarations.map fun declaration =>
          (declaration.qualifier, newQualifier scope declaration)).reverse :=
        split ▸ List.mem_append_cons_self
      obtain ⟨declaration, isDeclared, isSame⟩ := List.mem_map.mp (List.mem_reverse.mp isEntry)
      obtain ⟨sameQualifier, sameTarget⟩ := Prod.mk.inj isSame
      have inside := List.append_subset.mpr ⟨tagWithin, declaredWithin⟩ member
      have same := harmonic.single _ (tagWithin isDeclared) _ inside sameQualifier
      subst same
      obtain ⟨other, isNew, isKnown⟩ :=
        newQualifier_spec harmonic within (harmonic.clear _ (tagWithin isDeclared))
      rw [isNew] at sameTarget
      subst sameTarget
      refine ⟨other, rfl, ?_⟩
      rcases isKnown with isKnown | ⟨kept, isSelf⟩
      · exact List.mem_append_right _ isKnown
      · exact List.mem_append_left _ (isSelf ▸ List.mem_filter.mpr ⟨isDeclared, kept⟩)
  · rw [List.lookup_append, carries.free, Option.or_none, List.lookup_eq_none_iff]
    intro entry member
    obtain ⟨declaration, isDeclared, rfl⟩ := List.mem_map.mp (List.mem_reverse.mp member)
    have clear := harmonic.clear _ (tagWithin isDeclared)
    obtain ⟨qualifier, uri, rfl⟩ := clear.eq_mk
    exact bne_iff_ne.mpr fun same => clear.ne_xml (Option.some.inj same).symm

theorem settle_subset (tagWithin : tag.declarations ⊆ all) : (Xml.settle scope tag).1 ⊆ all := by
  rw [settle_eq]
  exact fun _ member => tagWithin (List.mem_filter.mp member).1

/-- A name with a qualifier is written as no declaration is. -/
theorem declaredQualifier?_known (harmonic : Harmonic all) (within : scope ⊆ all)
    (known : name.Known scope) {qualifier : String} (qualified : name.qualifier = some qualifier) :
    declaredQualifier? name.written = none := by
  rcases known.bound with ⟨isBare, -⟩ | ⟨other, uri, isOther, -, bound⟩
  · rw [isBare] at qualified
    cases qualified
  · obtain rfl := Option.some.inj (qualified.symm.trans isOther)
    obtain ⟨plain, -, notDeclaring⟩ := harmonic.plain_of_binds within bound
    have split := splitName_written qualified plain known.plain
    unfold declaredQualifier?
    have notBare : name.written ≠ "xmlns" := by
      intro same
      rw [same, splitName_plain (by decide)] at split
      cases split
    rw [beq_false_of_ne notBare, split]
    simp only [Bool.false_eq_true, if_false]
    split
    · rename_i same
      cases same
      exact absurd rfl notDeclaring
    · rfl

/-- A tag with new qualifiers. -/
def Tag.renamed (renames : Renaming) (kept : List Declaration) (tag : Tag) : Tag :=
  ⟨renameElement renames tag.name, kept,
    tag.attributes.map fun given => { given with name := renameElement renames given.name }⟩

theorem uri_renameElement (renames : Renaming) (name : Name) :
    (renameElement renames name).uri = name.uri := by
  unfold renameElement
  split <;> rfl

theorem base_renameElement (renames : Renaming) (name : Name) :
    (renameElement renames name).base = name.base := by
  unfold renameElement
  split <;> rfl

/-- A tag is known where it arrives. -/
theorem Carries.tagKnown (carries : Carries declared renames scope) (harmonic : Harmonic all)
    (within : scope ⊆ all) (declaredWithin : declared ⊆ all) (known : tag.Known all declared) :
    (tag.renamed ((Xml.settle scope tag).2 ++ renames) (Xml.settle scope tag).1).Known all scope := by
  have settled := carries.settle harmonic within declaredWithin known.declared
  have inside : (Xml.settle scope tag).1 ++ scope ⊆ all :=
    List.append_subset.mpr ⟨settle_subset known.declared, within⟩
  unfold Tag.renamed
  refine ⟨settle_subset known.declared, ?_, settled.known known.named, ?_, ?_, ?_, ?_, ?_⟩
  · rw [settle_eq]
    exact known.distinct.sublist (List.filter_sublist.map _)
  all_goals simp only [List.forall_mem_map]
  · exact fun given member => settled.known (known.attributesNamed given member)
  · intro given member
    have isKnown := settled.known (known.attributesNamed given member)
    cases qualified : (renameElement ((Xml.settle scope tag).2 ++ renames) given.name).qualifier with
    | some qualifier => exact declaredQualifier?_known harmonic inside isKnown qualified
    | none =>
      rw [settled.eq_of_bare (known.attributesNamed given member) qualified]
      exact known.free given member
  · exact known.valid
  · have keys : tag.attributes.map (Attribute.key ∘ fun given =>
        { given with name := renameElement ((Xml.settle scope tag).2 ++ renames) given.name })
          = tag.attributes.map Attribute.key :=
      List.map_congr_left fun given _ =>
        Prod.ext (uri_renameElement _ given.name) (base_renameElement _ given.name)
    rw [List.map_map, keys]
    exact known.keys
  · intro given member
    have silent := known.silent given member
    unfold valueNotices Name.is at silent ⊢
    dsimp only
    rw [uri_renameElement, base_renameElement]
    exact silent

/-- The attributes of a tag get their new qualifiers, and nothing is declared for them. -/
theorem Carries.mapM_attributes (carries : Carries declared renames scope)
    (outermost : List Declaration) {attributes : List Attribute}
    (known : ∀ given ∈ attributes, given.name.Known declared) :
    (attributes.mapM fun given => do
      return { given with name := ← Xml.renameAttribute renames outermost given.name } :
        Move (List Attribute))
      = pure (attributes.map fun given => { given with name := renameElement renames given.name }) := by
  induction attributes with
  | nil => rfl
  | cons first rest ih =>
    rw [List.forall_mem_cons] at known
    rw [List.mapM_cons, ih known.2, carries.renameAttribute known.1]
    rfl

/-- Several nodes are known where they arrive, if each of them is. -/
theorem known_of_adoptNodes {outermost : List Declaration}
    (each : ∀ node ∈ content, ∃ adopted, adoptNode outermost scope renames node = pure adopted ∧
      adopted.Known all room scope) :
    ∃ adopted, adoptNodes outermost scope renames content = pure adopted ∧
      ∀ node ∈ adopted, node.Known all room scope := by
  induction content with
  | nil => exact ⟨[], by rw [adoptNodes], fun _ member => absurd member List.not_mem_nil⟩
  | cons first rest ih =>
    rw [List.forall_mem_cons] at each
    obtain ⟨node, isNode, known⟩ := each.1
    obtain ⟨nodes, areNodes, others⟩ := ih each.2
    refine ⟨node :: nodes, ?_, List.forall_mem_cons.mpr ⟨known, others⟩⟩
    rw [adoptNodes, isNode, areNodes]
    rfl

theorem adoptNode_other {outermost : List Declaration} (isOther : node.element? = none) :
    adoptNode outermost scope renames node = pure node := by
  cases node with
  | element => cases isOther
  | _ =>
    rw [adoptNode]
    intro _ _ same
    cases same

/-- A node is known where it arrives. -/
theorem Node.Known.adoptNode (known : node.Known all room declared) (harmonic : Harmonic all)
    (carries : Carries declared renames scope) (within : scope ⊆ all)
    (declaredWithin : declared ⊆ all) (outermost : List Declaration) :
    ∃ adopted, adoptNode outermost scope renames node = pure adopted ∧
      adopted.Known all room scope := by
  induction known generalizing renames scope with
  | text valid => exact ⟨_, adoptNode_other rfl, .text valid⟩
  | comment stands => exact ⟨_, adoptNode_other rfl, .comment stands⟩
  | instruction named isFree stands plain =>
    exact ⟨_, adoptNode_other rfl, .instruction named isFree stands plain⟩
  | @element room declared tag content tagKnown _ ih =>
    have inside : (settle scope tag).1 ++ scope ⊆ all :=
      List.append_subset.mpr ⟨settle_subset tagKnown.declared, within⟩
    have around : tag.declarations ++ declared ⊆ all :=
      List.append_subset.mpr ⟨tagKnown.declared, declaredWithin⟩
    have settled := carries.settle harmonic within declaredWithin tagKnown.declared
    obtain ⟨adopted, isAdopted, others⟩ := known_of_adoptNodes fun node member =>
      ih node member settled inside around
    have isTag := carries.tagKnown harmonic within declaredWithin tagKnown
    refine ⟨_, ?_, .element isTag others⟩
    rw [Xml.adoptNode]
    dsimp only
    rw [settled.mapM_attributes outermost tagKnown.attributesNamed, pure_bind, isAdopted, pure_bind]
    rfl

/-- A node that is known anywhere is known where it is adopted. -/
theorem Node.Known.adopt (known : node.Known all room []) (harmonic : Harmonic all)
    (within : scope ⊆ all) :
    ∃ adopted, adopt scope node = pure adopted ∧ adopted.Known all room scope := by
  unfold Xml.adopt
  cases node with
  | element tag content =>
    obtain ⟨adopted, isAdopted, isKnown⟩ := known.adoptNode harmonic carries_nothing within
      (List.nil_subset _) ((settle scope tag).1 ++ scope)
    refine ⟨adopted, ?_, isKnown⟩
    dsimp only
    rw [isAdopted, StateT.run_pure, pure_bind]
    cases adopted with
    | element tag content =>
      dsimp only
      rw [List.append_nil]
    | _ => rfl
  | _ => exact ⟨_, rfl, known.mono (List.nil_subset _)⟩

end

end FormLetter.Xml
