import FormLetter.Proofs.Xml.Naming
import FormLetter.Proofs.Xml.Sound

/-!
# Elements that stand alone

What a node means depends on the declarations around it only by what they bind qualifiers to. An
element that leaves its document takes along all that was declared around it, and where a qualifier
was declared more than once, the innermost declaration. So every qualifier is bound as it was, at
the element and inside of it, and it can be read again with nothing around it.

What is noticed of the element is noticed again, and so is what was noticed of the declarations that
it takes along. Nothing else is: so an element stands alone without errors if it came from a
document without errors.
-/

namespace FormLetter.Xml

/-! ## What declarations bind -/

/-- Declarations that bind every qualifier to what others bind it to. -/
def BindsAlike (first second : List Declaration) : Prop :=
  ∀ qualifier, boundTo? first qualifier = boundTo? second qualifier

theorem boundTo?_append (inner outer : List Declaration) (qualifier : Option String) :
    boundTo? (inner ++ outer) qualifier
      = (boundTo? inner qualifier).or (boundTo? outer qualifier) := by
  unfold boundTo?
  split
  · rfl
  · rw [List.find?_append, Option.map_or]

theorem qualifier_of_find? {scope : List Declaration} {qualifier : Option String}
    {declaration : Declaration}
    (found : scope.find? (·.qualifier == qualifier) = some declaration) :
    declaration.qualifier = qualifier := by
  have same := List.find?_some (p := fun known : Declaration => known.qualifier == qualifier) found
  exact beq_iff_eq.mp same

namespace BindsAlike

variable {first second : List Declaration}

theorem symm (alike : BindsAlike first second) : BindsAlike second first :=
  fun qualifier => (alike qualifier).symm

theorem trans {third : List Declaration} (alike : BindsAlike first second)
    (others : BindsAlike second third) : BindsAlike first third :=
  fun qualifier => (alike qualifier).trans (others qualifier)

theorem append (alike : BindsAlike first second) (inner : List Declaration) :
    BindsAlike (inner ++ first) (inner ++ second) := by
  intro qualifier
  rw [boundTo?_append, boundTo?_append, alike]

theorem elementName (alike : BindsAlike first second) :
    Xml.elementName first = Xml.elementName second := by
  funext written
  unfold Xml.elementName
  dsimp only
  rw [alike]

theorem resolveAttribute (alike : BindsAlike first second) :
    Xml.resolveAttribute first = Xml.resolveAttribute second := by
  funext given
  unfold Xml.resolveAttribute attributeName
  rw [alike.elementName]

/-- A tag is resolved alike. -/
theorem resolveTag (alike : BindsAlike first second) :
    Xml.resolveTag first = Xml.resolveTag second := by
  funext written attributes
  have inside := alike.append ((declarationsIn attributes).filterMap (·.1)).reverse
  unfold Xml.resolveTag
  dsimp only
  rw [inside.elementName, inside.resolveAttribute]

end BindsAlike

theorem Tag.Sound.alike {first second : List Declaration} {tag : Tag} (sound : tag.Sound first)
    (alike : BindsAlike first second) : tag.Sound second where
  named := sound.named
  attributesNamed := sound.attributesNamed
  valid := sound.valid
  distinct := sound.distinct
  resolved := by
    rw [← alike.resolveTag]
    exact sound.resolved

/-- A node that is sound among declarations is sound among any that bind alike, and where more
elements may be nested. -/
theorem Node.Sound.alike {room more : Nat} {first second : List Declaration} {node : Node}
    (sound : node.Sound room first) (enough : room ≤ more) (alike : BindsAlike first second) :
    node.Sound more second := by
  induction sound generalizing more second with
  | text valid => exact .text valid
  | comment stands => exact .comment stands
  | instruction named isFree stands => exact .instruction named isFree stands
  | element tagSound _ ih =>
    obtain ⟨more, rfl⟩ : ∃ less, more = less + 1 := ⟨more - 1, by omega⟩
    exact .element (tagSound.alike alike) fun node member =>
      ih node member (Nat.le_of_succ_le_succ enough) (alike.append _)

mutual

/-- The same is noticed among declarations that bind alike. -/
theorem BindsAlike.noticesOf {first second : List Declaration} (alike : BindsAlike first second) :
    (node : Node) → Xml.noticesOf first node = Xml.noticesOf second node
  | .text _ | .comment _ | .instruction _ _ => by
    rw [Xml.noticesOf, Xml.noticesOf]
  | .element tag content => by
    rw [Xml.noticesOf, Xml.noticesOf, alike.resolveTag,
      BindsAlike.noticesOfAll (alike.append tag.declarations.reverse) content]

theorem BindsAlike.noticesOfAll {first second : List Declaration}
    (alike : BindsAlike first second) :
    (content : List Node) → Xml.noticesOfAll first content = Xml.noticesOfAll second content
  | [] => by rw [Xml.noticesOfAll, Xml.noticesOfAll]
  | node :: rest => by
    rw [Xml.noticesOfAll, Xml.noticesOfAll, BindsAlike.noticesOf alike node,
      BindsAlike.noticesOfAll alike rest]

end

/-! ## The declarations of a tag -/

/-- What is noticed about a declaration as it is written. -/
def Declaration.notices (declaration : Declaration) : List Notice :=
  ((declaration? declaration.written.1 declaration.written.2).map (·.2)).getD []

/-- A declaration that is read as it is written. -/
structure Declaration.Sound (declaration : Declaration) : Prop where
  named : isName declaration.written.1.toList = true
  valid : IsValid declaration.written.2.toList
  declared : declaration? declaration.written.1 declaration.written.2
    = some (some declaration, declaration.notices)

/-- The name under which a declaration is written tells its qualifier. -/
theorem Declaration.Sound.qualified {declaration : Declaration} (sound : declaration.Sound) :
    declaredQualifier? declaration.written.1 = some declaration.qualifier := by
  obtain ⟨qualifier, isQualifier, same⟩ := Option.map_eq_some_iff.mp sound.declared
  rw [isQualifier, qualifier_of_declare (Prod.mk.inj same).1]

section

variable {scope : List Declaration} {tag : Tag}

/-- The declarations of a tag are read as they are written. -/
theorem Tag.Sound.declarations (sound : tag.Sound scope) :
    ∀ declaration ∈ tag.declarations, declaration.Sound := by
  intro declaration member
  have isWritten : declaration.written ∈ tag.written :=
    List.mem_append_left _ (List.mem_map_of_mem member)
  refine ⟨sound.attributesNamed _ isWritten, sound.valid _ isWritten, ?_⟩
  have resolved : (declarationsIn tag.written).filterMap (·.1) = tag.declarations :=
    congrArg Tag.declarations sound.resolved
  rw [← resolved] at member
  obtain ⟨⟨_, notices⟩, isDeclared, rfl⟩ := List.mem_filterMap.mp member
  obtain ⟨given, -, isDeclaration⟩ := List.mem_filterMap.mp isDeclared
  have same := written_of_declaration? isDeclaration
  unfold Declaration.notices
  rw [same, isDeclaration]
  rfl

/-- The attributes of a tag are no declarations. -/
theorem Tag.Sound.plainIn_attributes (sound : tag.Sound scope) :
    plainIn (tag.attributes.map Attribute.written) = tag.attributes.map Attribute.written := by
  have written : tag.attributes.map Attribute.written = plainIn tag.written := by
    have resolved := congrArg Tag.attributes sound.resolved
    rw [← resolved]
    exact written_plain _ _
  rw [written]
  unfold plainIn
  rw [List.filter_filter]
  simp only [Bool.and_self]

end

theorem declarationsIn_sound {declarations : List Declaration}
    (sound : ∀ declaration ∈ declarations, declaration.Sound) :
    declarationsIn (declarations.map Declaration.written)
      = declarations.map fun declaration => (some declaration, declaration.notices) := by
  induction declarations with
  | nil => rfl
  | cons first rest ih =>
    rw [List.forall_mem_cons] at sound
    rw [List.map_cons, List.map_cons, declarationsIn_cons, ih sound.2, sound.1.declared]
    rfl

theorem plainIn_sound {declarations : List Declaration}
    (sound : ∀ declaration ∈ declarations, declaration.Sound) :
    plainIn (declarations.map Declaration.written) = [] := by
  refine List.filter_eq_nil_iff.mpr fun given member isPlain => ?_
  obtain ⟨declaration, isDeclared, rfl⟩ := List.mem_map.mp member
  rw [(sound declaration isDeclared).qualified] at isPlain
  cases isPlain

/-- The names under which declarations are written differ where their qualifiers do. -/
theorem nodup_writtenNames {declarations : List Declaration}
    (sound : ∀ declaration ∈ declarations, declaration.Sound)
    (distinct : (declarations.map (·.qualifier)).Nodup) :
    (declarations.map (·.written.1)).Nodup := by
  refine List.Nodup.of_map declaredQualifier? ?_
  have tells : (declarations.map (·.written.1)).map declaredQualifier?
      = (declarations.map (·.qualifier)).map some := by
    rw [List.map_map, List.map_map]
    exact List.map_congr_left fun declaration member => (sound declaration member).qualified
  rw [tells]
  exact distinct.map (Option.some_injective _)

/-- A tag is resolved as one without declarations where they are around it. -/
theorem resolveTag_declared {declarations : List Declaration}
    (sound : ∀ declaration ∈ declarations, declaration.Sound) {plain : List (String × String)}
    (isPlain : plainIn plain = plain) (scope : List Declaration) (written : String) :
    resolveTag scope written (declarations.map Declaration.written ++ plain)
      = ({ (resolveTag (declarations.reverse ++ scope) written plain).1 with declarations },
        declarations.flatMap (·.notices)
          ++ (resolveTag (declarations.reverse ++ scope) written plain).2) := by
  have none_ : declarationsIn plain = [] := by
    rw [← isPlain]
    exact declarationsIn_plainIn plain
  have declared : (declarations.map fun declaration : Declaration =>
      (some declaration, declaration.notices)).filterMap (·.1) = declarations := by
    rw [List.filterMap_map]
    exact List.filterMap_some
  have plainOnly : plainIn (declarations.map Declaration.written ++ plain) = plain := by
    have split : plainIn (declarations.map Declaration.written ++ plain)
        = plainIn (declarations.map Declaration.written) ++ plainIn plain := List.filter_append ..
    rw [split, plainIn_sound sound, isPlain, List.nil_append]
  unfold resolveTag
  dsimp only
  rw [declarationsIn_append, declarationsIn_sound sound, none_, List.append_nil, declared,
    plainOnly, isPlain, List.flatMap_map]
  simp only [List.filterMap_nil, List.reverse_nil, List.nil_append, List.flatMap_nil,
    List.append_assoc]
  rfl

section

variable {scope outer all : List Declaration} {tag : Tag}

/-- A tag can make other declarations, where these bind what its own did among those around it. -/
theorem Tag.Sound.redeclare (sound : tag.Sound scope)
    (declared : ∀ declaration ∈ all, declaration.Sound) (distinct : (all.map (·.qualifier)).Nodup)
    (alike : BindsAlike (all.reverse ++ outer) (tag.declarations.reverse ++ scope)) :
    ({ tag with declarations := all } : Tag).Sound outer := by
  have plain := sound.plainIn_attributes
  have inTag {given : String × String} (member : given ∈ tag.attributes.map Attribute.written) :
      given ∈ tag.written := List.mem_append_right _ member
  refine ⟨sound.named, fun given member => ?_, fun given member => ?_, ?_, ?_⟩
  · rcases List.mem_append.mp member with early | late
    · obtain ⟨declaration, isDeclared, rfl⟩ := List.mem_map.mp early
      exact (declared declaration isDeclared).named
    · exact sound.attributesNamed given (inTag late)
  · rcases List.mem_append.mp member with early | late
    · obtain ⟨declaration, isDeclared, rfl⟩ := List.mem_map.mp early
      exact (declared declaration isDeclared).valid
    · exact sound.valid given (inTag late)
  · change (List.map _ (all.map Declaration.written ++ tag.attributes.map Attribute.written)).Nodup
    rw [List.map_append]
    have attributes := sound.distinct
    rw [Tag.written, List.map_append] at attributes
    refine List.Nodup.append ?_ (List.nodup_append.mp attributes).2.1 ?_
    · rw [List.map_map]
      exact nodup_writtenNames declared distinct
    · intro name isDeclared isAttribute
      obtain ⟨_, early, rfl⟩ := List.mem_map.mp isDeclared
      obtain ⟨declaration, member, rfl⟩ := List.mem_map.mp early
      obtain ⟨given, late, same⟩ := List.mem_map.mp isAttribute
      rw [← plain] at late
      have isPlain := (List.mem_filter.mp late).2
      rw [same, (declared declaration member).qualified] at isPlain
      cases isPlain
  · have own := sound.resolved
    rw [Tag.written, resolveTag_declared sound.declarations plain] at own
    change (resolveTag outer tag.name.written (all.map Declaration.written
      ++ tag.attributes.map Attribute.written)).1 = _
    rw [resolveTag_declared declared plain, alike.resolveTag]
    exact congrArg (fun found : Tag => { found with declarations := all }) own

/-- What is noticed of a tag that makes other declarations differs by what is noticed of these. -/
theorem Tag.Sound.notices_redeclare (sound : tag.Sound scope)
    (declared : ∀ declaration ∈ all, declaration.Sound)
    (alike : BindsAlike (all.reverse ++ outer) (tag.declarations.reverse ++ scope))
    (content : List Node) :
    ∃ notices, noticesOf scope (.element tag content)
        = tag.declarations.flatMap (·.notices) ++ notices ∧
      noticesOf outer (.element { tag with declarations := all } content)
        = all.flatMap (·.notices) ++ notices := by
  refine ⟨(resolveTag (tag.declarations.reverse ++ scope) tag.name.written
    (tag.attributes.map Attribute.written)).2
      ++ noticesOfAll (tag.declarations.reverse ++ scope) content, ?_, ?_⟩
  · rw [noticesOf, Tag.written, resolveTag_declared sound.declarations sound.plainIn_attributes,
      List.append_assoc]
  · rw [noticesOf]
    change (resolveTag outer tag.name.written (all.map Declaration.written
      ++ tag.attributes.map Attribute.written)).2 ++ _ = _
    rw [resolveTag_declared declared sound.plainIn_attributes, alike.resolveTag,
      alike.noticesOfAll, List.append_assoc]

end

/-! ## Taking declarations along -/

/-- Adds the declarations whose qualifiers are not declared yet. -/
def gather (own more : List Declaration) : List Declaration :=
  more.foldl (fun declared declaration =>
    if declared.any (·.qualifier == declaration.qualifier) then declared
    else declared ++ [declaration]) own

theorem standAlone_eq (around : List Tag) (tag : Tag) (content : List Node) :
    standAlone around tag content = .element { tag with
      declarations := gather (tag.declarations ++ addNeeded tag.declarations [] tag)
        (around.flatMap (·.declarations)) } content := rfl

theorem mem_gather {own more : List Declaration} {declaration : Declaration}
    (member : declaration ∈ gather own more) : declaration ∈ own ∨ declaration ∈ more := by
  induction more generalizing own with
  | nil => exact .inl member
  | cons first rest ih =>
    rw [gather, List.foldl_cons] at member
    rcases ih member with early | late
    · split at early
      · exact .inl early
      · rcases List.mem_append.mp early with isOwn | isFirst
        · exact .inl isOwn
        · exact .inr (List.mem_singleton.mp isFirst ▸ List.mem_cons_self)
    · exact .inr (List.mem_cons_of_mem _ late)

theorem nodup_append_singleton {own : List Declaration} (distinct : (own.map (·.qualifier)).Nodup)
    {declaration : Declaration}
    (new : ¬ own.any (·.qualifier == declaration.qualifier) = true) :
    ((own ++ [declaration]).map (·.qualifier)).Nodup := by
  rw [List.map_append, List.map_singleton]
  refine List.Nodup.append distinct (List.nodup_singleton _) fun qualifier isOwn isNew => new ?_
  obtain ⟨known, member, same⟩ := List.mem_map.mp isOwn
  rw [List.any_eq_true]
  exact ⟨known, member, beq_iff_eq.mpr (same.trans (List.mem_singleton.mp isNew))⟩

/-- No qualifier is declared twice. -/
theorem nodup_gather {own : List Declaration} (distinct : (own.map (·.qualifier)).Nodup)
    (more : List Declaration) : ((gather own more).map (·.qualifier)).Nodup := by
  induction more generalizing own with
  | nil => exact distinct
  | cons first rest ih =>
    rw [gather, List.foldl_cons]
    refine ih ?_
    split
    · exact distinct
    · rename_i new
      exact nodup_append_singleton distinct new

/-- What is added does not count where its qualifier is declared already. -/
theorem bindsAlike_gather (own more : List Declaration) :
    BindsAlike (gather own more) (own ++ more) := by
  induction more generalizing own with
  | nil =>
    rw [List.append_nil]
    exact fun _ => rfl
  | cons first rest ih =>
    rw [gather, List.foldl_cons]
    split
    · rename_i known
      refine (ih own).trans fun qualifier => ?_
      by_cases isXml : qualifier = some "xml"
      · rw [isXml]
        rfl
      rw [boundTo?_append, boundTo?_append, boundTo?_cons first rest isXml]
      by_cases here : first.qualifier = qualifier
      · obtain ⟨declaration, member, same⟩ := List.any_eq_true.mp known
        have found : (boundTo? own qualifier).isSome = true := by
          unfold boundTo?
          rw [beq_false_of_ne isXml, if_neg Bool.false_ne_true, Option.isSome_map,
            List.find?_isSome]
          exact ⟨declaration, member, beq_iff_eq.mpr ((beq_iff_eq.mp same).trans here)⟩
        obtain ⟨uri, bound⟩ := Option.isSome_iff_exists.mp found
        rw [bound, Option.some_or, Option.some_or]
      · rw [if_neg here]
    · have grown := ih (own ++ [first])
      rw [List.append_assoc, List.singleton_append] at grown
      exact grown

/-! ## The names of a tag -/

/-- A name in a namespace has the qualifier that is bound to it. -/
theorem bound_of_elementName {scope : List Declaration} {written uri : String}
    (located : (elementName scope written).1.uri = some uri) :
    boundTo? scope (elementName scope written).1.qualifier = some uri := by
  revert located
  unfold elementName
  obtain ⟨qualifier, base, isWell⟩ := splitName written
  dsimp only
  intro located
  cases bound : boundTo? scope qualifier with
  | none =>
    rw [bound] at located
    cases qualifier <;> cases located
  | some found =>
    rw [bound] at located
    cases qualifier with
    | none =>
      dsimp only at located ⊢
      split at located
      · cases located
      · rw [bound]
        exact located
    | some qualifier =>
      dsimp only at located ⊢
      rw [bound]
      exact located

theorem bound_of_attributeName {scope : List Declaration} {written uri : String}
    (located : (attributeName scope written).1.uri = some uri) :
    boundTo? scope (attributeName scope written).1.qualifier = some uri := by
  unfold attributeName at located ⊢
  split at located
  · cases located
  · exact bound_of_elementName located

/-- The names of a tag have the qualifiers that are bound to their namespaces. -/
theorem Tag.Sound.bound {scope : List Declaration} {tag : Tag} (sound : tag.Sound scope)
    {name : Name} (isName : name ∈ tag.name :: tag.attributes.map (·.name)) {uri : String}
    (located : name.uri = some uri) :
    boundTo? (tag.declarations.reverse ++ scope) name.qualifier = some uri := by
  have resolved := sound.resolved
  have declared : (declarationsIn tag.written).filterMap (·.1) = tag.declarations :=
    congrArg Tag.declarations resolved
  rcases List.mem_cons.mp isName with rfl | isAttribute
  · have isOwn : (elementName (((declarationsIn tag.written).filterMap (·.1)).reverse ++ scope)
        tag.name.written).1 = tag.name := congrArg Tag.name resolved
    rw [declared] at isOwn
    rw [← isOwn] at located ⊢
    exact bound_of_elementName located
  · obtain ⟨given, member, rfl⟩ := List.mem_map.mp isAttribute
    have attributes : ((plainIn tag.written).map (resolveAttribute
        (((declarationsIn tag.written).filterMap (·.1)).reverse ++ scope))).map (·.1)
          = tag.attributes := congrArg Tag.attributes resolved
    rw [declared] at attributes
    rw [← attributes, List.map_map] at member
    obtain ⟨written, -, rfl⟩ := List.mem_map.mp member
    exact bound_of_attributeName located

/-- What a tag needs is what one of its names needs. -/
theorem mem_addNeeded {inner added : List Declaration} {tag : Tag} {declaration : Declaration}
    (member : declaration ∈ addNeeded inner added tag) :
    declaration ∈ added ∨ ∃ name ∈ tag.name :: tag.attributes.map (·.name), ∃ before,
      neededBy? (inner ++ before) name = some declaration := by
  unfold addNeeded at member
  generalize tag.name :: tag.attributes.map (·.name) = names at member ⊢
  induction names generalizing added with
  | nil => exact .inl member
  | cons first rest ih =>
    rw [List.foldl_cons] at member
    rcases ih member with early | ⟨name, isName, before, needed⟩
    · rcases List.mem_append.mp early with known | isNeeded
      · exact .inl known
      · exact .inr ⟨first, List.mem_cons_self, added, Option.mem_toList.mp isNeeded⟩
    · exact .inr ⟨name, List.mem_cons_of_mem _ isName, before, needed⟩

theorem nodup_addNeeded {inner added : List Declaration} (tag : Tag)
    (distinct : ((inner ++ added).map (·.qualifier)).Nodup) :
    ((inner ++ addNeeded inner added tag).map (·.qualifier)).Nodup := by
  unfold addNeeded
  generalize tag.name :: tag.attributes.map (·.name) = names
  induction names generalizing added with
  | nil => exact distinct
  | cons first rest ih =>
    rw [List.foldl_cons]
    refine ih ?_
    unfold neededBy?
    split
    · rw [Option.toList_none, List.append_nil]
      exact distinct
    · split
      · rw [Option.toList_none, List.append_nil]
        exact distinct
      · rename_i needed
        rw [Bool.or_eq_true, not_or] at needed
        rw [Option.toList_some, ← List.append_assoc]
        exact nodup_append_singleton distinct needed.2

/-! ## Standing alone -/

/-- The declarations that are made by tags around something, the innermost first. -/
def scopeOf (around : List Tag) : List Declaration := around.flatMap (·.declarations.reverse)

/-- Tags that stand around each other, the innermost first. -/
def Nested : List Tag → Prop
  | [] => True
  | tag :: outer => tag.Sound (scopeOf outer) ∧ Nested outer

theorem Nested.declarations {around : List Tag} (nested : Nested around) {tag : Tag}
    (member : tag ∈ around) : ∀ declaration ∈ tag.declarations, declaration.Sound := by
  induction around with
  | nil => cases member
  | cons first outer ih =>
    rcases List.mem_cons.mp member with rfl | late
    · exact nested.1.declarations
    · exact ih nested.2 late

/-- It does not matter in which order a tag makes its declarations. -/
theorem Nested.bindsAlike {around : List Tag} (nested : Nested around) :
    BindsAlike (around.flatMap (·.declarations)) (scopeOf around) := by
  induction around with
  | nil => exact fun _ => rfl
  | cons first outer ih =>
    intro qualifier
    unfold scopeOf
    rw [List.flatMap_cons, List.flatMap_cons, boundTo?_append, boundTo?_append,
      boundTo?_reverse nested.1.nodup_qualifiers, ih nested.2]
    rfl

section

variable {around : List Tag} {tag : Tag} {content : List Node} {room : Nat}

/-- What a tag needs that it does not declare is declared around it. -/
theorem Tag.Sound.needed (sound : tag.Sound (scopeOf around)) {declaration : Declaration}
    (member : declaration ∈ addNeeded tag.declarations [] tag) :
    boundTo? (scopeOf around) declaration.qualifier = some declaration.uri ∧
      declaration ∈ around.flatMap (·.declarations) := by
  obtain ⟨name, isName, before, needed⟩ := (mem_addNeeded member).resolve_left List.not_mem_nil
  unfold neededBy? at needed
  split at needed
  · cases needed
  rename_i uri located
  split at needed
  · cases needed
  rename_i isFree
  cases needed
  rw [Bool.or_eq_true, not_or, beq_iff_eq, List.any_append, Bool.or_eq_true, not_or] at isFree
  obtain ⟨notXml, isNew, -⟩ := isFree
  have bound := sound.bound isName located
  have notReserved : name.qualifier ≠ some "xml" := by
    intro reserved
    rw [reserved] at bound
    exact notXml (Option.some.inj bound).symm
  have find (scope : List Declaration) : boundTo? scope name.qualifier
      = (scope.find? (·.qualifier == name.qualifier)).map (·.uri) := by
    unfold boundTo?
    rw [beq_false_of_ne notReserved, if_neg Bool.false_ne_true]
  -- The tag itself does not declare the qualifier.
  have outside : tag.declarations.reverse.find? (·.qualifier == name.qualifier) = none := by
    refine List.find?_eq_none.mpr fun declaration isDeclared same => isNew ?_
    exact List.any_eq_true.mpr ⟨declaration, List.mem_reverse.mp isDeclared, same⟩
  rw [boundTo?_append, find tag.declarations.reverse, outside, Option.map_none, Option.none_or]
    at bound
  refine ⟨bound, ?_⟩
  rw [find] at bound
  obtain ⟨declaration, found, isUri⟩ := Option.map_eq_some_iff.mp bound
  have isQualifier := qualifier_of_find? found
  have same : declaration = ⟨name.qualifier, uri⟩ := by
    rw [← isQualifier, ← isUri]
  obtain ⟨outer, isAround, isDeclared⟩ := List.mem_flatMap.mp (List.mem_of_find?_eq_some found)
  exact List.mem_flatMap.mpr ⟨outer, isAround, same ▸ List.mem_reverse.mp isDeclared⟩

/-- Neither a tag nor what it needs declares a qualifier twice. -/
theorem Tag.Sound.nodup_needed (sound : tag.Sound (scopeOf around)) :
    ((tag.declarations ++ addNeeded tag.declarations [] tag).map (·.qualifier)).Nodup := by
  refine nodup_addNeeded tag ?_
  rw [List.append_nil]
  exact sound.nodup_qualifiers

/-- The declarations that an element takes along bind what was bound. -/
theorem Tag.Sound.bindsAlike_gather (sound : tag.Sound (scopeOf around)) (nested : Nested around) :
    BindsAlike ((gather (tag.declarations ++ addNeeded tag.declarations [] tag)
        (around.flatMap (·.declarations))).reverse ++ [])
      (tag.declarations.reverse ++ scopeOf around) := by
  intro qualifier
  rw [List.append_nil, boundTo?_reverse (nodup_gather sound.nodup_needed _), Xml.bindsAlike_gather,
    List.append_assoc, boundTo?_append, boundTo?_append, boundTo?_append, nested.bindsAlike,
    boundTo?_reverse sound.nodup_qualifiers]
  congr 1
  by_cases isXml : qualifier = some "xml"
  · rw [isXml]
    rfl
  cases bound : boundTo? (addNeeded tag.declarations [] tag) qualifier with
  | none => rfl
  | some uri =>
    unfold boundTo? at bound
    rw [beq_false_of_ne isXml, if_neg Bool.false_ne_true] at bound
    obtain ⟨declaration, found, rfl⟩ := Option.map_eq_some_iff.mp bound
    obtain rfl := qualifier_of_find? found
    rw [(sound.needed (List.mem_of_find?_eq_some found)).1]
    rfl

/-- What an element takes along is read as it is written. -/
theorem Tag.Sound.gathered (sound : tag.Sound (scopeOf around)) (nested : Nested around) :
    ∀ declaration ∈ gather (tag.declarations ++ addNeeded tag.declarations [] tag)
      (around.flatMap (·.declarations)),
      declaration.Sound ∧
        (declaration ∈ tag.declarations ∨ declaration ∈ around.flatMap (·.declarations)) := by
  have outside {declaration : Declaration}
      (member : declaration ∈ around.flatMap (·.declarations)) : declaration.Sound := by
    obtain ⟨outer, isAround, isDeclared⟩ := List.mem_flatMap.mp member
    exact nested.declarations isAround declaration isDeclared
  intro declaration member
  rcases mem_gather member with isOwn | isAround
  · rcases List.mem_append.mp isOwn with isDeclared | isNeeded
    · exact ⟨sound.declarations declaration isDeclared, .inl isDeclared⟩
    · have isAround := (sound.needed isNeeded).2
      exact ⟨outside isAround, .inr isAround⟩
  · exact ⟨outside isAround, .inr isAround⟩

/-- An element that stands alone is sound with nothing around it. -/
theorem Node.Sound.standAlone (sound : (Node.element tag content).Sound room (scopeOf around))
    (nested : Nested around) : (Xml.standAlone around tag content).Sound room [] := by
  cases sound with
  | element tagSound contentSound =>
    have alike := tagSound.bindsAlike_gather nested
    rw [standAlone_eq]
    refine .element (tagSound.redeclare (fun declaration member =>
      (tagSound.gathered nested declaration member).1) (nodup_gather tagSound.nodup_needed _)
        alike) ?_
    exact fun node member => (contentSound node member).alike (Nat.le_refl _) alike.symm

/-- No error is noticed of an element that stands alone if none was noticed of it, or of what was
declared around it. -/
theorem Tag.Sound.faultless_standAlone (sound : tag.Sound (scopeOf around)) (nested : Nested around)
    (declared : ∀ outer ∈ around, ∀ declaration ∈ outer.declarations,
      .error ∉ declaration.notices)
    (faultless : .error ∉ noticesOf (scopeOf around) (.element tag content)) :
    .error ∉ noticesOf [] (Xml.standAlone around tag content) := by
  obtain ⟨notices, before, after⟩ := sound.notices_redeclare
    (fun declaration member => (sound.gathered nested declaration member).1)
    (sound.bindsAlike_gather nested) content
  rw [before, List.mem_append, not_or, List.mem_flatMap] at faultless
  rw [standAlone_eq, after, List.mem_append, not_or]
  refine ⟨fun member => ?_, faultless.2⟩
  obtain ⟨declaration, isGathered, noticed⟩ := List.mem_flatMap.mp member
  rcases (sound.gathered nested declaration isGathered).2 with isOwn | isAround
  · exact faultless.1 ⟨declaration, isOwn, noticed⟩
  · obtain ⟨outer, isOuter, isDeclared⟩ := List.mem_flatMap.mp isAround
    exact declared outer isOuter declaration isDeclared noticed

end

/-! ## Going into a document -/

/-- A content that is sound where it stands inside of tags. -/
structure SoundWithin (around : List Tag) (content : List Node) : Prop where
  nested : Nested around
  sound : ∀ node ∈ content, node.Sound depthLimit (scopeOf around)

/-- A content of which no error is noticed where it stands inside of tags, nor of what these
declare. -/
structure FaultlessWithin (around : List Tag) (content : List Node) : Prop where
  declared : ∀ outer ∈ around, ∀ declaration ∈ outer.declarations, .error ∉ declaration.notices
  faultless : ∀ node ∈ content, .error ∉ noticesOf (scopeOf around) node

/-- Of what is inside of a content no error is noticed if none is noticed of the content. -/
theorem faultless_of_noticesOfAll {scope : List Declaration} {content : List Node}
    (faultless : .error ∉ noticesOfAll scope content) :
    ∀ node ∈ content, .error ∉ noticesOf scope node := by
  induction content with
  | nil => exact fun _ member => absurd member List.not_mem_nil
  | cons first rest ih =>
    rw [noticesOfAll, List.mem_append, not_or] at faultless
    exact List.forall_mem_cons.mpr ⟨faultless.1, ih faultless.2⟩

section

variable {around : List Tag} {content inside : List Node} {tag : Tag}

theorem SoundWithin.tagSound (within : SoundWithin around content)
    (member : .element tag inside ∈ content) : tag.Sound (scopeOf around) := by
  cases within.sound _ member with
  | element tagSound _ => exact tagSound

theorem SoundWithin.enter (within : SoundWithin around content)
    (member : .element tag inside ∈ content) : SoundWithin (tag :: around) inside where
  nested := ⟨within.tagSound member, within.nested⟩
  sound := by
    cases within.sound _ member with
    | element _ contentSound =>
      exact fun node isInside =>
        (contentSound node isInside).alike (Nat.le_succ _) fun _ => rfl

theorem FaultlessWithin.enter (without : FaultlessWithin around content)
    (within : SoundWithin around content) (member : .element tag inside ∈ content) :
    FaultlessWithin (tag :: around) inside := by
  have sound := within.tagSound member
  have faultless := without.faultless _ member
  rw [noticesOf, Tag.written, resolveTag_declared sound.declarations sound.plainIn_attributes,
    List.append_assoc, List.mem_append, List.mem_append, not_or, not_or, List.mem_flatMap]
    at faultless
  refine ⟨List.forall_mem_cons.mpr ⟨fun declaration isDeclared noticed => ?_, without.declared⟩, ?_⟩
  · exact faultless.1 ⟨declaration, isDeclared, noticed⟩
  · exact faultless_of_noticesOfAll faultless.2.2

theorem Document.Sound.within {document : Document} (sound : document.Sound) :
    SoundWithin [] [.element document.root document.content] where
  nested := trivial
  sound := List.forall_mem_singleton.mpr sound.tree

end

end FormLetter.Xml
