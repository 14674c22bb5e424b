import FormLetter.Proofs.Xml.Naming
import FormLetter.Proofs.Xml.Received

/-!
# Trees in harmony

Some declarations are in harmony when every qualifier stands for one namespace among them. A tree
whose declarations are all among them, and whose names are all declared, means the same wherever the
declarations around it bind the qualifiers that it uses: in which order they were made, and how
often, does not matter. Nothing is noticed when such a tree is read.
-/

namespace FormLetter.Xml

/-! ## Declarations in harmony -/

/-- A declaration of a qualifier which is read as it is written, without anything being noticed. -/
structure Declaration.Clear (declaration : Declaration) : Prop where
  qualified : ∃ qualifier, declaration.qualifier = some qualifier ∧
    isPlainName qualifier.toList = true
  declared : declare declaration.qualifier declaration.uri = (some declaration, [])
  valid : IsValid declaration.uri.toList

/-- Declarations that can be read as they are written, and in which every qualifier stands for one
namespace. -/
structure Harmonic (all : List Declaration) : Prop where
  clear : ∀ declaration ∈ all, declaration.Clear
  single : ∀ one ∈ all, ∀ other ∈ all, one.qualifier = other.qualifier → one = other

namespace Declaration.Clear

variable {qualifier uri : String}

theorem plain (clear : Clear ⟨some qualifier, uri⟩) : isPlainName qualifier.toList = true := by
  obtain ⟨other, same, plain⟩ := clear.qualified
  exact Option.some.inj same ▸ plain

theorem ne_xml (clear : Clear ⟨some qualifier, uri⟩) : qualifier ≠ "xml" := by
  rintro rfl
  have declared := congrArg Prod.fst clear.declared
  cases declared

theorem ne_xmlns (clear : Clear ⟨some qualifier, uri⟩) : qualifier ≠ "xmlns" := by
  rintro rfl
  have declared := congrArg Prod.fst clear.declared
  have notXml : ("xmlns" == "xml") = false := by decide
  unfold declare at declared
  dsimp only at declared
  rw [notXml, beq_self_eq_true, Bool.or_true, Bool.true_or] at declared
  cases declared

theorem isEmpty_eq_false (clear : Clear ⟨some qualifier, uri⟩) : uri.isEmpty = false := by
  refine Bool.eq_false_iff.mpr fun nothing => ?_
  have declared := congrArg Prod.fst clear.declared
  unfold declare at declared
  dsimp only at declared
  rw [beq_false_of_ne clear.ne_xml, nothing, Bool.or_true] at declared
  cases declared

theorem splitName_written (clear : Clear ⟨some qualifier, uri⟩) :
    splitName ("xmlns:" ++ qualifier) = (some "xmlns", qualifier, true) := by
  have whole : "xmlns:" = "xmlns" ++ ":" := by decide
  rw [whole]
  exact splitName_qualified (by decide) clear.plain

theorem declaredQualifier?_written (clear : Clear ⟨some qualifier, uri⟩) :
    declaredQualifier? ("xmlns:" ++ qualifier) = some (some qualifier) := by
  have notBare : "xmlns:" ++ qualifier ≠ "xmlns" := by
    intro same
    have split := clear.splitName_written
    rw [same, splitName_plain (by decide)] at split
    cases split
  unfold declaredQualifier?
  rw [beq_false_of_ne notBare, clear.splitName_written]
  rfl

/-- A declaration is read as it is written. -/
theorem declaration?_written (clear : Clear ⟨some qualifier, uri⟩) :
    declaration? ("xmlns:" ++ qualifier) uri = some (some ⟨some qualifier, uri⟩, []) := by
  unfold declaration? nameNotices
  rw [clear.declaredQualifier?_written, clear.splitName_written, Option.map_some, clear.declared]
  rfl

end Declaration.Clear

/-- What a clear declaration declares. -/
theorem Declaration.Clear.eq_mk {declaration : Declaration} (clear : declaration.Clear) :
    ∃ qualifier uri, declaration = ⟨some qualifier, uri⟩ := by
  obtain ⟨qualifier, isQualifier, -⟩ := clear.qualified
  obtain ⟨_, uri⟩ := declaration
  exact ⟨qualifier, uri, congrArg (Declaration.mk · uri) isQualifier⟩

theorem subset_append {left right more others : List Declaration} (first : left ⊆ right)
    (second : more ⊆ others) : left ++ more ⊆ right ++ others :=
  fun _ member => List.mem_append.mpr ((List.mem_append.mp member).imp (first ·) (second ·))

/-! ## Names that are known -/

/-- True where some declarations bind a qualifier to a namespace. -/
def Binds (scope : List Declaration) (qualifier uri : String) : Prop :=
  qualifier = "xml" ∧ uri = xmlNamespace ∨ ⟨some qualifier, uri⟩ ∈ scope

/-- A name whose qualifier is bound to its namespace by the given declarations, or a name without
either. -/
structure Name.Known (scope : List Declaration) (name : Name) : Prop where
  plain : isPlainName name.base.toList = true
  bound : name.qualifier = none ∧ name.uri = none ∨
    ∃ qualifier uri, name.qualifier = some qualifier ∧ name.uri = some uri ∧
      Binds scope qualifier uri

section

variable {all scope wider : List Declaration} {qualifier uri written : String} {name : Name}

theorem Binds.mono (bound : Binds scope qualifier uri) (subset : scope ⊆ wider) :
    Binds wider qualifier uri :=
  bound.imp_right fun member => subset member

theorem Name.Known.mono (known : name.Known scope) (subset : scope ⊆ wider) : name.Known wider where
  plain := known.plain
  bound := known.bound.imp_right fun ⟨qualifier, uri, isQualifier, isUri, bound⟩ =>
    ⟨qualifier, uri, isQualifier, isUri, bound.mono subset⟩

namespace Harmonic

theorem plain_of_binds (harmonic : Harmonic all) (within : scope ⊆ all)
    (bound : Binds scope qualifier uri) : isPlainName qualifier.toList = true ∧
      uri.isEmpty = false ∧ qualifier ≠ "xmlns" := by
  rcases bound with ⟨rfl, rfl⟩ | member
  · exact ⟨by decide, by decide, by decide⟩
  · have clear := harmonic.clear _ (within member)
    exact ⟨clear.plain, clear.isEmpty_eq_false, clear.ne_xmlns⟩

/-- What a qualifier is bound to does not depend on the order of declarations. -/
theorem boundTo?_iff (harmonic : Harmonic all) (within : scope ⊆ all) :
    boundTo? scope (some qualifier) = some uri ↔ Binds scope qualifier uri := by
  unfold boundTo? Binds
  by_cases isXml : qualifier = "xml"
  · subst isXml
    have free : ⟨some "xml", uri⟩ ∉ scope := fun member =>
      (harmonic.clear _ (within member)).ne_xml rfl
    simp [free, eq_comm]
  · have notXml : ((some qualifier : Option String) == some "xml") = false :=
      beq_false_of_ne fun same => isXml (Option.some.inj same)
    rw [notXml]
    simp only [Bool.false_eq_true, if_false, isXml, false_and, false_or, Option.map_eq_some_iff]
    constructor
    · rintro ⟨declaration, found, rfl⟩
      have holds := List.find?_some found
      exact beq_iff_eq.mp holds ▸ List.mem_of_find?_eq_some found
    · intro member
      have isFound : (scope.find? (·.qualifier == some qualifier)).isSome = true :=
        List.find?_isSome.mpr ⟨_, member, beq_iff_eq.mpr rfl⟩
      obtain ⟨declaration, found⟩ := Option.isSome_iff_exists.mp isFound
      refine ⟨declaration, found, ?_⟩
      have holds := List.find?_some found
      have same := harmonic.single _ (within (List.mem_of_find?_eq_some found)) _ (within member)
        (beq_iff_eq.mp holds)
      exact congrArg Declaration.uri same

theorem boundTo?_none (harmonic : Harmonic all) (within : scope ⊆ all) :
    boundTo? scope none = none := by
  unfold boundTo?
  have nothing : scope.find? (·.qualifier == none) = none := by
    refine List.find?_eq_none.mpr fun declaration member bare => ?_
    obtain ⟨qualifier, isQualifier, -⟩ := (harmonic.clear _ (within member)).qualified
    rw [isQualifier] at bare
    cases bare
  rw [nothing]
  rfl

/-- The name of an element that is known is written and found again. -/
theorem elementName_known (harmonic : Harmonic all) (within : scope ⊆ all)
    (known : name.Known scope) : elementName scope name.written = (name, []) := by
  rcases known.bound with ⟨isBare, isFree⟩ | ⟨qualifier, uri, isQualifier, isUri, bound⟩
  · obtain ⟨_, _, base⟩ := name
    cases isBare
    cases isFree
    unfold elementName
    rw [show (Name.mk none none base).written = base from rfl, splitName_plain known.plain]
    dsimp only
    rw [harmonic.boundTo?_none within]
    rfl
  · obtain ⟨plain, some_, -⟩ := harmonic.plain_of_binds within bound
    refine elementName_written (fun other same => ?_) known.plain isUri some_ ?_
    · rw [isQualifier, Option.mem_some_iff] at same
      exact same ▸ plain
    · rw [isQualifier]
      exact (harmonic.boundTo?_iff within).mpr bound

/-- So is the name of an attribute. -/
theorem attributeName_known (harmonic : Harmonic all) (within : scope ⊆ all)
    (known : name.Known scope) : attributeName scope name.written = (name, []) := by
  rcases known.bound with ⟨isBare, isFree⟩ | ⟨qualifier, uri, isQualifier, isUri, bound⟩
  · obtain ⟨_, _, base⟩ := name
    cases isBare
    cases isFree
    unfold attributeName
    rw [show (Name.mk none none base).written = base from rfl, splitName_plain known.plain]
    rfl
  · obtain ⟨plain, some_, -⟩ := harmonic.plain_of_binds within bound
    exact attributeName_written isQualifier plain known.plain isUri some_
      ((harmonic.boundTo?_iff within).mpr bound)

end Harmonic

end

/-! ## Names that are read -/

section

variable {all scope : List Declaration} {written qualifier base : String} {name : Name}

theorem isPlainName_of_isName {text : List Char} (named : isName text = true)
    (unmarked : ':' ∉ text) : isPlainName text = true := by
  cases text with
  | nil => cases named
  | cons first rest =>
    rw [isName, Bool.and_eq_true] at named
    rw [isPlainName, named.1, named.2, Bool.true_and, Bool.true_and, Bool.not_eq_true',
      List.contains_eq_mem, decide_eq_false_iff_not]
    exact unmarked

theorem isName_takeWhile {text : List Char} (named : isName text = true)
    (some_ : text.takeWhile (· != ':') ≠ []) : isName (text.takeWhile (· != ':')) = true := by
  cases text with
  | nil => cases named
  | cons first rest =>
    rw [List.takeWhile_cons] at some_ ⊢
    split at some_
    · rename_i passes
      rw [isName, Bool.and_eq_true, List.all_eq_true] at named
      rw [if_pos passes, isName, named.1, Bool.true_and, List.all_eq_true]
      exact fun c member => named.2 c (List.takeWhile_sublist _ |>.subset member)
    · exact absurd rfl some_

/-- A name that is read without a qualifier is plain, if nothing is noticed. -/
theorem plain_of_splitName_none (named : isName written.toList = true)
    (split : splitName written = (none, base, true)) : isPlainName base.toList = true := by
  have same := splitName_none split
  subst same
  refine isPlainName_of_isName named fun marked => ?_
  unfold splitName at split
  dsimp only at split
  split at split
  · rename_i dropped
    have whole := List.takeWhile_append_dropWhile (p := (· != ':')) (l := base.toList)
    have short := congrArg List.length whole
    rw [List.drop_eq_nil_iff] at dropped
    rw [List.length_append] at short
    have nothing : base.toList.dropWhile (· != ':') = [] :=
      List.length_eq_zero_iff.mp (by omega)
    rw [nothing, List.append_nil] at whole
    rw [← whole] at marked
    have passes := List.all_eq_true.mp List.all_takeWhile _ marked
    simp at passes
  · split at split
    · cases split
    · cases split
    · split at split <;> cases split

/-- A name that is read with a qualifier is two plain names, if nothing is noticed. -/
theorem plain_of_splitName_some (named : isName written.toList = true)
    (split : splitName written = (some qualifier, base, true)) :
    isPlainName qualifier.toList = true ∧ isPlainName base.toList = true := by
  have whole : written.toList = qualifier.toList ++ ':' :: base.toList := by
    rw [(splitName_some split).1]
    simp
  have rests {c : Char} (member : c ∈ written.toList) : isNameRest c = true :=
    isNameRest_of_mem named member
  unfold splitName at split
  dsimp only at split
  split at split
  · cases split
  · rename_i found
    split at split
    · cases split
    · cases split
    · rename_i c more _ _
      split at split
      · rename_i starts
        simp only [Prod.mk.injEq, Option.some.injEq, Bool.not_eq_true'] at split
        obtain ⟨rfl, rfl, unmarked⟩ := split
        rw [Bool.and_eq_true] at starts
        rw [String.toList_ofList] at whole
        constructor
        · rw [String.toList_ofList]
          refine isPlainName_of_isName ?_ fun marked => ?_
          · exact isName_takeWhile named fun nothing => ‹_ → False› nothing
          · have passes := List.all_eq_true.mp List.all_takeWhile _ marked
            simp at passes
        · rw [String.toList_ofList] at whole ⊢
          refine isPlainName_of_isName ?_ fun marked => ?_
          · rw [isName, starts.2, Bool.true_and, List.all_eq_true]
            intro d member
            apply rests
            rw [whole]
            exact List.mem_append_right _ (List.mem_cons_of_mem _ (List.mem_cons_of_mem _ member))
          · rw [List.contains_eq_mem, decide_eq_false_iff_not] at unmarked
            exact unmarked marked
      · cases split

/-- The name of an element is known where it is read, if nothing is noticed. -/
theorem known_of_elementName (harmonic : Harmonic all) (within : scope ⊆ all)
    (named : isName written.toList = true) (read : elementName scope written = (name, [])) :
    name.Known scope := by
  obtain ⟨qualifier, base, isWell, split⟩ : ∃ qualifier base isWell,
      splitName written = (qualifier, base, isWell) := ⟨_, _, _, rfl⟩
  unfold elementName at read
  rw [split] at read
  dsimp only at read
  cases isWell with
  | false =>
    split at read
    all_goals
      have notices := congrArg Prod.snd read
      cases notices
  | true =>
    cases qualifier with
    | none =>
      rw [harmonic.boundTo?_none within] at read
      obtain ⟨rfl, -⟩ := Prod.mk.inj read
      exact ⟨plain_of_splitName_none named split, .inl ⟨rfl, rfl⟩⟩
    | some qualifier =>
      cases bound : boundTo? scope (some qualifier) with
      | none =>
        rw [bound] at read
        cases congrArg Prod.snd read
      | some uri =>
        rw [bound] at read
        obtain ⟨rfl, -⟩ := Prod.mk.inj read
        exact ⟨(plain_of_splitName_some named split).2,
          .inr ⟨qualifier, uri, rfl, rfl, (harmonic.boundTo?_iff within).mp bound⟩⟩

/-- So is the name of an attribute. -/
theorem known_of_attributeName (harmonic : Harmonic all) (within : scope ⊆ all)
    (named : isName written.toList = true) (read : attributeName scope written = (name, [])) :
    name.Known scope := by
  unfold attributeName at read
  split at read
  · rename_i base isWell split
    obtain ⟨rfl, notices⟩ := Prod.mk.inj read
    cases isWell with
    | false => cases notices
    | true => exact ⟨plain_of_splitName_none named split, .inl ⟨rfl, rfl⟩⟩
  · exact known_of_elementName harmonic within named read

end

/-! ## Tags that are known -/

/-- What an attribute is told apart by. -/
def Attribute.key (given : Attribute) : Option String × String := (given.name.uri, given.name.base)

/-- A tag with declarations among the given ones, each of a qualifier of its own, and with names that
are known where the tag stands. -/
structure Tag.Known (all scope : List Declaration) (tag : Tag) : Prop where
  declared : tag.declarations ⊆ all
  distinct : (tag.declarations.map (·.qualifier)).Nodup
  named : tag.name.Known (tag.declarations ++ scope)
  attributesNamed : ∀ given ∈ tag.attributes, given.name.Known (tag.declarations ++ scope)
  free : ∀ given ∈ tag.attributes, declaredQualifier? given.name.written = none
  valid : ∀ given ∈ tag.attributes, IsValid given.value.toList
  keys : (tag.attributes.map Attribute.key).Nodup
  silent : ∀ given ∈ tag.attributes, valueNotices given = []

section

variable {all scope wider : List Declaration} {tag : Tag}

theorem Tag.Known.mono (known : tag.Known all scope) (subset : scope ⊆ wider) :
    tag.Known all wider where
  declared := known.declared
  distinct := known.distinct
  named := known.named.mono (subset_append (List.Subset.refl _) subset)
  attributesNamed given member :=
    (known.attributesNamed given member).mono (subset_append (List.Subset.refl _) subset)
  free := known.free
  valid := known.valid
  keys := known.keys
  silent := known.silent

/-- What a list of clear declarations is read as. -/
theorem declarationsIn_written {declarations : List Declaration}
    (clear : ∀ declaration ∈ declarations, declaration.Clear) :
    declarationsIn (declarations.map Declaration.written)
      = declarations.map fun declaration => (some declaration, []) := by
  induction declarations with
  | nil => rfl
  | cons first rest ih =>
    rw [List.forall_mem_cons] at clear
    obtain ⟨qualifier, uri, rfl⟩ := clear.1.eq_mk
    rw [List.map_cons, List.map_cons, declarationsIn_cons, ih clear.2]
    exact congrArg (fun found : Option _ => found.toList ++ _) clear.1.declaration?_written

/-- Declarations are no other attributes. -/
theorem plainIn_written {declarations : List Declaration}
    (clear : ∀ declaration ∈ declarations, declaration.Clear) :
    plainIn (declarations.map Declaration.written) = [] := by
  refine List.filter_eq_nil_iff.mpr fun given member isPlain => ?_
  obtain ⟨declaration, isDeclared, rfl⟩ := List.mem_map.mp member
  have isClear := clear declaration isDeclared
  obtain ⟨qualifier, uri, rfl⟩ := isClear.eq_mk
  have declares := isClear.declaredQualifier?_written
  change (declaredQualifier? ("xmlns:" ++ qualifier)).isNone = true at isPlain
  rw [declares] at isPlain
  cases isPlain

namespace Tag.Known

/-- A tag that is known is read as it is written, and nothing is noticed. -/
theorem resolveTag (known : tag.Known all scope) (harmonic : Harmonic all) (within : scope ⊆ all) :
    resolveTag scope tag.name.written tag.written = (tag, []) := by
  have clear : ∀ declaration ∈ tag.declarations, declaration.Clear :=
    fun declaration member => harmonic.clear _ (known.declared member)
  have inside : tag.declarations.reverse ++ scope ⊆ all :=
    List.append_subset.mpr ⟨fun _ member => known.declared (List.mem_reverse.mp member), within⟩
  have same : tag.declarations ++ scope ⊆ tag.declarations.reverse ++ scope :=
    subset_append (fun _ member => List.mem_reverse.mpr member) (List.Subset.refl _)
  have plain : plainIn tag.written = tag.attributes.map Attribute.written := by
    have none_ := plainIn_written clear
    unfold plainIn at none_ ⊢
    rw [Tag.written, List.filter_append, none_, List.nil_append]
    refine List.filter_eq_self.mpr fun written member => ?_
    obtain ⟨given, isGiven, rfl⟩ := List.mem_map.mp member
    exact Option.isNone_iff_eq_none.mpr (known.free given isGiven)
  have declared : declarationsIn tag.written
      = tag.declarations.map fun declaration => (some declaration, []) := by
    have none_ := declarationsIn_plainIn tag.written
    rw [plain] at none_
    rw [Tag.written, declarationsIn_append, none_, List.append_nil, declarationsIn_written clear]
  have declarations : (declarationsIn tag.written).filterMap (·.1) = tag.declarations := by
    rw [declared, List.filterMap_map]
    exact List.filterMap_some
  have silent : (declarationsIn tag.written).flatMap (·.2) = [] := by
    rw [declared, List.flatMap_map]
    exact List.flatMap_eq_nil_iff.mpr fun _ _ => rfl
  have attributes : (plainIn tag.written).map
      (resolveAttribute (tag.declarations.reverse ++ scope))
        = tag.attributes.map fun given => (given, []) := by
    rw [plain, List.map_map]
    refine List.map_congr_left fun given member => ?_
    have read := harmonic.attributeName_known inside
      ((known.attributesNamed given member).mono same)
    change resolveAttribute _ (given.name.written, given.value) = _
    unfold resolveAttribute
    dsimp only
    rw [read]
  have named := harmonic.elementName_known inside (known.named.mono same)
  have values : tag.attributes.flatMap valueNotices = [] :=
    List.flatMap_eq_nil_iff.mpr known.silent
  have keys : (tag.attributes.map fun given => (given.name.uri, given.name.base)).eraseDups.length
      = (tag.attributes.map fun given => (given.name.uri, given.name.base)).length :=
    length_eraseDups_of_nodup known.keys
  unfold Xml.resolveTag
  dsimp only
  have whole : (tag.attributes.map fun given => (given, ([] : List Notice))).map (·.1)
      = tag.attributes := by
    rw [List.map_map]
    exact List.map_id _
  have quiet : (tag.attributes.map fun given => (given, ([] : List Notice))).flatMap (·.2) = [] := by
    rw [List.flatMap_map]
    exact List.flatMap_eq_nil_iff.mpr fun _ _ => rfl
  rw [declarations, silent, attributes, named, whole, quiet, values, if_pos (beq_iff_eq.mpr keys)]
  rfl

/-- The names of attributes that are known differ as they are written. -/
theorem nodup_written (known : tag.Known all scope) (harmonic : Harmonic all)
    (within : scope ⊆ all) : (tag.attributes.map (·.name.written)).Nodup := by
  have inside : tag.declarations ++ scope ⊆ all := List.append_subset.mpr ⟨known.declared, within⟩
  refine List.pairwise_map.mpr ((List.pairwise_map.mp known.keys).imp_of_mem ?_)
  intro one other isOne isOther differs same
  have first := harmonic.attributeName_known inside (known.attributesNamed one isOne)
  have second := harmonic.attributeName_known inside (known.attributesNamed other isOther)
  rw [same, second] at first
  have sameName := congrArg Prod.fst first
  refine differs ?_
  dsimp only at sameName
  rw [Attribute.key, Attribute.key, sameName]

/-- A tag that is known can be read again. -/
theorem sound (known : tag.Known all scope) (harmonic : Harmonic all) (within : scope ⊆ all) :
    tag.Sound scope := by
  have inside : tag.declarations ++ scope ⊆ all := List.append_subset.mpr ⟨known.declared, within⟩
  have clear : ∀ declaration ∈ tag.declarations, declaration.Clear :=
    fun declaration member => harmonic.clear _ (known.declared member)
  have isName_of_known {name : Name} (isKnown : name.Known (tag.declarations ++ scope)) :
      isName name.written.toList = true := by
    refine isName_written isKnown.plain fun qualifier isQualifier => ?_
    rcases isKnown.bound with ⟨isBare, -⟩ | ⟨other, uri, isOther, -, bound⟩
    · rw [isBare] at isQualifier
      cases isQualifier
    · rw [isOther, Option.mem_some_iff] at isQualifier
      exact isQualifier ▸ (harmonic.plain_of_binds inside bound).1
  refine ⟨isName_of_known known.named, ?_, ?_, ?_, congrArg Prod.fst (known.resolveTag harmonic within)⟩
  · intro written member
    rcases List.mem_append.mp member with isDeclared | isGiven
    · obtain ⟨declaration, isDeclaration, rfl⟩ := List.mem_map.mp isDeclared
      have isClear := clear declaration isDeclaration
      obtain ⟨qualifier, uri, rfl⟩ := isClear.eq_mk
      have whole : "xmlns:" = "xmlns" ++ ":" := by decide
      change isName ("xmlns:" ++ qualifier).toList = true
      rw [whole]
      exact isName_qualified (by decide) isClear.plain
    · obtain ⟨given, isAttribute, rfl⟩ := List.mem_map.mp isGiven
      exact isName_of_known (known.attributesNamed given isAttribute)
  · intro written member
    rcases List.mem_append.mp member with isDeclared | isGiven
    · obtain ⟨declaration, isDeclaration, rfl⟩ := List.mem_map.mp isDeclared
      have isClear := clear declaration isDeclaration
      obtain ⟨qualifier, uri, rfl⟩ := isClear.eq_mk
      exact isClear.valid
    · obtain ⟨given, isAttribute, rfl⟩ := List.mem_map.mp isGiven
      exact known.valid given isAttribute
  · rw [Tag.written, List.map_append, List.nodup_append, List.map_map, List.map_map]
    refine ⟨?_, known.nodup_written harmonic within, ?_⟩
    · refine List.pairwise_map.mpr ((List.pairwise_map.mp known.distinct).imp_of_mem ?_)
      intro one other isOne isOther differs same
      have isClear := clear one isOne
      have isClearToo := clear other isOther
      obtain ⟨qualifier, uri, rfl⟩ := isClear.eq_mk
      obtain ⟨qualifierToo, uriToo, rfl⟩ := isClearToo.eq_mk
      have read := isClear.declaredQualifier?_written
      change "xmlns:" ++ qualifier = "xmlns:" ++ qualifierToo at same
      rw [same, isClearToo.declaredQualifier?_written] at read
      exact differs (Option.some.inj read).symm
    · rintro name declares other isGiven rfl
      obtain ⟨declaration, isDeclaration, rfl⟩ := List.mem_map.mp declares
      obtain ⟨given, isAttribute, same⟩ := List.mem_map.mp isGiven
      have isClear := clear declaration isDeclaration
      obtain ⟨qualifier, uri, rfl⟩ := isClear.eq_mk
      have read := isClear.declaredQualifier?_written
      change given.name.written = "xmlns:" ++ qualifier at same
      rw [← same, known.free given isAttribute] at read
      cases read

end Tag.Known

end

/-- A node in which all tags are known where they stand, and in which so many elements may be
nested. -/
inductive Node.Known (all : List Declaration) : Nat → List Declaration → Node → Prop where
  | text {room : Nat} {scope : List Declaration} {value : List Char}
      (valid : IsValid value) : Known all room scope (.text value)
  | comment {room : Nat} {scope : List Declaration} {value : List Char}
      (stands : Enclosable "--" value) : Known all room scope (.comment value)
  | instruction {room : Nat} {scope : List Declaration} {target : String}
      {value : Option (List Char)} (named : isName target.toList = true)
      (isFree : (target.toLower == "xml") = false)
      (stands : ∀ text ∈ value, Enclosable "?>" text ∧ startsBlank text = false)
      (plain : target.contains ':' = false) : Known all room scope (.instruction target value)
  | element {room : Nat} {scope : List Declaration} {tag : Tag} {content : List Node}
      (tagKnown : tag.Known all scope)
      (contentKnown : ∀ node ∈ content, node.Known all room (tag.declarations ++ scope)) :
      Known all (room + 1) scope (.element tag content)

section

variable {all scope wider : List Declaration} {room : Nat} {node : Node} {tag : Tag}
  {content : List Node}

theorem Node.Known.mono (known : node.Known all room scope) (subset : scope ⊆ wider) :
    node.Known all room wider := by
  induction known generalizing wider with
  | text valid => exact .text valid
  | comment stands => exact .comment stands
  | instruction named isFree stands plain => exact .instruction named isFree stands plain
  | element tagKnown _ ih =>
    exact .element (tagKnown.mono subset) fun node member =>
      ih node member (subset_append (List.Subset.refl _) subset)

theorem Node.Known.of_element (known : (Node.element tag content).Known all (room + 1) scope) :
    tag.Known all scope ∧ ∀ node ∈ content, node.Known all room (tag.declarations ++ scope) := by
  cases known with
  | element tagKnown contentKnown => exact ⟨tagKnown, contentKnown⟩

/-- Nothing is noticed about nodes of which none gives notice. -/
theorem noticesOfAll_eq_nil (silent : ∀ node ∈ content, noticesOf scope node = []) :
    noticesOfAll scope content = [] := by
  induction content with
  | nil => rfl
  | cons first rest ih =>
    rw [List.forall_mem_cons] at silent
    rw [noticesOfAll, silent.1, ih silent.2, List.append_nil]

theorem silent_of_noticesOfAll (silent : noticesOfAll scope content = []) :
    ∀ node ∈ content, noticesOf scope node = [] := by
  induction content with
  | nil => exact fun _ member => absurd member List.not_mem_nil
  | cons first rest ih =>
    rw [noticesOfAll, List.append_eq_nil_iff] at silent
    exact List.forall_mem_cons.mpr ⟨silent.1, ih silent.2⟩

/-- A node that is known can be read again, and nothing is noticed. -/
theorem Node.Known.sound (known : node.Known all room scope) (harmonic : Harmonic all)
    {around : List Declaration} (subset : scope ⊆ around) (within : around ⊆ all) :
    node.Sound room around ∧ noticesOf around node = [] := by
  induction known generalizing around with
  | text valid => exact ⟨.text valid, by rw [noticesOf]⟩
  | comment stands => exact ⟨.comment stands, by rw [noticesOf]⟩
  | instruction named isFree stands plain =>
    refine ⟨.instruction named isFree stands, ?_⟩
    rw [noticesOf, plain]
    rfl
  | @element room scope tag content tagKnown _ ih =>
    have isKnown := tagKnown.mono subset
    have each (node : Node) (member : node ∈ content) :
        node.Sound room (tag.declarations.reverse ++ around) ∧
          noticesOf (tag.declarations.reverse ++ around) node = [] := by
      refine ih node member (subset_append (fun _ declared => ?_) subset)
        (List.append_subset.mpr ⟨fun _ declared => ?_, within⟩)
      · exact List.mem_reverse.mpr declared
      · exact tagKnown.declared (List.mem_reverse.mp declared)
    refine ⟨.element (isKnown.sound harmonic within) fun node member => (each node member).1, ?_⟩
    rw [noticesOf, isKnown.resolveTag harmonic within,
      noticesOfAll_eq_nil fun node member => (each node member).2]
    rfl

end

/-! ## Trees that are read -/

mutual

/-- The declarations that are made in a node. -/
def declarationsOf : Node → List Declaration
  | .element tag content => tag.declarations ++ declarationsOfAll content
  | _ => []

/-- The declarations that are made in several nodes. -/
def declarationsOfAll : List Node → List Declaration
  | [] => []
  | first :: rest => declarationsOf first ++ declarationsOfAll rest

end

theorem declarationsOfAll_eq_flatMap (content : List Node) :
    declarationsOfAll content = content.flatMap declarationsOf := by
  induction content with
  | nil => rfl
  | cons first rest ih => rw [declarationsOfAll, ih, List.flatMap_cons]

/-- The qualifier that is declared stands behind that of declarations. -/
theorem splitName_of_declaredQualifier? {written qualifier : String}
    (declared : declaredQualifier? written = some (some qualifier))
    (wellNamed : nameNotices written = []) :
    splitName written = (some "xmlns", qualifier, true) := by
  have isWell : (splitName written).2.2 = true := by
    unfold nameNotices at wellNamed
    split at wellNamed
    · assumption
    · cases wellNamed
  unfold declaredQualifier? at declared
  split at declared
  · cases declared
  · split at declared
    · rename_i split
      rw [split] at isWell
      cases declared
      exact split.trans (congrArg (fun well => (some "xmlns", qualifier, well)) isWell)
    · cases declared

section

variable {all scope : List Declaration} {room : Nat} {tag : Tag} {node : Node}

/-- What is noticed about a tag of which nothing is noticed. -/
structure Tag.Silent (scope : List Declaration) (tag : Tag) : Prop where
  declared : ∀ found ∈ declarationsIn tag.written, found.2 = []
  named : (elementName (tag.declarations.reverse ++ scope) tag.name.written).2 = []
  attributesNamed : ∀ given ∈ plainIn tag.written,
    (attributeName (tag.declarations.reverse ++ scope) given.1).2 = []
  values : ∀ given ∈ tag.attributes, valueNotices given = []
  keys : (tag.attributes.map Attribute.key).Nodup

/-- Where nothing is noticed about a tag, nothing is noticed about any part of it. -/
theorem Tag.Sound.silent (sound : tag.Sound scope)
    (nothing : (resolveTag scope tag.name.written tag.written).2 = []) : tag.Silent scope := by
  have declarations : (declarationsIn tag.written).filterMap (·.1) = tag.declarations :=
    congrArg Tag.declarations sound.resolved
  have attributes : ((plainIn tag.written).map (resolveAttribute
      (((declarationsIn tag.written).filterMap (·.1)).reverse ++ scope))).map (·.1)
        = tag.attributes := congrArg Tag.attributes sound.resolved
  unfold resolveTag at nothing
  dsimp only at nothing
  rw [attributes, declarations] at nothing
  simp only [List.append_eq_nil_iff, List.flatMap_eq_nil_iff] at nothing
  obtain ⟨⟨⟨⟨declared, named⟩, attributesNamed⟩, values⟩, keys⟩ := nothing
  refine ⟨declared, named, fun given member => ?_, values, ?_⟩
  · exact attributesNamed _ (List.mem_map.mpr ⟨given, member, rfl⟩)
  · split at keys
    · rename_i same
      exact nodup_of_length_eraseDups (beq_iff_eq.mp same)
    · cases keys

/-- The declarations of a tag are clear if nothing is noticed and all of them have qualifiers. -/
theorem Tag.Sound.clear (sound : tag.Sound scope) (silent : tag.Silent scope)
    (qualified : ∀ declaration ∈ tag.declarations, declaration.qualifier.isSome = true) :
    ∀ declaration ∈ tag.declarations, declaration.Clear := by
  have declarations : (declarationsIn tag.written).filterMap (·.1) = tag.declarations :=
    congrArg Tag.declarations sound.resolved
  intro declaration member
  obtain ⟨qualifier, isQualifier⟩ := Option.isSome_iff_exists.mp (qualified declaration member)
  rw [← declarations] at member
  obtain ⟨⟨_, noticed⟩, isDeclared, rfl⟩ := List.mem_filterMap.mp member
  obtain rfl := silent.declared _ isDeclared
  obtain ⟨⟨written, uri⟩, isWritten, isDeclaration⟩ := List.mem_filterMap.mp isDeclared
  obtain ⟨other, declares, bound⟩ := Option.map_eq_some_iff.mp
    (isDeclaration : declaration? written uri = _)
  have isBound : (declare other uri).1 = some declaration := (Prod.mk.inj bound).1
  have notices : nameNotices written ++ (declare other uri).2 = [] := (Prod.mk.inj bound).2
  obtain ⟨wellNamed, unnoticed⟩ := List.append_eq_nil_iff.mp notices
  obtain rfl := (qualifier_of_declare isBound).symm.trans isQualifier
  obtain rfl := uri_of_declare isBound
  have split := splitName_of_declaredQualifier? declares wellNamed
  refine ⟨⟨qualifier, isQualifier, ?_⟩, ?_, ?_⟩
  · exact (plain_of_splitName_some (sound.attributesNamed _ isWritten) split).2
  · rw [isQualifier]
    exact Prod.ext isBound unnoticed
  · exact sound.valid _ isWritten

/-- A tag of which nothing is noticed is known. -/
theorem Tag.Sound.known (sound : tag.Sound scope) (silent : tag.Silent scope)
    (harmonic : Harmonic all) (declared : tag.declarations ⊆ all) (within : scope ⊆ all) :
    tag.Known all scope := by
  have inside : tag.declarations.reverse ++ scope ⊆ all :=
    List.append_subset.mpr ⟨fun _ member => declared (List.mem_reverse.mp member), within⟩
  have same : tag.declarations.reverse ++ scope ⊆ tag.declarations ++ scope :=
    subset_append (fun _ member => List.mem_reverse.mp member) (List.Subset.refl _)
  have declarations : (declarationsIn tag.written).filterMap (·.1) = tag.declarations :=
    congrArg Tag.declarations sound.resolved
  have name : (elementName (((declarationsIn tag.written).filterMap (·.1)).reverse ++ scope)
      tag.name.written).1 = tag.name := congrArg Tag.name sound.resolved
  have attributes : ((plainIn tag.written).map (resolveAttribute
      (((declarationsIn tag.written).filterMap (·.1)).reverse ++ scope))).map (·.1)
        = tag.attributes := congrArg Tag.attributes sound.resolved
  rw [declarations] at name attributes
  -- Each attribute was read from one that is written and is no declaration.
  have read (given : Attribute) (member : given ∈ tag.attributes) :
      ∃ written ∈ plainIn tag.written,
        attributeName (tag.declarations.reverse ++ scope) written.1 = (given.name, []) ∧
          written.2 = given.value := by
    rw [← attributes, List.map_map] at member
    obtain ⟨written, isPlain, rfl⟩ := List.mem_map.mp member
    exact ⟨written, isPlain, Prod.ext rfl (silent.attributesNamed written isPlain), rfl⟩
  refine ⟨declared, ?_, ?_, fun given member => ?_, fun given member => ?_, fun given member => ?_,
    silent.keys, silent.values⟩
  · have distinct := sound.distinct
    rw [Tag.written, List.map_append] at distinct
    have first := (List.nodup_append.mp distinct).1
    rw [List.map_map] at first
    refine List.pairwise_map.mpr ((List.pairwise_map.mp first).imp fun differs sameQualifier => ?_)
    refine differs ?_
    dsimp only [Function.comp_apply, Declaration.written]
    rw [sameQualifier]
    split <;> rfl
  · exact (known_of_elementName harmonic inside sound.named (Prod.ext name silent.named)).mono same
  · obtain ⟨written, isPlain, isName, -⟩ := read given member
    have named := sound.attributesNamed written (List.mem_filter.mp isPlain).1
    exact (known_of_attributeName harmonic inside named isName).mono same
  · obtain ⟨written, isPlain, isName, -⟩ := read given member
    have sameName := written_attributeName (tag.declarations.reverse ++ scope) written.1
    rw [isName] at sameName
    dsimp only at sameName
    rw [sameName]
    exact Option.isNone_iff_eq_none.mp (List.mem_filter.mp isPlain).2
  · obtain ⟨written, isPlain, -, isValue⟩ := read given member
    exact isValue ▸ sound.valid written (List.mem_filter.mp isPlain).1

/-- A tree that is read without anything being noticed is known where it stands. -/
theorem Node.Sound.known (sound : node.Sound room scope) (silent : noticesOf scope node = [])
    (harmonic : Harmonic all) (declared : declarationsOf node ⊆ all) (within : scope ⊆ all) :
    node.Known all room scope := by
  induction sound with
  | text valid => exact .text valid
  | comment stands => exact .comment stands
  | @instruction room scope target value named isFree stands =>
    refine .instruction named isFree stands ?_
    rw [noticesOf] at silent
    cases marked : target.contains ':' with
    | false => rfl
    | true =>
      rw [marked] at silent
      cases silent
  | @element room scope tag content tagSound _ ih =>
    rw [noticesOf, List.append_eq_nil_iff] at silent
    rw [declarationsOf, List.append_subset] at declared
    have inside : tag.declarations.reverse ++ scope ⊆ all :=
      List.append_subset.mpr ⟨fun _ member => declared.1 (List.mem_reverse.mp member), within⟩
    refine .element (tagSound.known (tagSound.silent silent.1) harmonic declared.1 within)
      fun node member => ?_
    have known := ih node member (silent_of_noticesOfAll silent.2 node member)
      (fun _ isDeclared => declared.2 ?_) inside
    · exact known.mono (subset_append (fun _ member => List.mem_reverse.mp member)
        (List.Subset.refl _))
    · rw [declarationsOfAll_eq_flatMap]
      exact List.mem_flatMap.mpr ⟨node, member, isDeclared⟩

/-- All declarations of a tree are clear if nothing is noticed and all of them have qualifiers. -/
theorem Node.Sound.clear (sound : node.Sound room scope) (silent : noticesOf scope node = [])
    (qualified : ∀ declaration ∈ declarationsOf node, declaration.qualifier.isSome = true) :
    ∀ declaration ∈ declarationsOf node, declaration.Clear := by
  induction sound with
  | @element room scope tag content tagSound _ ih =>
    rw [noticesOf, List.append_eq_nil_iff] at silent
    rw [declarationsOf] at qualified ⊢
    rw [List.forall_mem_append] at qualified ⊢
    refine ⟨tagSound.clear (tagSound.silent silent.1) qualified.1, fun declaration member => ?_⟩
    rw [declarationsOfAll_eq_flatMap] at member qualified
    obtain ⟨node, isNode, isDeclared⟩ := List.mem_flatMap.mp member
    refine ih node isNode (silent_of_noticesOfAll silent.2 node isNode) (fun other isOther => ?_)
      declaration isDeclared
    exact qualified.2 other (List.mem_flatMap.mpr ⟨node, isNode, isOther⟩)
  | _ => exact fun _ member => absurd member List.not_mem_nil

end

end FormLetter.Xml
