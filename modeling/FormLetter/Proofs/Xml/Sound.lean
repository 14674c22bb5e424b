import FormLetter.Proofs.Xml.Document
import Mathlib.Data.List.Nodup

/-!
# Sound trees

A tree is sound when what is written of it can be read: all of its characters are such that a
document may hold them, no tag has two attributes of one name, its elements are not nested too deep,
and each tag is resolved to itself again by the declarations around it. Declarations are written
before attributes, and those that bound nothing when the tag was read are not written at all. So
reading a tag again gives no more notices than reading it first did: only errors that such
declarations gave are gone.
-/

namespace FormLetter.Xml

/-! ## Valid text -/

/-- A text that a document may hold. -/
def IsValid (text : List Char) : Prop := ∀ c ∈ text, isChar c = true

theorem IsValid.append {left right : List Char} (first : IsValid left) (second : IsValid right) :
    IsValid (left ++ right) :=
  fun c member => (List.mem_append.mp member).elim (first c) (second c)

theorem IsValid.cons {c : Char} {rest : List Char} (first : isChar c = true)
    (second : IsValid rest) : IsValid (c :: rest) :=
  List.forall_mem_cons.mpr ⟨first, second⟩

/-! ## What is written in a tag -/

/-- A declaration as an attribute. -/
def Declaration.written (declaration : Declaration) : String × String :=
  match declaration.qualifier with
  | none => ("xmlns", declaration.uri)
  | some qualifier => ("xmlns:" ++ qualifier, declaration.uri)

/-- An attribute as it is written. -/
def Attribute.written (given : Attribute) : String × String := (given.name.written, given.value)

/-- The attributes that are written in a tag. -/
def Tag.written (tag : Tag) : List (String × String) :=
  tag.declarations.map Declaration.written ++ tag.attributes.map Attribute.written

/-- A tag is written as its name with these attributes behind it. -/
theorem printTag_eq (tag : Tag) : printTag tag = '<' :: tag.name.written.toList
    ++ tag.written.flatMap fun given => printAttribute given.1 given.2 := by
  have declared (declaration : Declaration) : printDeclaration declaration
      = printAttribute declaration.written.1 declaration.written.2 := by
    obtain ⟨qualifier, uri⟩ := declaration
    cases qualifier <;> rfl
  rw [printTag, Tag.written, List.flatMap_append, List.flatMap_map, List.flatMap_map, funext declared,
    List.append_assoc]
  rfl

/-! ## Sound trees -/

/-- A tag that can be read again where the given declarations are around it. -/
structure Tag.Sound (scope : List Declaration) (tag : Tag) : Prop where
  named : isName tag.name.written.toList = true
  attributesNamed : ∀ given ∈ tag.written, isName given.1.toList = true
  valid : ∀ given ∈ tag.written, IsValid given.2.toList
  distinct : (tag.written.map (·.1)).Nodup
  resolved : (resolveTag scope tag.name.written tag.written).1 = tag

/-- A tag declares no qualifier twice. -/
theorem Tag.Sound.nodup_qualifiers {scope : List Declaration} {tag : Tag}
    (sound : tag.Sound scope) :
    (tag.declarations.map (·.qualifier)).Nodup := by
  have distinct := sound.distinct
  rw [Tag.written, List.map_append, List.map_map] at distinct
  have names : (fun written : String × String => written.1) ∘ Declaration.written
      = (fun qualifier : Option String =>
          (Declaration.written ⟨qualifier, ""⟩).1) ∘ Declaration.qualifier := by
    funext declaration
    obtain ⟨qualifier, uri⟩ := declaration
    cases qualifier <;> rfl
  have first := (List.nodup_append.mp distinct).1
  rw [names, ← List.map_map] at first
  exact first.of_map

/-- A node that can be read again where the given declarations are around it, and in which so many
elements may be nested. -/
inductive Node.Sound : Nat → List Declaration → Node → Prop where
  | text {room : Nat} {scope : List Declaration} {value : List Char}
      (valid : IsValid value) : Sound room scope (.text value)
  | comment {room : Nat} {scope : List Declaration} {value : List Char}
      (stands : Enclosable "--" value) : Sound room scope (.comment value)
  | instruction {room : Nat} {scope : List Declaration} {target : String}
      {value : Option (List Char)} (named : isName target.toList = true)
      (isFree : (target.toLower == "xml") = false)
      (stands : ∀ text ∈ value, Enclosable "?>" text ∧ startsBlank text = false) :
      Sound room scope (.instruction target value)
  | element {room : Nat} {scope : List Declaration} {tag : Tag} {content : List Node}
      (tagSound : tag.Sound scope)
      (contentSound : ∀ node ∈ content, node.Sound room (tag.declarations.reverse ++ scope)) :
      Sound (room + 1) scope (.element tag content)

mutual

/-- What is noticed when a node is read where the given declarations are around it. -/
def noticesOf (scope : List Declaration) : Node → List Notice
  | .text _ | .comment _ => []
  | .instruction target _ => if target.contains ':' then [.error] else []
  | .element tag content =>
    (resolveTag scope tag.name.written tag.written).2
      ++ noticesOfAll (tag.declarations.reverse ++ scope) content

/-- What is noticed when several nodes are read. -/
def noticesOfAll (scope : List Declaration) : List Node → List Notice
  | [] => []
  | first :: rest => noticesOf scope first ++ noticesOfAll scope rest

end

theorem noticesOfAll_append (scope : List Declaration) (left right : List Node) :
    noticesOfAll scope (left ++ right) = noticesOfAll scope left ++ noticesOfAll scope right := by
  induction left with
  | nil => rfl
  | cons first rest ih => rw [List.cons_append, noticesOfAll, noticesOfAll, ih, List.append_assoc]

/-- A document that can be read again: what is noticed last when it is read is no error. -/
structure Document.Sound (document : Document) : Prop where
  version : Heading.isVersion document.version.toList = true
  tree : (Node.element document.root document.content).Sound depthLimit []
  accepted : (noticesOf [] (.element document.root document.content)).getLast? ≠ some .error

/-! ## Notices that are gone -/

/-- The notices that are left of others when some of the errors are gone. -/
inductive Thinned : List Notice → List Notice → Prop where
  | nil : Thinned [] []
  | keep (notice : Notice) {all left : List Notice} (thinned : Thinned all left) :
      Thinned (notice :: all) (notice :: left)
  | drop {all left : List Notice} (thinned : Thinned all left) : Thinned (.error :: all) left

namespace Thinned

theorem refl : (notices : List Notice) → Thinned notices notices
  | [] => .nil
  | notice :: rest => .keep notice (refl rest)

theorem append {all left more others : List Notice} (first : Thinned all left)
    (second : Thinned more others) : Thinned (all ++ more) (left ++ others) := by
  induction first with
  | nil => exact second
  | keep notice _ ih => exact .keep notice ih
  | drop _ ih => exact .drop ih

theorem drop_all {gone all left : List Notice} (errors : ∀ notice ∈ gone, notice = .error)
    (thinned : Thinned all left) : Thinned (gone ++ all) left := by
  induction gone with
  | nil => exact thinned
  | cons first rest ih =>
    rw [List.forall_mem_cons] at errors
    rw [errors.1]
    exact .drop (ih errors.2)

/-- Where nothing is left, there were only errors. -/
theorem errors {all : List Notice} (thinned : Thinned all []) : ∀ notice ∈ all, notice = .error := by
  generalize none_ : [] = left at thinned
  induction thinned with
  | nil => exact fun _ member => absurd member List.not_mem_nil
  | keep => cases none_
  | drop _ ih => exact List.forall_mem_cons.mpr ⟨rfl, ih none_⟩

/-- An error that is left last was the last of all, or errors came after it. -/
theorem getLast?_eq_error {all left : List Notice} (thinned : Thinned all left)
    (last : left.getLast? = some .error) : all.getLast? = some .error := by
  induction thinned with
  | nil => exact last
  | @keep notice all left thinned ih =>
    rw [List.getLast?_cons] at last ⊢
    cases lastLeft : left.getLast? with
    | some found =>
      rw [lastLeft, Option.getD_some] at last
      rw [ih (lastLeft.trans last), Option.getD_some]
    | none =>
      rw [lastLeft, Option.getD_none] at last
      rw [List.getLast?_eq_none_iff.mp lastLeft] at thinned
      cases lastOfAll : all.getLast? with
      | none => exact last
      | some found =>
        rw [thinned.errors found (List.mem_of_getLast? lastOfAll), Option.getD_some]
  | drop _ ih =>
    rw [List.getLast?_cons, ih last, Option.getD_some]

/-- Where the last notice is no error, the last one that is left is none either. -/
theorem getLast? {all left : List Notice} (thinned : Thinned all left)
    (accepted : all.getLast? ≠ some .error) : left.getLast? ≠ some .error :=
  fun last => accepted (thinned.getLast?_eq_error last)

end Thinned

/-! ## Resolving a tag again -/

/-- True for an attribute that declares something. -/
def declares (given : String × String) : Bool :=
  ((declaration? given.1 given.2).bind (·.1)).isSome

/-- A declaration binds the namespace that it names. -/
theorem uri_of_declare {qualifier : Option String} {uri : String} {declaration : Declaration}
    (declared : (declare qualifier uri).1 = some declaration) : declaration.uri = uri := by
  unfold declare at declared
  split at declared
  all_goals repeat' split at declared
  all_goals cases declared
  all_goals rfl

/-- A declaration that binds nothing is an error, if it is noticed at all. -/
theorem notice_of_declare {qualifier : Option String} {uri : String} {notices : List Notice}
    (unbound : declare qualifier uri = (none, notices)) : ∀ notice ∈ notices, notice = .error := by
  unfold declare at unbound
  split at unbound
  all_goals repeat' split at unbound
  all_goals cases unbound
  all_goals simp

theorem declaredQualifier?_eq_some_none {written : String}
    (declared : declaredQualifier? written = some none) : written = "xmlns" := by
  unfold declaredQualifier? at declared
  split at declared
  · rename_i same
    exact beq_iff_eq.mp same
  · split at declared <;> simp at declared

theorem declaredQualifier?_eq_some_some {written qualifier : String}
    (declared : declaredQualifier? written = some (some qualifier)) :
    written = "xmlns:" ++ qualifier := by
  unfold declaredQualifier? at declared
  split at declared
  · simp at declared
  · split at declared
    · rename_i split
      cases declared
      rw [(splitName_some split).1]
      rfl
    · simp at declared

/-- A declaration is written as the attribute that made it. -/
theorem written_of_declaration? {given : String × String} {declaration : Declaration}
    {notices : List Notice}
    (declared : declaration? given.1 given.2 = some (some declaration, notices)) :
    declaration.written = given := by
  obtain ⟨qualifier, isQualifier, same⟩ := Option.map_eq_some_iff.mp declared
  obtain ⟨bound, -⟩ := Prod.mk.inj same
  have qualified := qualifier_of_declare bound
  have located := uri_of_declare bound
  unfold Declaration.written
  rw [qualified, located]
  cases qualifier with
  | none => exact Prod.ext (declaredQualifier?_eq_some_none isQualifier).symm rfl
  | some qualifier => exact Prod.ext (declaredQualifier?_eq_some_some isQualifier).symm rfl

theorem declarationsIn_cons (given : String × String) (rest : List (String × String)) :
    declarationsIn (given :: rest)
      = (declaration? given.1 given.2).toList ++ declarationsIn rest := by
  unfold declarationsIn
  rw [List.filterMap_cons]
  cases declaration? given.1 given.2 <;> rfl

theorem declarationsIn_append (left right : List (String × String)) :
    declarationsIn (left ++ right) = declarationsIn left ++ declarationsIn right :=
  List.filterMap_append

/-- There are no declarations among the other attributes. -/
theorem declarationsIn_plainIn (attributes : List (String × String)) :
    declarationsIn (plainIn attributes) = [] := by
  refine List.filterMap_eq_nil_iff.mpr fun given member => ?_
  unfold declaration?
  rw [Option.isNone_iff_eq_none.mp (List.mem_filter.mp member).2]
  rfl

/-- The other attributes are the same without the declarations. -/
theorem plainIn_again (attributes : List (String × String)) :
    plainIn (attributes.filter declares ++ plainIn attributes) = plainIn attributes := by
  have none_ : plainIn (attributes.filter declares) = [] := by
    refine List.filter_eq_nil_iff.mpr fun given member plain => ?_
    have declared := (List.mem_filter.mp member).2
    unfold declares declaration? at declared
    rw [Option.isNone_iff_eq_none.mp plain] at declared
    cases declared
  unfold plainIn at none_ ⊢
  rw [List.filter_append, none_, List.nil_append, List.filter_filter]
  simp only [Bool.and_self]

/-- The declarations of a tag are written as the attributes that declare something. -/
theorem written_declarationsIn (attributes : List (String × String)) :
    ((declarationsIn attributes).filterMap (·.1)).map Declaration.written
      = attributes.filter declares := by
  induction attributes with
  | nil => rfl
  | cons given rest ih =>
    rw [declarationsIn_cons, List.filter_cons]
    unfold declares
    rcases declared : declaration? given.1 given.2 with _ | ⟨_ | declaration, notices⟩
    · exact ih
    · exact ih
    · refine Eq.trans ?_ (congrArg (given :: ·) ih)
      rw [← written_of_declaration? declared]
      rfl

/-- Declarations that bind nothing are not missed. -/
theorem declarationsIn_again (attributes : List (String × String)) :
    (declarationsIn (attributes.filter declares)).filterMap (·.1)
      = (declarationsIn attributes).filterMap (·.1) := by
  induction attributes with
  | nil => rfl
  | cons given rest ih =>
    rw [declarationsIn_cons, List.filter_cons]
    unfold declares
    rcases declared : declaration? given.1 given.2 with _ | ⟨_ | declaration, notices⟩
    · exact ih
    · exact ih
    · simp only [Option.bind_some, Option.isSome_some, if_true]
      rw [declarationsIn_cons, declared]
      exact congrArg (declaration :: ·) ih

/-- Only errors are no more noticed where declarations that bind nothing are left out. -/
theorem thinned_declarationsIn (attributes : List (String × String)) :
    Thinned ((declarationsIn attributes).flatMap (·.2))
      ((declarationsIn (attributes.filter declares)).flatMap (·.2)) := by
  induction attributes with
  | nil => exact .nil
  | cons given rest ih =>
    rw [declarationsIn_cons, List.filter_cons]
    unfold declares
    rcases declared : declaration? given.1 given.2 with _ | ⟨_ | declaration, notices⟩
    · exact ih
    · refine .drop_all ?_ ih
      obtain ⟨qualifier, -, same⟩ := Option.map_eq_some_iff.mp declared
      obtain ⟨unbound, rfl⟩ := Prod.mk.inj same
      have isNamed : ∀ notice ∈ nameNotices given.1, notice = .error := by
        unfold nameNotices
        split <;> simp
      refine fun notice member => (List.mem_append.mp member).elim (isNamed notice) ?_
      exact notice_of_declare (Prod.ext unbound rfl) notice
    · simp only [Option.bind_some, Option.isSome_some, if_true]
      rw [declarationsIn_cons, declared]
      exact (Thinned.refl notices).append ih

/-- The other attributes are written as they were. -/
theorem written_plain (scope : List Declaration) (attributes : List (String × String)) :
    ((attributes.map (resolveAttribute scope)).map (·.1)).map Attribute.written = attributes := by
  rw [List.map_map, List.map_map]
  refine (List.map_congr_left fun given _ => ?_).trans (List.map_id _)
  exact Prod.ext (written_attributeName scope given.1) rfl

/-- Nothing is written that was not there. -/
theorem subset_again (attributes : List (String × String)) :
    attributes.filter declares ++ plainIn attributes ⊆ attributes :=
  List.append_subset.mpr ⟨List.filter_sublist.subset, List.filter_sublist.subset⟩

/-- Of the attributes of a tag, those that declare something are written first, and then those that
are no declarations. -/
theorem written_resolveTag (scope : List Declaration) (written : String)
    (attributes : List (String × String)) : (resolveTag scope written attributes).1.written
      = attributes.filter declares ++ plainIn attributes :=
  congrArg₂ (· ++ ·) (written_declarationsIn attributes) (written_plain _ (plainIn attributes))

/-- A tag that is written and resolved again is the same, and nothing but errors is no more
noticed. -/
theorem resolveTag_again (scope : List Declaration) (written : String)
    (attributes : List (String × String)) :
    (resolveTag scope written (resolveTag scope written attributes).1.written).1
        = (resolveTag scope written attributes).1 ∧
      Thinned (resolveTag scope written attributes).2
        (resolveTag scope written (resolveTag scope written attributes).1.written).2 := by
  have declared : declarationsIn (attributes.filter declares ++ plainIn attributes)
      = declarationsIn (attributes.filter declares) := by
    rw [declarationsIn_append, declarationsIn_plainIn, List.append_nil]
  rw [written_resolveTag]
  unfold resolveTag
  dsimp only
  rw [declared, declarationsIn_again, plainIn_again]
  refine ⟨rfl, ?_⟩
  exact ((((thinned_declarationsIn attributes).append (.refl _)).append (.refl _)).append
    (.refl _)).append (.refl _)

/-- The name of a tag is written as it was read. -/
theorem written_name_resolveTag (scope : List Declaration) (written : String)
    (attributes : List (String × String)) :
    (resolveTag scope written attributes).1.name.written = written :=
  written_elementName _ written

/-- A tag that was read can be read again. -/
theorem sound_resolveTag (scope : List Declaration) {written : String}
    {attributes : List (String × String)} (named : isName written.toList = true)
    (attributesNamed : ∀ given ∈ attributes, isName given.1.toList = true)
    (valid : ∀ given ∈ attributes, IsValid given.2.toList)
    (distinct : (attributes.map (·.1)).Nodup) :
    (resolveTag scope written attributes).1.Sound scope where
  named := by
    rw [written_name_resolveTag]
    exact named
  attributesNamed := by
    rw [written_resolveTag]
    exact fun given member => attributesNamed given (subset_again attributes member)
  valid := by
    rw [written_resolveTag]
    exact fun given member => valid given (subset_again attributes member)
  distinct := by
    rw [written_resolveTag, List.map_append]
    refine List.Nodup.append (distinct.sublist (List.filter_sublist.map _))
      (distinct.sublist (List.filter_sublist.map _)) ?_
    -- An attribute with the name of a declaration is one.
    intro name first second
    obtain ⟨given, isDeclared, rfl⟩ := List.mem_map.mp first
    obtain ⟨other, isPlain, same⟩ := List.mem_map.mp second
    have plain := (List.mem_filter.mp isPlain).2
    have declared := (List.mem_filter.mp isDeclared).2
    unfold declares declaration? at declared
    rw [← same, Option.isNone_iff_eq_none.mp plain] at declared
    cases declared
  resolved := by
    rw [written_name_resolveTag]
    exact (resolveTag_again scope written attributes).1

end FormLetter.Xml
