import FormLetter.Keyed
import FormLetter.Letter.Manifest
import FormLetter.Proofs.Xml.Naming
import FormLetter.Proofs.Xml.Received
import FormLetter.Proofs.Xml.Roundtrip

/-!
# Manifests that list more files

The element that lists a file takes its names from the declarations around it, or declares a
qualifier of its own. So a manifest in which more files are listed can be read again. This holds as
long as what the manifest declares are plain names: a qualifier with a colon in it is accepted in a
declaration, when a mere warning follows, but no name can be written with it.
-/

namespace FormLetter.Manifest

open FormLetter.Xml

/-! ## The element that lists a file -/

/-- The tag that lists a file: the qualifiers of its own name and of those given to it, and what it
declares. -/
def entryTag (own given : Option String) (declared : List Declaration) (file : String) : Tag :=
  ⟨⟨own, some manifestNamespace, "file-entry"⟩, declared,
    [⟨⟨given, some manifestNamespace, "full-path"⟩, file⟩,
      ⟨⟨given, some manifestNamespace, "media-type"⟩, typeOf file⟩]⟩

/-- The qualifiers of a tag that lists a file are known where it stands, or one is declared there. -/
structure Settled (scope : List Declaration) (own : Option String) (given : String)
    (declared : List Declaration) : Prop where
  declares : declared = [] ∨ ∃ number, declared = [⟨some (numbered number), manifestNamespace⟩]
  ownBound : boundTo? (declared ++ scope) own = some manifestNamespace
  givenBound : boundTo? (declared ++ scope) (some given) = some manifestNamespace
  ownKnown : ∃ declaration ∈ declared ++ scope, declaration.qualifier = own
  givenKnown : ∃ declaration ∈ declared ++ scope, declaration.qualifier = some given

theorem ne_xml_of_boundTo? {scope : List Declaration} {qualifier : Option String}
    (bound : boundTo? scope qualifier = some manifestNamespace) : qualifier ≠ some "xml" := by
  rintro rfl
  have always : boundTo? scope (some "xml") = some xmlNamespace := rfl
  rw [always, Option.some.injEq] at bound
  exact absurd bound (by decide)

theorem run_bind_of {α β : Type} {action : StateM Nat α} {next : α → StateM Nat β} {value : α}
    {made more : Nat} (ran : action.run made = (value, more)) :
    (action >>= next).run made = (next value).run more := by
  rw [StateT.run_bind, ran]
  rfl

/-- Once an attribute is known under a qualifier, so is the next one. -/
theorem newName_again {scope : List Declaration} {qualifier : Option String} {uri : String}
    (known : knownAs? scope uri (isUsable true) = some qualifier) (base : String)
    (made : Nat) : (newName scope true uri base).run made
      = ((⟨qualifier, some uri, base⟩, none), made) := by
  rcases newName_cases scope true uri base made with ⟨other, isOther, ran⟩ | ⟨_, _, unknown, -⟩
  · rw [known, Option.some.injEq] at isOther
    rw [ran, isOther]
  · rw [known] at unknown
    cases unknown

theorem fileEntry_run (scope : List Declaration) (file : String) (made : Nat) :
    ∃ own given declared more, (fileEntry scope file).run made
        = (.element (entryTag own (some given) declared file) [], more) ∧
      Settled scope own given declared := by
  have free (number : Nat) : numbered number ≠ "xml" := numbered_ne number (by decide)
  -- What is declared for one name serves the others.
  have declared (number : Nat) :
      knownAs? (⟨some (numbered number), manifestNamespace⟩ :: scope) manifestNamespace
        (isUsable true) = some (some (numbered number)) := knownAs?_cons (free number) rfl
  have bound (number : Nat) :
      boundTo? (⟨some (numbered number), manifestNamespace⟩ :: scope) (some (numbered number))
        = some manifestNamespace := by
    rw [boundTo?_cons _ _ fun same => free number (Option.some.inj same), if_pos rfl]
  unfold fileEntry
  rcases newName_cases scope false manifestNamespace "file-entry" made with
    ⟨own, known, ran⟩ | ⟨number, more, -, ran⟩
  · obtain ⟨declaration, member, isOwn, -, ownBound⟩ := bound_of_knownAs? known
    rw [run_bind_of ran]
    rcases newName_cases scope true manifestNamespace "full-path" made with
      ⟨given, knownToo, ran⟩ | ⟨number, more, -, ran⟩
    · obtain ⟨other, memberToo, isGiven, usable, givenBound⟩ := bound_of_knownAs? knownToo
      obtain ⟨qualifier, isQualifier⟩ := Option.isSome_iff_exists.mp usable
      obtain rfl := isGiven.symm.trans isQualifier
      refine ⟨own, qualifier, [], made, ?_, Or.inl rfl, ownBound, givenBound,
        ⟨declaration, member, isOwn⟩, ⟨other, memberToo, isGiven⟩⟩
      exact (run_bind_of ran).trans (run_bind_of (newName_again knownToo "media-type" made))
    · refine ⟨own, numbered number, [⟨some (numbered number), manifestNamespace⟩], more, ?_,
        Or.inr ⟨number, rfl⟩, ?_, bound number, ⟨declaration, List.mem_cons_of_mem _ member, isOwn⟩,
        ⟨_, List.mem_cons_self, rfl⟩⟩
      · exact (run_bind_of ran).trans
          (run_bind_of (newName_again (declared number) "media-type" more))
      · change boundTo? (_ :: scope) own = _
        rw [boundTo?_cons _ _ (ne_xml_of_boundTo? ownBound)]
        split
        · rfl
        · exact ownBound
  · rw [run_bind_of ran]
    refine ⟨some (numbered number), numbered number,
      [⟨some (numbered number), manifestNamespace⟩], more, ?_, Or.inr ⟨number, rfl⟩, bound number,
      bound number, ⟨_, List.mem_cons_self, rfl⟩, ⟨_, List.mem_cons_self, rfl⟩⟩
    exact (run_bind_of (newName_again (declared number) "full-path" more)).trans
      (run_bind_of (newName_again (declared number) "media-type" more))

/-! ## Reading that element -/

/-- Declarations that a manifest can take names from. -/
structure Usable (scope : List Declaration) : Prop where
  distinct : (scope.map (·.qualifier)).Nodup
  plain : ∀ declaration ∈ scope, ∀ qualifier ∈ declaration.qualifier,
    isPlainName qualifier.toList = true ∧ qualifier ≠ "xmlns"

section

variable {scope declared : List Declaration} {own : Option String} {given : String}

/-- The qualifiers of a tag that lists a file can be written. -/
theorem Settled.plain (settled : Settled scope own given declared) (usable : Usable scope) :
    ∀ declaration ∈ declared ++ scope, ∀ qualifier ∈ declaration.qualifier,
      isPlainName qualifier.toList = true ∧ qualifier ≠ "xmlns" := by
  intro declaration member qualifier isQualifier
  rcases List.mem_append.mp member with new | old
  · rcases settled.declares with rfl | ⟨number, rfl⟩
    · cases new
    · rw [List.mem_singleton] at new
      subst new
      rw [Option.mem_some_iff] at isQualifier
      subst isQualifier
      exact ⟨isPlainName_numbered number, numbered_ne number (by decide)⟩
  · exact usable.plain declaration old qualifier isQualifier

/-- A document is read from the outside in, so that what is declared last comes first. -/
theorem Settled.boundTo? (settled : Settled scope own given declared) (usable : Usable scope)
    {qualifier : Option String}
    (bound : Xml.boundTo? (declared ++ scope) qualifier = some manifestNamespace) :
    Xml.boundTo? (declared.reverse ++ scope.reverse) qualifier = some manifestNamespace := by
  have isFree := ne_xml_of_boundTo? bound
  rcases settled.declares with rfl | ⟨number, rfl⟩
  · exact (boundTo?_reverse usable.distinct qualifier).trans bound
  · change Xml.boundTo? (_ :: scope.reverse) qualifier = _
    rw [boundTo?_cons _ _ isFree, boundTo?_reverse usable.distinct]
    change Xml.boundTo? (_ :: scope) qualifier = _ at bound
    rwa [boundTo?_cons _ _ isFree] at bound

theorem ne_xmlns_of_splitName {written qualifier base : String} {isWell : Bool}
    (split : splitName written = (some qualifier, base, isWell)) : written ≠ "xmlns" := by
  rintro rfl
  rw [splitName_plain (by decide)] at split
  cases split

theorem splitName_numbered (number : Nat) :
    splitName ("xmlns:" ++ numbered number) = (some "xmlns", numbered number, true) := by
  have whole : "xmlns:" = "xmlns" ++ ":" := by decide
  rw [whole]
  exact splitName_qualified (by decide) (isPlainName_numbered number)

theorem declaredQualifier?_numbered (number : Nat) :
    declaredQualifier? ("xmlns:" ++ numbered number) = some (some (numbered number)) := by
  unfold declaredQualifier?
  rw [beq_false_of_ne (ne_xmlns_of_splitName (splitName_numbered number)), splitName_numbered]
  rfl

/-- A numbered qualifier is declared for files without anything being noticed. -/
theorem declaration?_numbered (number : Nat) :
    declaration? ("xmlns:" ++ numbered number) manifestNamespace
      = some (some ⟨some (numbered number), manifestNamespace⟩, []) := by
  have isResource : isResource manifestNamespace.toList = true := by decide
  unfold declaration? nameNotices
  rw [declaredQualifier?_numbered, splitName_numbered]
  simp only [Option.map_some, if_true, List.nil_append]
  unfold declare
  dsimp only
  rw [beq_false_of_ne (numbered_ne number (by decide)),
    beq_false_of_ne (numbered_ne number (by decide)), isResource]
  rfl

/-- An attribute whose qualifier is not that of declarations is none. -/
theorem declaredQualifier?_qualified {qualifier base : String}
    (plain : isPlainName qualifier.toList = true) (differs : qualifier ≠ "xmlns")
    (plainBase : isPlainName base.toList = true) :
    declaredQualifier? (qualifier ++ ":" ++ base) = none := by
  have split := splitName_qualified plain plainBase
  have notBare : (qualifier ++ ":" ++ base == "xmlns") = false :=
    beq_false_of_ne (ne_xmlns_of_splitName split)
  unfold declaredQualifier?
  rw [notBare, split]
  simp only [Bool.false_eq_true, if_false]
  split
  · rename_i same
    cases same
    exact absurd rfl differs
  · rfl

theorem all_toList_ofList {text : List Char} {holds : Char → Bool} (each : text.all holds = true) :
    (String.ofList text).toList.all holds = true := by
  rwa [String.toList_ofList]

/-- The type of a file is told by characters that a document may hold. -/
theorem valid_ofName (file : String) : IsValid (MediaType.ofName file).toList := by
  have valid : ∀ entry ∈ MediaType.byEnding, entry.2.toList.all isChar = true := by
    unfold MediaType.byEnding
    repeat' first
      | exact List.forall_mem_nil _
      | refine List.forall_mem_cons.mpr ⟨?_, ?_⟩
      | exact all_toList_ofList rfl
  have validUnknown : MediaType.unknown.toList.all isChar = true := all_toList_ofList rfl
  unfold MediaType.ofName
  dsimp only
  generalize MediaType.lower _ = ending
  cases found : MediaType.byEnding.lookup ending with
  | none => exact List.all_eq_true.mp validUnknown
  | some type =>
    exact List.all_eq_true.mp (valid _ (Keyed.mem_of_lookup found))

variable {file : String}

/-- The tag that lists a file is resolved to itself, and nothing is noticed. -/
theorem Settled.resolveTag (settled : Settled scope own given declared) (usable : Usable scope) :
    resolveTag scope.reverse (entryTag own (some given) declared file).name.written
        (entryTag own (some given) declared file).written
      = (entryTag own (some given) declared file, []) := by
  obtain ⟨declaration, member, isGiven⟩ := settled.givenKnown
  obtain ⟨givenPlain, givenFree⟩ := settled.plain usable declaration member given isGiven
  have ownPlain : ∀ qualifier ∈ own, isPlainName qualifier.toList = true := by
    obtain ⟨declaration, member, isOwn⟩ := settled.ownKnown
    intro qualifier isQualifier
    exact (settled.plain usable declaration member qualifier (isOwn ▸ isQualifier)).1
  have entryPlain : isPlainName "file-entry".toList = true := by decide
  have pathPlain : isPlainName "full-path".toList = true := by decide
  have typePlain : isPlainName "media-type".toList = true := by decide
  have some_ : manifestNamespace.isEmpty = false := by decide
  have names : elementName (declared.reverse ++ scope.reverse)
      (Name.mk own (some manifestNamespace) "file-entry").written
        = (⟨own, some manifestNamespace, "file-entry"⟩, []) :=
    elementName_written ownPlain entryPlain rfl some_ (settled.boundTo? usable settled.ownBound)
  have attributes (base : String) (plain : isPlainName base.toList = true) :
      attributeName (declared.reverse ++ scope.reverse)
        (Name.mk (some given) (some manifestNamespace) base).written
          = (⟨some given, some manifestNamespace, base⟩, []) :=
    attributeName_written rfl givenPlain plain rfl some_
      (settled.boundTo? usable settled.givenBound)
  have notDeclared (base : String) (plain : isPlainName base.toList = true) :
      declaredQualifier? (Name.mk (some given) (some manifestNamespace) base).written = none :=
    declaredQualifier?_qualified givenPlain givenFree plain
  have declarations : declarationsIn (entryTag own (some given) declared file).written
      = declared.map fun declaration => (some declaration, []) := by
    rw [Tag.written, declarationsIn_append]
    unfold entryTag declarationsIn declaration?
    simp only [List.map_cons, List.map_nil, Attribute.written, List.filterMap_cons,
      notDeclared _ pathPlain, notDeclared _ typePlain, Option.map_none, List.filterMap_nil,
      List.append_nil]
    rcases settled.declares with rfl | ⟨number, rfl⟩
    · rfl
    · exact congrArg (fun found : Option _ => found.toList) (declaration?_numbered number)
  have plain : plainIn (entryTag own (some given) declared file).written
      = (entryTag own (some given) declared file).attributes.map Attribute.written := by
    have none_ : plainIn (declared.map Declaration.written) = [] := by
      rcases settled.declares with rfl | ⟨number, rfl⟩
      · rfl
      · refine List.filter_eq_nil_iff.mpr fun attribution member => ?_
        rw [List.mem_singleton.mp member]
        change ¬ (declaredQualifier? ("xmlns:" ++ numbered number)).isNone = true
        rw [declaredQualifier?_numbered]
        exact Bool.false_ne_true
    unfold plainIn at none_ ⊢
    rw [Tag.written, List.filter_append]
    refine (congrArg (· ++ _) none_).trans (List.filter_eq_self.mpr fun written member => ?_)
    unfold entryTag at member
    simp only [List.map_cons, List.map_nil, List.mem_cons, List.not_mem_nil, or_false] at member
    rcases member with rfl | rfl
    · exact Option.isNone_iff_eq_none.mpr (notDeclared _ pathPlain)
    · exact Option.isNone_iff_eq_none.mpr (notDeclared _ typePlain)
  unfold Xml.resolveTag
  dsimp only
  rw [declarations, plain]
  have all : (declared.map fun declaration => (some declaration, ([] : List Notice))).filterMap
      (·.1) = declared := by
    rw [List.filterMap_map]
    exact List.filterMap_some
  have silent : (declared.map fun declaration => (some declaration, ([] : List Notice))).flatMap
      (·.2) = [] := by
    rw [List.flatMap_map]
    exact List.flatMap_eq_nil_iff.mpr fun _ _ => rfl
  rw [all, silent]
  unfold entryTag
  dsimp only
  rw [names]
  simp only [List.map_cons, List.map_nil, Attribute.written, resolveAttribute,
    attributes _ pathPlain, attributes _ typePlain]
  rfl

theorem isName_numbered (number : Nat) :
    isName ("xmlns:" ++ numbered number).toList = true := by
  have whole : "xmlns:" = "xmlns" ++ ":" := by decide
  rw [whole]
  exact isName_qualified (by decide) (isPlainName_numbered number)

/-- The tag that lists a file can be read again. -/
theorem Settled.tagSound (settled : Settled scope own given declared) (usable : Usable scope)
    (valid : IsValid file.toList) :
    (entryTag own (some given) declared file).Sound scope.reverse := by
  obtain ⟨declaration, member, isGiven⟩ := settled.givenKnown
  obtain ⟨givenPlain, givenFree⟩ := settled.plain usable declaration member given isGiven
  have pathPlain : isPlainName "full-path".toList = true := by decide
  have typePlain : isPlainName "media-type".toList = true := by decide
  have written : (entryTag own (some given) declared file).written
      = declared.map Declaration.written ++ [(given ++ ":" ++ "full-path", file),
        (given ++ ":" ++ "media-type", typeOf file)] := by
    simp only [entryTag, Tag.written, List.map_cons, List.map_nil, Attribute.written, Name.written]
  have pathSplit : splitName (given ++ ":" ++ "full-path") = (some given, "full-path", true) :=
    splitName_qualified givenPlain pathPlain
  have typeSplit : splitName (given ++ ":" ++ "media-type") = (some given, "media-type", true) :=
    splitName_qualified givenPlain typePlain
  have namesDiffer : given ++ ":" ++ "full-path" ≠ given ++ ":" ++ "media-type" := by
    intro same
    rw [same, typeSplit] at pathSplit
    exact absurd (Prod.mk.inj (Prod.mk.inj pathSplit).2).1 (by decide)
  have declaredWritten : ∀ attribution ∈ declared.map Declaration.written,
      ∃ number, attribution = ("xmlns:" ++ numbered number, manifestNamespace) := by
    intro attribution member
    rcases settled.declares with rfl | ⟨number, rfl⟩
    · cases member
    · exact ⟨number, List.mem_singleton.mp member⟩
  have validNamespace : manifestNamespace.toList.all isChar = true := by decide
  have validType : IsValid (typeOf file).toList := valid_ofName _
  have entryPlain : isPlainName "file-entry".toList = true := by decide
  refine ⟨?_, ?_, ?_, ?_, congrArg Prod.fst (settled.resolveTag usable)⟩
  · obtain ⟨declaration, member, rfl⟩ := settled.ownKnown
    exact isName_written entryPlain fun qualifier isQualifier =>
      (settled.plain usable declaration member qualifier isQualifier).1
  all_goals
    rw [written]
    generalize typeOf file = type at validType
  · refine List.forall_mem_append.mpr ⟨fun attribution new => ?_, ?_⟩
    · obtain ⟨number, rfl⟩ := declaredWritten attribution new
      exact isName_numbered number
    · exact List.forall_mem_cons.mpr ⟨isName_qualified givenPlain pathPlain,
        List.forall_mem_singleton.mpr (isName_qualified givenPlain typePlain)⟩
  · refine List.forall_mem_append.mpr ⟨fun attribution new => ?_, ?_⟩
    · obtain ⟨number, rfl⟩ := declaredWritten attribution new
      exact List.all_eq_true.mp validNamespace
    · exact List.forall_mem_cons.mpr ⟨valid, List.forall_mem_singleton.mpr validType⟩
  · rw [List.map_append, List.nodup_append]
    refine ⟨?_, ?_, ?_⟩
    · rcases settled.declares with rfl | ⟨number, rfl⟩
      · exact List.nodup_nil
      · exact List.nodup_singleton _
    · simpa only [List.map_cons, List.map_nil, List.nodup_cons, List.mem_singleton,
        List.not_mem_nil, not_false_eq_true, List.nodup_nil, and_true] using namesDiffer
    · rintro name declares other isGiven rfl
      obtain ⟨attribution, isNew, rfl⟩ := List.mem_map.mp declares
      obtain ⟨number, rfl⟩ := declaredWritten attribution isNew
      have split := splitName_numbered number
      simp only [List.map_cons, List.map_nil, List.mem_cons, List.not_mem_nil, or_false] at isGiven
      rcases isGiven with same | same
      · rw [same, pathSplit] at split
        exact givenFree (Option.some.inj (Prod.mk.inj split).1)
      · rw [same, typeSplit] at split
        exact givenFree (Option.some.inj (Prod.mk.inj split).1)

end

/-! ## Manifests -/

/-- What is not listed yet, is to be listed. -/
theorem mem_unlisted {known files : List String} {file : String} :
    file ∈ unlisted known files ↔ file ∈ files ∧ file ∉ known := by
  induction files generalizing known with
  | nil => simp [unlisted]
  | cons first rest ih =>
    unfold unlisted
    by_cases isKnown : first ∈ known
    · rw [if_pos (List.contains_iff_mem.mpr isKnown), ih, List.mem_cons]
      constructor
      · rintro ⟨later, fresh⟩
        exact ⟨.inr later, fresh⟩
      · rintro ⟨rfl | later, fresh⟩
        · exact absurd isKnown fresh
        · exact ⟨later, fresh⟩
    · rw [if_neg fun contained => isKnown (List.contains_iff_mem.mp contained), List.mem_cons,
        List.mem_cons, ih, List.mem_cons, not_or]
      by_cases same : file = first
      · subst same
        simp [isKnown]
      · simp [same]

/-- No file is to be listed twice. -/
theorem nodup_unlisted (known files : List String) : (unlisted known files).Nodup := by
  induction files generalizing known with
  | nil => exact List.nodup_nil
  | cons first rest ih =>
    unfold unlisted
    split
    · exact ih known
    · refine List.nodup_cons.mpr ⟨fun later => ?_, ih _⟩
      exact (mem_unlisted.mp later).2 List.mem_cons_self

/-- The elements that list files are made one after the other. -/
theorem forall₂_run_mapM {scope : List Declaration} {files : List String} {made last : Nat}
    {nodes : List Node} (ran : (files.mapM (fileEntry scope)).run made = (nodes, last)) :
    List.Forall₂ (fun file node => ∃ before more, (fileEntry scope file).run before = (node, more))
      files nodes := by
  induction files generalizing made nodes with
  | nil =>
    have none_ : ([].mapM (fileEntry scope)).run made = ([], made) := rfl
    obtain ⟨rfl, -⟩ := Prod.mk.inj (none_.symm.trans ran)
    exact .nil
  | cons first rest ih =>
    rcases ranFirst : (fileEntry scope first).run made with ⟨node, more⟩
    rcases ranRest : (rest.mapM (fileEntry scope)).run more with ⟨others, after⟩
    have whole : ((first :: rest).mapM (fileEntry scope)).run made = (node :: others, after) := by
      rw [List.mapM_cons, run_bind_of ranFirst, run_bind_of ranRest]
      rfl
    obtain ⟨rfl, rfl⟩ := Prod.mk.inj (whole.symm.trans ran)
    exact .cons ⟨made, more, ranFirst⟩ (ih ranRest)

theorem mem_run_mapM {scope : List Declaration} {files : List String} {made last : Nat}
    {nodes : List Node} (ran : (files.mapM (fileEntry scope)).run made = (nodes, last))
    {node : Node} (member : node ∈ nodes) :
    ∃ file ∈ files, ∃ before more, (fileEntry scope file).run before = (node, more) := by
  have pairs := forall₂_run_mapM ran
  clear ran
  induction pairs with
  | nil => cases member
  | cons makes _ ih =>
    rcases List.mem_cons.mp member with rfl | later
    · exact ⟨_, List.mem_cons_self, makes⟩
    · obtain ⟨file, isFile, found⟩ := ih later
      exact ⟨file, List.mem_cons_of_mem _ isFile, found⟩

/-- The qualifiers that the root of a manifest declares are plain names. -/
def IsPlain (manifest : Document) : Prop :=
  ∀ declaration ∈ manifest.root.declarations, ∀ qualifier ∈ declaration.qualifier,
    isPlainName qualifier.toList = true

/-- Nothing can be declared under the qualifier of declarations. -/
theorem ne_xmlns_of_declare {qualifier uri : String} {declaration : Declaration}
    (declares : (declare (some qualifier) uri).1 = some declaration) : qualifier ≠ "xmlns" := by
  rintro rfl
  have notXml : ("xmlns" == "xml") = false := by decide
  unfold declare at declares
  dsimp only at declares
  rw [notXml, beq_self_eq_true, Bool.or_true, Bool.true_or] at declares
  cases declares

/-- What the root of a manifest declares can be used, if the qualifiers are plain names. -/
theorem usable_root {manifest : Document} (sound : manifest.root.Sound []) (plain : IsPlain manifest) :
    Usable manifest.root.declarations where
  distinct := sound.nodup_qualifiers
  plain declaration member qualifier isQualifier := by
    refine ⟨plain declaration member qualifier isQualifier, ?_⟩
    have resolved : (declarationsIn manifest.root.written).filterMap (·.1)
        = manifest.root.declarations := congrArg Tag.declarations sound.resolved
    rw [← resolved] at member
    obtain ⟨declared, isDeclared, isDeclaration⟩ := List.mem_filterMap.mp member
    obtain ⟨⟨name, value⟩, -, same⟩ := List.mem_filterMap.mp isDeclared
    obtain ⟨bound, -, rfl⟩ := Option.map_eq_some_iff.mp (same : declaration? name value = _)
    rw [qualifier_of_declare isDeclaration] at isQualifier
    rw [Option.mem_def.mp isQualifier] at isDeclaration
    exact ne_xmlns_of_declare isDeclaration

/-- A manifest that can be read can be read again when files were listed. -/
theorem sound_register {manifest : Document} (sound : manifest.Sound) (plain : IsPlain manifest)
    {files : List String} (valid : ∀ file ∈ files, IsValid file.toList) :
    (register files manifest).Sound := by
  obtain ⟨version, tree, accepted⟩ := sound
  cases tree with
  | element rootSound contentSound =>
    have usable := usable_root rootSound plain
    -- The new elements are sound, and nothing is noticed about them.
    have entries : ∀ node ∈ (((unlisted (listedIn (.element manifest.root manifest.content))
        files).mapM (fileEntry manifest.root.declarations)).run 0).run.1,
        node.Sound 255 (manifest.root.declarations.reverse ++ []) ∧
          noticesOf (manifest.root.declarations.reverse ++ []) node = [] := by
      intro node member
      obtain ⟨file, isFile, before, more, ran⟩ := mem_run_mapM rfl member
      obtain ⟨own, given, declared, last, isEntry, settled⟩ :=
        fileEntry_run manifest.root.declarations file before
      obtain ⟨rfl, -⟩ := Prod.mk.inj (ran.symm.trans isEntry)
      rw [List.append_nil]
      refine ⟨.element (settled.tagSound usable (valid file (mem_unlisted.mp isFile).1))
        (fun _ inside => absurd inside List.not_mem_nil), ?_⟩
      unfold noticesOf
      rw [settled.resolveTag usable]
      rfl
    refine ⟨version, .element rootSound fun node member => ?_, ?_⟩
    · rcases List.mem_append.mp member with old | new
      · exact contentSound node old
      · exact (entries node new).1
    · have silent {nodes : List Node} {scope : List Declaration}
          (each : ∀ node ∈ nodes, noticesOf scope node = []) : noticesOfAll scope nodes = [] := by
        induction nodes with
        | nil => rfl
        | cons first rest ih =>
          rw [List.forall_mem_cons] at each
          rw [noticesOfAll, each.1, ih each.2, List.append_nil]
      unfold noticesOf at accepted ⊢
      unfold register
      dsimp only
      rwa [noticesOfAll_append, silent fun node member => (entries node member).2, List.append_nil]

/-- Files can be listed in what can be read as a manifest, if a document may hold their names. -/
theorem extended_eq_ok_iff {files : List String} {bytes : ByteArray} :
    (∃ text, extended files bytes = .ok text) ↔
      (∃ manifest, Document.read bytes = .ok manifest) ∧ ∀ file ∈ files, IsValid file.toList := by
  unfold extended
  cases read : Document.read bytes with
  | error malformed =>
    constructor
    · rintro ⟨text, listed⟩
      cases listed
    · rintro ⟨⟨manifest, isRead⟩, -⟩
      cases isRead
  | ok manifest =>
    have same : (files.all fun file => file.toList.all isChar) = true ↔
        ∀ file ∈ files, IsValid file.toList := by
      simp only [List.all_eq_true]
      rfl
    dsimp only
    rw [← same]
    cases files.all fun file => file.toList.all isChar with
    | true => exact ⟨fun _ => ⟨⟨manifest, rfl⟩, rfl⟩, fun _ => ⟨_, rfl⟩⟩
    | false =>
      constructor
      · rintro ⟨text, listed⟩
        cases listed
      · rintro ⟨-, invalid⟩
        cases invalid

/-- A manifest that files were listed in can be read, and is that manifest, with its texts joined. -/
theorem read_extended {files : List String} {bytes : ByteArray} {manifest : Document}
    {text : List Char} (read : Document.read bytes = .ok manifest) (plain : IsPlain manifest)
    (listed : extended files bytes = .ok text) :
    Document.read (String.ofList text).toUTF8 = .ok (register files manifest).joined := by
  have valid := (extended_eq_ok_iff.mp ⟨text, listed⟩).2
  unfold extended at listed
  rw [read] at listed
  dsimp only at listed
  split at listed
  · cases listed
    exact read_print (sound_register (sound_of_read read) plain valid)
  · cases listed

end FormLetter.Manifest
