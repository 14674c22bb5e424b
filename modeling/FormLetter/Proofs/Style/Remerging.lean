import FormLetter.Proofs.Style.Merging
import FormLetter.Proofs.Xml.Carrying
import FormLetter.Proofs.Xml.Reprinting
import FormLetter.Proofs.Xml.Roundtrip

/-!
# Styles that are merged again

Where the declarations of several documents are in harmony, the styles of one can be read where they
are added to another one. So a document that others were merged into can be read again, and merging
the same ones once more adds nothing: of the styles that have names, none is missing.
-/

namespace FormLetter.Xml

/-- A document as the node of its root. -/
def Document.tree (document : Document) : Node := .element document.root document.content

end FormLetter.Xml

namespace FormLetter.Style

open FormLetter.Xml

/-! ## Documents in harmony -/

/-- What a new section declares. -/
def officeDeclaration : Declaration := ⟨some "office", officeNamespace⟩

/-- What a new section declares, and all that is declared in some documents. -/
def vocabulary (documents : List Document) : List Declaration :=
  officeDeclaration :: documents.flatMap fun document => declarationsOf document.tree

/-- Documents that are in harmony: nothing is noticed about the namespaces of any of them, each
declaration has a qualifier, and no qualifier stands for two namespaces among all of them. -/
structure Harmonious (documents : List Document) : Prop where
  silent : ∀ document ∈ documents, noticesOf [] document.tree = []
  qualified : ∀ declaration ∈ vocabulary documents, declaration.qualifier.isSome = true
  single : ∀ one ∈ vocabulary documents, ∀ other ∈ vocabulary documents,
    one.qualifier = other.qualifier → one = other

instance (documents : List Document) : Decidable (Harmonious documents) :=
  decidable_of_iff ((∀ document ∈ documents, noticesOf [] document.tree = [])
      ∧ (∀ declaration ∈ vocabulary documents, declaration.qualifier.isSome = true)
      ∧ ∀ one ∈ vocabulary documents, ∀ other ∈ vocabulary documents,
        one.qualifier = other.qualifier → one = other)
    ⟨fun ⟨silent, qualified, single⟩ => ⟨silent, qualified, single⟩,
      fun ⟨silent, qualified, single⟩ => ⟨silent, qualified, single⟩⟩

theorem clear_officeDeclaration : officeDeclaration.Clear where
  qualified := ⟨"office", rfl, by decide⟩
  declared := by decide +kernel
  valid := by
    have valid : officeNamespace.toList.all isChar = true := by decide +kernel
    exact List.all_eq_true.mp valid

section

variable {documents : List Document}

/-- What is declared in documents in harmony is in harmony. -/
theorem Harmonious.harmonic (harmonious : Harmonious documents)
    (sound : ∀ document ∈ documents, document.Sound) : Harmonic (vocabulary documents) where
  single := harmonious.single
  clear := by
    refine List.forall_mem_cons.mpr ⟨clear_officeDeclaration, fun declaration member => ?_⟩
    obtain ⟨document, isDocument, isDeclared⟩ := List.mem_flatMap.mp member
    refine (sound document isDocument).tree.clear (harmonious.silent document isDocument)
      (fun other isOther => harmonious.qualified other (List.mem_cons_of_mem _ ?_))
      declaration isDeclared
    exact List.mem_flatMap.mpr ⟨document, isDocument, isOther⟩

/-- Documents in harmony are known. -/
theorem Harmonious.known (harmonious : Harmonious documents)
    (sound : ∀ document ∈ documents, document.Sound) {document : Document}
    (member : document ∈ documents) :
    document.tree.Known (vocabulary documents) Xml.depthLimit [] := by
  refine (sound document member).tree.known (harmonious.silent document member)
    (harmonious.harmonic sound) (fun declaration isDeclared => ?_) (List.nil_subset _)
  exact List.mem_cons_of_mem _ (List.mem_flatMap.mpr ⟨document, member, isDeclared⟩)

end

/-! ## Merging what is known -/

section

variable {all scope around : List Declaration} {room : Nat} {base : String}
  {content added source : List Node} {tag : Tag}

theorem mem_of_findElement? {inner : List Node}
    (found : findElement? officeNamespace base content = some (tag, inner)) :
    .element tag inner ∈ content := by
  obtain ⟨node, member, isElement⟩ := List.mem_filterMap.mp (List.mem_of_find?_eq_some found)
  cases node with
  | element => cases isElement; exact member
  | _ => cases isElement

/-- A content is known when its sections are extended by what is known there. -/
theorem known_extendSection (known : ∀ node ∈ content, node.Known all (room + 1) scope)
    (knownAdded : ∀ tag inner, findElement? officeNamespace base content = some (tag, inner) →
      ∀ node ∈ added, node.Known all room (tag.declarations ++ scope)) :
    ∀ node ∈ extendSection base added content, node.Known all (room + 1) scope := by
  induction content with
  | nil => exact fun _ member => absurd member List.not_mem_nil
  | cons first rest ih =>
    rw [List.forall_mem_cons] at known
    cases first with
    | element tag inner =>
      rw [findElement?_element] at knownAdded
      cases named : tag.name.is officeNamespace base
      · rw [named] at knownAdded
        rw [extendSection_later named]
        exact List.forall_mem_cons.mpr ⟨known.1, ih known.2 knownAdded⟩
      · rw [named, if_pos rfl] at knownAdded
        rw [extendSection_here named]
        have parts := known.1.of_element
        refine List.forall_mem_cons.mpr ⟨.element parts.1 fun node member => ?_, known.2⟩
        exact (List.mem_append.mp member).elim (parts.2 node) (knownAdded tag inner rfl node)
    | _ =>
      rw [findElement?_other rfl] at knownAdded
      rw [extendSection_other rfl]
      exact List.forall_mem_cons.mpr ⟨known.1, ih known.2 knownAdded⟩

theorem known_insertSection {new : Node} (known : ∀ node ∈ content, node.Known all room scope)
    (knownNew : new.Known all room scope) :
    ∀ node ∈ insertSection new content, node.Known all room scope := by
  intro node member
  rw [insertSection_eq, List.mem_append, List.mem_cons] at member
  rcases member with early | rfl | late
  · exact known node (List.takeWhile_sublist _ |>.subset early)
  · exact knownNew
  · exact known node (List.dropWhile_sublist _ |>.subset late)

/-- A new section is known where it is put. -/
theorem known_newSection (harmonic : Harmonic all) (office : officeDeclaration ∈ all)
    (within : scope ⊆ all) (merged : base ∈ mergedSections) :
    ∃ new, newSection scope base = pure new ∧ new.Known all (room + 1) scope := by
  refine Node.Known.adopt (.element ⟨?_, ?_, ⟨?_, ?_⟩, ?_, ?_, ?_, ?_, ?_⟩ ?_) harmonic within
  · exact List.forall_mem_singleton.mpr office
  · simp
  · rcases eq_of_mem_mergedSections merged with rfl | rfl <;> decide
  · exact .inr ⟨"office", officeNamespace, rfl, rfl, .inr (List.mem_singleton.mpr rfl)⟩
  all_goals simp

/-- The texts behind an element are known anywhere. -/
theorem known_of_isText {node : Node} (known : node.Known all room around)
    (isText : node.isText = true) : node.Known all room scope := by
  cases known with
  | text valid => exact .text valid
  | _ => cases isText

/-- A style that is known where it comes from is known where it is added. -/
theorem known_nodes (harmonic : Harmonic all) (within : scope ⊆ all) (aroundWithin : around ⊆ all)
    {addition : Addition}
    (known : (Node.element addition.tag addition.content).Known all room around)
    (knownTail : ∀ node ∈ addition.tail, node.Known all room around ∧ node.isText = true) :
    ∃ nodes, addition.nodes scope = pure nodes ∧ ∀ node ∈ nodes, node.Known all room scope := by
  obtain ⟨element, isAdopted, isKnown⟩ :=
    (known.selfContained harmonic aroundWithin).adopt harmonic within
  refine ⟨element :: addition.tail, ?_, List.forall_mem_cons.mpr ⟨isKnown, fun node member => ?_⟩⟩
  · unfold Addition.nodes
    rw [isAdopted]
    rfl
  · have parts := knownTail node member
    exact known_of_isText parts.1 parts.2

/-- What is to be added from a content, and the texts behind it, are of that content. -/
theorem mem_of_mem_withTails {addition : Addition} (member : addition ∈ withTails content) :
    .element addition.tag addition.content ∈ content ∧
      ∀ node ∈ addition.tail, node ∈ content ∧ node.isText = true := by
  induction content with
  | nil => cases member
  | cons first rest ih =>
    have later (member : addition ∈ withTails rest) :
        .element addition.tag addition.content ∈ first :: rest ∧
          ∀ node ∈ addition.tail, node ∈ first :: rest ∧ node.isText = true := by
      have parts := ih member
      exact ⟨List.mem_cons_of_mem _ parts.1, fun node isTail =>
        (parts.2 node isTail).imp_left (List.mem_cons_of_mem _)⟩
    cases first with
    | element tag inner =>
      rcases List.mem_cons.mp member with rfl | member
      · refine ⟨List.mem_cons_self, fun node isTail => ⟨List.mem_cons_of_mem _ ?_, ?_⟩⟩
        · exact List.takeWhile_sublist _ |>.subset isTail
        · exact List.all_eq_true.mp List.all_takeWhile node isTail
      · exact later member
    | _ => exact later member

theorem mem_of_mem_newOnes {known : List Key} {additions : List Addition} {addition : Addition}
    (member : addition ∈ newOnes known additions) : addition ∈ additions := by
  induction additions generalizing known with
  | nil => cases member
  | cons first rest ih =>
    rw [newOnes] at member
    split at member
    · exact List.mem_cons_of_mem _ (ih member)
    · rcases List.mem_cons.mp member with rfl | member
      · exact List.mem_cons_self
      · exact List.mem_cons_of_mem _ (ih member)

/-- Styles that are known where they come from are known where they are added. -/
theorem makes_known_nodes {additions : List Addition}
    (each : ∀ addition ∈ additions, ∃ nodes, addition.nodes scope = pure nodes ∧
      ∀ node ∈ nodes, node.Known all room scope) :
    Makes (additions.mapM (·.nodes scope)) fun added =>
      ∀ node ∈ added.flatten, node.Known all room scope := by
  induction additions with
  | nil => exact .pure fun _ member => absurd member List.not_mem_nil
  | cons first rest ih =>
    rw [List.forall_mem_cons] at each
    obtain ⟨nodes, isNodes, known⟩ := each.1
    rw [List.mapM_cons, isNodes, pure_bind]
    refine (ih each.2).bind fun others knownOthers => .pure ?_
    rw [List.flatten_cons]
    exact List.forall_mem_append.mpr ⟨known, knownOthers⟩

/-- A content stays known when a section is put into it that it does not have. -/
theorem known_opened (harmonic : Harmonic all) (office : officeDeclaration ∈ all)
    (within : scope ⊆ all) (merged : base ∈ mergedSections)
    (known : ∀ node ∈ content, node.Known all (room + 1) scope) {β : Type}
    {next : List Node → StateM Nat β} {later : β → Prop}
    (others : ∀ content, (∀ node ∈ content, node.Known all (room + 1) scope) →
      Makes (next content) later) :
    Makes (if (findElement? officeNamespace base content).isSome then pure content >>= next
      else newSection scope base >>= fun new => pure (insertSection new content) >>= next) later := by
  split
  · rw [pure_bind]
    exact others _ known
  · obtain ⟨new, isNew, knownNew⟩ := known_newSection harmonic office within merged
    rw [isNew, pure_bind, pure_bind]
    exact others _ (known_insertSection known knownNew)

/-- One section of a known source is merged into a known content. -/
theorem known_mergeSection (harmonic : Harmonic all) (office : officeDeclaration ∈ all)
    (within : scope ⊆ all) (aroundWithin : around ⊆ all)
    (knownSource : ∀ node ∈ source, node.Known all (room + 2) around) {merged : Merged}
    (known : ∀ node ∈ merged.content, node.Known all (room + 2) scope)
    (isMerged : base ∈ mergedSections) :
    Makes (mergeSection scope source merged base) fun after =>
      ∀ node ∈ after.content, node.Known all (room + 2) scope := by
  unfold mergeSection
  cases found : findElement? officeNamespace base source with
  | none => exact .pure known
  | some styled =>
    obtain ⟨tag, styles⟩ := styled
    dsimp only
    have given := (knownSource _ (mem_of_findElement? found)).of_element
    have inner : tag.declarations ++ around ⊆ all :=
      List.append_subset.mpr ⟨given.1.declared, aroundWithin⟩
    split
    · exact .pure known
    · refine known_opened harmonic office within isMerged known fun content knownContent => ?_
      cases present : findElement? officeNamespace base content with
      | none => exact .pure known
      | some target =>
        obtain ⟨tagToo, presentToo⟩ := target
        have target := (knownContent _ (mem_of_findElement? present)).of_element
        have innerToo : tagToo.declarations ++ scope ⊆ all :=
          List.append_subset.mpr ⟨target.1.declared, within⟩
        have added : Makes ((newOnes (namedKeys presentToo) (withTails styles)).mapM
            (·.nodes (tagToo.declarations ++ scope))) fun added => ∀ node ∈ added.flatten,
              node.Known all (room + 1) (tagToo.declarations ++ scope) := by
          refine makes_known_nodes fun addition member => ?_
          have parts := mem_of_mem_withTails (mem_of_mem_newOnes member)
          exact known_nodes harmonic innerToo inner (given.2 _ parts.1) fun node isTail =>
            ⟨given.2 node (parts.2 node isTail).1, (parts.2 node isTail).2⟩
        dsimp only
        refine added.bind fun nodes knownNodes => .pure ?_
        refine known_extendSection knownContent fun other inner isOther => ?_
        rw [present] at isOther
        cases isOther
        exact knownNodes

end

/-- Known documents are merged into a known content. -/
theorem known_mergeDocuments {all scope : List Declaration} {room : Nat} (harmonic : Harmonic all)
    (office : officeDeclaration ∈ all) (within : scope ⊆ all) {sources : List Document}
    (knownSources : ∀ source ∈ sources, source.tree.Known all (room + 3) []) {merged : Merged}
    (known : ∀ node ∈ merged.content, node.Known all (room + 2) scope) :
    Makes (sources.foldlM (mergeDocument scope) merged) fun after =>
      ∀ node ∈ after.content, node.Known all (room + 2) scope := by
  induction sources generalizing merged with
  | nil => exact .pure known
  | cons first rest ih =>
    rw [List.forall_mem_cons] at knownSources
    have root := knownSources.1.of_element
    have around : first.root.declarations ++ [] ⊆ all :=
      List.append_subset.mpr ⟨root.1.declared, List.nil_subset _⟩
    have one {merged : Merged} (known : ∀ node ∈ merged.content, node.Known all (room + 2) scope)
        (base : String) (isMerged : base ∈ mergedSections) :=
      known_mergeSection harmonic office within around root.2 known isMerged
    rw [List.foldlM_cons]
    refine Makes.bind ?_ fun merged known => ih knownSources.2 known
    unfold mergeDocument mergedSections
    rw [List.foldlM_cons]
    refine (one known "styles" (by decide)).bind fun merged known => ?_
    rw [List.foldlM_cons]
    exact (one known "automatic-styles" (by decide)).bind fun merged known => .pure known

/-- Documents in harmony are merged into one that is known. -/
theorem known_merge {target : Document} {sources : List Document}
    (harmonious : Harmonious (target :: sources))
    (sound : ∀ document ∈ target :: sources, document.Sound) :
    (merge target sources).1.tree.Known (vocabulary (target :: sources)) Xml.depthLimit [] := by
  have known {document : Document} (member : document ∈ target :: sources) :
      document.tree.Known (vocabulary (target :: sources)) Xml.depthLimit [] :=
    harmonious.known sound member
  have root := (known List.mem_cons_self).of_element
  have within : target.root.declarations ⊆ vocabulary (target :: sources) := root.1.declared
  refine .element root.1 ?_
  rw [List.append_nil] at root ⊢
  exact known_mergeDocuments (harmonious.harmonic sound) List.mem_cons_self within
    (fun source member => known (List.mem_cons_of_mem _ member)) root.2 0

/-- Documents in harmony are merged into one that can be read again. -/
theorem sound_merge {target : Document} {sources : List Document}
    (harmonious : Harmonious (target :: sources))
    (sound : ∀ document ∈ target :: sources, document.Sound) : (merge target sources).1.Sound := by
  have parts := (known_merge harmonious sound).sound (harmonious.harmonic sound)
    (List.Subset.refl []) (List.nil_subset _)
  refine ⟨(sound target List.mem_cons_self).version, parts.1, ?_⟩
  have silent : noticesOf [] (.element (merge target sources).1.root
      (merge target sources).1.content) = [] := parts.2
  rw [silent]
  nofun

/-! ## What is known when styles are merged again -/

section

variable {known : List Key} {additions taken : List Addition} {addition : Addition}

/-- What was taken stays taken. -/
theorem subset_foldl_takeMissing (known : List Key) (additions taken : List Addition) :
    taken ⊆ additions.foldl (takeMissing known) taken := by
  induction additions generalizing taken with
  | nil => exact List.Subset.refl _
  | cons first rest ih =>
    rw [List.foldl_cons]
    refine fun _ member => ih _ ?_
    unfold takeMissing
    split
    · exact member
    · exact List.mem_append_left _ member

/-- What is to be added is taken, or it has a name and its key is known already or was taken. -/
theorem key_of_mem (known : List Key) (taken : List Addition) (member : addition ∈ additions) :
    known.contains addition.key = true ∨
      addition.key ∈ (additions.foldl (takeMissing known) taken).map Addition.key := by
  induction additions generalizing taken with
  | nil => cases member
  | cons first rest ih =>
    rw [List.foldl_cons]
    rcases List.mem_cons.mp member with rfl | later
    · have kept := subset_foldl_takeMissing known rest (takeMissing known taken addition)
      unfold takeMissing at kept ⊢
      split at kept
      · rename_i isKnown
        rw [if_pos isKnown]
        rw [Bool.and_eq_true, Bool.or_eq_true] at isKnown
        refine isKnown.2.imp id fun isTaken => ?_
        obtain ⟨other, isOther, same⟩ := List.mem_map.mp (List.contains_iff_mem.mp isTaken)
        exact List.mem_map.mpr ⟨other, kept isOther, same⟩
      · rename_i isNew
        rw [if_neg isNew]
        exact .inr (List.mem_map.mpr ⟨addition,
          kept (List.mem_append_right _ (List.mem_singleton.mpr rfl)), rfl⟩)
    · exact ih _ later

/-- Nothing is missing of what has a name and is known. -/
theorem missing_eq_nil (isKnown : ∀ addition ∈ additions,
      addition.key.name.isSome = true ∧ known.contains addition.key = true) :
    missing known additions = [] := by
  unfold missing
  induction additions with
  | nil => rfl
  | cons first rest ih =>
    rw [List.forall_mem_cons] at isKnown
    have notTaken : takeMissing known [] first = [] := by
      rw [takeMissing, isKnown.1.1, isKnown.1.2]
      rfl
    rw [List.foldl_cons, notTaken, ih isKnown.2]

end

/-- True for a document in which all styles that can be merged have names. -/
def IsNamed (document : Document) : Prop :=
  ∀ base ∈ mergedSections, ∀ addition ∈ withTails (sectionOf base document.content),
    addition.key.name.isSome = true

instance (document : Document) : Decidable (IsNamed document) :=
  inferInstanceAs (Decidable (∀ base ∈ mergedSections,
    ∀ addition ∈ withTails (sectionOf base document.content), addition.key.name.isSome = true))

theorem name_of_mem_givenByAll {sources : List Document} {base : String} {styles : List Node}
    {addition : Addition} (named : ∀ source ∈ sources, IsNamed source)
    (merged : base ∈ mergedSections) (isGiven : styles ∈ givenByAll sources base)
    (member : addition ∈ withTails styles) : addition.key.name.isSome = true := by
  obtain ⟨source, isSource, isStyles⟩ := List.mem_flatMap.mp isGiven
  refine named source isSource base merged addition ?_
  rw [sectionOf, Option.mem_toList.mp isStyles]
  exact member

theorem tailed_givenByAll (sources : List Document) (base : String) :
    Tailed ((givenByAll sources base).flatMap withTails) := by
  intro addition member
  obtain ⟨styles, -, isAddition⟩ := List.mem_flatMap.mp member
  exact tailed_withTails styles addition isAddition

/-- A document into which others were merged has all of their styles: when they are merged again,
nothing grows. -/
theorem Growth.Fits.again {content others : List Node} {sources : List Document}
    {growth second : Growth} (fits : growth.Fits content (givenByAll sources))
    (named : ∀ source ∈ sources, IsNamed source)
    (same : ∀ base, (sectionOf? base others).map namedKeys
      = (sectionOf? base (growth.result content)).map namedKeys)
    (again : second.Fits others (givenByAll sources)) : second.result others = others := by
  have present (base : String) (merged : base ∈ mergedSections) :
      sectionOf? base others = none → ∀ styles ∈ givenByAll sources base,
        styles.all Node.isText = true := by
    intro nowhere styles member
    refine Bool.not_eq_false _ ▸ fun notText => ?_
    have absent : sectionOf? base (growth.result content) = none := by
      have isNone := same base
      rw [nowhere, Option.map_none, eq_comm, Option.map_eq_none_iff] at isNone
      exact isNone
    have parts := (fits.absent_iff merged).mp absent
    exact parts.2 ((fits.made base merged).mpr ⟨parts.1, styles, member, notText⟩)
  have noneNew : second.new = [] := by
    refine List.eq_nil_iff_forall_not_mem.mpr fun tag member => ?_
    obtain ⟨base, merged, means⟩ := again.tags tag member
    obtain ⟨nowhere, styles, isGiven, notText⟩ :=
      (again.made base merged).mp ⟨tag, member, base_of_unqualified means⟩
    rw [present base merged nowhere styles isGiven] at notText
    cases notText
  have noneAdded (base : String) (merged : base ∈ mergedSections) : second.added base = [] := by
    have nothing : missing (namedKeys (sectionOf base others))
        ((givenByAll sources base).flatMap withTails) = [] := by
      refine missing_eq_nil fun addition member => ?_
      obtain ⟨styles, isGiven, isAddition⟩ := List.mem_flatMap.mp member
      have isNamed := name_of_mem_givenByAll named merged isGiven isAddition
      refine ⟨isNamed, ?_⟩
      cases there : sectionOf? base others with
      | none =>
        rw [withTails_eq_nil (present base merged there styles isGiven)] at isAddition
        cases isAddition
      | some found =>
        have sameKeys := same base
        rw [there, Option.map_some] at sameKeys
        obtain ⟨before, isThere, keys⟩ := Option.map_eq_some_iff.mp sameKeys.symm
        rw [sectionOf, there, Option.getD_some, ← keys, contains_namedKeys
          (tailed_givenByAll sources base) (fits.eq_of_sectionOf? merged isThere)
          (fits.added base merged) isNamed]
        exact Bool.or_eq_true_iff.mpr
          ((key_of_mem _ [] member).imp id List.contains_iff_mem.mpr)
    have means := again.added base merged
    rw [nothing, unqualifiedAll_eq_map] at means
    exact List.map_eq_nil_iff.mp means
  rw [result, extendAll_eq, noneNew, withSections_nil, noneAdded _ (by decide),
    noneAdded _ (by decide), extendSection_nil, extendSection_nil]

/-! ## What is read again -/

/-- An element as it is read when it was written. -/
def joinedElement (element : Tag × List Node) : Tag × List Node :=
  (element.1, (joinedOnto [] element.2).reverse)

theorem elements_putNode (before : List Node) (node : Node) :
    elements (putNode before node).reverse
      = elements before.reverse ++ node.element?.toList := by
  have put (before : List Node) : elements (node :: before).reverse
      = elements before.reverse ++ node.element?.toList := by
    rw [List.reverse_cons, elements_append]
    congr 1
  unfold putNode
  split
  · exact (List.append_nil _).symm
  · rename_i text before rest _
    rw [List.reverse_cons, List.reverse_cons, elements_append, elements_append]
    exact (List.append_nil _).symm
  · exact put before

/-- Joining texts keeps the elements. -/
theorem elements_joinedOnto (before content : List Node) :
    elements (joinedOnto before content).reverse
      = elements before.reverse ++ (elements content).map joinedElement := by
  induction content generalizing before with
  | nil => exact (List.append_nil _).symm
  | cons first rest ih =>
    rw [joinedOnto, ih, elements_putNode, List.append_assoc]
    congr 1
    cases first <;> rfl

theorem findElement?_joined (base : String) (content : List Node) :
    findElement? officeNamespace base (joinedOnto [] content).reverse
      = (findElement? officeNamespace base content).map joinedElement := by
  unfold findElement?
  rw [elements_joinedOnto, List.reverse_nil]
  exact List.find?_map

theorem namedKeys_joined (content : List Node) :
    namedKeys (joinedOnto [] content).reverse = namedKeys content := by
  unfold namedKeys
  rw [elements_joinedOnto, List.reverse_nil]
  have nothing : elements [] = [] := rfl
  rw [nothing, List.nil_append, List.map_map]
  rfl

/-- The styles of a document have the same keys when it was written and read again. -/
theorem sectionKeys_joined (base : String) (content : List Node) :
    (sectionOf? base (joinedOnto [] content).reverse).map namedKeys
      = (sectionOf? base content).map namedKeys := by
  unfold sectionOf?
  rw [findElement?_joined, Option.map_map, Option.map_map, Option.map_map]
  refine congrArg (Option.map · _) (funext fun element => ?_)
  exact namedKeys_joined element.2

/-- A document that others were merged into does not change when they are merged again, after it was
written and read. -/
theorem merge_again {target : Document} {sources : List Document}
    (named : ∀ source ∈ sources, IsNamed source) :
    (merge (merge target sources).1.joined sources).1 = (merge target sources).1.joined := by
  obtain ⟨growth, fits, isMerged⟩ := merge_grows target sources
  obtain ⟨second, again, isAgain⟩ := merge_grows (merge target sources).1.joined sources
  rw [isAgain]
  have same (base : String) : (sectionOf? base (merge target sources).1.joined.content).map namedKeys
      = (sectionOf? base (growth.result target.content)).map namedKeys := by
    rw [isMerged]
    exact sectionKeys_joined base (growth.result target.content)
  have unchanged := fits.again named same again
  rw [unchanged]

/-! ## Texts that are not empty -/

section

variable {base : String} {content added : List Node} {tag : Tag}

theorem areFilled_of_findElement? {inner : List Node} (filled : areFilled content = true)
    (found : findElement? officeNamespace base content = some (tag, inner)) :
    areFilled inner = true :=
  areFilled_iff.mp filled _ (mem_of_findElement? found)

theorem areFilled_extendSection (filled : areFilled content = true)
    (filledAdded : areFilled added = true) :
    areFilled (extendSection base added content) = true := by
  induction content with
  | nil => rfl
  | cons first rest ih =>
    have parts : first.isFilled = true ∧ areFilled rest = true := Bool.and_eq_true_iff.mp filled
    cases first with
    | element tag inner =>
      by_cases named : tag.name.is officeNamespace base
      · rw [extendSection_here named]
        refine Bool.and_eq_true_iff.mpr ⟨areFilled_iff.mpr ?_, parts.2⟩
        exact List.forall_mem_append.mpr ⟨areFilled_iff.mp parts.1, areFilled_iff.mp filledAdded⟩
      · rw [extendSection_later (Bool.not_eq_true _ ▸ named)]
        exact Bool.and_eq_true_iff.mpr ⟨parts.1, ih parts.2⟩
    | _ =>
      rw [extendSection_other rfl]
      exact Bool.and_eq_true_iff.mpr ⟨parts.1, ih parts.2⟩

theorem areFilled_withSections {new : List Tag} (filled : areFilled content = true) :
    areFilled (withSections new content) = true := by
  have each := areFilled_iff.mp filled
  refine areFilled_iff.mpr fun node member => ?_
  rw [withSections, List.mem_append, List.mem_append] at member
  rcases member with (early | isNew) | late
  · exact each node (List.takeWhile_sublist _ |>.subset early)
  · obtain ⟨tag, -, rfl⟩ := List.mem_map.mp isNew
    rfl
  · exact each node (List.dropWhile_sublist _ |>.subset late)

/-- What is added to documents without empty texts has none either. -/
theorem Growth.Fits.areFilled_added {sources : List Document} {growth : Growth}
    (fits : growth.Fits content (givenByAll sources)) (merged : base ∈ mergedSections)
    (filled : ∀ source ∈ sources, source.isFilled = true) : areFilled (growth.added base) = true := by
  rw [← areFilled_unqualified, fits.added base merged, areFilled_unqualified, areFilled_iff]
  intro node member
  obtain ⟨addition, isMissing, isWhole⟩ := List.mem_flatMap.mp member
  obtain ⟨styles, isGiven, isAddition⟩ := List.mem_flatMap.mp (missing_subset _ _ isMissing)
  obtain ⟨source, isSource, isStyles⟩ := List.mem_flatMap.mp isGiven
  obtain ⟨⟨tag, inner⟩, found, rfl⟩ := Option.map_eq_some_iff.mp (Option.mem_toList.mp isStyles)
  have each := areFilled_iff.mp (areFilled_of_findElement? (filled source isSource) found)
  have parts := mem_of_mem_withTails isAddition
  rcases List.mem_cons.mp isWhole with rfl | isTail
  · exact each _ parts.1
  · exact each node (parts.2 node isTail).1

end

/-- Documents without empty texts are merged into one without. -/
theorem isFilled_merge {target : Document} {sources : List Document}
    (filled : ∀ document ∈ target :: sources, document.isFilled = true) :
    (merge target sources).1.isFilled = true := by
  rw [List.forall_mem_cons] at filled
  obtain ⟨growth, fits, isMerged⟩ := merge_grows target sources
  rw [isMerged, Document.isFilled, Growth.result, extendAll_eq]
  exact areFilled_extendSection (areFilled_extendSection (areFilled_withSections filled.1)
    (fits.areFilled_added (by decide) filled.2)) (fits.areFilled_added (by decide) filled.2)

end FormLetter.Style
