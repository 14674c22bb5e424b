import FormLetter.Proofs.Letter.Rendering
import FormLetter.Proofs.Style.Remerging
import FormLetter.Proofs.Xml.Checking

/-!
# Styles that are shared

The styles of a part are those that were rendered, and behind them the missing ones of the other
documents. When one of the texts cannot be read, nothing is added. Where the namespaces of the texts
are in harmony, the merged text is read as what was merged, and merging the same styles once more
changes nothing. Elsewhere a style may lose its name when it is written: an attribute takes the
qualifier under which its namespace is known around the style, also where the style itself declares
this qualifier for another namespace.
-/

namespace FormLetter

open FormLetter.Script
open FormLetter.Style (mergedSections officeNamespace Growth Harmonious IsNamed givenByAll sectionOf
  merge merge_grows merge_again sound_merge isFilled_merge styleNamespace)

theorem Script.Local.fst_runFrom_map {α β : Type} (action : Local α) (change : α → β)
    (outlook : Outlook) (heap : Heap) :
    ((action >>= fun value => pure (change value)).runFrom outlook heap).1
      = (action.runFrom outlook heap).1.map change := by
  rw [Local.runFrom_bind]
  rcases action.runFrom outlook heap with ⟨fault | value, after⟩ <;> rfl

namespace Part

/-- The texts of the sources that were rendered. -/
def textsOf (sources : List StyleSource) : List (List Char) := sources.filterMap (·.rendered)

/-- Reading the sources fails where one of their texts cannot be read. -/
theorem fst_readSources (sources : List StyleSource) (outlook : Outlook) (heap : Heap) :
    ((sources.filterMapM fun source => do
        match source.rendered with
        | none => do
          report .debug .part ("Skipping partial without rendered styles: " ++ source.label)
          return none
        | some text => return some (← readRendered text) : Local (List Xml.Document)).runFrom
      outlook heap).1 = (textsOf sources).mapM readRendered := by
  induction sources generalizing heap with
  | nil => rfl
  | cons source rest ih =>
    rw [List.filterMapM_cons, Local.runFrom_bind, textsOf]
    cases isRendered : source.rendered with
    | none =>
      rw [List.filterMap_cons_none isRendered]
      exact ih _
    | some text =>
      rw [List.filterMap_cons_some isRendered, List.mapM_cons]
      dsimp only
      cases read : readRendered text with
      | error fault => rfl
      | ok document =>
        refine (Local.fst_runFrom_map _ (document :: ·) outlook heap).trans ?_
        rw [ih heap, textsOf]
        cases (rest.filterMap (·.rendered)).mapM readRendered <;> rfl

/-- What becomes of a part that styles are added to depends on the texts only. -/
theorem fst_mergeStyles {part : Part} {rendered : List Char} (isRendered : part.rendered = some rendered)
    (sources : List StyleSource) (outlook : Outlook) (heap : Heap) :
    ((part.mergeStyles sources).runFrom outlook heap).1
      = (readRendered rendered).bind fun target =>
        ((textsOf sources).mapM readRendered).map fun documents =>
          { part with rendered := some (merge target documents).1.print } := by
  unfold mergeStyles
  rw [isRendered]
  dsimp only
  cases readRendered rendered with
  | error fault => rfl
  | ok target =>
    have begun : (liftM (Except.ok target : Except Fault Xml.Document) : Local Xml.Document).runFrom
        outlook heap = (.ok target, heap) := rfl
    have others := fst_readSources sources outlook heap
    rw [Local.runFrom_bind, begun]
    dsimp only
    rw [Local.runFrom_bind]
    revert others
    generalize Local.runFrom (List.filterMapM _ sources) outlook heap = ran
    intro others
    obtain ⟨outcome, after⟩ := ran
    dsimp only at others
    rw [← others]
    cases outcome <;> rfl

/-- What is read of a text can be read again. -/
theorem sound_of_readRendered {text : List Char} {document : Xml.Document}
    (read : readRendered text = .ok document) : document.Sound := by
  unfold readRendered at read
  split at read
  · rename_i found isFound
    cases read
    exact Xml.sound_of_read isFound
  · cases read

/-- The first text is read first. -/
theorem mapM_readRendered_cons (text : List Char) (rest : List (List Char)) :
    (text :: rest).mapM readRendered = (readRendered text).bind fun first =>
      (rest.mapM readRendered).map (first :: ·) := by
  rw [List.mapM_cons]
  cases readRendered text with
  | error fault => rfl
  | ok first => cases rest.mapM readRendered <;> rfl

theorem mapM_readRendered_cons_eq_ok_iff {text : List Char} {rest : List (List Char)}
    {documents : List Xml.Document} :
    (text :: rest).mapM readRendered = .ok documents ↔
      ∃ first others, readRendered text = .ok first ∧ rest.mapM readRendered = .ok others ∧
        documents = first :: others := by
  rw [mapM_readRendered_cons]
  cases readRendered text with
  | error fault => exact ⟨nofun, nofun⟩
  | ok first =>
    cases rest.mapM readRendered with
    | error fault => exact ⟨nofun, nofun⟩
    | ok others =>
      constructor
      · rintro ⟨⟩
        exact ⟨first, others, rfl, rfl, rfl⟩
      · rintro ⟨_, _, ⟨⟩, ⟨⟩, rfl⟩
        rfl

theorem sound_of_mapM_readRendered {texts : List (List Char)} {documents : List Xml.Document}
    (read : texts.mapM readRendered = .ok documents) : ∀ document ∈ documents, document.Sound := by
  induction texts generalizing documents with
  | nil =>
    cases read
    exact fun _ member => absurd member List.not_mem_nil
  | cons text rest ih =>
    obtain ⟨first, others, isFirst, areOthers, rfl⟩ := mapM_readRendered_cons_eq_ok_iff.mp read
    exact List.forall_mem_cons.mpr ⟨sound_of_readRendered isFirst, ih areOthers⟩

/-- A sound document that is written can be read. -/
theorem readRendered_print {document : Xml.Document} (sound : document.Sound) :
    readRendered document.print = .ok document.joined := by
  unfold readRendered
  rw [Xml.read_print sound]

end Part

namespace Work

/-- Where the styles of a letter cannot be merged, nothing changes. -/
theorem mergeEnclosures_of_error {part : Part} {fault : Fault} {store : Store Workspace} {id : Nat}
    (held : (store.world.letter id).styles = some part)
    (fails : ((part.mergeStyles (sharedStyles store.world id)).runFrom
      (World.outlook store.world) store.toHeap).1 = .error fault) :
    ((mergeEnclosures id).runFrom store).1 = .error fault ∧
      ((mergeEnclosures id).runFrom store).2.world = store.world := by
  unfold mergeEnclosures
  rw [M.runFrom_bind, runFrom_workspace]
  dsimp only
  rw [held]
  dsimp only
  rw [M.runFrom_bind, M.runFrom_lift]
  revert fails
  generalize (part.mergeStyles (sharedStyles store.world id)).runFrom
    (World.outlook store.world) store.toHeap = ran
  intro fails
  obtain ⟨outcome, last⟩ := ran
  dsimp only at fails
  subst fails
  exact ⟨rfl, rfl⟩

end Work

namespace Part

section

variable {part : Part} {rendered : List Char} (isRendered : part.rendered = some rendered)
  {sources : List StyleSource}

include isRendered

/-- Where a text cannot be read, styles are not merged. -/
theorem fst_mergeStyles_of_error {fault : Fault}
    (fails : (rendered :: textsOf sources).mapM readRendered = .error fault) (outlook : Outlook)
    (heap : Heap) : ((part.mergeStyles sources).runFrom outlook heap).1 = .error fault := by
  rw [fst_mergeStyles isRendered]
  rw [mapM_readRendered_cons] at fails
  revert fails
  cases readRendered rendered with
  | error problem =>
    rintro ⟨⟩
    rfl
  | ok target =>
    cases (textsOf sources).mapM readRendered with
    | error problem =>
      rintro ⟨⟩
      rfl
    | ok documents => exact nofun

/-- Where all texts can be read, the documents are merged. -/
theorem fst_mergeStyles_of_ok {target : Xml.Document} {documents : List Xml.Document}
    (read : (rendered :: textsOf sources).mapM readRendered = .ok (target :: documents))
    (outlook : Outlook) (heap : Heap) : ((part.mergeStyles sources).runFrom outlook heap).1
      = .ok { part with rendered := some (merge target documents).1.print } := by
  obtain ⟨_, _, isTarget, areOthers, ⟨⟩⟩ := mapM_readRendered_cons_eq_ok_iff.mp read
  rw [fst_mergeStyles isRendered, isTarget, areOthers]
  rfl

end

/-- The styles of a part grow by the missing ones of the sources. -/
theorem mergeStyles_adds_missing {part : Part} {rendered : List Char}
    (isRendered : part.rendered = some rendered) (sources : List StyleSource) :
    (∀ fault, (rendered :: textsOf sources).mapM readRendered = .error fault →
      (∀ outlook heap, ((part.mergeStyles sources).runFrom outlook heap).1 = .error fault) ∧
      ∀ (store : Store Workspace) (id : Nat), (store.world.letter id).styles = some part →
        Work.sharedStyles store.world id = sources →
          ((Work.mergeEnclosures id).runFrom store).1 = .error fault ∧
          ((Work.mergeEnclosures id).runFrom store).2.world = store.world) ∧
    ∀ target documents,
      (rendered :: textsOf sources).mapM readRendered = .ok (target :: documents) →
      ∃ growth : Growth, growth.Fits target.content (givenByAll documents) ∧
        ∃ merged : Xml.Document, merged = { target with content := growth.result target.content } ∧
          (∀ base ∈ mergedSections,
            sectionOf base merged.content = sectionOf base target.content ++ growth.added base) ∧
          (∀ outlook heap, ((part.mergeStyles sources).runFrom outlook heap).1
            = .ok { part with rendered := some merged.print }) ∧
          (Harmonious (target :: documents) →
            readRendered merged.print = .ok merged.joined ∧
            ((∀ document ∈ documents, IsNamed document) →
              (∀ document ∈ target :: documents, document.isFilled = true) →
              ∀ outlook heap, ((mergeStyles { part with rendered := some merged.print }
                sources).runFrom outlook heap).1 = .ok { part with rendered := some merged.print })) := by
  refine ⟨fun fault fails => ?_, fun target documents read => ?_⟩
  · have outcome := fst_mergeStyles_of_error isRendered fails
    refine ⟨outcome, fun store id held same => ?_⟩
    subst same
    exact Work.mergeEnclosures_of_error held (outcome _ _)
  · have sound := sound_of_mapM_readRendered read
    obtain ⟨growth, fits, isMerged⟩ := merge_grows target documents
    refine ⟨growth, fits, _, isMerged, fun base isSection => ?_,
      fst_mergeStyles_of_ok isRendered read, fun harmonious => ?_⟩
    · rw [isMerged]
      exact fits.sectionOf_result isSection
    · have again := readRendered_print (sound_merge harmonious sound)
      refine ⟨again, fun named filled outlook heap => ?_⟩
      -- What was merged is read as it was, but for texts side by side, and nothing is missing in it.
      obtain ⟨_, _, -, areOthers, ⟨⟩⟩ := mapM_readRendered_cons_eq_ok_iff.mp read
      have reread : ((merge target documents).1.print :: textsOf sources).mapM readRendered
          = .ok ((merge target documents).1.joined :: documents) :=
        mapM_readRendered_cons_eq_ok_iff.mpr ⟨_, _, again, areOthers, rfl⟩
      rw [fst_mergeStyles_of_ok rfl reread, merge_again named,
        Xml.print_joined (isFilled_merge filled)]

/-- A document that declares something, with the given styles. -/
def styleSheet (declared : List Xml.Declaration) (styles : List Xml.Node) : Xml.Document where
  version := "1.0"
  root := ⟨⟨some "o", some officeNamespace, "d"⟩, ⟨some "o", officeNamespace⟩ :: declared, []⟩
  content := [.element ⟨⟨some "o", some officeNamespace, "styles"⟩, [], []⟩ styles]

/-- The declaration of a qualifier for the namespace of styles. -/
def styling (qualifier : String) : Xml.Declaration := ⟨some qualifier, styleNamespace⟩

/-- A style with a name. -/
def namedStyle (qualifier name : String) : Xml.Node :=
  .element ⟨⟨some qualifier, some styleNamespace, "style"⟩, [],
    [⟨⟨some qualifier, some styleNamespace, "name"⟩, name⟩]⟩ []

/-- Styles to which others are added. -/
def ownStyles : Xml.Document := styleSheet [styling "s"] [namedStyle "s" "A"]

/-- The same style and another one, with a text between them. -/
def otherStyles : Xml.Document :=
  styleSheet [styling "t"] [namedStyle "t" "A", .text ['-'], namedStyle "t" "B"]

/-- A source with these styles, and one that was not rendered. -/
def otherSources : List StyleSource := [⟨"p", some otherStyles.print⟩, ⟨"q", none⟩]

theorem mergeStyles_adds_missing_other : ∃ merged : Xml.Document,
    (∀ outlook heap,
      ((mergeStyles ⟨[], "styles.xml", some ownStyles.print⟩ otherSources).runFrom outlook heap).1
        = .ok ⟨[], "styles.xml", some merged.print⟩) ∧
    readRendered merged.print = .ok merged.joined ∧
    ∀ outlook heap,
      ((mergeStyles ⟨[], "styles.xml", some merged.print⟩ otherSources).runFrom outlook heap).1
        = .ok ⟨[], "styles.xml", some merged.print⟩ := by
  have read : (ownStyles.print :: textsOf otherSources).mapM readRendered
      = .ok [ownStyles.joined, otherStyles.joined] := by
    change [ownStyles.print, otherStyles.print].mapM readRendered = _
    have own : ownStyles.Sound := by decide
    have other : otherStyles.Sound := by decide
    rw [mapM_readRendered_cons, mapM_readRendered_cons, readRendered_print own,
      readRendered_print other]
    rfl
  have isRendered : Part.rendered ⟨[], "styles.xml", some ownStyles.print⟩ = some ownStyles.print :=
    rfl
  obtain ⟨_, -, merged, -, -, merges, again⟩ :=
    (mergeStyles_adds_missing isRendered otherSources).2 _ _ read
  obtain ⟨isRead, keeps⟩ := again (by decide)
  exact ⟨merged, merges, isRead, keeps (by decide) (by decide)⟩

/-- Styles to which others are added, of which there are none yet. -/
def noStyles : Xml.Document := styleSheet [styling "s"] []

/-- A style that declares the qualifier of the part it is added to for another namespace. -/
def hidingStyles : Xml.Document := styleSheet [] [.element
  ⟨⟨none, none, "e"⟩, [⟨some "s", "other"⟩, styling "q"],
    [⟨⟨some "q", some styleNamespace, "name"⟩, "A"⟩]⟩ []]

/-- A source with this style. -/
def hidingSources : List StyleSource := [⟨"p", some hidingStyles.print⟩]

/-- The style where its name is one of another namespace. -/
def hiddenStyle : Xml.Node := .element
  ⟨⟨none, none, "e"⟩, [⟨some "s", "other"⟩], [⟨⟨some "s", some "other", "name"⟩, "A"⟩]⟩ []

/-- So many times this style. -/
def hiddenStyles (count : Nat) : Xml.Document :=
  styleSheet [styling "s"] (List.replicate count hiddenStyle)

theorem readRendered_noStyles : readRendered noStyles.print = .ok noStyles.joined :=
  readRendered_print (by decide)

theorem readRendered_hidingStyles : readRendered hidingStyles.print = .ok hidingStyles.joined :=
  readRendered_print (by decide)

theorem readRendered_hiddenStyles :
    readRendered (hiddenStyles 1).print = .ok (hiddenStyles 1).joined :=
  readRendered_print (by decide)

theorem merge_hidingStyles :
    (merge noStyles.joined [hidingStyles.joined]).1.print = (hiddenStyles 1).print := by
  rfl

/-- A style that has lost its name where it was added is added again. -/
theorem mergeStyles_adds_again :
    readRendered hidingStyles.print = .ok hidingStyles.joined ∧ IsNamed hidingStyles.joined ∧
    (∀ outlook heap,
      ((mergeStyles ⟨[], "styles.xml", some noStyles.print⟩ hidingSources).runFrom outlook heap).1
        = .ok ⟨[], "styles.xml", some (hiddenStyles 1).print⟩) ∧
    (∀ outlook heap, ((mergeStyles ⟨[], "styles.xml", some (hiddenStyles 1).print⟩
      hidingSources).runFrom outlook heap).1
        = .ok ⟨[], "styles.xml", some (hiddenStyles 2).print⟩) ∧
    (hiddenStyles 1).print ≠ (hiddenStyles 2).print := by
  have sources : (textsOf hidingSources).mapM readRendered = .ok [hidingStyles.joined] := by
    change [hidingStyles.print].mapM readRendered = _
    rw [mapM_readRendered_cons, readRendered_hidingStyles]
    rfl
  have second : (merge (hiddenStyles 1).joined [hidingStyles.joined]).1.print
      = (hiddenStyles 2).print := by decide +kernel
  refine ⟨readRendered_hidingStyles, by decide, fun outlook heap => ?_,
    fun outlook heap => ?_, by decide +kernel⟩
  · have read := mapM_readRendered_cons_eq_ok_iff.mpr ⟨_, _, readRendered_noStyles, sources, rfl⟩
    rw [fst_mergeStyles_of_ok rfl read, merge_hidingStyles]
  · have read := mapM_readRendered_cons_eq_ok_iff.mpr ⟨_, _, readRendered_hiddenStyles, sources, rfl⟩
    rw [fst_mergeStyles_of_ok rfl read, second]

end Part

end FormLetter
