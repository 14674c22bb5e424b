import FormLetter.Proofs.Letter.Document
import FormLetter.Proofs.Letter.Drafting
import FormLetter.Proofs.Letter.Saving

/-!
# From a copy to a document

A copy of a letter's file was opened. It is rendered and saved, edited and saved once more, and
closed. What that does to its package is told step by step, up to the package that is written when
it is closed. Until then no file changes, as long as the code of the letter opens no other letter.
-/

namespace FormLetter

open FormLetter.Script

namespace Work

/-! ## Editing -/

/-- A document is changed by edits only: by these, when its letter has this number and the store is
this. It may fail all the same, after some of them. -/
def Customizes (edits : Nat → Store Workspace → List Edit) :
    Option (Nat → Work Unit) → Prop
  | none => ∀ id store, edits id store = []
  | some customize => ∀ id store, (M.runFrom (customize id) store).2.world
      = store.world.modify id fun letter =>
          (edits id store).foldl (Edit.perform store.world.files) letter

section

variable {files : Files} {letter : Letter} {edits : List Edit}

/-- Edits do their operations to the package. -/
theorem develops_edits :
    Package.Develops (edits.filterMap Edit.operation?) letter.package
      (edits.foldl (Edit.perform files) letter).package := by
  induction edits generalizing letter with
  | nil => exact .refl _
  | cons edit rest ih =>
    rw [List.foldl_cons]
    have others := @ih (edit.perform files letter)
    cases edit with
    | content text | styles text => exact others
    | entries operation pending =>
      exact (Package.develops_after pending letter.package files).trans others

/-- Edits leave the path and the layout of a letter. -/
theorem setting_edits : (edits.foldl (Edit.perform files) letter).setting = letter.setting := by
  induction edits generalizing letter with
  | nil => rfl
  | cons edit rest ih =>
    rw [List.foldl_cons, ih]
    cases edit <;> rfl

/-- A letter that holds texts holds those that edits leave. -/
theorem content_edits {text : List Char} (held : letter.content.bind (·.rendered) = some text) :
    (edits.foldl (Edit.perform files) letter).content.bind (·.rendered)
      = some (edits.foldl Edit.contentAfter text) := by
  induction edits generalizing letter text with
  | nil => exact held
  | cons edit rest ih =>
    rw [List.foldl_cons, List.foldl_cons]
    refine ih ?_
    cases edit with
    | styles other | entries operation pending => exact held
    | content other =>
      obtain ⟨part, isPart, -⟩ := Option.bind_eq_some_iff.mp held
      simp [Edit.perform, Edit.contentAfter, isPart]

theorem styles_edits {text : List Char} (held : letter.styles.bind (·.rendered) = some text) :
    (edits.foldl (Edit.perform files) letter).styles.bind (·.rendered)
      = some (edits.foldl Edit.stylesAfter text) := by
  induction edits generalizing letter text with
  | nil => exact held
  | cons edit rest ih =>
    rw [List.foldl_cons, List.foldl_cons]
    refine ih ?_
    cases edit with
    | content other | entries operation pending => exact held
    | styles other =>
      obtain ⟨part, isPart, -⟩ := Option.bind_eq_some_iff.mp held
      simp [Edit.perform, Edit.stylesAfter, isPart]

end

/-! ## Filling a document -/

section

variable {order : Order} {customize : Option (Nat → Work Unit)}
  {edits : Nat → Store Workspace → List Edit} {start opened filled changed final : Store Workspace}
  {draft : Draft}

theorem Opens.inside (opens : Opens order start draft opened) :
    draft.id < opened.world.letters.size := by
  obtain ⟨isLenient, archive, -, letters⟩ := opens.letter
  rw [opens.id, letters, Array.size_push]
  exact Nat.lt_succ_self _

/-- What code does leaves the files as they are, as long as there are no letters but the document
and those before. -/
theorem alone_fillDraft (draft : Draft) (count : Nat) :
    Leads (Workspace.alone count) (fillDraft draft) := by
  unfold fillDraft process
  refine (leads_processWith (fun subject name given => ?_) (alone_renders _) _).seq
    (leads_save (alone_renders _).toFills)
  exact Workspace.alone_of_keeping (keepsAll_hostWithin enclosureLimit _ subject name given)

theorem alone_changeDraft (customizes : Customizes edits customize) (id count : Nat) :
    Leads (Workspace.alone count) (changeDraft customize id) := by
  cases customize with
  | none => exact Leads.pure _
  | some customize =>
    refine Leads.seq (fun store enough => ?_) (leads_save (alone_renders _).toFills)
    rw [customizes id store]
    exact ⟨Nat.le_of_eq (Workspace.size_modify _ _ _).symm, fun _ => rfl⟩

/-- The letter of a document that was just opened is as the letter's file tells. -/
theorem Opens.letter_eq (opens : Opens order start draft opened) :
    ∃ isLenient archive, Package.archiveAt? start.world.files draft.source = some archive ∧
      opened.world.letter draft.id
        = .ofPackage {} isLenient (Package.ofArchive draft.target archive) := by
  obtain ⟨isLenient, archive, found, letters⟩ := opens.letter
  refine ⟨isLenient, archive, found, ?_⟩
  have last := Workspace.letter_push_size opened.world.files start.world.letters
    (.ofPackage {} isLenient (Package.ofArchive draft.target archive))
  rw [← letters, ← opens.id] at last
  exact last

/-- A letter without own names is not compiled. -/
theorem not_isCompiled {isLenient : Bool} {path : Path} {archive : Archive}
    (clean : ∀ entry ∈ archive, ¬ IsOwn entry.name) :
    (Letter.ofPackage {} isLenient (Package.ofArchive path archive)).isCompiled = false := by
  have free (name : String) (member : name ∈ (Package.ofArchive path archive).names) :
      ¬ IsOwn name := by
    obtain ⟨entry, stands⟩ := Option.isSome_iff_exists.mp (Package.mem_names_ofArchive.mp member)
    exact not_isOwn_of_named clean stands
  have own : IsOwn "documatic/master" ∧ IsOwn (Package.directoryName "documatic/master") := by
    decide
  change (Package.ofArchive path archive).has "documatic/master" = false
  unfold Package.has
  rw [Bool.or_eq_false_iff, Bool.eq_false_iff, List.any_eq_false]
  refine ⟨fun present => free _ (List.contains_iff_mem.mp present) own.1,
    fun name member inside => ?_⟩
  exact free name member (own.2.trans (List.isPrefixOf_iff_prefix.mp inside))

/-- A letter of the usual layout that holds these texts. -/
structure Rendered (letter : Letter) (content styles : List Char) : Prop where
  layout : letter.layout = {}
  content : letter.content.bind (·.rendered) = some content
  styles : letter.styles.bind (·.rendered) = some styles

/-- Saving a rendered letter writes its texts. -/
theorem save_of_rendered_letter {store after : Store Workspace} {id : Nat}
    {content styles : List Char} (inside : id < store.world.letters.size)
    (rendered : Rendered (store.world.letter id) content styles)
    (done : M.runFrom (save id) store = (.ok (), after)) :
    after.world.files = store.world.files ∧ id < after.world.letters.size ∧
      after.world.letter id = (store.world.letter id).saved content styles := by
  rw [save_of_holds store ⟨rendered.content, rendered.styles⟩] at done
  cases done
  exact ⟨rfl, Nat.lt_of_lt_of_eq inside (Workspace.size_modify _ _ _).symm,
    Workspace.letter_modify_self inside _⟩

/-- A document that was rendered and saved: what was rendered, which pictures were registered, and
what its letter was before it was saved. -/
theorem fillDraft_eq_ok (opens : Opens order start draft opened)
    (fresh : (opened.world.letter draft.id).isCompiled = false)
    (done : M.runFrom (fillDraft draft) opened = (.ok (), filled)) :
    HasParts (opened.world.letter draft.id) ∧ draft.id < filled.world.letters.size ∧
      ∃ content styles pictures, ∃ before : Letter,
        Makes (hostWithin enclosureLimit) draft.id draft.occasion opened content styles ∧
        Registers (hostWithin enclosureLimit) draft.id draft.occasion opened pictures ∧
        Package.Fills {} pictures (opened.world.letter draft.id).package before.package ∧
        Rendered before content styles ∧
        filled.world.letter draft.id = before.saved content styles := by
  have hosted := keepsAll_hostWithin enclosureLimit
  obtain ⟨isLenient, archive, -, letter⟩ := opens.letter_eq
  have layout : (opened.world.letter draft.id).layout = {} := by
    rw [letter]
    rfl
  unfold fillDraft process at done
  obtain ⟨_, rendered, processed, saved⟩ := M.runFrom_bind_eq_ok.mp done
  obtain ⟨there, content, styles, makes, holds⟩ := processWith_eq_ok hosted opens.inside processed
  obtain ⟨hasParts, pictures, registers, fills⟩ :=
    processWith_fills hosted opens.inside fresh processed
  have framed := shown_after Letter.setting (leads_processWith (fun subject name given =>
    shows_of_keeps (hosted _ subject name given) fun _ => rfl) setting_renders _)
    opens.inside processed
  have isRendered : Rendered (rendered.world.letter draft.id) content styles :=
    ⟨(Prod.mk.inj framed.2).2.trans layout, holds.1, holds.2⟩
  obtain ⟨-, inside, isSaved⟩ := save_of_rendered_letter there isRendered saved
  rw [layout] at fills
  exact ⟨hasParts, inside, content, styles, pictures, _, makes, registers, fills, isRendered,
    isSaved⟩

/-! ## Changing it -/

/-- Saving a letter writes its parts. -/
theorem develops_saved {letter : Letter} (layout : letter.layout = {})
    (content styles : List Char) :
    Package.Develops (saving content styles) letter.package
      (letter.saved content styles).package := by
  unfold Letter.saved
  rw [layout]
  exact (Package.develops_write _ _ _).trans (Package.develops_write _ _ _)

/-- A document that was changed is saved once more, with the texts that the edits left. Nothing but
the edits was done to its package between. -/
theorem changeDraft_eq_ok (customizes : Customizes edits customize) {id : Nat} {before : Letter}
    (making : Making) (inside : id < filled.world.letters.size)
    (edited : making.edits = edits id filled)
    (rendered : Rendered before making.content making.styles)
    (saved : filled.world.letter id = before.saved making.content making.styles)
    (done : M.runFrom (changeDraft customize id) filled = (.ok (), changed)) :
    id < changed.world.letters.size ∧ ∃ last : Letter, ∃ operations,
      Rendered last making.contentLeft making.stylesLeft ∧
      changed.world.letter id = last.saved making.contentLeft making.stylesLeft ∧
      (∀ operation ∈ operations, making.Does operation) ∧ making.operations ⊆ operations ∧
      Package.Develops operations before.package last.package := by
  cases customize with
  | none =>
    cases done
    have nothing : making.edits = [] := edited.trans (customizes id filled)
    unfold Making.contentLeft Making.stylesLeft Making.operations
    rw [nothing]
    exact ⟨inside, before, [], rendered, saved, nofun, List.Subset.refl _, .refl _⟩
  | some customize =>
    obtain ⟨_, customized, ran, done⟩ := M.runFrom_bind_eq_ok.mp done
    have world := customizes id filled
    rw [ran, ← edited] at world
    dsimp only at world
    have there : id < customized.world.letters.size := by
      rw [world]
      exact Nat.lt_of_lt_of_eq inside (Workspace.size_modify _ _ _).symm
    have now : customized.world.letter id = making.edits.foldl
        (Edit.perform filled.world.files) (before.saved making.content making.styles) := by
      rw [world, Workspace.letter_modify_self inside, saved]
    have isRendered : Rendered (customized.world.letter id) making.contentLeft
        making.stylesLeft := by
      rw [now]
      refine ⟨?_, content_edits rendered.content, styles_edits rendered.styles⟩
      exact (Prod.mk.inj setting_edits).2.trans rendered.layout
    obtain ⟨-, still, isSaved⟩ := save_of_rendered_letter there isRendered done
    refine ⟨still, _, saving making.content making.styles ++ making.operations, isRendered, isSaved,
      ?_, List.subset_append_right _ _, ?_⟩
    · exact List.forall_mem_append.mpr
        ⟨making.does_saving _ _, fun _ member => Or.inr (Or.inr (Or.inr member))⟩
    · rw [now]
      exact (develops_saved rendered.layout _ _).trans develops_edits

/-! ## Closing it -/

/-- A part that can be indented is no single byte: none is a document. -/
theorem one_lt_size_of_indented {bytes : ByteArray} {text : List Char}
    (done : indented bytes = .ok text) : 1 < bytes.size := by
  have refused : ∀ n < 256, (indented ⟨#[UInt8.ofNat n]⟩).toOption = none := by decide +kernel
  have empty : (indented ⟨#[]⟩).toOption = none := by decide +kernel
  obtain ⟨⟨_ | ⟨first, _ | ⟨second, rest⟩⟩⟩⟩ := bytes
  · rw [done] at empty
    cases empty
  · have single := refused first.toNat (UInt8.toNat_lt first)
    rw [UInt8.ofNat_toNat, done] at single
    cases single
  · change 1 < (first :: second :: rest).length
    simp

/-- A letter with parts has entries for them. -/
theorem HasParts.named {isLenient : Bool} {path : Path} {archive : Archive}
    (parts : HasParts (.ofPackage {} isLenient (Package.ofArchive path archive))) :
    ∀ name ∈ ["content.xml", "styles.xml"], (archive.named? name).isSome := by
  have named {name : String} {bytes : ByteArray}
      (read : (Package.ofArchive path archive).read name = .ok bytes) :
      (archive.named? name).isSome := by
    refine Package.mem_names_ofArchive.mp (?_ : name ∈ (Package.ofArchive path archive).names)
    unfold Package.read Package.content? at read
    split at read
    · rename_i found
      exact Keyed.lookup_isSome_iff.mp (Option.isSome_iff_exists.mpr ⟨_, found⟩)
    · cases read
  obtain ⟨_, _, content, -⟩ := parts.content
  obtain ⟨_, _, styles, -⟩ := parts.styles
  intro name member
  rw [List.mem_cons, List.mem_singleton] at member
  rcases member with rfl | rfl
  · exact named content
  · exact named styles

/-- Closing a letter closes its package without the compiled parts, or fails and changes no
files. -/
theorem close_cases {id : Nat} {store after : Store Workspace} {outcome : Except Fault Unit}
    (ran : M.runFrom (close id) store = (outcome, after)) :
    after.world.letters.size = store.world.letters.size ∧
      ((∃ fault, outcome = .error fault ∧ after.world.files = store.world.files) ∨
        outcome = .ok () ∧ (id < store.world.letters.size → ∃ package, Package.close
          (withoutSources (store.world.letter id).layout (store.world.letter id).package)
            store.world.files = .ok (package, after.world.files))) := by
  unfold close at ran
  rw [M.runFrom_bind, runFrom_letter] at ran
  dsimp only at ran
  rw [M.runFrom_bind, runFrom_changePackage] at ran
  dsimp only at ran
  let layout := (store.world.letter id).layout
  rcases closePackage_cases id { store with world := store.world.modify id fun letter =>
      { letter with package := withoutSources layout letter.package } } with
    ⟨fault, -, closed⟩ | ⟨package, files, log, closed, isClosed⟩
  · rw [closed] at ran
    cases ran
    exact ⟨Workspace.size_modify _ _ _, Or.inl ⟨fault, rfl, rfl⟩⟩
  · rw [isClosed] at ran
    cases ran
    refine ⟨(Workspace.size_modify _ _ _).trans (Workspace.size_modify _ _ _),
      Or.inr ⟨rfl, fun inside => ⟨package, ?_⟩⟩⟩
    rw [Workspace.letter_modify_self inside] at closed
    dsimp only [Workspace.modify] at closed
    exact closed

end

end Work

end FormLetter
