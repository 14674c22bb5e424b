import FormLetter.Proofs.Letter.Delivery

/-!
# All or nothing

A document is made at its place by one commit at the very end. Up to there a copy of the letter's
file stands at that place, so that is what is left when anything fails; and when nothing fails, the
document that stands there holds what was rendered and edited. The letter's file is what it was in
any case, as long as the code of the letter opens no other letter.
-/

namespace FormLetter

open FormLetter.Script

namespace Work

/-! ## Deliveries -/

/-- How a document came about: what was begun, what was rendered, and what was edited. -/
structure Delivery (order : Order) (edits : Nat → Store Workspace → List Edit)
    (start : Store Workspace) where
  draft : Draft
  opened : Store Workspace
  filled : Store Workspace
  making : Making
  isOpen : M.runFrom (openDraft order) start = (.ok draft, opened)
  makes : Makes (hostWithin enclosureLimit) draft.id draft.occasion opened making.content
    making.styles
  registers : Registers (hostWithin enclosureLimit) draft.id draft.occasion opened making.pictures
  isFilled : M.runFrom (fillDraft draft) opened = (.ok (), filled)
  edited : making.edits = edits draft.id filled

/-- A document stands where it should: it is made as the delivery tells, of the letter's file. -/
structure Delivers (order : Order) (edits : Nat → Store Workspace → List Edit)
    (start final : Store Workspace) (target : Path) : Prop where
  output : order.Gives "output_file" target
  document : ∃ delivery : Delivery order edits start, delivery.draft.target = target ∧
    order.Gives "template_file" delivery.draft.source ∧
    ∃ source names listed,
      Package.archiveAt? start.world.files delivery.draft.source = some source ∧
      Package.archiveAt? final.world.files target = some listed ∧
      DocumentOf {} source delivery.making names listed

section

variable {order : Order} {customize : Option (Nat → Work Unit)}
  {edits : Nat → Store Workspace → List Edit} {start opened filled changed final : Store Workspace}
  {draft : Draft}

/-- A copy that was opened is rendered, changed and closed, or the files are as they were. -/
theorem finish_cases (customizes : Customizes edits customize) {outcome : Except Fault Path}
    (ran : M.runFrom (do
      fillDraft draft
      changeDraft customize draft.id
      close draft.id
      report .info .document ("Rendered " ++ draft.source.name ++ " into " ++ draft.target.toString)
      return draft.target) opened = (outcome, final))
    (alone : final.world.letters.size ≤ opened.world.letters.size) :
    (∃ fault, outcome = .error fault ∧ final.world.files = opened.world.files) ∨
      outcome = .ok draft.target ∧ ∃ filled changed closed,
        M.runFrom (fillDraft draft) opened = (.ok (), filled) ∧
        M.runFrom (changeDraft customize draft.id) filled = (.ok (), changed) ∧
        changed.world.files = opened.world.files ∧
        M.runFrom (close draft.id) changed = (.ok (), closed) ∧
        final.world.files = closed.world.files := by
  -- There are never fewer letters than before, so at no step were there more than at the end.
  have fills := alone_fillDraft draft opened.world.letters.size opened (Nat.le_refl _)
  rw [M.runFrom_bind] at ran
  rcases filling : M.runFrom (fillDraft draft) opened with ⟨fault | _, filled⟩
  · rw [filling] at ran fills
    cases ran
    exact Or.inl ⟨fault, rfl, fills.2 alone⟩
  rw [filling] at ran fills
  dsimp only at ran fills
  have changes := alone_changeDraft customizes draft.id opened.world.letters.size filled fills.1
  rw [M.runFrom_bind] at ran
  rcases changing : M.runFrom (changeDraft customize draft.id) filled with ⟨fault | _, changed⟩
  · rw [changing] at ran changes
    cases ran
    have few := Nat.le_trans changes.1 alone
    exact Or.inl ⟨fault, rfl, (changes.2 alone).trans (fills.2 few)⟩
  rw [changing] at ran changes
  dsimp only at ran changes
  rw [M.runFrom_bind] at ran
  rcases closing : M.runFrom (close draft.id) changed with ⟨fault | _, closed⟩
  · obtain ⟨size, ⟨_, -, same⟩ | ⟨isOk, -⟩⟩ := close_cases closing
    · rw [closing] at ran
      cases ran
      rw [size] at alone
      have few := Nat.le_trans changes.1 alone
      exact Or.inl ⟨fault, rfl, same.trans ((changes.2 alone).trans (fills.2 few))⟩
    · cases isOk
  · obtain ⟨size, -⟩ := close_cases closing
    rw [closing] at ran
    cases ran
    rw [size] at alone
    have few := Nat.le_trans changes.1 alone
    exact Or.inr ⟨rfl, filled, changed, closed, rfl, changing,
      (changes.2 alone).trans (fills.2 few), closing, rfl⟩

/-- What is written when a document is closed: a package that is finished, since nothing was done to
the one that was opened but what rendering, saving and editing do. -/
theorem written_of_close (customizes : Customizes edits customize)
    (opens : Opens order start draft opened) (isOpen : M.runFrom (openDraft order) start
      = (.ok draft, opened))
    (clean : ∀ archive, Package.archiveAt? start.world.files draft.source = some archive →
      ∀ entry ∈ archive, ¬ IsOwn entry.name)
    (isFilled : M.runFrom (fillDraft draft) opened = (.ok (), filled))
    (isChanged : M.runFrom (changeDraft customize draft.id) filled = (.ok (), changed))
    (isClosed : M.runFrom (close draft.id) changed = (.ok (), final)) :
    ∃ delivery : Delivery order edits start, delivery.draft = draft ∧
      ∃ source package, Package.archiveAt? start.world.files draft.source = some source ∧
        Finished source draft.target delivery.making package ∧
        (∀ name ∈ ["content.xml", "styles.xml"], (source.named? name).isSome) ∧
        changed.world.files.write draft.target (.archive package.toArchive)
          = .ok final.world.files := by
  obtain ⟨isLenient, source, found, letter⟩ := opens.letter_eq
  have fresh : (opened.world.letter draft.id).isCompiled = false := by
    rw [letter]
    exact not_isCompiled (clean source found)
  obtain ⟨hasParts, inside, content, styles, pictures, before, makes, registers, fills, rendered,
    saved⟩ := fillDraft_eq_ok opens fresh isFilled
  rw [letter] at hasParts fills
  let making : Making := ⟨content, styles, pictures, edits draft.id filled⟩
  let delivery : Delivery order edits start :=
    ⟨draft, opened, filled, making, isOpen, makes, registers, isFilled, rfl⟩
  obtain ⟨there, last, customizing, isRendered, savedAgain, does, edited, customized⟩ :=
    changeDraft_eq_ok customizes making inside rfl rendered saved isChanged
  obtain ⟨filling, fillsOnly, filledSo⟩ := fills
  have layout : (changed.world.letter draft.id).layout = {} := by
    rw [savedAgain]
    exact isRendered.layout
  obtain ⟨-, ⟨_, isError, -⟩ | ⟨-, closes⟩⟩ := close_cases isClosed
  · cases isError
  obtain ⟨closedPackage, closed⟩ := closes there
  have done : ∀ operation ∈ filling ++ customizing, making.Does operation :=
    List.forall_mem_append.mpr ⟨fun operation member => Or.inl (fillsOnly operation member), does⟩
  have finished : Finished source draft.target making
      (withoutSources {} (changed.world.letter draft.id).package) := by
    rw [savedAgain]
    unfold Letter.saved
    rw [isRendered.layout]
    exact finished_withoutSources done
      (fun operation member => List.mem_append_right filling (edited member))
      (filledSo.trans customized)
  obtain ⟨bytes, text, read, isIndented⟩ := hasParts.content
  have modified := finished.isModified (one_lt_size_of_indented isIndented) read
  rw [layout] at closed
  exact ⟨delivery, rfl, source, _, found, finished, hasParts.named, finished.wrote modified closed⟩

/-- A document is made wholly or not at all, and its letter is left alone. Whatever happens, the
letter's file is what it was. When no document is made, what stood at its place stands there, or a
copy of the letter's file; and when one is made, it is what was rendered and edited. The letter has
no entries of the kind that letters keep for themselves, and its code opens no other letter. -/
theorem deliver_all_or_nothing (customizes : Customizes edits customize)
    (clean : ∀ path archive, order.Gives "template_file" path →
      Package.archiveAt? start.world.files path = some archive →
      ∀ entry ∈ archive, ¬ IsOwn entry.name)
    (readable : ∀ path entries, order.Gives "template_file" path →
      start.world.files.look path = .ok (.archive entries) → Archive.IsReadable entries)
    {outcome : Except Fault Path}
    (ran : M.runFrom (deliver order customize) start = (outcome, final))
    (alone : final.world.letters.size ≤ start.world.letters.size + 1) :
    (∀ path, order.Gives "template_file" path →
      final.world.files.look path = start.world.files.look path) ∧
    (∀ fault, outcome = .error fault → order.Spares start.world.files final.world.files) ∧
    ∀ target, outcome = .ok target → Delivers order edits start final target := by
  have spared (fault : Fault) (failed : outcome = .error fault)
      (spares : order.Spares start.world.files final.world.files) :
      (∀ path, order.Gives "template_file" path →
        final.world.files.look path = start.world.files.look path) ∧
      (∀ fault, outcome = .error fault → order.Spares start.world.files final.world.files) ∧
      ∀ target, outcome = .ok target → Delivers order edits start final target := by
    subst failed
    exact ⟨spares.template, fun _ _ => spares, nofun⟩
  unfold deliver at ran
  rw [M.runFrom_bind] at ran
  rcases opening : M.runFrom (openDraft order) start with ⟨fault | draft, opened⟩
  · rw [opening] at ran
    cases ran
    exact spared fault rfl (openDraft_cases opening).1
  obtain ⟨spares, -, opensOnly⟩ := openDraft_cases opening
  have opens := opensOnly draft rfl
  have size : opened.world.letters.size = start.world.letters.size + 1 := by
    obtain ⟨isLenient, archive, -, letters⟩ := opens.letter
    rw [letters, Array.size_push]
  rw [opening] at ran
  dsimp only at ran
  rcases finish_cases customizes ran (size ▸ alone) with ⟨fault, failed, same⟩ | ⟨done, filled,
    changed, closed, isFilled, isChanged, sameChanged, isClosed, sameClosed⟩
  · exact spared fault failed (same ▸ spares)
  obtain ⟨delivery, isDraft, source, package, found, finished, parts, wrote⟩ :=
    written_of_close customizes opens opening (clean draft.source · opens.copies.template)
      isFilled isChanged isClosed
  rw [sameChanged, ← sameClosed] at wrote
  have isReadable : source.IsReadable :=
    Package.isReadable_of_archiveAt? (readable draft.source · opens.copies.template) found
  subst done
  refine ⟨fun path gives => ?_, nofun, fun target isTarget => ?_⟩
  · cases gives.unique opens.copies.template
    obtain ⟨item, stands, -⟩ := Files.isFile_iff.mp opens.copies.isFile
    have stays := spares.template draft.source opens.copies.template
    rw [stands] at stays ⊢
    exact Files.look_write_of_ne wrote stays opens.copies.apart
  · cases isTarget
    refine ⟨opens.copies.output, delivery, congrArg Draft.target isDraft,
      isDraft ▸ opens.copies.template, source, package.names, package.toArchive, isDraft ▸ found,
      ?_, finished.document (clean draft.source source opens.copies.template found) isReadable
        parts⟩
    rw [Package.archiveAt?, Files.look_write wrote]
    rfl

end

/-- Edits a document. -/
def editing (edits : List Edit) (id : Nat) : Work Unit := do
  let files ← files
  change id fun letter => edits.foldl (Edit.perform files) letter

theorem customizes_editing (edits : List Edit) :
    Customizes (fun _ _ => edits) (some (editing edits)) := fun _ _ => rfl

/-- A letter without code. It names a text twice. -/
def plainLetter : Archive :=
  [⟨"a.txt", ⟨.deflated, 0, .earliest⟩, "first".toUTF8⟩,
    ⟨"content.xml", ⟨.stored, 5, .earliest⟩, "<a/>".toUTF8⟩,
    ⟨"mimetype", ⟨.stored, 2, .earliest⟩, "letter".toUTF8⟩,
    ⟨"styles.xml", ⟨.deflated, 7, .earliest⟩, "<a/>".toUTF8⟩,
    ⟨"a.txt", ⟨.stored, 0, .earliest⟩, "last".toUTF8⟩]

/-- A store with that letter and no other files. -/
def plainStart : Store Workspace :=
  .start false ⟨[(["t.odt"], .archive plainLetter)], #[]⟩

/-- An order for a document of that letter. -/
def plainOrder (output : String) : Order :=
  ⟨.options, [("template_file", .text "t.odt"), ("output_file", .text output)], .null⟩

/-- Makes a document of that letter. -/
def deliverPlain (output : String) (edits : List Edit) : Except Fault Path × Store Workspace :=
  M.runFrom (deliver (plainOrder output) (some (editing edits))) plainStart

/-- The names of the entries of a document. -/
def namesAt (store : Store Workspace) (path : Path) : Option (List String) :=
  (Package.archiveAt? store.world.files path).map fun archive => archive.map (·.name)

/-- Another content, and a note that is put into the document. -/
def noteAdded : List Edit :=
  [.content "<c/>".toList, .entries (.write "notes.txt" "x".toUTF8) nofun]

/-- A document is made of the letter, with another content and with the note. -/
theorem deliver_all_or_nothing_noteAdded :
    (deliverPlain "o.odt" noteAdded).2.world.files.look ⟨"", ["t.odt"]⟩
        = .ok (.archive plainLetter) ∧
      Delivers (plainOrder "o.odt") (fun _ _ => noteAdded) plainStart
        (deliverPlain "o.odt" noteAdded).2 ⟨"", ["o.odt"]⟩ ∧
      namesAt (deliverPlain "o.odt" noteAdded).2 ⟨"", ["o.odt"]⟩
        = some ["mimetype", "a.txt", "content.xml", "styles.xml", "notes.txt"] := by
  have template : (plainOrder "o.odt").Gives "template_file" ⟨"", ["t.odt"]⟩ :=
    ⟨"t.odt", rfl, by decide⟩
  have stands : plainStart.world.files.look ⟨"", ["t.odt"]⟩ = .ok (.archive plainLetter) := rfl
  have found : Package.archiveAt? plainStart.world.files ⟨"", ["t.odt"]⟩ = some plainLetter := rfl
  obtain ⟨succeeds, alone, names⟩ :
      (deliverPlain "o.odt" noteAdded).1.toOption = some ⟨"", ["o.odt"]⟩ ∧
      (deliverPlain "o.odt" noteAdded).2.world.letters.size
        ≤ plainStart.world.letters.size + 1 ∧
      namesAt (deliverPlain "o.odt" noteAdded).2 ⟨"", ["o.odt"]⟩
        = some ["mimetype", "a.txt", "content.xml", "styles.xml", "notes.txt"] := by decide +kernel
  have clean : ∀ entry ∈ plainLetter, ¬ IsOwn entry.name := by decide
  have readable : plainLetter.IsReadable := by
    unfold Archive.IsReadable
    decide
  rcases ran : deliverPlain "o.odt" noteAdded with ⟨outcome, final⟩
  rw [ran] at succeeds alone names
  obtain ⟨letter, -, document⟩ := deliver_all_or_nothing (customizes_editing noteAdded)
    (fun path archive gives isArchive => by
      cases gives.unique template
      cases found.symm.trans isArchive
      exact clean)
    (fun path entries gives isArchive => by
      cases gives.unique template
      cases stands.symm.trans isArchive
      exact readable) ran alone
  refine ⟨(letter _ template).trans stands, document _ ?_, names⟩
  cases outcome with
  | error fault => cases succeeds
  | ok target =>
    cases succeeds
    rfl

/-- A note that is put beside the compiled parts. -/
def noteBeside : List Edit :=
  [.entries (.write "documatic/master/notes.txt" "x".toUTF8) nofun]

/-- Something more than the letter and the edits may be left. When a note is put beside the compiled
parts, their directory stays with it, though no edit made it. What the letter names twice is listed
once. And a document whose place leads back through a directory that was not there fails, but leaves
that directory at its place. -/
theorem deliver_leaves_directories :
    ((deliverPlain "o.odt" noteBeside).2.world.letters.size ≤ 1 ∧
      plainLetter.map (·.name) = ["a.txt", "content.xml", "mimetype", "styles.xml", "a.txt"] ∧
      namesAt (deliverPlain "o.odt" noteBeside).2 ⟨"", ["o.odt"]⟩
        = some ["mimetype", "a.txt", "content.xml", "styles.xml", "documatic/master/",
          "documatic/master/notes.txt"]) ∧
    (∀ edit ∈ noteBeside, ∀ operation ∈ edit.operation?,
      ¬ operation.Touches "documatic/master/") ∧
    (deliverPlain "a/../a" []).2.world.letters.size ≤ 1 ∧
      (deliverPlain "a/../a" []).1.toOption = none ∧
      plainStart.world.files.isDirectory ⟨"", ["a", "..", "a"]⟩ = false ∧
      plainStart.world.files.isFile ⟨"", ["a", "..", "a"]⟩ = false ∧
      (deliverPlain "a/../a" []).2.world.files.isDirectory ⟨"", ["a", "..", "a"]⟩ = true := by
  refine ⟨by decide +kernel, fun edit member operation done => ?_, by decide⟩
  rw [noteBeside, List.mem_singleton] at member
  subst member
  cases done
  have differs : "documatic/master/" ≠ "documatic/master/notes.txt" := by decide
  rintro (enters | out)
  · exact differs enters
  · cases out

end Work

end FormLetter
