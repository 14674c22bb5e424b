import FormLetter.Letter.Deliver
import FormLetter.Proofs.Files.Copying
import FormLetter.Proofs.Letter.Keeping
import FormLetter.Proofs.Package.Commit

/-!
# Where a document is made

A document is begun as a copy of the letter's file, at the place where it shall be. Directories are
made on the way there, and nothing else is written. So up to there, whether it fails or not, the
letter's file is what it was, and at the place of the document stands what stood there before or
the copy. Only a place that is itself on its own way becomes a directory.
-/

namespace FormLetter

open FormLetter.Script

namespace Work

/-! ## What an order asks for -/

/-- An order gives a path by one of its options. -/
def Order.Gives (order : Order) (name : String) (path : Path) : Prop :=
  ∃ text, order.options.lookup name = some (.text text) ∧ path = .ofString text

theorem Order.Gives.unique {order : Order} {name : String} {path other : Path}
    (gives : order.Gives name path) (givesOther : order.Gives name other) : path = other := by
  obtain ⟨text, found, rfl⟩ := gives
  obtain ⟨again, foundAgain, rfl⟩ := givesOther
  rw [found] at foundAgain
  cases foundAgain
  rfl

/-- What becomes of the files when no document is made of an order: the letter's file is what it
was, and where the document should be stands what stood there, or a copy of the letter's file. A
path that leads back through directories that were not there may lead to one of them. -/
structure Order.Spares (order : Order) (before after : Files) : Prop where
  template : ∀ path, order.Gives "template_file" path → after.look path = before.look path
  output : ∀ path, order.Gives "output_file" path →
    (after.look path).toOption = (before.look path).toOption ∨
    (∃ template, order.Gives "template_file" template ∧
      after.look path = before.look template) ∨
    (before.look path).toOption = none ∧ after.look path = .ok .directory

theorem Order.Spares.refl (order : Order) (files : Files) : order.Spares files files :=
  ⟨fun _ _ => rfl, fun _ _ => Or.inl rfl⟩

section

variable {order : Order} {source target : Path} {before made after : Files}
  (template : order.Gives "template_file" source) (output : order.Gives "output_file" target)
  (isFile : before.isFile source = true)

include template output isFile

/-- A file is spared while directories are added. -/
theorem Order.Spares.of_grown (grown : Files.Grown before made)
    (spared : (made.look target).toOption = (before.look target).toOption ∨
      made.look target = before.look source ∨
      (before.look target).toOption = none ∧ made.look target = .ok .directory) :
    order.Spares before made := by
  refine ⟨fun path gives => ?_, fun path gives => ?_⟩
  · cases gives.unique template
    obtain ⟨item, found, -⟩ := Files.isFile_iff.mp isFile
    rw [found, grown.look found]
  · cases gives.unique output
    rcases spared with same | copy | directory
    · exact Or.inl same
    · exact Or.inr (Or.inl ⟨source, template, copy⟩)
    · exact Or.inr (Or.inr directory)

/-- Nothing comes of a document whose directory cannot be made. -/
theorem Order.spares_of_makeWithin_error {depth : Nat} {fault : Fault}
    (failed : before.makeWithin target.parent depth = (made, .error fault)) :
    order.Spares before made := by
  have grown := Files.grown_makeWithin before target.parent depth
  rw [failed] at grown
  obtain ⟨now, then_⟩ := Files.look_of_makeWithin_error failed
  exact .of_grown template output isFile grown (Or.inl (now.trans then_.symm))

/-- A file that cannot be copied is spared. -/
theorem Order.spares_of_copy_error {fault : Fault} (grown : Files.Grown before made)
    (failed : made.copy source target = .error fault) : order.Spares before made := by
  obtain ⟨item, found, isItem⟩ := Files.isFile_iff.mp isFile
  have stays := grown.look found
  refine .of_grown template output isFile grown ?_
  rcases Files.copy_eq_error (Files.isFile_iff.mpr ⟨item, stays, isItem⟩) failed with
    same | directory | nothing
  · exact Or.inr (Or.inl (same.trans (stays.trans found.symm)))
  · cases stood : before.look target with
    | error problem => exact Or.inr (Or.inr ⟨rfl, directory⟩)
    | ok other => exact Or.inl (by rw [grown.look stood])
  · cases stood : before.look target with
    | error problem => exact Or.inl nothing
    | ok other =>
      rw [grown.look stood] at nothing
      contradiction

/-- A file that was copied is spared, and so it is when the copy is written again. -/
theorem Order.spares_of_copy (grown : Files.Grown before made)
    (done : made.copy source target = .ok after) : order.Spares before after := by
  obtain ⟨item, found, -, wrote, apart⟩ := Files.copy_eq_ok done
  obtain ⟨there, foundBefore, -⟩ := Files.isFile_iff.mp isFile
  have same : there = item := Except.ok.inj ((grown.look foundBefore).symm.trans found)
  subst same
  refine ⟨fun path gives => ?_, fun path gives => ?_⟩
  · cases gives.unique template
    rw [foundBefore, Files.look_write_of_ne wrote found apart]
  · cases gives.unique output
    exact Or.inr (Or.inl ⟨source, template, (Files.look_write wrote).trans foundBefore.symm⟩)

end

/-! ## Reading an order -/

/-- A value that is refused as a path is none. -/
theorem not_path {value : Value} {path : Path} {store after : Store Workspace} :
    M.runFrom (do kindTrouble (.notPath (← kindOf value)) : Work Path) store
      ≠ (.ok path, after) := by
  intro done
  obtain ⟨kind, middle, -, done⟩ := M.runFrom_bind_eq_ok.mp done
  cases done

/-- Only a text is a path, and the path of a letter. -/
theorem pathArgument_eq_ok {value : Value} {path : Path} {store after : Store Workspace}
    (done : M.runFrom (pathArgument value) store = (.ok path, after)) :
    after = store ∧ ((∃ content isMarkup, value = .text content isMarkup ∧
      path = .ofString (String.ofList content)) ∨ ∃ id kind, value = .object id kind) := by
  unfold pathArgument at done
  split at done
  · cases done
    exact ⟨rfl, Or.inl ⟨_, _, rfl, rfl⟩⟩
  · split at done
    · cases done
      exact ⟨rfl, Or.inr ⟨_, _, rfl⟩⟩
    · exact absurd done not_path
  · exact absurd done not_path

/-- Of data, only texts are paths. -/
theorem ofJson_text {json : Json} {value : Value} {outlook : Outlook} {heap : Heap}
    (made : ((ofJson json).runFrom outlook heap).1 = .ok value)
    (isPath : (∃ content isMarkup, value = .text content isMarkup) ∨
      ∃ id kind, value = .object id kind) :
    ∃ text, json = .text text ∧ value = .ofString text := by
  obtain ⟨last, done⟩ : ∃ last, (ofJson json).runFrom outlook heap = (.ok value, last) :=
    ⟨_, Prod.ext made rfl⟩
  cases json with
  | text content =>
    cases done
    exact ⟨content, rfl, rfl⟩
  | null | bool | int | float =>
    cases done
    rcases isPath with ⟨_, _, same⟩ | ⟨_, _, same⟩ <;> cases same
  | array items | object members =>
    unfold ofJson at done
    obtain ⟨values, middle, -, made⟩ := Local.runFrom_bind_eq_ok.mp done
    cases made
    rcases isPath with ⟨_, _, same⟩ | ⟨_, _, same⟩ <;> cases same

/-- A path that an option is, is the one that the order gives. -/
theorem gives_of_option {order : Order} {name : String} {value : Value} {path : Path}
    {store after other last : Store Workspace}
    (done : M.runFrom (order.option name) store = (.ok value, after))
    (read : M.runFrom (pathArgument value) other = (.ok path, last)) :
    order.Gives name path ∧ last = other := by
  obtain ⟨same, isPath⟩ := pathArgument_eq_ok read
  unfold Order.option at done
  rw [M.runFrom_lift] at done
  obtain ⟨made, -⟩ := Prod.mk.inj done
  obtain ⟨text, found, rfl⟩ := ofJson_text made (isPath.imp_left
    fun ⟨content, isMarkup, isText, _⟩ => ⟨content, isMarkup, isText⟩)
  refine ⟨⟨text, ?_, ?_⟩, same⟩
  · cases given : order.options.lookup name with
    | none =>
      rw [given] at found
      cases found
    | some json =>
      rw [given] at found
      exact congrArg some found
  · rcases isPath with ⟨content, isMarkup, isText, rfl⟩ | ⟨_, _, isObject⟩
    · cases isText
      rw [String.ofList_toList]
    · cases isObject

/-! ## Copying -/

/-- The letter's file of an order was copied to where the document shall be. -/
structure Order.Copies (order : Order) (before : Files) (source target : Path) (after : Files) :
    Prop where
  template : order.Gives "template_file" source
  output : order.Gives "output_file" target
  isFile : before.isFile source = true
  done : ∃ made, Files.Grown before made ∧ made.copy source target = .ok after

theorem Order.Copies.spares {order : Order} {before after : Files} {source target : Path}
    (copies : order.Copies before source target after) : order.Spares before after := by
  obtain ⟨made, grown, copied⟩ := copies.done
  exact order.spares_of_copy copies.template copies.output copies.isFile grown copied

/-- The copy stands elsewhere than the letter's file. -/
theorem Order.Copies.apart {order : Order} {before after : Files} {source target : Path}
    (copies : order.Copies before source target after) :
    after.place source ≠ after.place target := by
  obtain ⟨made, -, copied⟩ := copies.done
  obtain ⟨item, found, -, wrote, apart⟩ := Files.copy_eq_ok copied
  obtain ⟨place, leads, -⟩ := Files.look_eq_ok_iff.mp found
  obtain ⟨other, leadsOther, -⟩ := Files.write_eq_ok wrote
  rw [leads, leadsOther] at apart
  rw [Files.place_write wrote leads, Files.place_write wrote leadsOther]
  exact apart

theorem runFrom_makeDirectories (path : Path) (store : Store Workspace) :
    M.runFrom (makeDirectories path) store
      = ((store.world.files.makeWithin path path.parts.length).2, { store with
        world := { store.world with
          files := (store.world.files.makeWithin path path.parts.length).1 } }) := by
  unfold makeDirectories
  rw [M.runFrom_bind, runFrom_files]
  rfl

/-- Copying the letter's file changes files and nothing else, and spares what stands there. -/
theorem copyTemplate_cases {order : Order} {template output : Value}
    {store after : Store Workspace} {outcome : Except Fault (Path × Path)}
    (readsTemplate : ∀ {path : Path} {other last : Store Workspace},
      M.runFrom (pathArgument template) other = (.ok path, last) →
        order.Gives "template_file" path ∧ last = other)
    (readsOutput : ∀ {path : Path} {other last : Store Workspace},
      M.runFrom (pathArgument output) other = (.ok path, last) →
        order.Gives "output_file" path ∧ last = other)
    (ran : M.runFrom (copyTemplate template output) store = (outcome, after)) :
    after.world.letters = store.world.letters ∧
      order.Spares store.world.files after.world.files ∧
      ∀ paths, outcome = .ok paths →
        order.Copies store.world.files paths.1 paths.2 after.world.files := by
  unfold copyTemplate at ran
  rw [M.runFrom_bind] at ran
  rcases readTemplate : M.runFrom (pathArgument template) store with ⟨fault | source, first⟩
  · rw [readTemplate] at ran
    cases ran
    rw [(leads_pathArgument template).world_eq readTemplate]
    exact ⟨rfl, .refl order _, nofun⟩
  · obtain ⟨givesTemplate, rfl⟩ := readsTemplate readTemplate
    rw [readTemplate] at ran
    dsimp only at ran
    rw [M.runFrom_bind, runFrom_files] at ran
    dsimp only at ran
    split at ran
    · cases ran
      exact ⟨rfl, .refl order _, nofun⟩
    · rename_i present
      have isFile : first.world.files.isFile source = true := by simpa using present
      rw [M.runFrom_bind] at ran
      rcases readOutput : M.runFrom (pathArgument output) first with ⟨fault | target, second⟩
      · rw [readOutput] at ran
        cases ran
        rw [(leads_pathArgument output).world_eq readOutput]
        exact ⟨rfl, .refl order _, nofun⟩
      · obtain ⟨givesOutput, rfl⟩ := readsOutput readOutput
        rw [readOutput] at ran
        dsimp only at ran
        rw [M.runFrom_bind, runFrom_makeDirectories] at ran
        have grown := Files.grown_makeWithin second.world.files target.parent
          target.parent.parts.length
        rcases making : second.world.files.makeWithin target.parent target.parent.parts.length
          with ⟨made, fault | _⟩
        · rw [making] at ran
          cases ran
          exact ⟨rfl, order.spares_of_makeWithin_error givesTemplate givesOutput isFile making,
            nofun⟩
        · rw [making] at ran grown
          dsimp only at ran
          rw [M.runFrom_bind, runFrom_files] at ran
          dsimp only at ran
          rw [M.runFrom_bind, M.runFrom_liftExcept] at ran
          cases copied : made.copy source target with
          | error fault =>
            rw [copied] at ran
            cases ran
            exact ⟨rfl, order.spares_of_copy_error givesTemplate givesOutput isFile grown copied,
              nofun⟩
          | ok files =>
            rw [copied] at ran
            cases ran
            have copies : order.Copies second.world.files source target files :=
              ⟨givesTemplate, givesOutput, isFile, made, grown, copied⟩
            refine ⟨rfl, copies.spares, fun paths isPaths => ?_⟩
            cases isPaths
            exact copies

/-! ## Opening the copy -/

/-- The copy of a letter's file was opened: it is the last letter, as the letter's file tells. -/
structure Opens (order : Order) (start : Store Workspace) (draft : Draft)
    (opened : Store Workspace) : Prop where
  copies : order.Copies start.world.files draft.source draft.target opened.world.files
  id : draft.id = start.world.letters.size
  letter : ∃ isLenient archive, Package.archiveAt? start.world.files draft.source = some archive ∧
    opened.world.letters = start.world.letters.push
      (.ofPackage {} isLenient (Package.ofArchive draft.target archive))

/-- The copy holds the archive that the letter's file is. -/
theorem Order.Copies.archiveAt?_eq {order : Order} {before after : Files} {source target : Path}
    (copies : order.Copies before source target after) :
    Package.archiveAt? after target = Package.archiveAt? before source := by
  obtain ⟨made, grown, copied⟩ := copies.done
  obtain ⟨item, found, -, wrote, -⟩ := Files.copy_eq_ok copied
  obtain ⟨there, foundBefore, -⟩ := Files.isFile_iff.mp copies.isFile
  have same : there = item := Except.ok.inj ((grown.look foundBefore).symm.trans found)
  unfold Package.archiveAt?
  rw [Files.look_write wrote, foundBefore, same]

/-- Opening the copy leaves the files as they are, and the letter is the last one. -/
theorem openCopy_cases {order : Order} {start store opened : Store Workspace}
    {source target : Path} {outcome : Except Fault Draft}
    (copies : order.Copies start.world.files source target store.world.files)
    (letters : store.world.letters = start.world.letters)
    (ran : M.runFrom (do
      let id ← openAt {} target
      let data ← ofJson order.data
      let options ← newRecord order.kind (← Script.bindings order.options)
      return ⟨source, target, id, ⟨id, data, options⟩⟩) store = (outcome, opened)) :
    order.Spares start.world.files opened.world.files ∧
      start.world.letters.size ≤ opened.world.letters.size ∧
      ∀ draft, outcome = .ok draft → Opens order start draft opened := by
  rw [M.runFrom_bind] at ran
  rcases openedCopy : M.runFrom (openAt {} target) store with ⟨fault | id, first⟩
  · rw [openedCopy] at ran
    cases ran
    rw [world_of_openAt_error openedCopy]
    exact ⟨copies.spares, Nat.le_of_eq (congrArg Array.size letters).symm, nofun⟩
  · rw [openedCopy] at ran
    obtain ⟨rfl, package, isPackage, now⟩ := openAt_eq_ok openedCopy
    obtain ⟨archive, found, rfl⟩ := Package.openAt_eq_ok_iff.mp isPackage
    rw [copies.archiveAt?_eq] at found
    rw [letters] at now
    have ends (same : opened.world = first.world) :
        order.Spares start.world.files opened.world.files ∧
          start.world.letters.size ≤ opened.world.letters.size := by
      rw [same, now, Array.size_push]
      exact ⟨copies.spares, Nat.le_succ _⟩
    have fails (failed : ∃ fault, outcome = .error fault ∧ opened.world = first.world) :
        order.Spares start.world.files opened.world.files ∧
          start.world.letters.size ≤ opened.world.letters.size ∧
          ∀ draft, outcome = .ok draft → Opens order start draft opened := by
      obtain ⟨fault, rfl, same⟩ := failed
      exact ⟨(ends same).1, (ends same).2, nofun⟩
    rcases (Leads.lift _).still_bind ran with failed | ⟨data, second, -, sameSecond, ran⟩
    · exact fails failed
    rcases (Leads.lift _).still_bind ran with failed | ⟨fields, third, -, sameThird, ran⟩
    · exact fails (sameSecond ▸ failed)
    rcases (Leads.lift _).still_bind ran with failed | ⟨options, fourth, -, sameFourth, ran⟩
    · exact fails (sameSecond ▸ sameThird ▸ failed)
    cases ran
    have same : opened.world = first.world := sameFourth.trans (sameThird.trans sameSecond)
    refine ⟨(ends same).1, (ends same).2, fun draft isDraft => ?_⟩
    cases isDraft
    refine ⟨?_, congrArg Array.size letters, store.isLenient, archive, found, ?_⟩
    · rw [same, now]
      exact copies
    · rw [same, now]

/-- Beginning a document spares what stands there, and opens the copy unless it fails. -/
theorem openDraft_cases {order : Order} {start opened : Store Workspace}
    {outcome : Except Fault Draft} (ran : M.runFrom (openDraft order) start = (outcome, opened)) :
    order.Spares start.world.files opened.world.files ∧
      start.world.letters.size ≤ opened.world.letters.size ∧
      ∀ draft, outcome = .ok draft → Opens order start draft opened := by
  have fails (failed : ∃ fault, outcome = .error fault ∧ opened.world = start.world) :
      order.Spares start.world.files opened.world.files ∧
        start.world.letters.size ≤ opened.world.letters.size ∧
        ∀ draft, outcome = .ok draft → Opens order start draft opened := by
    obtain ⟨fault, rfl, same⟩ := failed
    rw [same]
    exact ⟨.refl order _, Nat.le_refl _, nofun⟩
  unfold openDraft at ran
  rcases (Leads.lift _).still_bind ran with
    failed | ⟨template, first, givesTemplate, sameFirst, ran⟩
  · exact fails failed
  rcases (Leads.lift _).still_bind ran with
    failed | ⟨output, second, givesOutput, sameSecond, ran⟩
  · exact fails (sameFirst ▸ failed)
  rcases (Leads.lift _).still_bind ran with failed | ⟨_, third, -, sameThird, ran⟩
  · exact fails (sameFirst ▸ sameSecond ▸ failed)
  rcases (Leads.lift _).still_bind ran with failed | ⟨_, fourth, -, sameFourth, ran⟩
  · exact fails (sameFirst ▸ sameSecond ▸ sameThird ▸ failed)
  have same : fourth.world = start.world :=
    sameFourth.trans (sameThird.trans (sameSecond.trans sameFirst))
  split at ran
  · cases ran
    exact fails ⟨_, rfl, same⟩
  · rw [M.runFrom_bind] at ran
    rcases copied : M.runFrom (copyTemplate template output) fourth with ⟨fault | paths, fifth⟩
    · obtain ⟨letters, spares, -⟩ := copyTemplate_cases (gives_of_option givesTemplate)
        (gives_of_option givesOutput) copied
      rw [copied] at ran
      cases ran
      rw [same] at letters spares
      exact ⟨spares, Nat.le_of_eq (congrArg Array.size letters).symm, nofun⟩
    · obtain ⟨letters, spares, copies⟩ := copyTemplate_cases (gives_of_option givesTemplate)
        (gives_of_option givesOutput) copied
      rw [copied] at ran
      rw [same] at letters spares copies
      exact openCopy_cases (copies paths rfl) letters ran

end Work

end FormLetter
