import FormLetter.Proofs.Letter.Inspecting
import FormLetter.Proofs.Letter.Registering
import FormLetter.Proofs.Letter.Repeating
import FormLetter.Proofs.Package.Closing
import Mathlib.Logic.Relation

/-!
# What is saved is in the file when a letter is closed

Between its opening and its closing, anything may be asked of a letter, and any of that may fail;
its package may be used, other letters may be worked on, and files may change. Whatever happened,
the package is orderly as far as the content is concerned. So the content that a save writes is
another one than the package remembers, and the close writes it, unless the letter was closed
before.

Closing is done once: what is saved into a letter that was closed before never gets into its file.
And an archive cuts names at a zero, so what was written under such a name cannot be found there
again.
-/

namespace FormLetter

open FormLetter.Script

namespace Work

variable {id : Nat} {path : Path} {α : Type}

/-! ## Letters that stay in order -/

/-- A letter of the usual layout whose package is orderly as far as the content is concerned. -/
def IsTended (id : Nat) (path : Path) (workspace : Workspace) : Prop :=
  ∃ package, Package.IsOrderly "content.xml" path package ∧ Shows id packed (package, {}) workspace

theorem IsTended.layout {workspace : Workspace} (tended : IsTended id path workspace) :
    (workspace.letter id).layout = {} := by
  obtain ⟨_, -, -, shown⟩ := tended
  exact (Prod.mk.inj shown).2

/-- What leaves the package as it is leaves it orderly. -/
theorem tended_of_shows {action : Work α} (shows : Leads (showing id packed) action) :
    Leads (keepingTrue (IsTended id path)) action := by
  rintro store ⟨package, orderly, shown⟩
  exact ⟨package, orderly, shown.after_leads shows⟩

/-- A change of the package that keeps it orderly. -/
theorem tended_changePackage {change : Package → Package}
    (keeps : ∀ {package}, Package.IsOrderly "content.xml" path package →
      Package.IsOrderly "content.xml" path (change package)) :
    Leads (keepingTrue (IsTended id path)) (changePackage id change) := by
  rintro store ⟨package, orderly, shown⟩
  obtain ⟨-, shownAfter⟩ := Holding.change ⟨rfl, shown⟩ change
  exact ⟨change package, keeps orderly, shownAfter⟩

/-- The compiled parts are no content. -/
theorem orderly_keep (sources : Sources) {package : Package}
    (orderly : Package.IsOrderly "content.xml" path package) :
    Package.IsOrderly "content.xml" path (sources.keep {} package) := by
  have whole : ∀ name ∈ [Package.directoryName ({} : Layout).sourceDirectory,
      ({} : Layout).contentSource, ({} : Layout).stylesSource], '\x00' ∉ name.toList := by
    decide
  have apart {name : String} (member : name ∈ [Package.directoryName ({} : Layout).sourceDirectory,
      ({} : Layout).contentSource, ({} : Layout).stylesSource]) :
      Archive.keptName name = "content.xml" → name = "content.xml" :=
    Package.IsOrderly.apart_of_whole (whole name member)
  exact ((orderly.makeDirectory (apart (by simp))).write (apart (by simp)) _).write
    (apart (by simp)) _

theorem tended_of_readying {action : Work α} (readying : Readying id action) :
    Leads (keepingTrue (IsTended id path)) action := by
  rintro store ⟨package, orderly, shown⟩
  obtain ⟨after, rfl | ⟨sources, rfl⟩, shownAfter⟩ := readying store package {} shown
  · exact ⟨after, orderly, shownAfter⟩
  · exact ⟨_, orderly_keep sources orderly, shownAfter⟩

/-- A picture is no content, even when its name is cut. -/
theorem apart_picture (name : String) :
    Archive.keptName (({} : Layout).pictureDirectory ++ "/" ++ name) = "content.xml" →
      ({} : Layout).pictureDirectory ++ "/" ++ name = "content.xml" := by
  intro same
  have begins : (Archive.keptName (({} : Layout).pictureDirectory ++ "/" ++ name)).toList.head?
      = some 'P' := by
    unfold Archive.keptName
    rw [String.toList_ofList, String.toList_append]
    rfl
  rw [same] at begins
  exact absurd begins (by decide)

theorem tended_embedPicture (name : String) (source : Path) :
    Leads (keepingTrue (IsTended id path)) (embedPicture id name source) := by
  rintro store ⟨package, orderly, shown⟩
  rcases embedPicture_cases ⟨rfl, shown⟩ (name, source) with
    ⟨fault, -, ran⟩ | ⟨added, middle, copied, ran, -, shownAfter⟩
  · rw [ran]
    exact ⟨package, orderly, shown⟩
  · rw [ran]
    exact ⟨added, orderly.addFile (apart_picture name) copied, shownAfter⟩

theorem tended_makePictureDirectory :
    Leads (keepingTrue (IsTended id path)) (makePictureDirectory id) := by
  have whole : '\x00' ∉ (Package.directoryName ({} : Layout).pictureDirectory).toList := by
    decide
  rintro store ⟨package, orderly, shown⟩
  obtain ⟨middle, ran, -, shownAfter⟩ := makePictureDirectory_holding ⟨rfl, shown⟩
  rw [ran]
  refine ⟨_, ?_, shownAfter⟩
  unfold Package.withPictureDirectory
  split
  · exact orderly
  · exact orderly.makeDirectory (Package.IsOrderly.apart_of_whole whole)

theorem tended_register (added : List String) :
    Leads (keepingTrue (IsTended id path)) (register id added) := by
  have whole : '\x00' ∉ ({} : Layout).manifestPart.toList := by decide
  have writes (bytes : ByteArray) : Leads (keepingTrue (IsTended id path))
      (changePackage id (·.write ({} : Layout).manifestPart bytes)) :=
    tended_changePackage fun orderly =>
      orderly.write (Package.IsOrderly.apart_of_whole whole) bytes
  intro store tended
  unfold register
  rw [M.runFrom_bind, runFrom_letter]
  dsimp only
  rw [tended.layout]
  split
  · exact ((Leads.liftExcept _).bind fun _ => (Leads.liftExcept _).bind fun written => writes _)
      store tended
  · exact tended

theorem tended_addPictures : Leads (keepingTrue (IsTended id path)) (addPictures id) := by
  unfold addPictures embedPictures
  refine (leads_letter id).bind fun before => Leads.ite (Leads.pure _) ?_
  refine tended_makePictureDirectory.seq ((leads_letter id).bind fun before => ?_)
  refine (Leads.mapM fun picture => tended_embedPicture _ _).bind fun added => ?_
  exact (tended_register added).seq (Leads.lift _)

theorem tended_process (occasion : Occasion) :
    Leads (keepingTrue (IsTended id path)) (process id occasion) := by
  have styles (part : Part) :
      Leads (showing id packed) (Work.change id (Letter.withStyles part)) :=
    shows_change fun _ => rfl
  have bare : Leads (showing id packed) (Work.change id Letter.bare) := shows_change packed_bare
  unfold process processWith fill addRegistered
  refine Leads.afterwards (Leads.bind ?_ fun _ => Leads.seq ?_ tended_addPictures)
    (tended_of_shows bare)
  · exact tended_of_readying (readying_renderParts (keepsAll_hostWithin _) occasion)
  · exact tended_of_shows (leads_addEnclosed styles)

theorem tended_save : Leads (keepingTrue (IsTended id path)) (save id) := by
  have whole : ∀ name ∈ [({} : Layout).contentPart, ({} : Layout).stylesPart],
      '\x00' ∉ name.toList := by decide
  refine leads_save_of_layout (fun _ tended => tended.layout) fun name isPart text => ?_
  exact tended_changePackage fun orderly =>
    orderly.write (Package.IsOrderly.apart_of_whole (whole name isPart)) _

theorem orderly_withoutSources {package : Package}
    (orderly : Package.IsOrderly "content.xml" path package) :
    Package.IsOrderly "content.xml" path (withoutSources {} package) := by
  obtain ⟨taken, same, -⟩ := withoutSources_eq package
  rw [same]
  exact orderly.discardAll taken

theorem tended_closePackage : Leads (keepingTrue (IsTended id path)) (closePackage id) := by
  rintro store ⟨package, orderly, inside, shown⟩
  obtain ⟨samePackage, sameLayout⟩ := Prod.mk.inj shown
  rcases closePackage_cases id store with ⟨fault, -, ran⟩ | ⟨after, files, log, closed, ran⟩
  · rw [ran]
    exact ⟨package, orderly, inside, shown⟩
  · rw [ran]
    rw [samePackage] at closed
    refine ⟨after, orderly.close closed,
      Nat.lt_of_lt_of_eq inside (Workspace.size_modify _ _ _).symm, ?_⟩
    have there : id < ({ store.world with files } : Workspace).letters.size := inside
    change packed (Workspace.letter (Workspace.modify _ id _) id) = _
    rw [Workspace.letter_modify_self there]
    exact Prod.ext rfl sameLayout

theorem tended_close : Leads (keepingTrue (IsTended id path)) (close id) := by
  intro store tended
  unfold close
  rw [M.runFrom_bind, runFrom_letter]
  dsimp only
  rw [tended.layout]
  exact (tended_changePackage orderly_withoutSources).seq tended_closePackage store tended

/-! ## Whatever happens -/

/-- What can be asked of a letter. -/
inductive Ask where
  | look (look : Look)
  | deed (deed : Deed)
  | save
  | close

/-- Does what is asked of a letter. -/
def Ask.perform (id : Nat) : Ask → Work Unit
  | .look seen => seen.perform id
  | .deed done => done.perform id
  | .save => Work.save id
  | .close => Work.close id

theorem tended_ask (ask : Ask) : Leads (keepingTrue (IsTended id path)) (ask.perform id) := by
  cases ask with
  | look seen =>
    cases seen with
    | compile => exact (tended_of_readying (readying_compile id)).discard
    | process occasion => exact tended_process occasion
    | undeclared => exact (tended_of_readying (readying_undeclared id)).discard
    | body => exact (leads_body id).discard
  | deed done =>
    cases done with
    | addPicture source =>
      exact (tended_of_shows (shows_of_keeps (keeps_addPicture id source) packed_bare)).discard
    | addEnclosure key enclosed =>
      exact tended_of_shows (shows_of_keeps (keeps_addEnclosure id key enclosed) packed_bare)
    | process occasion => exact tended_process occasion
  | save => exact tended_save
  | close => exact tended_close

/-- A workspace after a use of the package of a letter. -/
def used (id : Nat) (use : Package.Use) (workspace : Workspace) : Workspace :=
  let next := Package.Standing.used ⟨(workspace.letter id).package, workspace.files⟩ use
  ({ workspace with files := next.files }).modify id ({ · with package := next.package })

/-- What happens while a letter is at hand: something is asked of it, or its package is used, which
may fail; or anything happens to other letters and to files, and to whatever else the letter holds.
-/
inductive Passes (id : Nat) (before : Workspace) : Workspace → Prop where
  | asked (ask : Ask) (heap : Heap) :
      Passes id before (M.runFrom (ask.perform id) ⟨heap, before⟩).2.world
  | used (use : Package.Use)
      (whole : ∀ operation, use = .operate operation →
        ∀ name ∈ operation.entered?, '\x00' ∉ name.toList)
      (isMade : ∀ name content, use = .operate (.rewrite name content) →
        Package.IsMade (before.letter id).package.made content) :
      Passes id before (used id use before)
  | elsewhere {after : Workspace} (inside : id < after.letters.size)
      (same : packed (after.letter id) = packed (before.letter id)) : Passes id before after

theorem IsTended.passes {before after : Workspace} (tended : IsTended id path before)
    (passes : Passes id before after) : IsTended id path after := by
  cases passes with
  | asked ask heap => exact tended_ask ask ⟨heap, before⟩ tended
  | used use whole isMade =>
    obtain ⟨package, orderly, inside, shown⟩ := tended
    obtain ⟨samePackage, sameLayout⟩ := Prod.mk.inj shown
    rw [← samePackage] at orderly
    let next := Package.Standing.used ⟨(before.letter id).package, before.files⟩ use
    refine ⟨next.package, orderly.used whole isMade before.files,
      Nat.lt_of_lt_of_eq inside (Workspace.size_modify _ _ _).symm, ?_⟩
    have there : id < ({ before with files := next.files } : Workspace).letters.size := inside
    change packed (Workspace.letter (Workspace.modify _ id _) id) = _
    rw [Workspace.letter_modify_self there]
    exact Prod.ext rfl sameLayout
  | elsewhere inside same =>
    obtain ⟨package, orderly, -, shown⟩ := tended
    exact ⟨package, orderly, inside, same.trans shown⟩

/-- Whatever happens, a letter stays in order. -/
theorem IsTended.history {opened now : Workspace} (tended : IsTended id path opened)
    (history : Relation.ReflTransGen (Passes id) opened now) : IsTended id path now := by
  induction history with
  | refl => exact tended
  | tail _ passes ih => exact ih.passes passes

/-- A letter that was just opened is in order. -/
theorem IsTended.of_opened {start opened : Store Workspace}
    (isOpen : M.runFrom (openAt {} path) start = (.ok id, opened))
    (readable : ∀ entries, start.world.files.look path = .ok (.archive entries) →
      Archive.IsReadable entries) : IsTended id path opened.world := by
  obtain ⟨rfl, package, found, now⟩ := openAt_eq_ok isOpen
  obtain ⟨archive, stands, rfl⟩ := Package.openAt_eq_ok_iff.mp found
  have isReadable := Package.isReadable_of_archiveAt? readable stands
  refine ⟨_, .ofArchive isReadable, ?_, ?_⟩
  · rw [now, Array.size_push]
    exact Nat.lt_succ_self _
  · rw [now, Workspace.letter_push_size]
    rfl

/-! ## Saving and closing -/

/-- A save that is done gives the package a new content, and leaves all that it remembers. -/
theorem save_eq_ok {store after : Store Workspace}
    (layout : (store.world.letter id).layout = {})
    (done : M.runFrom (save id) store = (.ok (), after)) :
    ∃ text package, (store.world.letter id).content.bind (·.rendered) = some text ∧
      after.world = store.world.modify id ({ · with package }) ∧
      package.entries.lookup "content.xml" = some (Package.contentOf true
        (store.world.letter id).package.made (String.ofList text).toUTF8) ∧
      package.committed = (store.world.letter id).package.committed ∧
      package.isClosed = (store.world.letter id).package.isClosed ∧
      package.path = (store.world.letter id).package.path := by
  rw [runFrom_save] at done
  cases rendered : (store.world.letter id).content.bind (·.rendered) with
  | none =>
    rw [rendered] at done
    cases done
  | some text =>
    rw [rendered] at done
    cases done
    let first := (store.world.letter id).package.writeText "content.xml" (String.ofList text)
    have written : first.entries.lookup "content.xml" = some (Package.contentOf true
        (store.world.letter id).package.made (String.ofList text).toUTF8) := by
      change (Keyed.put _ _ _).lookup _ = _
      rw [Keyed.lookup_put, if_pos rfl]
    cases isStyles : (store.world.letter id).styles.bind (·.rendered) with
    | none =>
      refine ⟨text, first, rfl, Workspace.modify_congr ?_, written, rfl, rfl, rfl⟩
      unfold Letter.written
      rw [layout, isStyles]
    | some styles =>
      refine ⟨text, first.writeText "styles.xml" (String.ofList styles), rfl,
        Workspace.modify_congr ?_, ?_, rfl, rfl, rfl⟩
      · unfold Letter.written
        rw [layout, isStyles]
      · change (Keyed.put "styles.xml" _ first.entries).lookup _ = _
        rw [Keyed.lookup_put, if_neg (by decide)]
        exact written

/-- Taking entries out leaves all that a package remembers. -/
theorem discardAll_keeps (taken : List String) (package : Package) :
    (taken.foldl Package.discard package).committed = package.committed ∧
      (taken.foldl Package.discard package).isClosed = package.isClosed ∧
      (taken.foldl Package.discard package).path = package.path := by
  induction taken generalizing package with
  | nil => exact ⟨rfl, rfl, rfl⟩
  | cons first rest ih =>
    obtain ⟨committed, isClosed, path⟩ := ih (package.discard first)
    rw [List.foldl_cons, committed, isClosed, path]
    exact ⟨Package.committed_discard .., Package.isClosed_discard .., Package.path_discard ..⟩

/-- Taking the compiled parts out leaves the content, and all that the package remembers. -/
theorem withoutSources_keeps (package : Package) :
    (withoutSources {} package).entries.lookup "content.xml"
        = package.entries.lookup "content.xml" ∧
      (withoutSources {} package).committed = package.committed ∧
      (withoutSources {} package).isClosed = package.isClosed ∧
      (withoutSources {} package).path = package.path := by
  have notOwn : ¬ IsOwn "content.xml" := not_isOwn_of_mem_parts List.mem_cons_self
  obtain ⟨taken, same, own, -⟩ := withoutSources_eq package
  rw [same, Package.lookup_discardAll, if_neg fun member => notOwn (own _ member)]
  exact ⟨rfl, discardAll_keeps taken package⟩

/-- Whatever was asked of a letter, and whatever else happened since it was opened: a save and then
a close that are done leave what was saved in the file, unless the letter was closed before. A text
of one character may be the very content that the package remembers; then nothing need be written,
and the file must have been left alone. -/
theorem saved_of_close {start opened : Store Workspace} {now : Workspace}
    (isOpen : M.runFrom (openAt {} path) start = (.ok id, opened))
    (readable : ∀ entries, start.world.files.look path = .ok (.archive entries) →
      Archive.IsReadable entries)
    (history : Relation.ReflTransGen (Passes id) opened.world now)
    (open_ : (now.letter id).package.isClosed = false) {heap later : Heap}
    {saved closed : Store Workspace} (isSaved : M.runFrom (save id) ⟨heap, now⟩ = (.ok (), saved))
    (isClosed : M.runFrom (close id) ⟨later, saved.world⟩ = (.ok (), closed)) :
    ∃ text, (now.letter id).content.bind (·.rendered) = some text ∧
      (1 < (String.ofList text).toUTF8.size ∨ Package.OnFile (now.letter id).package now.files →
        ∃ archive, Package.archiveAt? closed.world.files path = some archive ∧
          (archive.named? "content.xml").map (·.content) = some (String.ofList text).toUTF8) := by
  have tended := (IsTended.of_opened isOpen readable).history history
  obtain ⟨package, orderly, inside, shown⟩ := tended
  obtain ⟨samePackage, sameLayout⟩ := Prod.mk.inj shown
  obtain ⟨text, written, rendered, changed, stands, remembers, wasClosed, samePath⟩ :=
    save_eq_ok sameLayout isSaved
  refine ⟨text, rendered, fun fresh => ?_⟩
  -- What is closed is the saved package, without the compiled parts.
  have holds : saved.world.letter id = { now.letter id with package := written } := by
    rw [changed]
    exact Workspace.letter_modify_self inside _
  have there : id < saved.world.letters.size := by
    rw [changed]
    exact Nat.lt_of_lt_of_eq inside (Workspace.size_modify _ _ _).symm
  have files : saved.world.files = now.files := by
    rw [changed]
    rfl
  obtain ⟨-, ⟨_, failed, -⟩ | ⟨-, closes⟩⟩ := close_cases isClosed
  · cases failed
  obtain ⟨after, done⟩ := closes there
  rw [holds, files] at done
  dsimp only at done
  rw [sameLayout] at done
  have savedTended : IsTended id path saved.world := by
    have kept : IsTended id path (M.runFrom (save id) ⟨heap, now⟩).2.world :=
      tended_save ⟨heap, now⟩ ⟨package, orderly, inside, shown⟩
    rw [isSaved] at kept
    exact kept
  obtain ⟨savedPackage, savedOrderly, -, savedShown⟩ := savedTended
  rw [holds] at savedShown
  obtain ⟨rfl, -⟩ := Prod.mk.inj savedShown
  obtain ⟨sameContent, sameCommitted, sameClosed, samePlace⟩ := withoutSources_keeps written
  refine (orderly_withoutSources savedOrderly).named?_of_close (by decide)
    (sameContent.trans stands) ?_ ((sameClosed.trans wasClosed).trans open_) done
  rcases fresh with long | onFile
  · refine .inl fun same => ?_
    rw [sameCommitted, remembers, samePackage] at same
    exact (orderly.remembered _ _ same).ne_contentOf long rfl
  · refine .inr ?_
    obtain ⟨archive, found, held⟩ := onFile
    refine ⟨archive, ?_, ?_⟩
    · rw [samePlace, samePath]
      exact found
    · rw [sameCommitted, remembers]
      exact held

/-- Closing drops nothing. After any uses of a package that was opened, with names that have no zero
in them, a close that succeeds leaves a file with the names and the contents that are committed; and
these are those of the package, unless it was closed before and counts as modified. Whatever was
asked of a letter, a save and then a close that are done leave what was saved in the file, unless
the letter was closed before; a text of one character, as long as the file was left alone. -/
theorem close_drops_nothing {files : Files} {path : Path}
    (readable : ∀ entries, files.look path = .ok (.archive entries) →
      Archive.IsReadable entries) :
    (∀ {package : Package}, Package.openAt files path = .ok package →
      ∀ {uses : List Package.Use}, (∀ operation, .operate operation ∈ uses →
        ∀ name ∈ operation.entered?, '\x00' ∉ name.toList) →
      ∀ {last : Package.Standing}, Package.Standing.usedAll ⟨package, files⟩ uses = last →
      ∀ {after : Package} {written : Files},
        last.package.close last.files = .ok (after, written) →
        (last.package.isClosed = true → after = last.package ∧ written = last.files) ∧
        ∃ archive, Package.archiveAt? written path = some archive ∧
          (∀ name, (archive.named? name).map (·.content)
            = Package.bytesOf after.committed name) ∧
          (last.package.isClosed = false ∨ last.package.isModified = false →
            after.IsHeldBy archive ∧ ∃ reopened, Package.openAt written path = .ok reopened ∧
              (∀ name, name ∈ reopened.names ↔ name ∈ after.names) ∧
              ∀ name, reopened.bytes? name = after.bytes? name)) ∧
    ∀ {id : Nat} {start opened : Store Workspace}, start.world.files = files →
      M.runFrom (openAt {} path) start = (.ok id, opened) →
      ∀ {now : Workspace}, Relation.ReflTransGen (Passes id) opened.world now →
        (now.letter id).package.isClosed = false →
      ∀ {heap later : Heap} {saved closed : Store Workspace},
        M.runFrom (save id) ⟨heap, now⟩ = (.ok (), saved) →
        M.runFrom (close id) ⟨later, saved.world⟩ = (.ok (), closed) →
        ∃ text, (now.letter id).content.bind (·.rendered) = some text ∧
          (1 < (String.ofList text).toUTF8.size ∨
              Package.OnFile (now.letter id).package now.files →
            ∃ archive, Package.archiveAt? closed.world.files path = some archive ∧
              (archive.named? "content.xml").map (·.content)
                = some (String.ofList text).toUTF8) := by
  refine ⟨fun opened _ whole _ reached _ _ done => ?_, ?_⟩
  · obtain ⟨left, archive, found, committed, holds⟩ :=
      Package.isHeldBy_of_close opened readable whole reached done
    refine ⟨left, archive, found, committed, fun either => ⟨holds either, ?_⟩⟩
    exact Package.reopens_of_isHeldBy found (holds either)
  · rintro id start opened rfl isOpen now history open_ heap later saved closed isSaved isClosed
    exact saved_of_close isOpen readable history open_ isSaved isClosed

/-- A letter, after something was asked of it. -/
def asked (id : Nat) (ask : Ask) (workspace : Workspace) : Workspace :=
  (M.runFrom (ask.perform id) ⟨(beforeOpening "" "").toHeap, workspace⟩).2.world

/-- A letter with a number for its content, rendered. -/
def renderedLetter (number : Int) : Workspace :=
  asked 0 (.deed (.process ⟨0, .int number, .none⟩)) (justOpened "<%= data %>" "s").world

/-- A package is closed after an entry was taken out and another one written, and a letter after it
was rendered and saved. -/
theorem close_drops_nothing_rendered :
    let files := (beforeOpening "<%= data %>" "s").world.files
    let package := Package.ofArchive ⟨"", ["t.odt"]⟩ (compiledLetter "<%= data %>" "s")
    let last := Package.Standing.usedAll ⟨package, files⟩
      [.operate (.discard "documatic/master/styles.jinja"),
        .operate (.write "c.xml" "late".toUTF8)]
    (∃ after written archive reopened, last.package.close last.files = .ok (after, written) ∧
      Package.archiveAt? written ⟨"", ["t.odt"]⟩ = some archive ∧ after.IsHeldBy archive ∧
      Package.openAt written ⟨"", ["t.odt"]⟩ = .ok reopened ∧
      "documatic/master/styles.jinja" ∉ reopened.names ∧
      reopened.bytes? "c.xml" = some "late".toUTF8) ∧
    ∃ saved closed archive,
      M.runFrom (save 0) ⟨(beforeOpening "" "").toHeap, renderedLetter 77⟩ = (.ok (), saved) ∧
      M.runFrom (close 0) ⟨saved.toHeap, saved.world⟩ = (.ok (), closed) ∧
      Package.archiveAt? closed.world.files ⟨"", ["t.odt"]⟩ = some archive ∧
      (archive.named? "content.xml").map (·.content) = some "77".toUTF8 := by
  intro files package last
  have readable : ∀ entries, files.look ⟨"", ["t.odt"]⟩ = .ok (.archive entries) →
      Archive.IsReadable entries := by
    intro entries found
    have isThis : files.look ⟨"", ["t.odt"]⟩
        = .ok (.archive (compiledLetter "<%= data %>" "s")) := rfl
    rw [isThis] at found
    cases found
    unfold Archive.IsReadable
    decide
  obtain ⟨packages, letters⟩ := close_drops_nothing readable
  constructor
  · have opened : Package.openAt files ⟨"", ["t.odt"]⟩ = .ok package := rfl
    have whole : ∀ operation, .operate operation ∈ [Package.Use.operate
          (.discard "documatic/master/styles.jinja"), .operate (.write "c.xml" "late".toUTF8)] →
        ∀ name ∈ operation.entered?, '\x00' ∉ name.toList := by
      intro operation member
      simp only [List.mem_cons, Package.Use.operate.injEq, List.not_mem_nil, or_false] at member
      rcases member with rfl | rfl
      · exact nofun
      · rintro name ⟨⟩
        decide
    have succeeds : (last.package.close last.files).toOption.isSome = true := by decide
    cases done : last.package.close last.files with
    | error fault =>
      rw [done] at succeeds
      contradiction
    | ok next =>
      obtain ⟨-, archive, found, -, holds⟩ := packages opened whole rfl done
      obtain ⟨held, reopened, isOpen, names, contents⟩ := holds (.inl (by decide))
      have entries := Package.entries_close done
      have sameNames : next.1.names = last.package.names := by
        unfold Package.names
        rw [entries]
      have sameBytes : next.1.bytes? "c.xml" = last.package.bytes? "c.xml" := by
        unfold Package.bytes?
        rw [entries]
      refine ⟨next.1, next.2, archive, reopened, rfl, found, held, isOpen, ?_, ?_⟩
      · rw [names, sameNames]
        decide
      · rw [contents, sameBytes]
        decide
  · have isOpen : M.runFrom (openAt {} ⟨"", ["t.odt"]⟩) (beforeOpening "<%= data %>" "s")
        = (.ok 0, (M.runFrom (openAt {} ⟨"", ["t.odt"]⟩)
          (beforeOpening "<%= data %>" "s")).2) := rfl
    have history : Relation.ReflTransGen (Passes 0) (justOpened "<%= data %>" "s").world
        (renderedLetter 77) := .single (.asked _ _)
    have saves : (M.runFrom (save 0) ⟨(beforeOpening "" "").toHeap,
        renderedLetter 77⟩).1.toOption.isSome = true := by decide +kernel
    have closes : (M.runFrom (close 0) (M.runFrom (save 0) ⟨(beforeOpening "" "").toHeap,
        renderedLetter 77⟩).2).1.toOption.isSome = true := by decide +kernel
    obtain ⟨⟨⟩, saved, isSaved⟩ := M.runFrom_eq_ok_of_isSome saves
    rw [isSaved] at closes
    obtain ⟨⟨⟩, closed, isClosed⟩ := M.runFrom_eq_ok_of_isSome closes
    obtain ⟨text, rendered, fresh⟩ :=
      letters rfl isOpen history (by decide +kernel) isSaved isClosed
    have isText : ((renderedLetter 77).letter 0).content.bind (·.rendered) = some ['7', '7'] := by
      decide +kernel
    rw [isText] at rendered
    cases rendered
    obtain ⟨archive, found, content⟩ := fresh (.inl (by decide))
    exact ⟨saved, closed, archive, isSaved, isClosed, found, content⟩

/-! ## What a close drops -/

/-- What a close that is done leaves of a name in the package, and what in the file. -/
def leftOf (name : String) (last : Package.Standing) :
    Option (Option ByteArray × Option ByteArray) :=
  (last.package.close last.files).toOption.map fun next =>
    (next.1.bytes? name, ((Package.archiveAt? next.2 last.package.path).bind (·.named? name)).map
      (·.content))

/-- What was rendered of a letter that is saved and then closed, and what of it is in the file. -/
def leftOfContent (id : Nat) (now : Workspace) : Option (Option (List Char) × Option ByteArray) :=
  match M.runFrom (save id) ⟨(beforeOpening "" "").toHeap, now⟩ with
  | (.error _, _) => none
  | (.ok _, saved) =>
    match M.runFrom (close id) saved with
    | (.error _, _) => none
    | (.ok _, closed) => some ((now.letter id).content.bind (·.rendered),
      ((Package.archiveAt? closed.world.files (now.letter id).package.path).bind
        (·.named? "content.xml")).map (·.content))

/-- A letter of one character, saved and committed without its compiled parts. -/
def committedLetter : Workspace :=
  [Package.Operation.discard "documatic/master/content.jinja",
    .discard "documatic/master/styles.jinja", .commit].foldl
      (fun workspace operation => used 0 (.operate operation) workspace)
      (asked 0 .save (renderedLetter 7))

/-- Closes that are done, and drop something: what was written after the package was closed; what
was written under a name with a zero in it; what was saved after the letter was closed; and a text
of one character that was saved again after the file was replaced. -/
theorem close_drops :
    leftOf "c.xml" (Package.untouched.usedAll
        [.close, .operate (.write "c.xml" "late".toUTF8)])
      = some (some "late".toUTF8, none) ∧
    leftOf "c\x00.xml" (Package.untouched.usedAll
        [.operate (.write "c\x00.xml" "cut".toUTF8)])
      = some (some "cut".toUTF8, none) ∧
    leftOfContent 0 (asked 0 .close (renderedLetter 77)) = some (some ['7', '7'], none) ∧
    leftOfContent 0 { committedLetter with
        files := [(["t.odt"], .archive [⟨"content.xml", ⟨.stored, 1, .earliest⟩, "zz".toUTF8⟩])] }
      = some (some ['7'], some "zz".toUTF8) := by
  decide +kernel

end Work

end FormLetter
