import FormLetter.Proofs.Letter.Alongside
import FormLetter.Proofs.Letter.Delivery

/-!
# Rendering again

A letter whose archive has no own names is compiled when it is first rendered, and only from the parts
that it came with: from then on the compiled parts are in its package, and nothing that is done later
touches them, though saving overwrites what they were compiled from. So a letter that was rendered and
saved any number of times, with or without success, is rendered again as if it had just been opened.
Two things are asked for that. Its styles must do without the content of an earlier rendering, which
is still there while they are rendered. And its manifest, if it can be read, may declare plain
qualifiers only at its root: otherwise it may not be read again once files are listed in it.
-/

namespace FormLetter

open FormLetter.Script

theorem Workspace.modify_eq_self (workspace : Workspace) (id : Nat) :
    (workspace.modify id fun letter => letter) = workspace := by
  unfold Workspace.modify
  congr 1
  refine Array.ext (Array.size_modify) fun place before after => ?_
  rw [Array.getElem_modify]
  split
  · rfl
  · rfl

namespace Package

/-- What the parts of a package are compiled to. -/
def sources (package : Package) : Except Fault Sources := do
  let styles ← Work.indented (← package.read ({} : Layout).stylesPart)
  let content ← Work.indented (← package.read ({} : Layout).contentPart)
  Sources.ofParts ({} : Layout).reserved styles content

/-- The manifest of a package, if it can be read, declares plain qualifiers at its root. -/
def ListsPlainly (package : Package) : Prop :=
  ∀ bytes manifest, package.read ({} : Layout).manifestPart = .ok bytes →
    Xml.Document.read bytes = .ok manifest → Manifest.IsPlain manifest

/-- A manifest that can be read, and declares plain qualifiers, stays so. -/
def KeepsManifest (origin package : Package) : Prop :=
  origin.ListsPlainly → package.ListsPlainly ∧ package.readsManifest = origin.readsManifest

/-- A package holds these compiled parts. Its manifest is there, and can be read, as in the package
that it came of. -/
structure Ready (sources : Sources) (origin package : Package) : Prop where
  content : package.readText ({} : Layout).contentSource = .ok (String.ofList sources.content)
  styles : package.readText ({} : Layout).stylesSource = .ok (String.ofList sources.styles)
  hasManifest : package.has ({} : Layout).manifestPart = origin.has ({} : Layout).manifestPart
  manifest : KeepsManifest origin package

theorem Agrees.readText {name : String} {before after : Package}
    (agrees : Agrees name before after) : after.readText name = before.readText name := by
  unfold Package.readText read
  rw [agrees.content]

theorem Agrees.listsPlainly {before after : Package}
    (agrees : Agrees ({} : Layout).manifestPart before after) (plain : before.ListsPlainly) :
    after.ListsPlainly := by
  intro bytes manifest isRead
  refine plain bytes manifest ?_
  unfold read at isRead ⊢
  rwa [agrees.content] at isRead

/-- What was written can be read. -/
theorem read_writeText (package : Package) (name text : String) :
    (package.writeText name text).read name = .ok text.toUTF8 := by
  have found : (package.writeText name text).content? name
      = some (contentOf true package.made text.toUTF8) := by
    change (Keyed.put name _ package.entries).lookup name = _
    rw [Keyed.lookup_put, if_pos rfl]
  unfold read
  rw [found]
  rfl

theorem readText_writeText (package : Package) (name text : String) :
    (package.writeText name text).readText name = .ok text := by
  unfold readText
  rw [read_writeText]
  simp only [bind, Except.bind, Xml.fromUTF8?_toUTF8]

/-- What can be read is there. -/
theorem mem_names_of_readText {package : Package} {name text : String}
    (isRead : package.readText name = .ok text) : name ∈ package.names := by
  refine Keyed.lookup_isSome_iff.mp (?_ : (package.content? name).isSome)
  cases found : package.content? name with
  | some content => rfl
  | none =>
    unfold readText read at isRead
    rw [found] at isRead
    cases isRead

/-- Plain qualifiers stay plain when files are listed. -/
theorem ListsPlainly.list {package : Package} {added : List String} {bytes : ByteArray}
    {text : List Char} (plain : package.ListsPlainly)
    (isRead : package.read ({} : Layout).manifestPart = .ok bytes)
    (written : Manifest.extended added bytes = .ok text) :
    (package.writeText ({} : Layout).manifestPart (String.ofList text)).ListsPlainly := by
  obtain ⟨⟨manifest, isManifest⟩, -⟩ := Manifest.extended_eq_ok_iff.mp ⟨text, written⟩
  have isPlain := plain bytes manifest isRead isManifest
  have isAgain := Manifest.read_extended isManifest isPlain written
  intro later document isLater isDocument
  rw [read_writeText] at isLater
  cases isLater
  rw [isAgain] at isDocument
  cases isDocument
  exact isPlain

/-- The compiled parts have nothing to do with the manifest. -/
theorem agrees_keep (sources : Sources) (package : Package) :
    Agrees ({} : Layout).manifestPart package (sources.keep {} package) := by
  have apart : ∀ other ∈ [directoryName ({} : Layout).sourceDirectory,
      ({} : Layout).contentSource, ({} : Layout).stylesSource],
      other ≠ ({} : Layout).manifestPart ∧
        ¬ (directoryName ({} : Layout).manifestPart).toList <+: other.toList := by decide
  have aside {other : String} (member : other ∈ [directoryName ({} : Layout).sourceDirectory,
      ({} : Layout).contentSource, ({} : Layout).stylesSource]) :
      Apart ({} : Layout).manifestPart other := ⟨(apart other member).1, (apart other member).2⟩
  have directory : Agrees ({} : Layout).manifestPart package
      (package.makeDirectory ({} : Layout).sourceDirectory) :=
    .makeDirectory (aside List.mem_cons_self) package
  exact (directory.trans (.of_put rfl (aside (by simp)))).trans (.of_put rfl (aside (by simp)))

namespace Ready

variable {sources : Sources} {origin before after : Package}

theorem of_agrees (ready : Ready sources origin before)
    (agrees : ∀ name ∈ telling, Agrees name before after) : Ready sources origin after := by
  have manifest := agrees ({} : Layout).manifestPart (by simp [telling])
  have content := agrees ({} : Layout).contentSource (by simp [telling])
  have styles := agrees ({} : Layout).stylesSource (by simp [telling])
  exact ⟨content.readText.trans ready.content, styles.readText.trans ready.styles,
    manifest.has.trans ready.hasManifest, fun plain =>
      ⟨manifest.listsPlainly (ready.manifest plain).1,
        manifest.readsManifest.trans (ready.manifest plain).2⟩⟩

/-- A package is ready when the compiled parts are kept in it. -/
theorem keep : Ready sources origin (sources.keep {} origin) := by
  have between : Apart ({} : Layout).contentSource ({} : Layout).stylesSource :=
    ⟨by decide, by decide⟩
  let made := origin.makeDirectory ({} : Layout).sourceDirectory
  let half := made.writeText ({} : Layout).contentSource (String.ofList sources.content)
  have whole : sources.keep {} origin
      = half.writeText ({} : Layout).stylesSource (String.ofList sources.styles) := rfl
  have manifest := agrees_keep sources origin
  have content : Agrees ({} : Layout).contentSource half (sources.keep {} origin) :=
    .of_put rfl between
  refine ⟨content.readText.trans (readText_writeText _ _ _), ?_, manifest.has,
    fun plain => ⟨manifest.listsPlainly plain, manifest.readsManifest⟩⟩
  rw [whole]
  exact readText_writeText _ _ _

/-- Saving overwrites other parts. -/
theorem saved (ready : Ready sources origin before) {name : String}
    (isPart : name ∈ [({} : Layout).contentPart, ({} : Layout).stylesPart]) (text : String) :
    Ready sources origin (before.writeText name text) := by
  have apart : ∀ part ∈ [({} : Layout).contentPart, ({} : Layout).stylesPart], ∀ name ∈ telling,
      part ≠ name ∧ ¬ (directoryName name).toList <+: part.toList := by decide
  exact ready.of_agrees fun told member =>
    .of_put rfl ⟨(apart name isPart told member).1, (apart name isPart told member).2⟩

/-- A manifest in which files are listed can be read as before. -/
theorem list {added : List String} {bytes : ByteArray} {text : List Char}
    (ready : Ready sources origin before)
    (listed : before.has ({} : Layout).manifestPart = true)
    (isRead : before.read ({} : Layout).manifestPart = .ok bytes)
    (written : Manifest.extended added bytes = .ok text) :
    Ready sources origin (before.writeText ({} : Layout).manifestPart (String.ofList text)) := by
  have apart : ∀ name ∈ [({} : Layout).contentSource, ({} : Layout).stylesSource],
      ({} : Layout).manifestPart ≠ name ∧
        ¬ (directoryName name).toList <+: ({} : Layout).manifestPart.toList := by decide
  have agrees {name : String}
      (member : name ∈ [({} : Layout).contentSource, ({} : Layout).stylesSource]) :
      Agrees name before (before.writeText ({} : Layout).manifestPart (String.ofList text)) :=
    .of_put rfl ⟨(apart name member).1, (apart name member).2⟩
  obtain ⟨⟨manifest, isManifest⟩, -⟩ := Manifest.extended_eq_ok_iff.mp ⟨text, written⟩
  have found := read_writeText before ({} : Layout).manifestPart (String.ofList text)
  refine ⟨(agrees (by simp)).readText.trans ready.content,
    (agrees (by simp)).readText.trans ready.styles, ?_, fun plain => ?_⟩
  · rw [← ready.hasManifest, listed]
    have there := mem_names_of_readText
      (readText_writeText before ({} : Layout).manifestPart (String.ofList text))
    unfold Package.has
    rw [List.contains_iff_mem.mpr there, Bool.true_or]
  obtain ⟨plainBefore, readsBefore⟩ := ready.manifest plain
  have isAgain := Manifest.read_extended isManifest (plainBefore bytes manifest isRead isManifest)
    written
  refine ⟨plainBefore.list isRead written, ?_⟩
  rw [← readsBefore]
  unfold Package.readsManifest
  rw [found, isRead]
  dsimp only
  rw [isAgain, isManifest]
  rfl

/-- The compiled parts stand in the directory that tells that there are some. -/
theorem isCompiled (ready : Ready sources origin before) :
    before.has ({} : Layout).sourceDirectory = true := by
  have inside : (directoryName ({} : Layout).sourceDirectory).toList
      <+: ({} : Layout).contentSource.toList := by decide
  have there := mem_names_of_readText ready.content
  unfold Package.has
  rw [Bool.or_eq_true, List.any_eq_true]
  exact .inr ⟨_, there, List.isPrefixOf_iff_prefix.mpr inside⟩

end Ready

end Package

namespace Work

variable {id : Nat}

/-- What compiling leaves of a letter: everything but its package and the indented parts. -/
def aside (letter : Letter) : (Path × Layout) × (List (String × Path) × List (String × Enclosure)) ×
    (Option Part × Option Part) :=
  (letter.setting, (letter.pictures, letter.enclosures), parts letter)

/-- What compiling does to a letter, with this outcome. -/
structure Compiles (package : Package) (outcome : Except Fault Sources)
    (change : Letter → Letter) : Prop where
  aside : ∀ letter, aside (change letter) = aside letter
  package : ∀ letter, letter.package = package → (change letter).package = match outcome with
    | .ok sources => sources.keep {} package
    | .error _ => package

theorem report_all (lines : List Log.Line) (store : Store Workspace) :
    ∃ log, M.runFrom (lines.forM fun line => liftM (report line.level line.source line.message)) store
      = (.ok (), { store with log }) := by
  induction lines generalizing store with
  | nil => exact ⟨store.log, rfl⟩
  | cons line rest ih =>
    obtain ⟨log, ran⟩ := ih { store with log := store.log ++ [line] }
    exact ⟨log, ran⟩

/-- Compiling a letter gives what its parts are compiled to, or fails as that does. -/
theorem compile_runs {store : Store Workspace} {package : Package}
    (held : (store.world.letter id).package = package)
    (layout : (store.world.letter id).layout = {}) :
    ∃ log change, (compile id).runFrom store
        = (package.sources, { store with log, world := store.world.modify id change }) ∧
      Compiles package package.sources change := by
  -- Where it fails, no more than the indented parts has changed.
  have fails {ran : Except Fault Sources × Store Workspace} {fault : Fault}
      (change : Letter → Letter) (asides : ∀ letter, aside (change letter) = aside letter)
      (kept : ∀ letter, (change letter).package = letter.package)
      (failed : ran = (.error fault, { store with world := store.world.modify id change })) :
      ∃ log change, ran = (.error fault, { store with
          log, world := store.world.modify id change }) ∧
        Compiles package (.error fault) change :=
    ⟨store.log, change, failed, asides, fun letter same => (kept letter).trans same⟩
  have start : store = { store with world := store.world.modify id fun letter => letter } := by
    rw [Workspace.modify_eq_self]
  unfold compile Package.sources
  rw [M.runFrom_bind, runFrom_letter]
  dsimp only
  rw [held, layout]
  cases package.read ({} : Layout).stylesPart with
  | error fault => exact fails _ (fun _ => rfl) (fun _ => rfl) (congrArg (Prod.mk _) start)
  | ok stylesBytes =>
  rw [M.runFrom_bind, M.runFrom_liftExcept]
  dsimp only
  rw [M.runFrom_bind, M.runFrom_liftExcept]
  change ∃ log change, _ = ((indented stylesBytes >>= _), _) ∧
    Compiles package (indented stylesBytes >>= _) change
  cases indented stylesBytes with
  | error fault => exact fails _ (fun _ => rfl) (fun _ => rfl) (congrArg (Prod.mk _) start)
  | ok styles =>
  dsimp only
  rw [M.runFrom_bind, runFrom_change]
  dsimp only
  rw [M.runFrom_bind, M.runFrom_liftExcept]
  change ∃ log change, _ = ((package.read _ >>= _), _) ∧
    Compiles package (package.read _ >>= _) change
  cases package.read ({} : Layout).contentPart with
  | error fault =>
    exact fails ({ · with rawStyles := some styles }) (fun _ => rfl) (fun _ => rfl) rfl
  | ok contentBytes =>
  dsimp only
  rw [M.runFrom_bind, M.runFrom_liftExcept]
  change ∃ log change, _ = ((indented contentBytes >>= _), _) ∧
    Compiles package (indented contentBytes >>= _) change
  cases indented contentBytes with
  | error fault =>
    exact fails ({ · with rawStyles := some styles }) (fun _ => rfl) (fun _ => rfl) rfl
  | ok content =>
  dsimp only
  rw [M.runFrom_bind, runFrom_change]
  dsimp only
  rw [M.runFrom_bind, M.runFrom_liftExcept, Workspace.modify_modify]
  change ∃ log change, _ = (Sources.ofParts _ styles content, _) ∧
    Compiles package (Sources.ofParts _ styles content) change
  cases Sources.ofParts ({} : Layout).reserved styles content with
  | error fault =>
    exact fails ({ · with rawStyles := some styles, rawContent := some content }) (fun _ => rfl)
      (fun _ => rfl) rfl
  | ok sources =>
  dsimp only
  obtain ⟨log, reported⟩ := report_all sources.log { store with
    world := store.world.modify id fun letter =>
      { letter with rawStyles := some styles, rawContent := some content } }
  rw [M.runFrom_bind, reported]
  dsimp only
  rw [M.runFrom_bind, runFrom_changePackage]
  dsimp only
  rw [Workspace.modify_modify]
  refine ⟨_, _, rfl, fun _ => rfl, fun letter same => ?_⟩
  exact congrArg (sources.keep {}) same

/-! ## What a letter can come to -/

/-- The course of a workspace of which something stays true. -/
def keepingTrue (holds : Workspace → Prop) : Course Workspace where
  leads before after := holds before → holds after
  refl _ holds := holds
  trans begun ended holds := ended (begun holds)

/-- A save leads where the writing of its two parts leads, when the layout of the letter is known. -/
theorem leads_save_of_layout {holds : Workspace → Prop} {layout : Layout}
    (known : ∀ world, holds world → (world.letter id).layout = layout)
    (writes : ∀ name ∈ [layout.contentPart, layout.stylesPart], ∀ text,
      Leads (keepingTrue holds) (changePackage id (·.writeText name text))) :
    Leads (keepingTrue holds) (save id) := by
  intro store held
  unfold save
  rw [M.runFrom_bind, runFrom_letter]
  dsimp only
  rw [known store.world held]
  split
  · exact held
  · refine (writes _ (by simp) _).seq ?_ store held
    split
    · exact Leads.pure _
    · exact writes _ (by simp) _

/-- A letter of which nothing was rendered: its package is as it was opened. -/
def IsFresh (id : Nat) (origin : Package) (workspace : Workspace) : Prop :=
  Shows id packed (origin, {}) workspace ∧ (workspace.letter id).content = none

/-- A letter whose package holds what its parts are compiled to, as they were when it was opened. -/
def IsReady (id : Nat) (origin : Package) (workspace : Workspace) : Prop :=
  ∃ sources package, origin.sources = .ok sources ∧ Package.Ready sources origin package ∧
    Shows id packed (package, {}) workspace

/-- A letter that was opened with this package, and rendered and saved since. -/
def Reached (id : Nat) (origin : Package) (workspace : Workspace) : Prop :=
  IsFresh id origin workspace ∨ IsReady id origin workspace

section

variable {origin : Package} {store : Store Workspace}

/-- What leaves the package as it is leaves it ready. -/
theorem ready_of_shows {α : Type} {action : Work α} (shows : Leads (showing id packed) action) :
    Leads (keepingTrue (IsReady id origin)) action := by
  rintro store ⟨sources, package, isSources, ready, shown⟩
  exact ⟨sources, package, isSources, ready, shown.after_leads shows⟩

/-- Getting ready compiles a letter of which nothing was rendered, and only reports otherwise. It
succeeds when the parts that the letter was opened with can be compiled. -/
theorem makeReady_runs (unmarked : origin.has ({} : Layout).sourceDirectory = false)
    (reached : Reached id origin store.world) :
    ∃ log change, (∀ letter, aside (change letter) = aside letter) ∧
      match origin.sources with
      | .ok _ => (makeReady id).runFrom store
            = (.ok (), { store with log, world := store.world.modify id change }) ∧
          IsReady id origin (store.world.modify id change)
      | .error fault => (makeReady id).runFrom store
            = (.error fault, { store with log, world := store.world.modify id change }) ∧
          IsFresh id origin (store.world.modify id change) := by
  unfold makeReady
  rw [M.runFrom_bind, runFrom_letter]
  dsimp only
  rcases reached with ⟨⟨inside, shown⟩, unrendered⟩ | ⟨sources, package, isSources, ready, shows⟩
  · obtain ⟨samePackage, sameLayout⟩ := Prod.mk.inj shown
    have bare : (store.world.letter id).isCompiled = false := by
      unfold Letter.isCompiled
      rw [samePackage, sameLayout]
      exact unmarked
    obtain ⟨log, change, ran, compiles⟩ := compile_runs samePackage sameLayout
    have there : id < (store.world.modify id change).letters.size :=
      Nat.lt_of_lt_of_eq inside (Workspace.size_modify _ _ _).symm
    have now := Workspace.letter_modify_self inside change
    have kept := compiles.package _ samePackage
    have layout : (change (store.world.letter id)).layout = {} := by
      have asides := congrArg (fun seen => seen.1.2) (compiles.aside (store.world.letter id))
      exact asides.trans sameLayout
    refine ⟨log, change, compiles.aside, ?_⟩
    rw [bare, if_neg Bool.false_ne_true]
    change match origin.sources with
      | .ok _ => M.runFrom (compile id >>= fun _ => pure ()) store = _ ∧ _
      | .error fault => M.runFrom (compile id >>= fun _ => pure ()) store = _ ∧ _
    rw [M.runFrom_bind, ran]
    cases compiled : origin.sources with
    | error fault =>
      rw [compiled] at kept
      refine ⟨rfl, ⟨there, ?_⟩, ?_⟩
      · rw [now]
        exact Prod.ext kept layout
      · have asides := congrArg (fun seen => seen.2.2.2) (compiles.aside (store.world.letter id))
        rw [now]
        exact asides.trans unrendered
    | ok sources =>
      rw [compiled] at kept
      refine ⟨rfl, sources, _, compiled, .keep, there, ?_⟩
      rw [now]
      exact Prod.ext kept layout
  · obtain ⟨inside, shown⟩ := shows
    obtain ⟨samePackage, sameLayout⟩ := Prod.mk.inj shown
    have compiled : (store.world.letter id).isCompiled = true := by
      unfold Letter.isCompiled
      rw [samePackage, sameLayout]
      exact ready.isCompiled
    rw [compiled, if_pos rfl, isSources]
    let line : Log.Line := ⟨.debug, .document,
      "Using compiled source cached in " ++ (store.world.letter id).path.name⟩
    refine ⟨store.log ++ [line], fun letter => letter, fun _ => rfl, ?_⟩
    rw [Workspace.modify_eq_self]
    exact ⟨rfl, sources, package, isSources, ready, inside, shown⟩

/-- A package that agrees with one that is ready, is ready. -/
theorem IsReady.of_agrees {sources : Sources} {package after : Package} {workspace : Workspace}
    (isSources : origin.sources = .ok sources) (ready : Package.Ready sources origin package)
    (agrees : ∀ name ∈ Package.telling, Package.Agrees name package after)
    (shows : Shows id packed (after, {}) workspace) : IsReady id origin workspace :=
  ⟨sources, after, isSources, ready.of_agrees agrees, shows⟩

theorem ready_embedPicture (name : String) (path : Path) :
    Leads (keepingTrue (IsReady id origin)) (embedPicture id name path) := by
  rintro store ⟨sources, package, isSources, ready, shows⟩
  rcases embedPicture_cases ⟨rfl, shows⟩ (name, path) with
    ⟨fault, -, ran⟩ | ⟨added, middle, copied, ran, -, shown⟩
  · rw [ran]
    exact ⟨sources, package, isSources, ready, shows⟩
  · rw [ran]
    exact .of_agrees isSources ready
      (fun told member => .addFile (Package.apart_picture member name) copied) shown

/-- A manifest in which files are listed can be read as before. -/
theorem ready_register (added : List String) :
    Leads (keepingTrue (IsReady id origin)) (register id added) := by
  rintro store ⟨sources, package, isSources, ready, shows⟩
  have holding : Holding id store.world.files package {} store.world := ⟨rfl, shows⟩
  obtain ⟨samePackage, sameLayout⟩ := Prod.mk.inj shows.2
  have unchanged : IsReady id origin store.world := ⟨sources, package, isSources, ready, shows⟩
  unfold register
  rw [M.runFrom_bind, runFrom_letter]
  dsimp only
  rw [samePackage, sameLayout]
  split
  · rename_i listed
    rw [M.runFrom_bind, M.runFrom_liftExcept]
    cases isRead : package.read ({} : Layout).manifestPart with
    | error fault => exact unchanged
    | ok bytes =>
    dsimp only
    rw [M.runFrom_bind, M.runFrom_liftExcept]
    cases written : Manifest.extended added bytes with
    | error fault => exact unchanged
    | ok text =>
    obtain ⟨-, shown⟩ := holding.change (·.writeText ({} : Layout).manifestPart (String.ofList text))
    exact ⟨sources, _, isSources, ready.list listed isRead written, shown⟩
  · exact unchanged

theorem ready_addPictures : Leads (keepingTrue (IsReady id origin)) (addPictures id) := by
  have makes : Leads (keepingTrue (IsReady id origin)) (makePictureDirectory id) := by
    rintro store ⟨sources, package, isSources, ready, shows⟩
    obtain ⟨middle, ran, -, shown⟩ := makePictureDirectory_holding ⟨rfl, shows⟩
    rw [ran]
    exact .of_agrees isSources ready
      (fun told member => Package.agrees_withPictureDirectory member package) shown
  unfold addPictures embedPictures
  refine (leads_letter id).bind fun before => Leads.ite (Leads.pure _) ?_
  refine makes.seq ((leads_letter id).bind fun before => ?_)
  refine (Leads.mapM fun picture => ready_embedPicture _ _).bind fun added => ?_
  exact (ready_register added).seq (Leads.lift _)

/-- Saving overwrites other entries than the compiled parts. -/
theorem ready_save : Leads (keepingTrue (IsReady id origin)) (save id) := by
  have known : ∀ world, IsReady id origin world → (world.letter id).layout = {} := by
    rintro world ⟨_, _, _, _, _, shown⟩
    exact (Prod.mk.inj shown).2
  refine leads_save_of_layout known fun name isPart text => ?_
  rintro store ⟨sources, package, isSources, ready, shows⟩
  obtain ⟨-, shown⟩ := Holding.change ⟨rfl, shows⟩ (·.writeText name text)
  exact ⟨sources, _, isSources, ready.saved isPart text, shown⟩

/-- An action makes a letter ready, or fails. -/
def Prepares {α : Type} (id : Nat) (origin : Package) (action : Work α) : Prop :=
  ∀ store : Store Workspace, Reached id origin store.world →
    match action.runFrom store with
    | (.ok _, after) => IsReady id origin after.world
    | (.error _, after) => Reached id origin after.world

theorem Prepares.bind {α β : Type} {action : Work α} {next : α → Work β}
    (prepares : Prepares id origin action)
    (leads : ∀ value, Leads (keepingTrue (IsReady id origin)) (next value)) :
    Prepares id origin (action >>= next) := by
  intro store reached
  have begun := prepares store reached
  rw [M.runFrom_bind]
  rcases ran : action.runFrom store with ⟨fault | value, middle⟩
  · rw [ran] at begun
    exact begun
  · rw [ran] at begun
    have ended : IsReady id origin ((next value).runFrom middle).2.world :=
      leads value middle begun
    dsimp only
    rcases followed : (next value).runFrom middle with ⟨fault | found, after⟩
    · rw [followed] at ended
      exact .inr ended
    · rw [followed] at ended
      exact ended

variable (unmarked : origin.has ({} : Layout).sourceDirectory = false)

include unmarked

theorem prepares_makeReady : Prepares id origin (makeReady id) := by
  intro store reached
  obtain ⟨log, change, -, runs⟩ := makeReady_runs unmarked reached
  cases compiled : origin.sources with
  | error fault =>
    rw [compiled] at runs
    rw [runs.1]
    exact .inl runs.2
  | ok sources =>
    rw [compiled] at runs
    rw [runs.1]
    exact runs.2

/-- Rendering makes a letter ready, whatever its code does and wherever it fails. -/
theorem prepares_fill {host : Host Workspace} (hosted : KeepsAll host) (occasion : Occasion) :
    Prepares id origin (fill host id occasion) := by
  have calls (subject : Value) (name : String) (given : Given) :
      Leads (keepingTrue (IsReady id origin)) (host subject name given) :=
    ready_of_shows (shows_of_keeps (hosted _ subject name given) fun _ => rfl)
  have stylesKept (part : Part) :
      Leads (keepingTrue (IsReady id origin)) (Work.change id (Letter.withStyles part)) :=
    ready_of_shows (shows_change fun _ => rfl)
  have contentKept (part : Part) :
      Leads (keepingTrue (IsReady id origin)) (Work.change id (Letter.withContent part)) :=
    ready_of_shows (shows_change fun _ => rfl)
  have prepared : Prepares id origin (prepare id occasion) := by
    unfold prepare
    refine (prepares_makeReady unmarked).bind fun _ => (leads_letter id).bind fun found => ?_
    refine (leads_bindings id occasion).bind fun bound => (leads_nameOf id).bind fun name => ?_
    exact (Leads.lift _).seq ((leads_partOf id _ _).bind fun part => Leads.pure _)
  have styled : Prepares id origin (renderStyles host id occasion) := by
    unfold renderStyles
    refine prepared.bind fun prepared =>
      (leads_renderPart calls stylesKept _ _).bind fun styles => ?_
    exact (leads_letter id).bind fun found => (leads_partOf id _ _).bind fun part => Leads.pure _
  have rendered : Prepares id origin (renderParts host id occasion) := by
    unfold renderParts
    refine styled.bind fun begun =>
      (leads_renderPart calls contentKept _ _).bind fun content => ?_
    exact Leads.pure _
  unfold fill addRegistered
  exact rendered.bind fun _ => (leads_addEnclosed stylesKept).seq ready_addPictures

end

/-! ## Rendering and saving, again and again -/

/-- A letter that was opened with this package, rendered and saved since, and is not being rendered:
nothing is registered with it. -/
structure Rests (id : Nat) (origin : Package) (workspace : Workspace) : Prop where
  reached : Reached id origin workspace
  path : (workspace.letter id).path = origin.path
  pictures : (workspace.letter id).pictures = []
  enclosures : (workspace.letter id).enclosures = []

theorem Reached.inside {origin : Package} {workspace : Workspace}
    (reached : Reached id origin workspace) : id < workspace.letters.size := by
  rcases reached with ⟨shows, -⟩ | ⟨_, _, _, _, shows⟩
  · exact shows.1
  · exact shows.1

/-- A letter that was just opened rests. -/
theorem Rests.of_opened {origin : Package} {workspace : Workspace} {isLenient : Bool}
    (inside : id < workspace.letters.size)
    (letter : workspace.letter id = .ofPackage {} isLenient origin) : Rests id origin workspace := by
  refine ⟨.inl ⟨⟨inside, ?_⟩, ?_⟩, ?_, ?_, ?_⟩
  all_goals
    rw [letter]
    rfl

/-- Forgetting what is registered leaves the package and the parts. -/
theorem Reached.modify_bare {origin : Package} {workspace : Workspace}
    (reached : Reached id origin workspace) :
    Reached id origin (workspace.modify id Letter.bare) := by
  have inside := reached.inside
  have there : id < (workspace.modify id Letter.bare).letters.size :=
    Nat.lt_of_lt_of_eq inside (Workspace.size_modify _ _ _).symm
  have now := Workspace.letter_modify_self inside Letter.bare
  rcases reached with ⟨shows, unrendered⟩ | ⟨sources, package, isSources, ready, shows⟩
  · refine .inl ⟨⟨there, ?_⟩, ?_⟩
    · rw [now]
      exact shows.2
    · rw [now]
      exact unrendered
  · refine .inr ⟨sources, package, isSources, ready, there, ?_⟩
    rw [now]
    exact shows.2

/-- What is asked of a letter again and again. -/
inductive Turn where
  | process (occasion : Occasion)
  | save

/-- Does what is asked of a letter. -/
def Turn.perform (id : Nat) : Turn → Work Unit
  | process occasion => Work.process id occasion
  | save => Work.save id

/-- A turn, and the heap that it begins with, which holds its data. -/
structure Round where
  heap : Heap
  turn : Turn

/-- What a round leads to, whether it succeeds or fails. -/
def Round.after (id : Nat) (workspace : Workspace) (round : Round) : Workspace :=
  (M.runFrom (round.turn.perform id) ⟨round.heap, workspace⟩).2.world

section

variable {origin : Package} {workspace : Workspace}
  (unmarked : origin.has ({} : Layout).sourceDirectory = false)

include unmarked

/-- After a round, whatever came of it, a letter rests again. -/
theorem Rests.after (rests : Rests id origin workspace) (round : Round) :
    Rests id origin (round.after id workspace) := by
  obtain ⟨heap, turn⟩ := round
  have inside := rests.reached.inside
  cases turn with
  | save =>
    let store : Store Workspace := ⟨heap, workspace⟩
    change Rests id origin (M.runFrom (save id) store).2.world
    rcases rests.reached with ⟨shows, unrendered⟩ | ready
    · have nothing : (store.world.letter id).content.bind (·.rendered) = none := by
        change (workspace.letter id).content.bind _ = none
        rw [unrendered]
        rfl
      rw [save_of_unrendered store nothing]
      exact rests
    · have keeps : Fills (showing id fun letter : Letter =>
          (letter.path, letter.pictures, letter.enclosures)) id :=
        ⟨fun _ => shows_change fun _ => rfl, fun _ => shows_change fun _ => rfl,
          fun _ => shows_change fun _ => rfl⟩
      obtain ⟨path, registered⟩ := Prod.mk.inj (leads_save keeps store inside).2
      obtain ⟨pictures, enclosures⟩ := Prod.mk.inj registered
      exact ⟨.inr (ready_save store ready), path.trans rests.path,
        pictures.trans rests.pictures, enclosures.trans rests.enclosures⟩
  | process occasion =>
    have hosted := keepsAll_hostWithin enclosureLimit
    let store : Store Workspace := ⟨heap, workspace⟩
    have framed := leads_processWith (fun subject name given =>
      shows_of_keeps (hosted _ subject name given) fun _ => rfl) setting_renders occasion store inside
    change Rests id origin ((processWith (hostWithin enclosureLimit) id occasion).runFrom store).2.world
    have filled := prepares_fill unmarked hosted occasion store rests.reached
    have reached : Reached id origin
        ((fill (hostWithin enclosureLimit) id occasion).runFrom store).2.world := by
      rcases ran : (fill (hostWithin enclosureLimit) id occasion).runFrom store
        with ⟨fault | _, last⟩
      · rw [ran] at filled
        exact filled
      · rw [ran] at filled
        exact .inr filled
    have path := (Prod.mk.inj framed.2).1
    rw [processWith_eq] at path ⊢
    refine ⟨reached.modify_bare, path.trans rests.path, ?_, ?_⟩
    all_goals
      dsimp only
      rw [Workspace.letter_modify_self reached.inside]
      rfl

theorem Rests.afterAll (rests : Rests id origin workspace) (rounds : List Round) :
    Rests id origin (rounds.foldl (Round.after id) workspace) := by
  induction rounds generalizing workspace with
  | nil => exact rests
  | cons round rest ih => exact ih (rests.after unmarked round)

omit unmarked in
/-- The face of a letter that has just got ready is told by the package that it was opened with. -/
theorem Rests.face_of_ready (rests : Rests id origin workspace) {change : Letter → Letter}
    (plain : origin.ListsPlainly)
    (asides : ∀ letter, aside (change letter) = aside letter) {sources : Sources}
    (layout : ((workspace.modify id change).letter id).layout = {})
    (ready : Package.Ready sources origin ((workspace.modify id change).letter id).package) :
    ((workspace.modify id change).letter id).face
      = ⟨origin.path, {}, [], [], true, .ok (String.ofList sources.content),
        .ok (String.ofList sources.styles), origin.has ({} : Layout).manifestPart,
        origin.readsManifest⟩ := by
  have now := Workspace.letter_modify_self rests.reached.inside change
  obtain ⟨setting, rest⟩ := Prod.mk.inj (asides (workspace.letter id))
  obtain ⟨registered, -⟩ := Prod.mk.inj rest
  obtain ⟨pictures, enclosures⟩ := Prod.mk.inj registered
  obtain ⟨path, -⟩ := Prod.mk.inj setting
  rw [← now] at path pictures enclosures
  unfold Letter.face Letter.isCompiled
  rw [path, rests.path, pictures, rests.pictures, enclosures, rests.enclosures, layout,
    ready.isCompiled, ready.content, ready.styles, ready.hasManifest, (ready.manifest plain).2]

/-- Two letters that rest, opened with the same package, get ready both or neither, and nobody can
tell them apart then but by what they hold of a rendering. -/
theorem carries_makeReady {mode : Bool} {count : Nat} {first second : Store Workspace}
    (plain : origin.ListsPlainly) (enough : count ≤ first.world.letters.size)
    (heaps : (Accord.inStep mode).Alike first.toHeap second.toHeap)
    (same : Workspace.SameBut id first.world second.world) (rests : Rests id origin first.world)
    (alsoRests : Rests id origin second.world)
    (bodiless : (first.world.letter id).content.bind (·.rendered) = none) :
    CarriesFew count (Alongside count mode id Bodiless) (makeReady id) first second := by
  obtain ⟨log, change, asides, runs⟩ := makeReady_runs unmarked rests.reached
  obtain ⟨otherLog, another, otherAsides, follows⟩ :=
    makeReady_runs unmarked alsoRests.reached
  intro value after ran _
  cases compiled : origin.sources with
  | error fault =>
    rw [compiled] at runs
    rw [runs.1] at ran
    cases ran
  | ok sources =>
  rw [compiled] at runs follows
  rw [runs.1] at ran
  cases ran
  refine ⟨_, follows.1, { heaps with }, ?_⟩
  obtain ⟨-, found, package, isSources, ready, inside, shown⟩ := runs
  obtain ⟨-, others, alsoPackage, areSources, alsoReady, -, alsoShown⟩ := follows
  cases compiled.symm.trans isSources
  cases compiled.symm.trans areSources
  obtain ⟨isPackage, isLayout⟩ := Prod.mk.inj shown
  obtain ⟨isOther, alsoLayout⟩ := Prod.mk.inj alsoShown
  refine ⟨same.modify_self change another,
    Nat.le_trans enough (Nat.le_of_eq (Workspace.size_modify _ _ _).symm), inside, isLayout, ?_, ?_⟩
  · rw [rests.face_of_ready plain asides isLayout (isPackage ▸ ready),
      alsoRests.face_of_ready plain otherAsides alsoLayout (isOther ▸ alsoReady)]
  · have kept : (change (first.world.letter id)).content = (first.world.letter id).content :=
      congrArg (fun seen => seen.2.2.2) (asides (first.world.letter id))
    unfold Bodiless
    rw [Workspace.letter_modify_self rests.reached.inside, kept]
    exact bodiless

end

/-- A letter counts as compiled just when both compiled parts are in its package, and then they are
what the parts that it was opened with are compiled to. -/
structure KeepsSources (origin : Package) (letter : Letter) : Prop where
  isCompiled : letter.isCompiled = true ↔ letter.layout.contentSource ∈ letter.package.names ∧
    letter.layout.stylesSource ∈ letter.package.names
  sources : letter.isCompiled = true → ∃ sources, origin.sources = .ok sources ∧
    letter.package.readText letter.layout.contentSource = .ok (String.ofList sources.content) ∧
    letter.package.readText letter.layout.stylesSource = .ok (String.ofList sources.styles)

theorem Reached.keepsSources {origin : Package} {workspace : Workspace}
    (clean : ∀ name ∈ origin.names, ¬ IsOwn name)
    (unmarked : origin.has ({} : Layout).sourceDirectory = false)
    (reached : Reached id origin workspace) : KeepsSources origin (workspace.letter id) := by
  rcases reached with ⟨⟨-, shown⟩, -⟩ | ⟨sources, package, isSources, ready, -, shown⟩
  · obtain ⟨isPackage, isLayout⟩ := Prod.mk.inj shown
    have bare : (workspace.letter id).isCompiled = false := by
      unfold Letter.isCompiled
      rw [isPackage, isLayout]
      exact unmarked
    have own : IsOwn ({} : Layout).contentSource :=
      isOwn_of_mem_sources (List.mem_cons_of_mem _ List.mem_cons_self)
    constructor
    · rw [bare, isPackage, isLayout]
      exact ⟨nofun, fun both => absurd own (clean _ both.1)⟩
    · rw [bare]
      exact nofun
  · obtain ⟨isPackage, isLayout⟩ := Prod.mk.inj shown
    have compiled : (workspace.letter id).isCompiled = true := by
      unfold Letter.isCompiled
      rw [isPackage, isLayout]
      exact ready.isCompiled
    constructor
    · rw [compiled, isPackage, isLayout]
      exact ⟨fun _ => ⟨Package.mem_names_of_readText ready.content,
        Package.mem_names_of_readText ready.styles⟩, fun _ => rfl⟩
    · rw [isPackage, isLayout]
      exact fun _ => ⟨sources, isSources, ready.content, ready.styles⟩

/-! ## Rendering once more -/

/-- The code of a letter encloses no letters: none is opened while it is rendered. -/
def EnclosesNothing (id : Nat) (occasion : Occasion) (store : Store Workspace) : Prop :=
  ((process id occasion).runFrom store).2.world.letters.size = store.world.letters.size

instance (id : Nat) (occasion : Occasion) (store : Store Workspace) :
    Decidable (EnclosesNothing id occasion store) :=
  inferInstanceAs (Decidable (_ = _))

/-- A store in which a letter has lost the content of an earlier rendering. -/
def forgetting (id : Nat) (store : Store Workspace) : Store Workspace :=
  { store with world := store.world.modify id ({ · with content := none }) }

/-- The styles of a letter can be rendered. -/
def StylesRender (id : Nat) (occasion : Occasion) (store : Store Workspace) : Prop :=
  ∃ begun after,
    (renderStyles (hostWithin enclosureLimit) id occasion).runFrom store = (.ok begun, after)

/-- The styles of a letter do without the content of an earlier rendering. -/
def NeedsNoBody (id : Nat) (occasion : Occasion) (store : Store Workspace) : Prop :=
  StylesRender id occasion store → StylesRender id occasion (forgetting id store)

/-- A letter that rests, still rests when its content is lost. -/
theorem Rests.forgetting {origin : Package} {store : Store Workspace}
    (rests : Rests id origin store.world) : Rests id origin (forgetting id store).world := by
  have inside := rests.reached.inside
  have there : id < (Work.forgetting id store).world.letters.size :=
    Nat.lt_of_lt_of_eq inside (Workspace.size_modify _ _ _).symm
  have now : (Work.forgetting id store).world.letter id
      = { store.world.letter id with content := none } := Workspace.letter_modify_self inside _
  refine ⟨?_, ?_, ?_, ?_⟩
  · rcases rests.reached with ⟨shows, -⟩ | ⟨sources, package, isSources, ready, shows⟩
    · refine .inl ⟨⟨there, ?_⟩, ?_⟩
      · rw [now]
        exact shows.2
      · rw [now]
    · refine .inr ⟨sources, package, isSources, ready, there, ?_⟩
      rw [now]
      exact shows.2
  · rw [now]
    exact rests.path
  · rw [now]
    exact rests.pictures
  · rw [now]
    exact rests.enclosures

/-- A letter is rendered in two stores both or neither, and to the same texts. -/
structure RendersAlike (id : Nat) (occasion : Occasion) (first second : Store Workspace) :
    Prop where
  succeeds : (∃ after, (process id occasion).runFrom first = (.ok (), after)) ↔
    ∃ after, (process id occasion).runFrom second = (.ok (), after)
  same : ∀ after last, (process id occasion).runFrom first = (.ok (), after) →
    (process id occasion).runFrom second = (.ok (), last) →
      parts (after.world.letter id) = parts (last.world.letter id)

/-- Where a rendering in a store without content carries over to the other store, and back again
through a third one, the letter is rendered alike. -/
theorem RendersAlike.of_carries {occasion : Occasion} {used bare fresh : Store Workspace}
    {count : Nat}
    (forth : CarriesFew count (SameParts id) (process id occasion) fresh used)
    (lost : CarriesFew count (SameParts id) (process id occasion) used bare)
    (back : CarriesFew count (SameParts id) (process id occasion) bare fresh)
    (fewUsed : Workspace.AtMost count ((process id occasion).runFrom used).2.world)
    (fewBare : Workspace.AtMost count ((process id occasion).runFrom bare).2.world)
    (fewFresh : Workspace.AtMost count ((process id occasion).runFrom fresh).2.world) :
    RendersAlike id occasion used fresh := by
  refine ⟨⟨fun ⟨after, ran⟩ => ?_, fun ⟨after, ran⟩ => ?_⟩, fun after last ran followed => ?_⟩
  · rw [ran] at fewUsed
    obtain ⟨middle, through, -⟩ := lost () after ran fewUsed
    rw [through] at fewBare
    obtain ⟨last, followed, -⟩ := back () middle through fewBare
    exact ⟨last, followed⟩
  · rw [ran] at fewFresh
    obtain ⟨last, followed, -⟩ := forth () after ran fewFresh
    exact ⟨last, followed⟩
  · rw [followed] at fewFresh
    obtain ⟨found, isFound, same⟩ := forth () last followed fewFresh
    cases isFound.symm.trans ran
    exact same.parts.symm

/-- A letter that rests in two states, in one of them without content, is rendered alike, if its
styles do without the content in the other one. -/
theorem rendersAlike_of_rests {origin : Package} {mode : Bool} {occasion : Occasion}
    {used fresh : Store Workspace} (unmarked : origin.has ({} : Layout).sourceDirectory = false)
    (plain : origin.ListsPlainly) (heaps : (Accord.inStep mode).Alike used.toHeap fresh.toHeap)
    (same : Workspace.SameBut id used.world fresh.world) (rests : Rests id origin used.world)
    (freshRests : Rests id origin fresh.world)
    (bodiless : (fresh.world.letter id).content.bind (·.rendered) = none)
    (alone : EnclosesNothing id occasion used) (freshAlone : EnclosesNothing id occasion fresh)
    (bareAlone : EnclosesNothing id occasion (forgetting id used))
    (needsNoBody : NeedsNoBody id occasion used) : RendersAlike id occasion used fresh := by
  let bare := forgetting id used
  let count := used.world.letters.size
  have inside := rests.reached.inside
  have bareRests : Rests id origin bare.world := rests.forgetting
  have bareSize : bare.world.letters.size = count := Workspace.size_modify _ _ _
  have bareHeaps : (Accord.inStep mode).Alike bare.toHeap used.toHeap :=
    ⟨rfl, rfl, rfl, rfl, trivial, heaps.firstMode, heaps.firstMode⟩
  have bareSame {other : Workspace} (same : Workspace.SameBut id used.world other) :
      Workspace.SameBut id bare.world other := by
    have changed := same.modify_self ({ · with content := none }) fun letter => letter
    rwa [Workspace.modify_eq_self] at changed
  have bareBodiless : (bare.world.letter id).content.bind (·.rendered) = none := by
    change ((used.world.modify id _).letter id).content.bind _ = none
    rw [Workspace.letter_modify_self inside]
    rfl
  -- What is rendered without content is rendered with one, for then no content can be asked for.
  have forth : CarriesFew count (SameParts id) (process id occasion) fresh used :=
    carries_process (carries_makeReady unmarked plain (Nat.le_of_eq same.size)
      (Accord.inStep.alike_symm heaps) same.symm freshRests rests bodiless)
  have back : CarriesFew count (SameParts id) (process id occasion) bare fresh :=
    carries_process (carries_makeReady unmarked plain (Nat.le_of_eq bareSize.symm)
      { heaps with } (bareSame same) bareRests freshRests bareBodiless)
  -- Conversely, the content is dropped first.
  have lost : CarriesFew count (SameParts id) (process id occasion) used bare := by
    intro value after ran few
    obtain ⟨begun, middle, -, styled, -⟩ := process_eq_ok_iff.mp ran
    obtain ⟨other, last, alsoStyled⟩ := needsNoBody ⟨begun, middle, styled⟩
    have ready := carries_makeReady unmarked plain (Nat.le_of_eq bareSize.symm) bareHeaps
      (bareSame ⟨rfl, rfl, fun _ _ => rfl⟩) bareRests rests bareBodiless
    refine carries_process_back ready alsoStyled ?_ value after ran few
    exact Nat.le_trans (size_le_of_renderStyles alsoStyled)
      (Nat.le_of_eq (bareAlone.trans bareSize))
  exact .of_carries forth lost back (Nat.le_of_eq alone) (Nat.le_of_eq (bareAlone.trans bareSize))
    (Nat.le_of_eq (freshAlone.trans same.size.symm))

/-- A letter with a bare content, and with this code in its styles. -/
def styledLetter (code : String) : Archive :=
  [⟨"content.xml", ⟨.deflated, 1, .earliest⟩, "<a/>".toUTF8⟩,
    ⟨"styles.xml", ⟨.deflated, 1, .earliest⟩, ("<a><!--" ++ code ++ "--></a>").toUTF8⟩]

/-- The store in which that letter is opened. -/
def styledStart (code : String) : Store Workspace :=
  .start false ⟨[(["t.odt"], .archive (styledLetter code))], #[]⟩

/-- The store in which it was opened. -/
def styledOpened (code : String) : Store Workspace :=
  (M.runFrom (openAt {} ⟨"", ["t.odt"]⟩) (styledStart code)).2

/-- A heap that holds nothing. -/
def bareHeap : Heap := (Store.start false (⟨[], #[]⟩ : Workspace)).toHeap

/-- A rendering with this value. -/
def roundWith (data : Value) : Round := ⟨bareHeap, .process ⟨0, data, .none⟩⟩

/-- The letters after these rounds. -/
def styledUsed (code : String) (rounds : List Round) : Workspace :=
  rounds.foldl (Round.after 0) (styledOpened code).world

/-- The same letters, but that the letter is as it was opened. -/
def styledAnew (code : String) (rounds : List Round) : Workspace :=
  (styledUsed code rounds).modify 0 fun _ => (styledOpened code).world.letter 0

/-- Code in the styles that asks for the body when there is data. -/
def asksForBody : String := "<% if data %><%= template.body() %><% endif %>"

end Work

end FormLetter
