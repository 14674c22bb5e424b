import FormLetter.Proofs.Letter.Rendering
import FormLetter.Proofs.Package.Operations

/-!
# What rendering makes of a package

While a letter is rendered, a few operations are done to its package, and none of them takes out
anything or commits: the compiled parts are written, the registered pictures are copied into their
directory, and the manifest is written anew to list them. A letter that registers no pictures gets
no more than its compiled parts.
-/

namespace FormLetter

open FormLetter.Script

/-- What is done to the package of a letter while it is rendered, with these pictures registered. -/
inductive Filling (layout : Layout) (pictures : List (String × Path)) :
    Package.Operation → Prop where
  | sourceDirectory : Filling layout pictures (.makeDirectory layout.sourceDirectory)
  | contentSource (bytes : ByteArray) : Filling layout pictures (.write layout.contentSource bytes)
  | stylesSource (bytes : ByteArray) : Filling layout pictures (.write layout.stylesSource bytes)
  | pictureDirectory (some_ : pictures ≠ []) :
    Filling layout pictures (.makeDirectory layout.pictureDirectory)
  | picture {name : String} {path : Path} (member : (name, path) ∈ pictures) :
    Filling layout pictures (.addFile (layout.pictureDirectory ++ "/" ++ name) path)
  | manifest (some_ : pictures ≠ []) (bytes : ByteArray) :
    Filling layout pictures (.write layout.manifestPart bytes)

/-- One package comes of another by operations that rendering does. -/
def Package.Fills (layout : Layout) (pictures : List (String × Path)) (before after : Package) :
    Prop :=
  ∃ operations, (∀ operation ∈ operations, Filling layout pictures operation) ∧
    Package.Develops operations before after

namespace Package.Fills

variable {layout : Layout} {pictures : List (String × Path)} {before between after : Package}

theorem refl (package : Package) : Fills layout pictures package package :=
  ⟨[], nofun, .refl package⟩

theorem trans (begun : Fills layout pictures before between)
    (ended : Fills layout pictures between after) : Fills layout pictures before after := by
  obtain ⟨first, fillsFirst, begun⟩ := begun
  obtain ⟨second, fillsSecond, ended⟩ := ended
  exact ⟨first ++ second, List.forall_mem_append.mpr ⟨fillsFirst, fillsSecond⟩, begun.trans ended⟩

theorem of_perform {operation : Package.Operation} (files : Files)
    (fills : Filling layout pictures operation)
    (done : operation.perform before files = .ok (after, files)) :
    Fills layout pictures before after := by
  refine ⟨[operation], by simpa using fills, Package.develops_of_perform files ?_ done⟩
  rintro rfl
  cases fills

end Package.Fills

/-- Keeping the compiled parts fills a package. -/
theorem Sources.fills_keep (sources : Sources) (layout : Layout) (pictures : List (String × Path))
    (package : Package) : Package.Fills layout pictures package (sources.keep layout package) :=
  ((Package.Fills.of_perform [] .sourceDirectory rfl).trans
    (.of_perform [] (.contentSource _) rfl)).trans
      (.of_perform [] (.stylesSource _) rfl)

namespace Work

variable {id : Nat}

/-! ## Compiling -/

/-- The parts of a letter are there and can be indented. -/
structure HasParts (letter : Letter) : Prop where
  content : ∃ bytes text, letter.package.read letter.layout.contentPart = .ok bytes ∧
    indented bytes = .ok text
  styles : ∃ bytes text, letter.package.read letter.layout.stylesPart = .ok bytes ∧
    indented bytes = .ok text

/-- The parts of a letter, as they were indented, are compiled to sources. -/
structure CompilesTo (letter : Letter) (styles content : List Char) (sources : Sources) :
    Prop where
  isStyles : ∃ bytes, letter.package.read letter.layout.stylesPart = .ok bytes ∧
    indented bytes = .ok styles
  isContent : ∃ bytes, letter.package.read letter.layout.contentPart = .ok bytes ∧
    indented bytes = .ok content
  isCompiled : Sources.ofParts letter.layout.reserved styles content = .ok sources

theorem CompilesTo.hasParts {letter : Letter} {styles content : List Char} {sources : Sources}
    (compilesTo : CompilesTo letter styles content sources) : HasParts letter :=
  ⟨compilesTo.isContent.imp fun _ isPart => ⟨content, isPart⟩,
    compilesTo.isStyles.imp fun _ isPart => ⟨styles, isPart⟩⟩

/-- A letter that was compiled has its parts, its sources are what they are compiled to, and these
are kept in its package. -/
theorem compile_eq_ok {store after : Store Workspace} {sources : Sources}
    (done : (compile id).runFrom store = (.ok sources, after)) :
    (∃ styles content, CompilesTo (store.world.letter id) styles content sources) ∧
      (id < store.world.letters.size → (after.world.letter id).package
        = sources.keep (store.world.letter id).layout (store.world.letter id).package) := by
  unfold compile at done
  obtain ⟨before, _, looked, done⟩ := M.runFrom_bind_eq_ok.mp done
  cases looked
  obtain ⟨stylesBytes, _, readStyles, done⟩ := M.runFrom_bind_eq_ok.mp done
  obtain ⟨hasStyles, rfl⟩ := M.runFrom_liftExcept_eq_ok.mp readStyles
  obtain ⟨styles, _, indentedStyles, done⟩ := M.runFrom_bind_eq_ok.mp done
  obtain ⟨isStyles, rfl⟩ := M.runFrom_liftExcept_eq_ok.mp indentedStyles
  obtain ⟨_, _, keptStyles, done⟩ := M.runFrom_bind_eq_ok.mp done
  obtain ⟨contentBytes, _, readContent, done⟩ := M.runFrom_bind_eq_ok.mp done
  obtain ⟨hasContent, rfl⟩ := M.runFrom_liftExcept_eq_ok.mp readContent
  obtain ⟨content, _, indentedContent, done⟩ := M.runFrom_bind_eq_ok.mp done
  obtain ⟨isContent, rfl⟩ := M.runFrom_liftExcept_eq_ok.mp indentedContent
  rw [runFrom_change] at keptStyles
  cases keptStyles
  obtain ⟨_, _, keptContent, done⟩ := M.runFrom_bind_eq_ok.mp done
  rw [runFrom_change] at keptContent
  cases keptContent
  obtain ⟨made, _, compiled, done⟩ := M.runFrom_bind_eq_ok.mp done
  obtain ⟨isCompiled, rfl⟩ := M.runFrom_liftExcept_eq_ok.mp compiled
  obtain ⟨_, reported, reports, done⟩ := M.runFrom_bind_eq_ok.mp done
  have world := (Leads.forM fun line => Leads.lift _ : Leads .still _).world_eq reports
  obtain ⟨_, _, filled, done⟩ := M.runFrom_bind_eq_ok.mp done
  rw [runFrom_changePackage, world] at filled
  cases filled
  cases done
  refine ⟨⟨styles, content, ⟨_, hasStyles, isStyles⟩, ⟨_, hasContent, isContent⟩, isCompiled⟩,
    fun inside => ?_⟩
  dsimp only
  rw [Workspace.modify_modify, Workspace.modify_modify, Workspace.letter_modify_self inside]

/-! ## Rendering -/

/-- What a view shows after a run that keeps it. -/
theorem shown_after {α β : Type} (view : Letter → α) {action : Work β}
    {store after : Store Workspace} {outcome : Except Fault β}
    (leads : Leads (showing id view) action) (inside : id < store.world.letters.size)
    (ran : action.runFrom store = (outcome, after)) :
    id < after.world.letters.size ∧
      view (after.world.letter id) = view (store.world.letter id) := by
  have shown := leads store inside
  rw [ran] at shown
  exact shown

/-- A letter that gets ready and was not compiled before is compiled. -/
theorem makeReady_eq_ok {store after : Store Workspace} (inside : id < store.world.letters.size)
    (fresh : (store.world.letter id).isCompiled = false)
    (done : (makeReady id).runFrom store = (.ok (), after)) :
    HasParts (store.world.letter id) ∧ ∃ sources : Sources, (after.world.letter id).package
      = sources.keep (store.world.letter id).layout (store.world.letter id).package := by
  unfold makeReady at done
  rw [M.runFrom_bind, runFrom_letter] at done
  dsimp only at done
  rw [fresh, if_neg Bool.false_ne_true] at done
  obtain ⟨sources, middle, compiled, done⟩ := M.runFrom_bind_eq_ok.mp done
  cases done
  obtain ⟨⟨_, _, compilesTo⟩, kept⟩ := compile_eq_ok compiled
  exact ⟨compilesTo.hasParts, sources, kept inside⟩

section

variable {host : Host Workspace} (hosted : KeepsAll host)

include hosted

/-- Rendering the parts of a letter that was not compiled compiles it, and nothing else is done to
its package. -/
theorem renderParts_compiles {occasion : Occasion} {store after : Store Workspace}
    {parts : Part × Part} (inside : id < store.world.letters.size)
    (fresh : (store.world.letter id).isCompiled = false)
    (done : (renderParts host id occasion).runFrom store = (.ok parts, after)) :
    id < after.world.letters.size ∧ HasParts (store.world.letter id) ∧
      ∃ sources : Sources, (after.world.letter id).package
        = sources.keep (store.world.letter id).layout (store.world.letter id).package := by
  have calls (subject : Value) (name : String) (given : Given) :
      Leads (showing id Letter.package) (host subject name given) :=
    shows_of_keeps (hosted _ subject name given) fun _ => rfl
  have keepsStyles (part : Part) :
      Leads (showing id Letter.package) (Work.change id (Letter.withStyles part)) :=
    shows_change fun _ => rfl
  have keepsContent (part : Part) :
      Leads (showing id Letter.package) (Work.change id (Letter.withContent part)) :=
    shows_change fun _ => rfl
  unfold renderParts at done
  obtain ⟨begun, styled, rendered, done⟩ := M.runFrom_bind_eq_ok.mp done
  obtain ⟨content, filled, renderedContent, done⟩ := M.runFrom_bind_eq_ok.mp done
  cases done
  unfold renderStyles at rendered
  obtain ⟨prepared, first, readied, rendered⟩ := M.runFrom_bind_eq_ok.mp rendered
  unfold prepare at readied
  obtain ⟨_, ready, isReady, readied⟩ := M.runFrom_bind_eq_ok.mp readied
  have there : id < ready.world.letters.size := by
    have kept := leads_makeReady (keeping_renders (Nat.le_refl id)).toFills store
      (Nat.le_of_lt inside)
    rw [isReady] at kept
    exact Nat.lt_of_lt_of_le inside kept.grows
  obtain ⟨hasParts, sources, kept⟩ := makeReady_eq_ok inside fresh isReady
  have prepares := shown_after Letter.package
    ((leads_letter id).bind fun found => (leads_bindings id occasion).bind fun bound =>
      (leads_nameOf id).bind fun name => (Leads.lift _).seq
        ((leads_partOf id _ _).bind fun part => Leads.pure _)) there readied
  have styles := shown_after Letter.package
    ((leads_renderPart calls keepsStyles _ _).bind fun styles => (leads_letter id).bind fun found =>
      (leads_partOf id _ _).bind fun content => Leads.pure _) prepares.1 rendered
  have contents := shown_after Letter.package (leads_renderPart calls keepsContent _ _) styles.1
    renderedContent
  refine ⟨contents.1, hasParts, sources, ?_⟩
  rw [contents.2, styles.2, prepares.2, kept]

end

/-! ## Adding pictures -/

/-- The package of a letter is filled, and the letter is the same otherwise. -/
def Refills (id : Nat) (pictures : List (String × Path)) (before after : Workspace) : Prop :=
  id < after.letters.size ∧ ∃ package, after.letter id = { before.letter id with package } ∧
    Package.Fills (before.letter id).layout pictures (before.letter id).package package

section

variable {pictures : List (String × Path)} {first second third : Workspace}

theorem Refills.refl (inside : id < first.letters.size) : Refills id pictures first first :=
  ⟨inside, _, rfl, .refl _⟩

theorem Refills.trans (begun : Refills id pictures first second)
    (ended : Refills id pictures second third) : Refills id pictures first third := by
  obtain ⟨-, package, now, fills⟩ := begun
  obtain ⟨inside, last, later, fillsMore⟩ := ended
  rw [now] at later fillsMore
  exact ⟨inside, last, later, fills.trans fillsMore⟩

/-- A change of the package by one operation. -/
theorem Refills.change {operation : Package.Operation} {package : Package} (files : Files)
    (change : Package → Package) (inside : id < first.letters.size)
    (fills : Filling (first.letter id).layout pictures operation)
    (done : operation.perform (first.letter id).package files = .ok (package, files))
    (changes : change (first.letter id).package = package) :
    Refills id pictures first
      (first.modify id fun letter => { letter with package := change letter.package }) := by
  refine ⟨Nat.lt_of_lt_of_eq inside (Workspace.size_modify _ _ _).symm, package, ?_,
    .of_perform files fills done⟩
  rw [Workspace.letter_modify_self inside, changes]

variable {store after : Store Workspace}

theorem makePictureDirectory_eq_ok (inside : id < store.world.letters.size)
    (some_ : pictures ≠ []) (done : (makePictureDirectory id).runFrom store = (.ok (), after)) :
    Refills id pictures store.world after.world := by
  unfold makePictureDirectory at done
  rw [M.runFrom_bind, runFrom_letter] at done
  dsimp only at done
  split at done
  · rw [runFrom_changePackage] at done
    cases done
    exact .change [] (·.makeDirectory (store.world.letter id).layout.pictureDirectory) inside
      (.pictureDirectory some_) rfl rfl
  · cases done
    exact .refl inside

theorem embedPicture_eq_ok {name entry : String} {path : Path}
    (inside : id < store.world.letters.size) (member : (name, path) ∈ pictures)
    (done : (embedPicture id name path).runFrom store = (.ok entry, after)) :
    Refills id pictures store.world after.world := by
  unfold embedPicture at done
  rw [M.runFrom_bind, runFrom_letter] at done
  dsimp only at done
  rw [M.runFrom_bind, runFrom_files] at done
  dsimp only at done
  obtain ⟨package, _, copied, done⟩ := M.runFrom_bind_eq_ok.mp done
  obtain ⟨added, rfl⟩ := M.runFrom_liftExcept_eq_ok.mp copied
  rw [M.runFrom_bind, runFrom_changePackage] at done
  cases done
  refine Refills.change store.world.files (fun _ => package) inside (.picture member) ?_ rfl
  change Except.map _ ((store.world.letter id).package.addFile store.world.files _ path) = _
  rw [added]
  rfl

theorem embedAll_eq_ok {listed : List (String × Path)} {entries : List String}
    (inside : id < store.world.letters.size) (subset : listed ⊆ pictures)
    (done : M.runFrom (listed.mapM fun (name, path) => embedPicture id name path) store
      = (.ok entries, after)) : Refills id pictures store.world after.world := by
  induction listed generalizing store entries with
  | nil =>
    cases done
    exact .refl inside
  | cons picture rest ih =>
    rw [List.mapM_cons] at done
    obtain ⟨entry, middle, embedded, done⟩ := M.runFrom_bind_eq_ok.mp done
    obtain ⟨others, last, embeddedAll, done⟩ := M.runFrom_bind_eq_ok.mp done
    cases done
    have first := embedPicture_eq_ok inside (subset List.mem_cons_self) embedded
    exact first.trans (ih first.1 (fun _ member => subset (List.mem_cons_of_mem _ member))
      embeddedAll)

theorem register_eq_ok {added : List String} (inside : id < store.world.letters.size)
    (some_ : pictures ≠ []) (done : (register id added).runFrom store = (.ok (), after)) :
    Refills id pictures store.world after.world := by
  unfold register at done
  rw [M.runFrom_bind, runFrom_letter] at done
  dsimp only at done
  split at done
  · obtain ⟨bytes, _, read, done⟩ := M.runFrom_bind_eq_ok.mp done
    obtain ⟨-, rfl⟩ := M.runFrom_liftExcept_eq_ok.mp read
    obtain ⟨written, _, listed, done⟩ := M.runFrom_bind_eq_ok.mp done
    obtain ⟨-, rfl⟩ := M.runFrom_liftExcept_eq_ok.mp listed
    rw [runFrom_changePackage] at done
    obtain ⟨-, rfl⟩ := Prod.mk.inj done
    let text := String.ofList written
    exact .change [] (·.writeText (store.world.letter id).layout.manifestPart text) inside
      (.manifest some_ text.toUTF8) rfl rfl
  · cases done
    exact .refl inside

/-- Adding the registered pictures fills the package. -/
theorem addPictures_eq_ok (inside : id < store.world.letters.size)
    (done : (addPictures id).runFrom store = (.ok (), after)) :
    Refills id (store.world.letter id).pictures store.world after.world := by
  unfold addPictures at done
  rw [M.runFrom_bind, runFrom_letter] at done
  dsimp only at done
  split at done
  · cases done
    exact .refl inside
  · rename_i registered
    have some_ : (store.world.letter id).pictures ≠ [] := by simpa using registered
    unfold embedPictures at done
    obtain ⟨_, first, directory, done⟩ := M.runFrom_bind_eq_ok.mp done
    obtain ⟨before, _, looked, done⟩ := M.runFrom_bind_eq_ok.mp done
    cases looked
    obtain ⟨entries, second, embedded, done⟩ := M.runFrom_bind_eq_ok.mp done
    obtain ⟨_, third, listed, done⟩ := M.runFrom_bind_eq_ok.mp done
    have makes := makePictureDirectory_eq_ok inside some_ directory
    have same : (first.world.letter id).pictures = (store.world.letter id).pictures := by
      obtain ⟨-, package, now, -⟩ := makes
      rw [now]
    have embeds := embedAll_eq_ok makes.1 (fun _ member => same ▸ member) embedded
    have lists := register_eq_ok embeds.1 some_ listed
    cases done
    exact (makes.trans embeds).trans lists

end

/-! ## Whole renderings -/

/-- The pictures that are registered with a letter when its parts were rendered. -/
def Registers (host : Host Workspace) (id : Nat) (occasion : Occasion) (store : Store Workspace)
    (pictures : List (String × Path)) : Prop :=
  ∃ parts after, (renderParts host id occasion).runFrom store = (.ok parts, after) ∧
    (after.world.letter id).pictures = pictures

/-- Rendering a letter that was not compiled compiles it and adds the pictures that were registered
meanwhile. Nothing else is done to its package. -/
theorem processWith_fills {host : Host Workspace} (hosted : KeepsAll host)
    {occasion : Occasion} {store after : Store Workspace} (inside : id < store.world.letters.size)
    (fresh : (store.world.letter id).isCompiled = false)
    (done : (processWith host id occasion).runFrom store = (.ok (), after)) :
    HasParts (store.world.letter id) ∧ ∃ pictures, Registers host id occasion store pictures ∧
      Package.Fills (store.world.letter id).layout pictures (store.world.letter id).package
        (after.world.letter id).package := by
  rw [processWith_eq] at done
  rcases filled : (fill host id occasion).runFrom store with ⟨fault | _, last⟩
  · rw [filled] at done
    cases done
  · rw [filled] at done
    cases done
    unfold fill addRegistered at filled
    obtain ⟨parts, rendered, isRendered, filled⟩ := M.runFrom_bind_eq_ok.mp filled
    obtain ⟨_, merged, isMerged, filled⟩ := M.runFrom_bind_eq_ok.mp filled
    obtain ⟨there, hasParts, sources, compiled⟩ :=
      renderParts_compiles hosted inside fresh isRendered
    have encloses := shown_after
      (fun letter : Letter => (letter.package, letter.pictures, letter.layout))
      (leads_addEnclosed fun part => shows_change fun _ => rfl) there isMerged
    obtain ⟨samePackage, rest⟩ := Prod.mk.inj encloses.2
    obtain ⟨samePictures, sameLayout⟩ := Prod.mk.inj rest
    have framed := shown_after Letter.setting (leads_renderParts (fun subject name given =>
      shows_of_keeps (hosted _ subject name given) fun _ => rfl) setting_renders occasion)
      inside isRendered
    obtain ⟨-, layoutKept⟩ := Prod.mk.inj framed.2
    obtain ⟨still, package, now, fills⟩ := addPictures_eq_ok encloses.1 filled
    rw [samePictures, sameLayout, layoutKept, samePackage, compiled] at fills
    refine ⟨hasParts, _, ⟨parts, rendered, isRendered, rfl⟩, ?_⟩
    dsimp only
    rw [Workspace.letter_modify_self still, now]
    exact (sources.fills_keep _ _ _).trans fills

end Work

end FormLetter
