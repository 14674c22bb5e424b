import FormLetter.Proofs.Letter.Filling

/-!
# What a rendering that fails leaves in the package

A rendering can fail while the letter is compiled, in either part, when the styles of the enclosed
letters are added, and when the pictures are. Up to the pictures, all that is done to the package is
to keep the compiled parts. The pictures are copied one after the other and listed in the manifest at
the end; when that fails, those that were copied stay, and so does their directory.
-/

namespace FormLetter

open FormLetter.Script

/-! ## Packages that differ in a few names -/

/-- The names of the compiled parts of a letter, and that of their directory. -/
def Layout.sourceNames (layout : Layout) : List String :=
  [Package.directoryName layout.sourceDirectory, layout.contentSource, layout.stylesSource]

namespace Package

/-- Two packages hold the same entries in the same order, but for those with some names. Nothing
else is known about the others, and both remember the same as committed. -/
structure SameBut (names : List String) (before after : Package) : Prop where
  contents : ∀ name ∉ names, after.content? name = before.content? name
  order : after.names.filter (· ∉ names) = before.names.filter (· ∉ names)
  infos : after.infos = before.infos
  committed : after.committed = before.committed
  path : after.path = before.path
  isClosed : after.isClosed = before.isClosed

namespace SameBut

variable {names : List String} {before between after : Package}

theorem refl (package : Package) : SameBut names package package :=
  ⟨fun _ _ => rfl, rfl, rfl, rfl, rfl, rfl⟩

theorem trans (begun : SameBut names before between) (ended : SameBut names between after) :
    SameBut names before after where
  contents name other := (ended.contents name other).trans (begun.contents name other)
  order := ended.order.trans begun.order
  infos := ended.infos.trans begun.infos
  committed := ended.committed.trans begun.committed
  path := ended.path.trans begun.path
  isClosed := ended.isClosed.trans begun.isClosed

theorem write {name : String} (member : name ∈ names) (package : Package) (bytes : ByteArray) :
    SameBut names package (package.write name bytes) where
  contents other outside := by
    have differs : other ≠ name := by
      rintro rfl
      exact outside member
    change (Keyed.put name _ package.entries).lookup other = _
    rw [Keyed.lookup_put, if_neg differs]
    rfl
  order := by
    change (Keyed.names (Keyed.put name _ package.entries)).filter _ = _
    rw [Keyed.names_put]
    split
    · rfl
    · rw [List.filter_append]
      simp [member, Package.names]
  infos := rfl
  committed := rfl
  path := rfl
  isClosed := rfl

theorem makeDirectory {name : String} (member : directoryName name ∈ names) (package : Package) :
    SameBut names package (package.makeDirectory name) := by
  unfold Package.makeDirectory
  dsimp only
  split
  · exact refl package
  · exact write member package .empty

end SameBut

/-- A package is as it was, or the compiled parts of a letter are kept in it. -/
def Readies (layout : Layout) (before after : Package) : Prop :=
  after = before ∨ ∃ sources : Sources, after = sources.keep layout before

theorem Readies.sameBut {layout : Layout} {before after : Package}
    (readies : Readies layout before after) : SameBut layout.sourceNames before after := by
  obtain rfl | ⟨sources, rfl⟩ := readies
  · exact .refl _
  · have directory : directoryName layout.sourceDirectory ∈ layout.sourceNames := by
      simp [Layout.sourceNames]
    have content : layout.contentSource ∈ layout.sourceNames := by simp [Layout.sourceNames]
    have styles : layout.stylesSource ∈ layout.sourceNames := by simp [Layout.sourceNames]
    exact ((SameBut.makeDirectory directory before).trans (.write content _ _)).trans
      (.write styles _ _)

/-! ## Pictures, one after the other -/

/-- A package with a directory for pictures. -/
def withPictureDirectory (layout : Layout) (package : Package) : Package :=
  if package.has layout.pictureDirectory then package
  else package.makeDirectory layout.pictureDirectory

/-- Copies pictures into a package, up to the first that cannot be read. -/
def embedAll (files : Files) (layout : Layout) (package : Package)
    (pictures : List (String × Path)) : Except Fault Package :=
  pictures.foldlM
    (fun package picture =>
      package.addFile files (layout.pictureDirectory ++ "/" ++ picture.1) picture.2)
    package

end Package

namespace Work

variable {id : Nat} {α β : Type}

/-! ## Up to the pictures -/

/-- A letter that is there, and of which a view shows this. -/
def Shows {γ : Type} (id : Nat) (view : Letter → γ) (seen : γ) (workspace : Workspace) : Prop :=
  id < workspace.letters.size ∧ view (workspace.letter id) = seen

section

variable {γ : Type} {view : Letter → γ} {seen : γ} {store after : Store Workspace}

theorem Shows.after_leads {action : Work α} (shows : Shows id view seen store.world)
    (leads : Leads (showing id view) action) :
    Shows id view seen (action.runFrom store).2.world :=
  have shown := leads store shows.1
  ⟨shown.1, shown.2.trans shows.2⟩

/-- After an action that keeps what a view shows the view shows the same, and so it does where the
next action begins, if there is one. -/
theorem Shows.bind_cases {action : Work α} {next : α → Work β} {outcome : Except Fault β}
    (shows : Shows id view seen store.world) (leads : Leads (showing id view) action)
    (ran : (action >>= next).runFrom store = (outcome, after)) :
    ((∃ fault, outcome = .error fault) ∧ Shows id view seen after.world) ∨
    ∃ value middle, action.runFrom store = (.ok value, middle) ∧
      Shows id view seen middle.world ∧ (next value).runFrom middle = (outcome, after) := by
  have shown := shows.after_leads leads
  rw [M.runFrom_bind] at ran
  rcases first : action.runFrom store with ⟨fault | value, middle⟩
  · rw [first] at ran shown
    cases ran
    exact Or.inl ⟨⟨fault, rfl⟩, shown⟩
  · rw [first] at ran shown
    exact Or.inr ⟨value, middle, rfl, shown, ran⟩

end

/-- The package and the layout of a letter. -/
def packed (letter : Letter) : Package × Layout := (letter.package, letter.layout)

theorem packed_bare (letter : Letter) : packed letter.bare = packed letter := rfl

/-- A letter of this layout whose package is this one, or has the compiled parts besides. -/
def Readied (id : Nat) (package : Package) (layout : Layout) (workspace : Workspace) : Prop :=
  ∃ after, Package.Readies layout package after ∧ Shows id packed (after, layout) workspace

/-- Whether an action fails or not, nothing but the compiled parts is new in the package. -/
def Readying (id : Nat) (action : Work α) : Prop :=
  ∀ store package layout, Shows id packed (package, layout) store.world →
    Readied id package layout (action.runFrom store).2.world

/-- What leaves the package as it is may follow. -/
theorem Readying.bind {action : Work α} {next : α → Work β} (readying : Readying id action)
    (leads : ∀ value, Leads (showing id packed) (next value)) :
    Readying id (action >>= next) := by
  intro store package layout shows
  have begun := readying store package layout shows
  rw [M.runFrom_bind]
  rcases ran : action.runFrom store with ⟨fault | value, middle⟩
  · rw [ran] at begun
    exact begun
  · rw [ran] at begun
    obtain ⟨ready, readies, shows⟩ := begun
    exact ⟨ready, readies, shows.after_leads (leads value)⟩

theorem readying_compile (id : Nat) : Readying id (compile id) := by
  intro store package layout shows
  rcases ran : (compile id).runFrom store with ⟨outcome, after⟩
  -- As long as nothing was kept, the package is as it was.
  have still {last : Store Workspace} (shown : Shows id packed (package, layout) last.world) :
      Readied id package layout last.world := ⟨package, Or.inl rfl, shown⟩
  have stylesKept (text : List Char) : Leads (showing id packed)
      (Work.change id ({ · with rawStyles := some text })) := shows_change fun _ => rfl
  have contentKept (text : List Char) : Leads (showing id packed)
      (Work.change id ({ · with rawContent := some text })) := shows_change fun _ => rfl
  obtain ⟨-, sameLayout⟩ := Prod.mk.inj shows.2
  unfold compile at ran
  rw [M.runFrom_bind, runFrom_letter] at ran
  dsimp only at ran
  rw [sameLayout] at ran
  rcases shows.bind_cases (Leads.liftExcept _) ran with ⟨-, shown⟩ | ⟨_, _, -, shows, ran⟩
  · exact still shown
  rcases shows.bind_cases (Leads.liftExcept _) ran with ⟨-, shown⟩ | ⟨styles, _, -, shows, ran⟩
  · exact still shown
  rcases shows.bind_cases (stylesKept styles) ran with ⟨-, shown⟩ | ⟨_, _, -, shows, ran⟩
  · exact still shown
  rcases shows.bind_cases (Leads.liftExcept _) ran with ⟨-, shown⟩ | ⟨_, _, -, shows, ran⟩
  · exact still shown
  rcases shows.bind_cases (Leads.liftExcept _) ran with ⟨-, shown⟩ | ⟨content, _, -, shows, ran⟩
  · exact still shown
  rcases shows.bind_cases (contentKept content) ran with ⟨-, shown⟩ | ⟨_, _, -, shows, ran⟩
  · exact still shown
  rcases shows.bind_cases (Leads.liftExcept _) ran with ⟨-, shown⟩ | ⟨sources, _, -, shows, ran⟩
  · exact still shown
  rcases shows.bind_cases (Leads.forM fun line => Leads.lift _) ran with
    ⟨-, shown⟩ | ⟨_, middle, -, ⟨inside, shown⟩, ran⟩
  · exact still shown
  -- The parts are kept; what is left only reports.
  rw [M.runFrom_bind, runFrom_changePackage] at ran
  cases ran
  obtain ⟨samePackage, sameLayout⟩ := Prod.mk.inj shown
  refine ⟨sources.keep layout package, Or.inr ⟨sources, rfl⟩, ?_, ?_⟩
  · exact Nat.lt_of_lt_of_eq inside (Workspace.size_modify _ _ _).symm
  · change packed ((middle.world.modify id _).letter id) = _
    rw [Workspace.letter_modify_self inside]
    exact Prod.ext (congrArg (sources.keep layout) samePackage) sameLayout

theorem readying_makeReady (id : Nat) : Readying id (makeReady id) := by
  intro store package layout shows
  unfold makeReady
  rw [M.runFrom_bind, runFrom_letter]
  dsimp only
  split
  · exact ⟨package, Or.inl rfl,
      shows.after_leads ((leads_nameOf id).bind fun name => Leads.lift _)⟩
  · exact (readying_compile id).bind (fun _ => Leads.pure _) store package layout shows

section

variable {host : Host Workspace} (hosted : KeepsAll host)

include hosted

/-- Rendering both parts does no more to the package than compiling does. -/
theorem readying_renderParts (occasion : Occasion) : Readying id (renderParts host id occasion) := by
  have calls (subject : Value) (name : String) (given : Given) :
      Leads (showing id packed) (host subject name given) :=
    shows_of_keeps (hosted _ subject name given) fun _ => rfl
  have stylesKept (part : Part) :
      Leads (showing id packed) (Work.change id (Letter.withStyles part)) :=
    shows_change fun _ => rfl
  have contentKept (part : Part) :
      Leads (showing id packed) (Work.change id (Letter.withContent part)) :=
    shows_change fun _ => rfl
  have prepares : Readying id (prepare id occasion) := by
    unfold prepare
    refine (readying_makeReady id).bind fun _ => (leads_letter id).bind fun found => ?_
    refine (leads_bindings id occasion).bind fun bound => (leads_nameOf id).bind fun name => ?_
    exact (Leads.lift _).seq ((leads_partOf id _ _).bind fun part => Leads.pure _)
  have styled : Readying id (renderStyles host id occasion) := by
    unfold renderStyles
    refine prepares.bind fun prepared => (leads_renderPart calls stylesKept _ _).bind fun styles => ?_
    exact (leads_letter id).bind fun found => (leads_partOf id _ _).bind fun part => Leads.pure _
  unfold renderParts
  refine styled.bind fun begun => (leads_renderPart calls contentKept _ _).bind fun content => ?_
  exact Leads.pure _

end

/-! ## At the pictures -/

/-- A letter with this package and this layout, among these files. -/
def Holding (id : Nat) (files : Files) (package : Package) (layout : Layout)
    (workspace : Workspace) : Prop :=
  workspace.files = files ∧ Shows id packed (package, layout) workspace

section

variable {files : Files} {package : Package} {layout : Layout} {store after : Store Workspace}

theorem Holding.change (holding : Holding id files package layout store.world)
    (change : Package → Package) :
    Holding id files (change package) layout
      (store.world.modify id fun letter => { letter with package := change letter.package }) := by
  obtain ⟨sameFiles, inside, same⟩ := holding
  obtain ⟨samePackage, sameLayout⟩ := Prod.mk.inj same
  refine ⟨sameFiles, Nat.lt_of_lt_of_eq inside (Workspace.size_modify _ _ _).symm, ?_⟩
  rw [Workspace.letter_modify_self inside]
  exact Prod.ext (congrArg change samePackage) sameLayout

theorem makePictureDirectory_holding (holding : Holding id files package layout store.world) :
    ∃ middle, (makePictureDirectory id).runFrom store = (.ok (), middle) ∧
      Holding id files (package.withPictureDirectory layout) layout middle.world := by
  obtain ⟨samePackage, sameLayout⟩ := Prod.mk.inj holding.2.2
  unfold makePictureDirectory Package.withPictureDirectory
  rw [M.runFrom_bind, runFrom_letter]
  dsimp only
  rw [samePackage, sameLayout]
  by_cases there : package.has layout.pictureDirectory = true
  · rw [there]
    exact ⟨store, rfl, holding⟩
  · rw [Bool.not_eq_true] at there
    rw [there]
    exact ⟨_, rfl, holding.change (·.makeDirectory layout.pictureDirectory)⟩

/-- A picture is copied, or it cannot be read and nothing changes. -/
theorem embedPicture_cases (holding : Holding id files package layout store.world)
    (picture : String × Path) :
    (∃ fault, package.addFile files (layout.pictureDirectory ++ "/" ++ picture.1) picture.2
        = .error fault ∧
      (embedPicture id picture.1 picture.2).runFrom store = (.error fault, store)) ∨
    ∃ added middle, package.addFile files (layout.pictureDirectory ++ "/" ++ picture.1) picture.2
        = .ok added ∧
      (embedPicture id picture.1 picture.2).runFrom store
        = (.ok (layout.pictureDirectory ++ "/" ++ picture.1), middle) ∧
      Holding id files added layout middle.world := by
  obtain ⟨samePackage, sameLayout⟩ := Prod.mk.inj holding.2.2
  unfold embedPicture
  rw [M.runFrom_bind, runFrom_letter]
  dsimp only
  rw [M.runFrom_bind, runFrom_files]
  dsimp only
  rw [M.runFrom_bind, M.runFrom_liftExcept, holding.1, samePackage, sameLayout]
  cases copied : package.addFile files (layout.pictureDirectory ++ "/" ++ picture.1) picture.2 with
  | error fault => exact Or.inl ⟨fault, rfl, rfl⟩
  | ok added => exact Or.inr ⟨added, _, rfl, rfl, holding.change fun _ => added⟩

/-- Pictures are copied one after the other, up to the first that cannot be read. -/
theorem embedPictures_cases (holding : Holding id files package layout store.world)
    (pictures : List (String × Path)) :
    (∃ copied picture left added fault last, pictures = copied ++ picture :: left ∧
      package.embedAll files layout copied = .ok added ∧
      added.addFile files (layout.pictureDirectory ++ "/" ++ picture.1) picture.2 = .error fault ∧
      M.runFrom (pictures.mapM fun (name, path) => embedPicture id name path) store
        = (.error fault, last) ∧ Holding id files added layout last.world) ∨
    ∃ added last, package.embedAll files layout pictures = .ok added ∧
      M.runFrom (pictures.mapM fun (name, path) => embedPicture id name path) store
        = (.ok (pictures.map fun picture => layout.pictureDirectory ++ "/" ++ picture.1), last) ∧
      Holding id files added layout last.world := by
  induction pictures generalizing package store with
  | nil => exact Or.inr ⟨package, store, rfl, rfl, holding⟩
  | cons picture rest ih =>
    rw [List.mapM_cons, M.runFrom_bind]
    rcases embedPicture_cases holding picture with
      ⟨fault, unread, ran⟩ | ⟨added, middle, copied, ran, holding⟩
    · exact Or.inl ⟨[], picture, rest, package, fault, store, rfl, rfl, unread, by rw [ran], holding⟩
    · rw [ran]
      dsimp only
      rw [M.runFrom_bind]
      have begins (others : List (String × Path)) :
          package.embedAll files layout (picture :: others)
            = added.embedAll files layout others := by
        unfold Package.embedAll
        rw [List.foldlM_cons, copied]
        rfl
      rcases ih holding with
        ⟨copiedToo, broken, left, more, fault, last, split, all, unread, ran, holding⟩ |
          ⟨more, last, all, ran, holding⟩
      · refine Or.inl ⟨picture :: copiedToo, broken, left, more, fault, last, ?_, ?_, unread, ?_,
          holding⟩
        · rw [split, List.cons_append]
        · rw [begins, all]
        · rw [ran]
      · refine Or.inr ⟨more, last, ?_, ?_, holding⟩
        · rw [begins, all]
        · rw [ran]
          rfl

/-- Listing fails when the manifest cannot be read or written, and changes nothing then. -/
theorem register_eq_error {added : List String} {fault : Fault}
    (holding : Holding id files package layout store.world)
    (failed : (register id added).runFrom store = (.error fault, after)) :
    (package.read layout.manifestPart >>= Manifest.extended added) = .error fault ∧
      after = store := by
  obtain ⟨samePackage, sameLayout⟩ := Prod.mk.inj holding.2.2
  unfold register at failed
  rw [M.runFrom_bind, runFrom_letter] at failed
  dsimp only at failed
  rw [samePackage, sameLayout] at failed
  split at failed
  · rw [M.runFrom_bind, M.runFrom_liftExcept] at failed
    cases read : package.read layout.manifestPart with
    | error problem =>
      rw [read] at failed
      cases failed
      exact ⟨rfl, rfl⟩
    | ok bytes =>
      rw [read] at failed
      dsimp only at failed
      rw [M.runFrom_bind, M.runFrom_liftExcept] at failed
      cases listed : Manifest.extended added bytes with
      | error problem =>
        rw [listed] at failed
        cases failed
        exact ⟨listed, rfl⟩
      | ok written =>
        rw [listed] at failed
        cases failed
  · cases failed

end

/-- What pictures leave in a package when adding them fails: their directory, and those that were
copied before one could not be read, or all of them when the manifest cannot list them. -/
structure LeavesPictures (files : Files) (layout : Layout) (pictures : List (String × Path))
    (fault : Fault) (before after : Package) : Prop where
  some_ : pictures ≠ []
  copied : ∃ copied left, pictures = copied ++ left ∧
    (before.withPictureDirectory layout).embedAll files layout copied = .ok after ∧
    match left with
    | picture :: _ =>
      after.addFile files (layout.pictureDirectory ++ "/" ++ picture.1) picture.2 = .error fault
    | [] => (after.read layout.manifestPart >>= Manifest.extended
        (pictures.map fun picture => layout.pictureDirectory ++ "/" ++ picture.1)) = .error fault

theorem addPictures_eq_error {files : Files} {package : Package} {layout : Layout}
    {store after : Store Workspace} {fault : Fault}
    (holding : Holding id files package layout store.world)
    (failed : (addPictures id).runFrom store = (.error fault, after)) :
    ∃ left, LeavesPictures files layout (store.world.letter id).pictures fault package left ∧
      Holding id files left layout after.world := by
  unfold addPictures at failed
  rw [M.runFrom_bind, runFrom_letter] at failed
  dsimp only at failed
  split at failed
  · cases failed
  rename_i registered
  have some_ : (store.world.letter id).pictures ≠ [] := by simpa using registered
  unfold embedPictures at failed
  have inside := holding.2.1
  obtain ⟨middle, ran, holding⟩ := makePictureDirectory_holding holding
  have pictured : Fills (showing id Letter.pictures) id :=
    ⟨fun _ => shows_change fun _ => rfl, fun _ => shows_change fun _ => rfl,
      fun _ => shows_change fun _ => rfl⟩
  have kept := leads_makePictureDirectory pictured store inside
  rw [ran] at kept
  rw [M.runFrom_bind, ran] at failed
  dsimp only at failed
  rw [M.runFrom_bind, runFrom_letter] at failed
  dsimp only at failed
  rw [kept.2, M.runFrom_bind] at failed
  rcases embedPictures_cases holding (store.world.letter id).pictures with
    ⟨copied, picture, left, added, problem, last, split, all, unread, ran, holding⟩ |
      ⟨added, last, all, ran, holding⟩
  · rw [ran] at failed
    cases failed
    exact ⟨added, ⟨some_, copied, picture :: left, split, all, unread⟩, holding⟩
  · rw [ran] at failed
    dsimp only at failed
    rw [M.runFrom_bind] at failed
    rcases listed : (register id ((store.world.letter id).pictures.map fun picture =>
      layout.pictureDirectory ++ "/" ++ picture.1)).runFrom last with ⟨problem | _, final⟩
    · rw [listed] at failed
      cases failed
      obtain ⟨refused, rfl⟩ := register_eq_error holding listed
      exact ⟨added, ⟨some_, _, [], (List.append_nil _).symm, all, refused⟩, holding⟩
    · rw [listed] at failed
      cases failed

/-! ## Whole renderings -/

/-- The parts of a letter are rendered and the styles of the enclosed letters are added, so that
only the pictures are left. -/
def Arranges (host : Host Workspace) (id : Nat) (occasion : Occasion)
    (store arranged : Store Workspace) : Prop :=
  ∃ parts rendered, (renderParts host id occasion).runFrom store = (.ok parts, rendered) ∧
    (addEnclosed id).runFrom rendered = (.ok (), arranged)

/-- A rendering fails when it comes to the pictures. -/
def FailsInPictures (host : Host Workspace) (id : Nat) (occasion : Occasion)
    (store : Store Workspace) : Prop :=
  ∃ arranged fault after, Arranges host id occasion store arranged ∧
    (addPictures id).runFrom arranged = (.error fault, after)

section

variable {host : Host Workspace} (hosted : KeepsAll host)

include hosted

theorem Arranges.readied {occasion : Occasion} {package : Package} {layout : Layout}
    {store arranged : Store Workspace} (arranges : Arranges host id occasion store arranged)
    (shows : Shows id packed (package, layout) store.world) :
    Readied id package layout arranged.world := by
  obtain ⟨parts, middle, rendered, enclosed⟩ := arranges
  have readied := readying_renderParts hosted occasion store package layout shows
  rw [rendered] at readied
  obtain ⟨ready, readies, shows⟩ := readied
  have kept := shows.after_leads (leads_addEnclosed fun part => shows_change fun _ => rfl)
  rw [enclosed] at kept
  exact ⟨ready, readies, kept⟩

/-- A rendering that fails does so before it comes to the pictures, or there. -/
theorem fill_eq_error {occasion : Occasion} {package : Package} {layout : Layout}
    {store after : Store Workspace} {fault : Fault}
    (shows : Shows id packed (package, layout) store.world)
    (failed : (fill host id occasion).runFrom store = (.error fault, after)) :
    Readied id package layout after.world ∨
      ∃ arranged, Arranges host id occasion store arranged ∧
        (addPictures id).runFrom arranged = (.error fault, after) := by
  have readied := readying_renderParts hosted occasion store package layout shows
  unfold fill addRegistered at failed
  rw [M.runFrom_bind] at failed
  rcases rendered : (renderParts host id occasion).runFrom store with ⟨problem | parts, middle⟩
  · rw [rendered] at failed readied
    cases failed
    exact Or.inl readied
  · rw [rendered] at failed readied
    dsimp only at failed
    obtain ⟨ready, readies, shows⟩ := readied
    rw [M.runFrom_bind] at failed
    rcases added : (addEnclosed id).runFrom middle with ⟨problem | _, arranged⟩
    · have kept := shows.after_leads (leads_addEnclosed fun part => shows_change fun _ => rfl)
      rw [added] at failed kept
      cases failed
      exact Or.inl ⟨ready, readies, kept⟩
    · rw [added] at failed
      exact Or.inr ⟨arranged, ⟨parts, middle, rendered, added⟩, failed⟩

end

/-- A letter in an archive, opened, for which a picture was registered. -/
def withPicture (archive : Archive) : Store Workspace :=
  let start : Store Workspace := .start false
    ⟨[(["t.odt"], .archive archive), (["x.png"], .bytes "x".toUTF8)], #[]⟩
  let opens : Work Unit := do
    let id ← openAt {} ⟨"", ["t.odt"]⟩
    discard <| addPicture id ⟨"", ["x.png"]⟩
  (M.runFrom opens start).2

/-- A letter that was compiled, with a number in the denominator of its styles. -/
def fragileArchive : Archive :=
  [⟨"documatic/master/content.jinja", ⟨.deflated, 1, .earliest⟩, "c".toUTF8⟩,
    ⟨"documatic/master/styles.jinja", ⟨.deflated, 1, .earliest⟩, "<%= 1 // data %>".toUTF8⟩]

/-- A rendering that fails when the pictures are added leaves, besides the compiled parts, those
pictures in the package that it copied, and their directory. -/
theorem process_leaves_pictures {occasion : Occasion} {store after : Store Workspace}
    {fault : Fault} (inside : id < store.world.letters.size)
    (failed : (process id occasion).runFrom store = (.error fault, after))
    (inPictures : FailsInPictures (hostWithin enclosureLimit) id occasion store) :
    ∃ arranged ready, Arranges (hostWithin enclosureLimit) id occasion store arranged ∧
      Package.Readies (store.world.letter id).layout (store.world.letter id).package ready ∧
      LeavesPictures arranged.world.files (store.world.letter id).layout
        (arranged.world.letter id).pictures fault ready (after.world.letter id).package := by
  obtain ⟨arranged, problem, last, arranges, broke⟩ := inPictures
  obtain ⟨ready, readies, shows⟩ := arranges.readied (keepsAll_hostWithin _) ⟨inside, rfl⟩
  obtain ⟨left, leaves, -, there, shown⟩ := addPictures_eq_error ⟨rfl, shows⟩ broke
  have ⟨parts, rendered, isRendered, isArranged⟩ := arranges
  have filled : (fill (hostWithin enclosureLimit) id occasion).runFrom store
      = (.error problem, last) := by
    unfold fill addRegistered
    rw [M.runFrom_bind, isRendered]
    dsimp only
    rw [M.runFrom_bind, isArranged]
    exact broke
  unfold process at failed
  rw [processWith_eq, filled] at failed
  cases failed
  refine ⟨arranged, ready, arranges, readies, ?_⟩
  dsimp only
  rw [Workspace.letter_modify_self there]
  obtain ⟨same, -⟩ := Prod.mk.inj shown
  change LeavesPictures _ _ _ _ _ (last.world.letter _).package
  rw [same]
  exact leaves

/-- A letter of two empty parts. -/
def emptyArchive : Archive :=
  [⟨"content.xml", ⟨.deflated, 1, .earliest⟩, "<a/>".toUTF8⟩,
    ⟨"styles.xml", ⟨.deflated, 1, .earliest⟩, "<a/>".toUTF8⟩]

/-- The file of the registered picture has given way to a directory. -/
def pictureGone : Store Workspace :=
  let store := withPicture emptyArchive
  { store with world := { store.world with
      files := [(["t.odt"], .archive emptyArchive), (["x.png"], .directory)] } }

end Work

end FormLetter
