import FormLetter.Proofs.Letter.Embedding

/-!
# Which picture is shown

A picture is staged under the name of its file, wherever that file is. So of all pictures that were
staged while a letter was rendered, by itself or by the letters that it encloses, the last of each
name is put into the package, in the place of a picture of that name that the letter came with. All
other pictures of the letter are left as they are.
-/

namespace FormLetter

open FormLetter.Script

namespace Work

variable {id : Nat}

/-! ## The register of pictures -/

/-- A register of pictures after others were staged, one after the other. -/
def staged (pictures : List (String × Path)) (paths : List Path) : List (String × Path) :=
  paths.foldl (fun pictures path => Keyed.put path.name path pictures) pictures

/-- The last path that ends with a name. -/
def lastNamed (name : String) (paths : List Path) : Option Path :=
  paths.reverse.find? (·.name == name)

theorem staged_append (pictures : List (String × Path)) (first second : List Path) :
    staged pictures (first ++ second) = staged (staged pictures first) second := by
  simp [staged]

/-- A register holds the last path of each name. -/
theorem lookup_staged (pictures : List (String × Path)) (paths : List Path) (name : String) :
    (staged pictures paths).lookup name = (lastNamed name paths).or (pictures.lookup name) := by
  induction paths generalizing pictures with
  | nil => rfl
  | cons path rest ih =>
    change (staged (Keyed.put path.name path pictures) rest).lookup name = _
    rw [ih, Keyed.lookup_put]
    unfold lastNamed
    rw [List.reverse_cons, List.find?_append]
    by_cases same : name = path.name
    · subst same
      cases rest.reverse.find? (·.name == path.name) <;> simp
    · have differs : (path.name == name) = false := beq_false_of_ne (Ne.symm same)
      cases rest.reverse.find? (·.name == name) <;> simp [same, differs]

theorem nodup_staged {pictures : List (String × Path)} (nodup : (Keyed.names pictures).Nodup)
    (paths : List Path) : (Keyed.names (staged pictures paths)).Nodup := by
  induction paths generalizing pictures with
  | nil => exact nodup
  | cons path rest ih => exact ih (Keyed.nodup_names_put nodup)

/-! ## Staging -/

/-- These pictures were staged with a letter, one after the other, and its register did not change
otherwise. -/
inductive Stages (id : Nat) : List Path → Workspace → Workspace → Prop
  | still {before after : Workspace}
    (same : (after.letter id).pictures = (before.letter id).pictures) : Stages id [] before after
  | picture {before : Workspace} {path : Path} (inside : id < before.letters.size)
    (isFile : before.files.isFile path = true) :
    Stages id [path] before (before.modify id fun letter =>
      { letter with pictures := Keyed.put path.name path letter.pictures })
  | append {first second : List Path} {before between after : Workspace}
    (begun : Stages id first before between) (ended : Stages id second between after) :
    Stages id (first ++ second) before after

theorem Stages.pictures {paths : List Path} {before after : Workspace}
    (stages : Stages id paths before after) :
    (after.letter id).pictures = staged (before.letter id).pictures paths := by
  induction stages with
  | still same => exact same
  | picture inside isFile =>
    rw [Workspace.letter_modify_self inside]
    rfl
  | append begun ended ihBegun ihEnded => rw [ihEnded, ihBegun, staged_append]

/-- The course of a workspace in which pictures are staged with a letter. -/
def staging (id : Nat) : Course Workspace where
  leads before after := id < before.letters.size →
    id < after.letters.size ∧ ∃ paths, Stages id paths before after
  refl _ inside := ⟨inside, [], .still rfl⟩
  trans := by
    intro first second third begun ended inside
    obtain ⟨there, early, begun⟩ := begun inside
    obtain ⟨still, late, ended⟩ := ended there
    exact ⟨still, early ++ late, begun.append ended⟩

/-- What keeps the register stages nothing. -/
theorem staging_of_showing {α : Type} {action : Work α}
    (shows : Leads (showing id Letter.pictures) action) : Leads (staging id) action := by
  intro store inside
  obtain ⟨there, same⟩ := shows store inside
  exact ⟨there, [], .still same⟩

theorem staging_addPicture (other : Nat) (path : Path) :
    Leads (staging id) (addPicture other path) := by
  intro store inside
  unfold addPicture
  rw [M.runFrom_bind, runFrom_files]
  dsimp only
  by_cases isFile : store.world.files.isFile path = true
  · rw [if_pos isFile, M.runFrom_bind, runFrom_change]
    refine ⟨Nat.lt_of_lt_of_eq inside (Workspace.size_modify _ _ _).symm, ?_⟩
    by_cases same : other = id
    · subst same
      exact ⟨[path], .picture inside isFile⟩
    · refine ⟨[], .still ?_⟩
      change ((store.world.modify other _).letter id).pictures = _
      rw [Workspace.letter_modify_of_ne (Ne.symm same)]
  · rw [if_neg isFile]
    exact ⟨inside, [], .still rfl⟩

/-- A letter that came later is another letter. -/
theorem staging_change_later {later : Nat} (isLater : id + 1 ≤ later) (change : Letter → Letter) :
    Leads (staging id) (Work.change later change) := by
  intro store inside
  rw [runFrom_change]
  refine ⟨Nat.lt_of_lt_of_eq inside (Workspace.size_modify _ _ _).symm, [], .still ?_⟩
  change ((store.world.modify later change).letter id).pictures = _
  rw [Workspace.letter_modify_of_ne (Nat.ne_of_lt isLater)]

/-- Whatever template code calls stages pictures with a letter, or leaves its register as it is. -/
theorem staging_admits (id : Nat) : Admits (staging id) (id + 1) where
  given leads inside := leads inside inside
  picture := staging_addPicture
  enclosure other key enclosed := by
    unfold addEnclosure
    refine (leads_enclosureOf enclosed).bind fun enclosure => ?_
    intro store inside
    rw [runFrom_change]
    refine ⟨Nat.lt_of_lt_of_eq inside (Workspace.size_modify _ _ _).symm, [], .still ?_⟩
    change ((store.world.modify other _).letter id).pictures = _
    by_cases same : id = other
    · subst same
      rw [Workspace.letter_modify_self inside]
    · rw [Workspace.letter_modify_of_ne same]
  add new := by
    unfold add
    refine leads_workspace.bind fun before => Leads.seq ?_ (Leads.pure _)
    intro store inside
    refine ⟨?_, [], .still ?_⟩
    · change _ < (store.world.letters.push new).size
      rw [Array.size_push]
      omega
    · exact congrArg Letter.pictures (Workspace.letter_push_of_lt inside new)
  renders later isLater :=
    { package := fun _ => staging_change_later isLater _
      rawStyles := fun _ => staging_change_later isLater _
      rawContent := fun _ => staging_change_later isLater _
      styles := fun _ => staging_change_later isLater _
      content := fun _ => staging_change_later isLater _
      bare := staging_change_later isLater _ }
  closePackage later isLater := by
    intro store inside
    rcases closePackage_cases later store with ⟨fault, -, ran⟩ | ⟨package, files, log, -, ran⟩
    · rw [ran]
      exact ⟨inside, [], .still rfl⟩
    · rw [ran]
      refine ⟨Nat.lt_of_lt_of_eq inside (Workspace.size_modify _ _ _).symm, [], .still ?_⟩
      rw [Workspace.letter_modify_of_ne (Nat.ne_of_lt isLater)]
      rfl

/-- While the parts of a letter are rendered, pictures are staged with it. -/
theorem stages_of_renderParts {depth : Nat} {occasion : Occasion} {store after : Store Workspace}
    {parts : Part × Part} (inside : id < store.world.letters.size)
    (rendered : (renderParts (hostWithin depth) id occasion).runFrom store = (.ok parts, after)) :
    id < after.world.letters.size ∧ ∃ paths, Stages id paths store.world after.world := by
  have still (change : Letter → Letter)
      (same : ∀ letter, (change letter).pictures = letter.pictures) :
      Leads (staging id) (Work.change id change) := staging_of_showing (shows_change same)
  have styles (part : Part) : Leads (staging id) (Work.change id (Letter.withStyles part)) :=
    still _ fun _ => rfl
  have content (part : Part) : Leads (staging id) (Work.change id (Letter.withContent part)) :=
    still _ fun _ => rfl
  have fills : Fills (staging id) id :=
    ⟨fun _ => still _ fun _ => rfl, fun _ => still _ fun _ => rfl, fun _ => still _ fun _ => rfl⟩
  have hosted := leads_hostWithin (staging_admits id) depth
  have leads : Leads (staging id) (renderParts (hostWithin depth) id occasion) := by
    unfold renderParts
    refine (leads_renderStyles hosted fills styles occasion).bind fun begun => ?_
    exact (leads_renderPart hosted content _ _).bind fun content => Leads.pure _
  have led := leads store inside
  rw [rendered] at led
  exact led

end Work

/-! ## Copying -/

namespace Package

variable {files : Files}

/-- The name under which a package keeps a picture. -/
theorem pictureEntry_inj {first second : String}
    (same : "Pictures/" ++ first = "Pictures/" ++ second) : first = second := by
  simpa using same

/-- An entry holds what is in the file that was copied there, as far as that is known. -/
def HoldsFile (files : Files) (package : Package) (entry : String) (path : Path) : Prop :=
  ∃ item, files.read path = .ok item ∧
    ∀ content, item = .bytes content → package.bytes? entry = some content

theorem addFile_holds {package after : Package} {entry : String} {path : Path}
    (added : package.addFile files entry path = .ok after) :
    HoldsFile files after entry path ∧
      ∀ other, other ≠ entry → after.bytes? other = package.bytes? other := by
  unfold addFile at added
  cases isRead : files.read path with
  | error fault =>
    rw [isRead] at added
    cases added
  | ok item =>
    rw [isRead] at added
    have put {found : Package} {content : Content}
        (entries : found.entries = Keyed.put entry content package.entries) (other : String) :
        found.bytes? other = if other = entry then some content.bytes else package.bytes? other := by
      unfold bytes?
      rw [entries, bytesOf_put]
    cases item with
    | bytes content =>
      cases added
      constructor
      · refine ⟨_, isRead, ?_⟩
        intro held same
        cases same
        rw [put rfl, if_pos rfl]
        rfl
      · intro other differs
        rw [put rfl, if_neg differs]
    | directory | archive =>
      cases added
      refine ⟨⟨_, isRead, nofun⟩, ?_⟩
      intro other differs
      rw [put rfl, if_neg differs]

/-- Copied pictures are what is in their files, and everything else is what it was. -/
theorem embedAll_holds {pictures : List (String × Path)} {package after : Package}
    (nodup : (Keyed.names pictures).Nodup)
    (copied : package.embedAll files {} pictures = .ok after) :
    (∀ name path, pictures.lookup name = some path →
      HoldsFile files after ("Pictures/" ++ name) path) ∧
    ∀ entry, (∀ name ∈ Keyed.names pictures, entry ≠ "Pictures/" ++ name) →
      after.bytes? entry = package.bytes? entry := by
  induction pictures generalizing package with
  | nil =>
    cases copied
    exact ⟨nofun, fun _ _ => rfl⟩
  | cons picture rest ih =>
    obtain ⟨picture, path⟩ := picture
    unfold embedAll at copied
    rw [List.foldlM_cons] at copied
    change (package.addFile files ("Pictures/" ++ picture) path >>= _) = _ at copied
    cases added : package.addFile files ("Pictures/" ++ picture) path with
    | error fault =>
      rw [added] at copied
      cases copied
    | ok between =>
      rw [added] at copied
      rw [Keyed.names_cons, List.nodup_cons] at nodup
      obtain ⟨holds, others⟩ := addFile_holds added
      obtain ⟨later, untouched⟩ := ih nodup.2 copied
      constructor
      · intro name found isFound
        rw [Keyed.lookup_cons_eq] at isFound
        split at isFound
        · rename_i same
          cases isFound
          obtain ⟨item, isRead, isItem⟩ := holds
          refine ⟨item, isRead, ?_⟩
          intro content isContent
          rw [same, untouched, isItem content isContent]
          intro other member clash
          exact nodup.1 (pictureEntry_inj clash ▸ member)
        · exact later name found isFound
      · intro entry apart
        rw [Keyed.names_cons, List.forall_mem_cons] at apart
        rw [untouched entry apart.2, others entry apart.1]

end Package

namespace Work

variable {id : Nat} {files : Files}

/-- What listing files makes of a package: nothing, if it has no manifest. -/
inductive Lists (added : List String) (before : Package) : Package → Prop
  | nothing (unlisted : before.has ({} : Layout).manifestPart = false) : Lists added before before
  | manifest {bytes : ByteArray} {text : List Char}
    (listed : before.has ({} : Layout).manifestPart = true)
    (isRead : before.read ({} : Layout).manifestPart = .ok bytes)
    (written : Manifest.extended added bytes = .ok text) :
    Lists added before (before.writeText ({} : Layout).manifestPart (String.ofList text))

/-- What adding pictures makes of a package, where it succeeds: nothing, if there are none. -/
inductive Pictured (files : Files) (pictures : List (String × Path)) (before : Package) :
    Package → Prop
  | nothing (none_ : pictures = []) : Pictured files pictures before before
  | pictures {between after : Package} (some_ : pictures ≠ [])
    (copied : (before.withPictureDirectory {}).embedAll files {} pictures = .ok between)
    (lists : Lists (pictures.map pictureEntry) between after) :
    Pictured files pictures before after

theorem register_lists {added : List String} {package : Package} {store after : Store Workspace}
    (holding : Holding id files package {} store.world)
    (done : (register id added).runFrom store = (.ok (), after)) :
    ∃ listed, Lists added package listed ∧ Holding id files listed {} after.world := by
  obtain ⟨samePackage, sameLayout⟩ := Prod.mk.inj holding.2.2
  unfold register at done
  rw [M.runFrom_bind, runFrom_letter] at done
  dsimp only at done
  rw [samePackage, sameLayout] at done
  split at done
  · rename_i listed
    obtain ⟨bytes, _, read, done⟩ := M.runFrom_bind_eq_ok.mp done
    obtain ⟨isRead, rfl⟩ := M.runFrom_liftExcept_eq_ok.mp read
    obtain ⟨text, _, wrote, done⟩ := M.runFrom_bind_eq_ok.mp done
    obtain ⟨written, rfl⟩ := M.runFrom_liftExcept_eq_ok.mp wrote
    rw [runFrom_changePackage] at done
    cases done
    exact ⟨_, .manifest listed isRead written,
      holding.change (·.writeText ({} : Layout).manifestPart (String.ofList text))⟩
  · rename_i unlisted
    cases done
    exact ⟨package, .nothing (Bool.eq_false_iff.mpr unlisted), holding⟩

theorem addPictures_pictured {package : Package} {store after : Store Workspace}
    (holding : Holding id files package {} store.world)
    (done : (addPictures id).runFrom store = (.ok (), after)) :
    ∃ pictured, Pictured files (store.world.letter id).pictures package pictured ∧
      Holding id files pictured {} after.world := by
  by_cases none_ : (store.world.letter id).pictures = []
  · rw [addPictures_none none_] at done
    cases done
    exact ⟨package, .nothing none_, holding⟩
  · have some_ : (store.world.letter id).pictures.isEmpty = false := by simpa using none_
    obtain ⟨middle, made, filled⟩ := makePictureDirectory_holding holding
    have pictured : Fills (showing id Letter.pictures) id :=
      ⟨fun _ => shows_change fun _ => rfl, fun _ => shows_change fun _ => rfl,
        fun _ => shows_change fun _ => rfl⟩
    have kept := leads_makePictureDirectory pictured store holding.2.1
    rw [made] at kept
    unfold addPictures embedPictures at done
    rw [M.runFrom_bind, runFrom_letter] at done
    dsimp only at done
    rw [some_, if_neg Bool.false_ne_true, M.runFrom_bind, made] at done
    dsimp only at done
    rw [M.runFrom_bind, runFrom_letter] at done
    dsimp only at done
    rw [kept.2, M.runFrom_bind] at done
    rcases embedPictures_cases filled (store.world.letter id).pictures with
      ⟨_, _, _, _, fault, last, -, -, -, ran, -⟩ | ⟨added, last, copied, ran, full⟩
    · rw [ran] at done
      cases done
    · rw [ran] at done
      obtain ⟨_, registered, listed, reported⟩ := M.runFrom_bind_eq_ok.mp done
      obtain ⟨final, lists, held⟩ := register_lists full listed
      cases reported
      exact ⟨final, .pictures none_ copied lists, held⟩

/-! ## Whole renderings -/

/-- A rendering that succeeds renders the parts, which may compile them first, and adds the pictures
that are registered by then. After that nothing is registered. -/
structure Finishes (id : Nat) (occasion : Occasion) (store after : Store Workspace)
    (rendered : Store Workspace) (ready pictured : Package) : Prop where
  renders : ∃ parts, (renderParts (hostWithin enclosureLimit) id occasion).runFrom store
    = (.ok parts, rendered)
  readies : Package.Readies {} (store.world.letter id).package ready
  adds : Pictured after.world.files (rendered.world.letter id).pictures ready pictured
  shows : Shows id packed (pictured, {}) after.world

theorem process_finishes {occasion : Occasion} {store after : Store Workspace}
    (inside : id < store.world.letters.size) (layout : (store.world.letter id).layout = {})
    (done : (process id occasion).runFrom store = (.ok (), after)) :
    ∃ rendered ready pictured, Finishes id occasion store after rendered ready pictured := by
  have shows : Shows id packed ((store.world.letter id).package, {}) store.world :=
    ⟨inside, Prod.ext rfl layout⟩
  unfold process at done
  rw [processWith_eq] at done
  rcases filled : (fill (hostWithin enclosureLimit) id occasion).runFrom store with ⟨fault | _, last⟩
  · rw [filled] at done
    cases done
  · rw [filled] at done
    cases done
    unfold fill addRegistered at filled
    obtain ⟨parts, rendered, isRendered, filled⟩ := M.runFrom_bind_eq_ok.mp filled
    obtain ⟨_, arranged, enclosed, added⟩ := M.runFrom_bind_eq_ok.mp filled
    have readied := readying_renderParts (keepsAll_hostWithin enclosureLimit) occasion store _ _ shows
    rw [isRendered] at readied
    obtain ⟨ready, readies, there⟩ := readied
    have still := there.after_leads (leads_addEnclosed fun part => shows_change fun _ => rfl)
    have register := shown_after Letter.pictures
      (leads_addEnclosed fun part => shows_change fun _ => rfl) there.1 enclosed
    rw [enclosed] at still
    obtain ⟨pictured, adds, sameFiles, inside, shown⟩ := addPictures_pictured ⟨rfl, still⟩ added
    refine ⟨rendered, ready, pictured, ⟨parts, isRendered⟩, readies, ?_, ?_⟩
    · rw [register.2] at adds
      change Pictured last.world.files _ _ _
      rw [sameFiles]
      exact adds
    · refine ⟨Nat.lt_of_lt_of_eq inside (Workspace.size_modify _ _ _).symm, ?_⟩
      dsimp only
      rw [Workspace.letter_modify_self inside, packed_bare]
      exact shown

/-- A picture directory that is made covers no other entry. -/
theorem bytes?_withPictureDirectory {package : Package} {entry : String} {content : ByteArray}
    (held : package.bytes? entry = some content) :
    (package.withPictureDirectory {}).bytes? entry = some content := by
  unfold Package.withPictureDirectory Package.makeDirectory
  dsimp only
  split
  · exact held
  · split
    · exact held
    · rename_i missing
      change Package.bytesOf (Keyed.put _ _ package.entries) entry = _
      rw [Package.bytesOf_put]
      split
      · rename_i same
        subst same
        have present : (package.bytes? (Package.directoryName "Pictures")).isSome = true := by
          rw [held]
          rfl
        exact absurd (Keyed.has_iff.mpr (Package.bytes?_isSome_iff.mp present)) missing
      · exact held

/-- Getting ready and listing files change other entries than pictures. -/
theorem bytes?_of_lists {added : List String} {before after : Package} (picture : String)
    (lists : Lists added before after) :
    after.bytes? ("Pictures/" ++ picture) = before.bytes? ("Pictures/" ++ picture) := by
  cases lists with
  | nothing unlisted => rfl
  | manifest listed isRead written =>
    change Package.bytesOf (Keyed.put _ _ before.entries) _ = _
    rw [Package.bytesOf_put, if_neg]
    · rfl
    · exact (Package.apart_picture List.mem_cons_self picture).ne

theorem bytes?_of_readies {before after : Package} (picture : String)
    (readies : Package.Readies {} before after) :
    after.bytes? ("Pictures/" ++ picture) = before.bytes? ("Pictures/" ++ picture) := by
  have others : "Pictures/" ++ picture ∉ ({} : Layout).sourceNames := by
    have begins : ∀ name ∈ ({} : Layout).sourceNames, name.toList.head? ≠ some 'P' := by
      decide
    intro member
    exact begins _ member (by simp)
  have same := readies.sameBut.contents _ others
  unfold Package.content? at same
  unfold Package.bytes? Package.bytesOf
  rw [same]

/-- Pictures that are added are what is in their files, and the pictures of other names are what
they were. -/
theorem Pictured.holds {pictures : List (String × Path)} {before after : Package}
    (pictured : Pictured files pictures before after) (nodup : (Keyed.names pictures).Nodup) :
    (∀ name path, pictures.lookup name = some path →
      Package.HoldsFile files after ("Pictures/" ++ name) path) ∧
    ∀ name, pictures.lookup name = none → ∀ content,
      before.bytes? ("Pictures/" ++ name) = some content →
        after.bytes? ("Pictures/" ++ name) = some content := by
  cases pictured with
  | nothing none_ =>
    subst none_
    exact ⟨nofun, fun _ _ _ held => held⟩
  | pictures some_ copied lists =>
    obtain ⟨holds, untouched⟩ := Package.embedAll_holds nodup copied
    constructor
    · intro name path isPath
      obtain ⟨item, isRead, isItem⟩ := holds name path isPath
      refine ⟨item, isRead, ?_⟩
      intro content same
      rw [bytes?_of_lists name lists, isItem content same]
    · intro name unstaged content held
      rw [bytes?_of_lists name lists, untouched]
      · exact bytes?_withPictureDirectory held
      · intro other member same
        have isOther := Package.pictureEntry_inj same
        subst isOther
        exact Keyed.lookup_eq_none.mp unstaged member

/-- Pictures were staged with a letter one after the other, directly. Each call gives the name of its
file. -/
theorem addPictures_stage {direct : List Path} {names : List String} {start between : Store Workspace}
    (inside : id < start.world.letters.size)
    (added : M.runFrom (direct.mapM (addPicture id)) start = (.ok names, between)) :
    names = direct.map Path.name ∧ Stages id direct start.world between.world ∧
      id < between.world.letters.size ∧
      packed (between.world.letter id) = packed (start.world.letter id) := by
  induction direct generalizing start names with
  | nil =>
    cases added
    exact ⟨rfl, .still rfl, inside, rfl⟩
  | cons path rest ih =>
    rw [List.mapM_cons] at added
    obtain ⟨name, middle, first, added⟩ := M.runFrom_bind_eq_ok.mp added
    obtain ⟨others, last, later, added⟩ := M.runFrom_bind_eq_ok.mp added
    cases added
    unfold addPicture at first
    rw [M.runFrom_bind, runFrom_files] at first
    dsimp only at first
    split at first
    · rename_i isFile
      rw [M.runFrom_bind, runFrom_change] at first
      cases first
      have there : id < (start.world.modify id fun letter =>
          { letter with pictures := Keyed.put path.name path letter.pictures }).letters.size :=
        Nat.lt_of_lt_of_eq inside (Workspace.size_modify _ _ _).symm
      obtain ⟨rfl, stages, still, same⟩ := ih there later
      refine ⟨rfl, (Stages.picture inside isFile).append stages, still, same.trans ?_⟩
      dsimp only
      rw [Workspace.letter_modify_self inside]
      rfl
    · cases first

/-- A letter with a picture, and two other pictures of the same name in two directories. -/
def crowdedFiles : Files :=
  [(["t.odt"], .archive (emptyArchive ++
      [⟨"Pictures/x.png", ⟨.deflated, 1, .earliest⟩, "old".toUTF8⟩])),
    (["a"], .directory), (["a", "x.png"], .bytes "first".toUTF8),
    (["b"], .directory), (["b", "x.png"], .bytes "second".toUTF8)]

/-- The letter, opened. -/
def crowded : Store Workspace :=
  (M.runFrom (openAt {} ⟨"", ["t.odt"]⟩) (.start false ⟨crowdedFiles, #[]⟩)).2

/-- The paths of the two pictures. -/
def twoPictures : List Path := [⟨"", ["a", "x.png"]⟩, ⟨"", ["b", "x.png"]⟩]

/-- The letter after both pictures were staged. -/
def crowdedTwice : Store Workspace := (M.runFrom (twoPictures.mapM (addPicture 0)) crowded).2

end Work

end FormLetter
