import FormLetter.Proofs.Letter.Inspecting
import FormLetter.Proofs.Letter.Listing

/-!
# When pictures can be added

Whether pictures can be added to a letter does not depend on what was added before: each file has to
be one that can be read, and the manifest, if there is one, a document that may hold the names. What
is put among the pictures has nothing to do with the manifest or the compiled parts.
-/

namespace FormLetter

open FormLetter.Script

namespace Package

/-! ## Names that have nothing to do with each other -/

/-- An entry of the second name is not one of the first name, nor is it in a directory of that
name. -/
structure Apart (name other : String) : Prop where
  ne : other ≠ name
  outside : ¬ (directoryName name).toList <+: other.toList

/-- Two packages hold the same of a name. -/
structure Agrees (name : String) (before after : Package) : Prop where
  content : after.content? name = before.content? name
  has : after.has name = before.has name

namespace Agrees

variable {name other : String} {before between after : Package}

theorem refl (package : Package) : Agrees name package package := ⟨rfl, rfl⟩

theorem trans (begun : Agrees name before between) (ended : Agrees name between after) :
    Agrees name before after :=
  ⟨ended.content.trans begun.content, ended.has.trans begun.has⟩

theorem of_put {content : Content} (put : after.entries = Keyed.put other content before.entries)
    (apart : Apart name other) : Agrees name before after where
  content := by
    unfold content?
    rw [put, Keyed.lookup_put, if_neg apart.ne.symm]
  has := by
    have names : after.names = Keyed.names (Keyed.put other content before.entries) :=
      congrArg Keyed.names put
    have outside : (directoryName name).toList.isPrefixOf other.toList = false := by
      rw [Bool.eq_false_iff]
      exact fun inside => apart.outside (List.isPrefixOf_iff_prefix.mp inside)
    unfold Package.has
    rw [names, Keyed.names_put]
    split
    · rfl
    · simp [Package.names, outside, apart.ne.symm]

theorem makeDirectory (apart : Apart name (directoryName other)) (package : Package) :
    Agrees name package (package.makeDirectory other) := by
  unfold Package.makeDirectory
  dsimp only
  split
  · exact refl package
  · exact of_put rfl apart

theorem addFile {files : Files} {source : Path} (apart : Apart name other)
    (added : before.addFile files other source = .ok after) : Agrees name before after := by
  unfold Package.addFile at added
  cases read : files.read source with
  | error fault =>
    rw [read] at added
    cases added
  | ok item =>
    rw [read] at added
    cases item <;> (cases added; exact of_put rfl apart)

end Agrees

/-- The names of what counts in a package when its letter is rendered again. -/
def telling : List String :=
  [({} : Layout).manifestPart, ({} : Layout).contentSource, ({} : Layout).stylesSource]

/-- Nothing that is put among the pictures has to do with the manifest or the compiled parts. -/
theorem apart_picture {name : String} (member : name ∈ telling) (picture : String) :
    Apart name ("Pictures/" ++ picture) := by
  -- They begin with other characters.
  have begins : ∀ name ∈ telling, name.toList.head? ≠ some 'P' ∧
      (directoryName name).toList.head?.any (· != 'P') = true := by decide
  obtain ⟨other, another⟩ := begins name member
  have isPicture : ("Pictures/" ++ picture).toList = 'P' :: ("ictures/" ++ picture).toList := by
    simp
  constructor
  · rintro rfl
    rw [isPicture] at other
    exact other rfl
  · intro inside
    rw [isPicture] at inside
    cases directory : (directoryName name).toList with
    | nil =>
      rw [directory] at another
      cases another
    | cons c rest =>
      rw [directory] at another inside
      obtain ⟨rfl, -⟩ := List.cons_prefix_cons.mp inside
      cases another

section

variable {name : String} (member : name ∈ telling)

include member

theorem agrees_withPictureDirectory (package : Package) :
    Agrees name package (package.withPictureDirectory {}) := by
  have directory : directoryName ({} : Layout).pictureDirectory = "Pictures/" ++ "" := by
    decide
  unfold withPictureDirectory
  split
  · exact .refl package
  · refine .makeDirectory ?_ package
    rw [directory]
    exact apart_picture member ""

theorem agrees_embedAll {files : Files} {pictures : List (String × Path)} {before after : Package}
    (copied : before.embedAll files {} pictures = .ok after) : Agrees name before after := by
  unfold embedAll at copied
  induction pictures generalizing before with
  | nil =>
    cases copied
    exact .refl _
  | cons picture rest ih =>
    rw [List.foldlM_cons] at copied
    cases added : before.addFile files ("Pictures/" ++ picture.1) picture.2 with
    | error fault =>
      change (before.addFile files ("Pictures/" ++ picture.1) picture.2 >>= _) = _ at copied
      rw [added] at copied
      cases copied
    | ok between =>
      change (before.addFile files ("Pictures/" ++ picture.1) picture.2 >>= _) = _ at copied
      rw [added] at copied
      exact (Agrees.addFile (apart_picture member picture.1) added).trans (ih copied)

end

/-- The manifest of a package can be read as one. -/
def readsManifest (package : Package) : Bool :=
  match package.read ({} : Layout).manifestPart with
  | .ok bytes => (Xml.Document.read bytes).toOption.isSome
  | .error _ => false

theorem Agrees.readsManifest {before after : Package}
    (agrees : Agrees ({} : Layout).manifestPart before after) :
    after.readsManifest = before.readsManifest := by
  unfold Package.readsManifest read
  rw [agrees.content]

/-! ## Copying -/

/-- A file is copied when it can be read, whatever the package holds. -/
theorem addFile_eq_ok_iff {package : Package} {files : Files} {name : String} {source : Path} :
    (∃ after, package.addFile files name source = .ok after) ↔
      ∃ item, files.read source = .ok item := by
  unfold addFile
  cases read : files.read source with
  | error fault =>
    constructor
    · rintro ⟨after, added⟩
      cases added
    · rintro ⟨item, isRead⟩
      cases isRead
  | ok item =>
    refine ⟨fun _ => ⟨item, rfl⟩, fun _ => ?_⟩
    cases item <;> exact ⟨_, rfl⟩

/-- Pictures are copied when each of them can be read. -/
theorem embedAll_eq_ok_iff {files : Files} {layout : Layout} {pictures : List (String × Path)}
    {package : Package} : (∃ after, package.embedAll files layout pictures = .ok after) ↔
      ∀ picture ∈ pictures, ∃ item, files.read picture.2 = .ok item := by
  unfold embedAll
  induction pictures generalizing package with
  | nil => exact ⟨fun _ _ member => absurd member List.not_mem_nil, fun _ => ⟨package, rfl⟩⟩
  | cons picture rest ih =>
    rw [List.foldlM_cons, List.forall_mem_cons]
    let entry := layout.pictureDirectory ++ "/" ++ picture.1
    have readable := @addFile_eq_ok_iff package files entry picture.2
    change (∃ after, (package.addFile files entry picture.2 >>= _) = .ok after) ↔ _
    rw [← readable]
    cases package.addFile files entry picture.2 with
    | error fault =>
      constructor
      · rintro ⟨after, copied⟩
        cases copied
      · rintro ⟨⟨after, added⟩, -⟩
        cases added
    | ok between => exact ih.trans ⟨fun others => ⟨⟨between, rfl⟩, others⟩, And.right⟩

end Package

namespace Work

variable {id : Nat}

/-- Files are listed when there is no manifest, or when it can be read and may hold their names. -/
theorem register_eq_ok_iff {files : Files} {package : Package} {store : Store Workspace}
    (added : List String) (holding : Holding id files package {} store.world) :
    (∃ after, (register id added).runFrom store = (.ok (), after)) ↔
      (package.has ({} : Layout).manifestPart = true →
        package.readsManifest = true ∧ ∀ file ∈ added, Xml.IsValid file.toList) := by
  obtain ⟨samePackage, sameLayout⟩ := Prod.mk.inj holding.2.2
  unfold register
  rw [M.runFrom_bind, runFrom_letter]
  dsimp only
  rw [samePackage, sameLayout]
  split
  · rename_i listed
    rw [M.runFrom_bind, M.runFrom_liftExcept]
    unfold Package.readsManifest
    cases read : package.read ({} : Layout).manifestPart with
    | error fault =>
      constructor
      · rintro ⟨after, done⟩
        cases done
      · intro lists
        cases (lists listed).1
    | ok bytes =>
      dsimp only
      rw [M.runFrom_bind, M.runFrom_liftExcept]
      have extends_ := @Manifest.extended_eq_ok_iff added bytes
      constructor
      · rintro ⟨after, done⟩ -
        cases written : Manifest.extended added bytes with
        | error fault =>
          rw [written] at done
          cases done
        | ok text =>
          obtain ⟨⟨manifest, isRead⟩, valid⟩ := extends_.mp ⟨text, written⟩
          exact ⟨by rw [isRead]; rfl, valid⟩
      · intro lists
        obtain ⟨isRead, valid⟩ := lists listed
        obtain ⟨manifest, isManifest⟩ := Option.isSome_iff_exists.mp isRead
        cases found : Xml.Document.read bytes with
        | error malformed =>
          rw [found] at isManifest
          cases isManifest
        | ok document =>
          obtain ⟨text, written⟩ := extends_.mpr ⟨⟨document, found⟩, valid⟩
          rw [written]
          exact ⟨_, rfl⟩
  · rename_i unlisted
    exact ⟨fun _ listed => absurd listed unlisted, fun _ => ⟨store, rfl⟩⟩

/-- The name of the entry of a picture. -/
def pictureEntry (picture : String × Path) : String :=
  ({} : Layout).pictureDirectory ++ "/" ++ picture.1

/-- Pictures can be added to a package among files: each of them can be read, and the manifest lists
them if there is one. -/
structure CanAdd (files : Files) (package : Package) (pictures : List (String × Path)) : Prop where
  readable : ∀ picture ∈ pictures, ∃ item, files.read picture.2 = .ok item
  lists : package.has ({} : Layout).manifestPart = true →
    package.readsManifest = true ∧ ∀ file ∈ pictures.map pictureEntry, Xml.IsValid file.toList

/-- Adding pictures succeeds when there are none, or when they can be added. -/
theorem addPictures_eq_ok_iff {files : Files} {package : Package} {store : Store Workspace}
    (holding : Holding id files package {} store.world) :
    (∃ after, (addPictures id).runFrom store = (.ok (), after)) ↔
      (store.world.letter id).pictures = [] ∨
        CanAdd files package (store.world.letter id).pictures := by
  by_cases none_ : (store.world.letter id).pictures = []
  · exact ⟨fun _ => .inl none_, fun _ => ⟨store, addPictures_none none_⟩⟩
  have inside := holding.2.1
  obtain ⟨middle, made, filled⟩ := makePictureDirectory_holding holding
  have pictured : Fills (showing id Letter.pictures) id :=
    ⟨fun _ => shows_change fun _ => rfl, fun _ => shows_change fun _ => rfl,
      fun _ => shows_change fun _ => rfl⟩
  have kept := leads_makePictureDirectory pictured store inside
  rw [made] at kept
  have some_ : (store.world.letter id).pictures.isEmpty = false := by
    simpa using none_
  unfold addPictures embedPictures
  rw [M.runFrom_bind, runFrom_letter]
  dsimp only
  rw [some_, if_neg Bool.false_ne_true, M.runFrom_bind, made]
  dsimp only
  rw [M.runFrom_bind, runFrom_letter]
  dsimp only
  rw [kept.2, M.runFrom_bind]
  have copies := @Package.embedAll_eq_ok_iff files {} (store.world.letter id).pictures
    (package.withPictureDirectory {})
  rcases embedPictures_cases filled (store.world.letter id).pictures with
    ⟨copied, picture, left, added, fault, last, split, -, unread, ran, -⟩ |
      ⟨added, last, all, ran, full⟩
  · rw [ran]
    constructor
    · rintro ⟨after, done⟩
      cases done
    · rintro (isNone | can)
      · exact absurd isNone none_
      · have member : picture ∈ (store.world.letter id).pictures := by
          rw [split]
          exact List.mem_append_right _ List.mem_cons_self
        obtain ⟨after, isAdded⟩ := Package.addFile_eq_ok_iff.mpr (can.readable picture member)
        rw [unread] at isAdded
        cases isAdded
  · have agrees : Package.Agrees ({} : Layout).manifestPart package added :=
      (Package.agrees_withPictureDirectory List.mem_cons_self package).trans
        (Package.agrees_embedAll List.mem_cons_self all)
    have lists := register_eq_ok_iff ((store.world.letter id).pictures.map pictureEntry) full
    rw [agrees.has, agrees.readsManifest] at lists
    rw [ran]
    dsimp only
    constructor
    · rintro ⟨after, done⟩
      obtain ⟨_, final, registered, -⟩ := M.runFrom_bind_eq_ok.mp done
      exact .inr ⟨copies.mp ⟨added, all⟩, lists.mp ⟨final, registered⟩⟩
    · rintro (isNone | can)
      · exact absurd isNone none_
      · obtain ⟨final, registered⟩ := lists.mpr can.lists
        exact ⟨_, M.runFrom_bind_eq_ok.mpr ⟨(), final, registered, rfl⟩⟩

end Work

end FormLetter
