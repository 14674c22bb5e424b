import FormLetter.Proofs.Files.Writing

/-!
# What making directories and copying change

Directories are made only where nothing stands, so whatever a path led to, it leads to still. A
directory that cannot be made is none, also when some of those around it were made: then nothing can
stand in it. A file that is copied over another one stays what it was, since a file is never copied
over itself.
-/

namespace FormLetter.Files

/-! ## Directories that were added -/

/-- Files to which directories were added where nothing stood, and nothing else. -/
def Grown (before after : Files) : Prop :=
  ∀ place, after.at? place = before.at? place ∨
    before.at? place = none ∧ after.at? place = some .directory

theorem Grown.refl (files : Files) : Grown files files := fun _ => Or.inl rfl

theorem Grown.trans {first second third : Files} (begun : Grown first second)
    (ended : Grown second third) : Grown first third := by
  intro place
  rcases ended place with later | ⟨nothing, later⟩
  · rw [later]
    exact begun place
  · rcases begun place with early | ⟨-, early⟩
    · exact Or.inr ⟨early ▸ nothing, later⟩
    · rw [early] at nothing
      contradiction

/-- Whatever stood somewhere stands there still. -/
theorem Grown.at? {before after : Files} (grown : Grown before after) {place : Place} {item : Item}
    (stands : before.at? place = some item) : after.at? place = some item := by
  rcases grown place with same | ⟨nothing, -⟩
  · exact same.trans stands
  · rw [stands] at nothing
    contradiction

/-- A way that led somewhere leads there still. -/
theorem Grown.follow {before after : Files} (grown : Grown before after) {from_ goal : Place}
    {names : List String} (leads : before.follow from_ names = .ok goal) :
    after.follow from_ names = .ok goal := by
  induction names generalizing from_ with
  | nil => exact leads
  | cons name rest ih =>
    unfold Files.follow at leads ⊢
    split at leads
    · rename_i isDirectory
      rw [grown.at? isDirectory]
      exact ih leads
    · contradiction
    · contradiction

/-- What a path led to, it leads to still. -/
theorem Grown.look {before after : Files} (grown : Grown before after) {path : Path} {item : Item}
    (found : before.look path = .ok item) : after.look path = .ok item := by
  obtain ⟨place, leads, stands⟩ := look_eq_ok_iff.mp found
  exact look_eq_ok_iff.mpr ⟨place, grown.follow leads, grown.at? stands⟩

/-! ## Making directories -/

theorem grown_makeDirectory {files made : Files} {path : Path}
    (done : files.makeDirectory path = .ok made) : Grown files made := by
  unfold makeDirectory at done
  split at done
  · contradiction
  · rename_i place leads
    split at done
    · contradiction
    · rename_i nothing
      cases done
      intro other
      have inside : isOutside place = false := by
        rw [Bool.eq_false_iff]
        intro outside
        unfold Files.at? at nothing
        rw [if_pos outside] at nothing
        contradiction
      by_cases here : other = place
      · subst here
        exact Or.inr ⟨nothing, at?_put_self files inside _⟩
      · exact Or.inl (at?_put_of_ne files here _)
    · contradiction
    · contradiction

theorem grown_ensureDirectory (files : Files) (path : Path) :
    Grown files (files.ensureDirectory path).1 := by
  unfold ensureDirectory
  split
  · exact Grown.refl files
  · split
    · rename_i made done
      exact grown_makeDirectory done
    · exact Grown.refl files

/-- Directories are added and nothing else, also when not all of them can be made. -/
theorem grown_makeWithin (files : Files) (path : Path) (depth : Nat) :
    Grown files (files.makeWithin path depth).1 := by
  induction depth generalizing path with
  | zero => exact grown_ensureDirectory files path
  | succ depth ih =>
    unfold makeWithin
    split
    · rename_i made done
      exact grown_makeDirectory done
    · have around := ih path.parent
      split
      · rename_i more done
        rw [done] at around
        exact around.trans (grown_ensureDirectory more path)
      · rename_i more fault done
        rw [done] at around
        exact around
    · exact Grown.refl files

/-! ## Directories that could not be made -/

theorem follow_append (files : Files) (from_ : Place) (names more : List String) :
    files.follow from_ (names ++ more)
      = (files.follow from_ names).bind fun place => files.follow place more := by
  induction names generalizing from_ with
  | nil => rfl
  | cons name rest ih =>
    rw [List.cons_append, Files.follow, Files.follow]
    split
    · exact ih _
    · rfl
    · rfl

theorem isDirectory_iff {files : Files} {path : Path} :
    files.isDirectory path = true ↔ files.look path = .ok .directory := by
  unfold isDirectory
  split
  · rename_i found
    simp [found]
  · rename_i other
    exact ⟨nofun, fun found => absurd found (other · |>.elim)⟩

theorem at?_start (files : Files) (path : Path) : files.at? (start path) = some .directory := by
  unfold start
  split
  · rfl
  · rfl

/-- What a path leads to is in a directory. -/
theorem isDirectory_parent {files : Files} {path : Path} {item : Item}
    (found : files.look path = .ok item) : files.isDirectory path.parent = true := by
  rw [isDirectory_iff, look_eq_ok_iff]
  obtain ⟨place, leads, -⟩ := look_eq_ok_iff.mp found
  unfold Files.place at leads
  rcases List.eq_nil_or_concat path.parts with none_ | ⟨around, name, parts⟩
  · refine ⟨start path, ?_, at?_start files path⟩
    unfold Files.place Path.parent
    rw [none_]
    rfl
  · rw [List.concat_eq_append] at parts
    have parent : path.parent.parts = around := by
      unfold Path.parent
      rw [parts, List.dropLast_concat]
    rw [parts, follow_append] at leads
    cases reached : files.follow (start path) around with
    | error problem =>
      rw [reached] at leads
      contradiction
    | ok directory =>
      refine ⟨directory, ?_, ?_⟩
      · unfold Files.place
        rw [parent]
        exact reached
      · rw [reached, Except.bind, Files.follow] at leads
        split at leads
        · assumption
        · contradiction
        · contradiction

theorem not_isDirectory_of_ensureDirectory {files made : Files} {path : Path} {fault : Fault}
    (failed : files.ensureDirectory path = (made, .error fault)) :
    made.isDirectory path = false := by
  unfold ensureDirectory at failed
  split at failed
  · cases failed
  · rename_i missing
    split at failed
    · cases failed
    · cases failed
      exact Bool.eq_false_iff.mpr missing

/-- A directory that could not be made is none. -/
theorem not_isDirectory_of_makeWithin {files made : Files} {path : Path} {depth : Nat}
    {fault : Fault} (failed : files.makeWithin path depth = (made, .error fault)) :
    made.isDirectory path = false := by
  induction depth generalizing path fault with
  | zero => exact not_isDirectory_of_ensureDirectory failed
  | succ depth ih =>
    unfold makeWithin at failed
    split at failed
    · cases failed
    · split at failed
      · exact not_isDirectory_of_ensureDirectory failed
      · rename_i around cause failedAround
        cases failed
        have outside := ih failedAround
        rw [Bool.eq_false_iff]
        intro isDirectory
        rw [isDirectory_parent (isDirectory_iff.mp isDirectory)] at outside
        contradiction
    · split at failed
      · cases failed
      · rename_i missing
        cases failed
        exact Bool.eq_false_iff.mpr missing

/-- What a path leads to when the directory for it could not be made: nothing, as before. -/
theorem look_of_makeWithin_error {files made : Files} {path : Path} {depth : Nat} {fault : Fault}
    (failed : files.makeWithin path.parent depth = (made, .error fault)) :
    (made.look path).toOption = none ∧ (files.look path).toOption = none := by
  have outside := not_isDirectory_of_makeWithin failed
  have grown := grown_makeWithin files path.parent depth
  rw [failed] at grown
  have nothing (item : Item) : made.look path ≠ .ok item := by
    intro found
    rw [isDirectory_parent found] at outside
    contradiction
  constructor
  · cases found : made.look path with
    | error problem => rfl
    | ok item => exact absurd found (nothing item)
  · cases found : files.look path with
    | error problem => rfl
    | ok item => exact absurd (grown.look found) (nothing item)

/-! ## Copying -/

/-- Writing where one path leads leaves what another one leads to. -/
theorem look_write_of_ne {files written : Files} {path other : Path} {item stays : Item}
    (done : files.write path item = .ok written) (found : files.look other = .ok stays)
    (apart : files.place other ≠ files.place path) : written.look other = .ok stays := by
  obtain ⟨place, leads, -, free, rfl⟩ := write_eq_ok done
  obtain ⟨elsewhere, leadsThere, stands⟩ := look_eq_ok_iff.mp found
  rw [leads, leadsThere] at apart
  have differs : elsewhere ≠ place := fun same => apart (congrArg Except.ok same)
  refine look_eq_ok_iff.mpr ⟨elsewhere, place_put free item leadsThere, ?_⟩
  rw [at?_put_of_ne files differs, stands]

/-- Where a path led before something was written, it leads afterwards. -/
theorem place_write {files written : Files} {path other : Path} {item : Item} {place : Place}
    (done : files.write path item = .ok written) (leads : files.place other = .ok place) :
    written.place other = .ok place := by
  obtain ⟨_, -, -, free, rfl⟩ := write_eq_ok done
  exact place_put free item leads

theorem read_eq_ok_iff {files : Files} {path : Path} {item : Item} :
    files.read path = .ok item ↔ files.look path = .ok item ∧ item ≠ .directory := by
  unfold Files.read
  constructor
  · intro read
    split at read
    · contradiction
    · rename_i other isFile found
      cases read
      exact ⟨found, isFile⟩
    · contradiction
  · rintro ⟨found, isFile⟩
    rw [found]
    split
    · rename_i isDirectory
      cases isDirectory
      exact absurd rfl isFile
    · rename_i same
      cases same
      rfl
    · contradiction

/-- A file is there to be read. -/
theorem isFile_iff {files : Files} {path : Path} :
    files.isFile path = true ↔ ∃ item, files.look path = .ok item ∧ item ≠ .directory := by
  constructor
  · intro there
    unfold isFile at there
    split at there
    · contradiction
    · contradiction
    · rename_i item isItem found
      exact ⟨item, found, isItem⟩
  · rintro ⟨item, found, isItem⟩
    exact isFile_of_look found isItem

/-- Copying a file writes what it is, and to another place. -/
theorem copy_eq_ok {files copied : Files} {source target : Path}
    (done : files.copy source target = .ok copied) :
    ∃ item, files.look source = .ok item ∧ item ≠ .directory ∧
      files.write target item = .ok copied ∧ files.place source ≠ files.place target := by
  unfold copy at done
  split at done
  · contradiction
  · rename_i apart
    cases read : files.read source with
    | error fault =>
      rw [read] at done
      contradiction
    | ok item =>
      rw [read] at done
      obtain ⟨found, isItem⟩ := read_eq_ok_iff.mp read
      refine ⟨item, found, isItem, done, fun same => apart ?_⟩
      obtain ⟨place, leads, stands⟩ := look_eq_ok_iff.mp found
      unfold leadToSame
      rw [← same, leads]
      simp [stands]

/-- When a file cannot be copied, the target is the file itself, a directory, or not there. -/
theorem copy_eq_error {files : Files} {source target : Path} {fault : Fault}
    (isFile : files.isFile source = true) (failed : files.copy source target = .error fault) :
    files.look target = files.look source ∨ files.look target = .ok .directory ∨
      (files.look target).toOption = none := by
  obtain ⟨item, found, isItem⟩ := isFile_iff.mp isFile
  unfold copy at failed
  split at failed
  · rename_i same
    refine Or.inl ?_
    unfold leadToSame at same
    split at same
    · rename_i left right leadsLeft leadsRight
      rw [Bool.and_eq_true, beq_iff_eq] at same
      rw [look_eq leadsLeft, look_eq leadsRight, same.1]
    · contradiction
  · refine Or.inr ?_
    rw [read_eq_ok_iff.mpr ⟨found, isItem⟩] at failed
    change files.write target item = .error fault at failed
    unfold Files.write at failed
    split at failed
    · rename_i problem astray
      refine Or.inr ?_
      unfold Files.look
      rw [astray]
      rfl
    · rename_i place leads
      rw [look_eq leads]
      split at failed
      · rename_i isDirectory
        rw [isDirectory]
        exact Or.inl rfl
      · contradiction
      · contradiction
      · rename_i nothing around
        rw [nothing]
        exact Or.inr rfl
      · rename_i nothing around
        rw [nothing]
        exact Or.inr rfl

end FormLetter.Files
