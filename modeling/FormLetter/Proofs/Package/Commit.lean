import FormLetter.Proofs.Files.Writing
import FormLetter.Proofs.Package.Operations
import Mathlib.Data.List.Perm.Subperm

/-!
# Commits lose nothing

A package that was opened is changed by operations, some of which may fail, and commits stand
anywhere between them. The invariant is that the file holds what the package remembers as committed.
It ties a commit that writes nothing to the file: a package that counts as unmodified holds what it
remembers, since a content that is the same one has the same bytes. What is known about an entry is
kept until the entry is taken out, and is never learned again.

Nobody else changes the files meanwhile, and the names that are given have no zero in them; an
archive would cut them there.
-/

namespace FormLetter.Package

open Archive

/-! ## Unmodified packages -/

/-- A package that does not count as modified holds what it remembers. -/
theorem lookup_eq_of_not_modified {package : Package}
    (distinct : (Keyed.names package.entries).Nodup) (same : package.isModified = false)
    (name : String) : package.entries.lookup name = package.committed.lookup name := by
  unfold isModified at same
  simp only [Bool.or_eq_false_iff, bne_eq_false_iff_eq, List.any_eq_false,
    Bool.not_eq_true] at same
  obtain ⟨sameLength, sameContent⟩ := same
  have kept {known : String} {content : Content}
      (held : package.entries.lookup known = some content) :
      package.committed.lookup known = some content :=
    sameContent (known, content) ((Keyed.lookup_eq_some_iff distinct).mp held)
  cases held : package.entries.lookup name with
  | some content => exact (kept held).symm
  | none =>
    -- As many names on both sides, and those of one among those of the other: no name is left over.
    have subset : Keyed.names package.entries ⊆ Keyed.names package.committed := by
      intro known member
      obtain ⟨content, found⟩ := Option.isSome_iff_exists.mp (Keyed.lookup_isSome_iff.mpr member)
      exact Keyed.lookup_isSome_iff.mp (Option.isSome_iff_exists.mpr ⟨content, kept found⟩)
    have sameNames : (Keyed.names package.entries).Perm (Keyed.names package.committed) := by
      refine (List.Nodup.subperm distinct subset).perm_of_length_le ?_
      simp only [Keyed.names, List.length_map]
      omega
    rw [eq_comm, Keyed.lookup_eq_none]
    exact fun member => Keyed.lookup_eq_none.mp held (sameNames.mem_iff.mpr member)

/-- A package that holds another content than it remembers counts as modified. -/
theorem isModified_of_lookup_ne {package : Package} {name : String} {content : Content}
    (distinct : (Keyed.names package.entries).Nodup)
    (held : package.entries.lookup name = some content)
    (other : package.committed.lookup name ≠ some content) : package.isModified = true := by
  cases modified : package.isModified with
  | true => rfl
  | false =>
    rw [lookup_eq_of_not_modified distinct modified] at held
    exact absurd held other

/-! ## The invariant -/

/-- The archive that a path leads to, if it leads to one. -/
def archiveAt? (files : Files) (path : Path) : Option Archive :=
  (files.look path).toOption.bind Item.archive?

/-- A package that is opened holds what the archive does that its path leads to. -/
theorem openAt_eq_ok_iff {files : Files} {path : Path} {package : Package} :
    openAt files path = .ok package ↔
      ∃ archive, archiveAt? files path = some archive ∧ package = ofArchive path archive := by
  unfold openAt archiveAt?
  cases found : files.look path with
  | error problem =>
    have noFile : files.isFile path = false := by simp [Files.isFile, found]
    simp [noFile, Except.toOption]
  | ok item =>
    simp only [Except.toOption, Option.bind_some]
    cases read : item.archive? with
    | none =>
      refine ⟨fun opened => ?_, nofun⟩
      split at opened
      · contradiction
      · contradiction
    | some archive =>
      have isItem : item ≠ .directory := by
        rintro rfl
        contradiction
      simp [Files.isFile_of_look found isItem, eq_comm]

/-- An archive that was read from a file is readable. One that was written must be so. -/
theorem isReadable_of_archiveAt? {files : Files} {path : Path} {archive : Archive}
    (readable : ∀ entries, files.look path = .ok (.archive entries) → IsReadable entries)
    (found : archiveAt? files path = some archive) : archive.IsReadable := by
  unfold archiveAt? at found
  cases stands : files.look path with
  | error problem =>
    rw [stands] at found
    contradiction
  | ok item =>
    rw [stands, Except.toOption, Option.bind_some] at found
    cases item with
    | directory => contradiction
    | bytes content =>
      unfold Item.archive? at found
      exact isReadable_ofBytes? found
    | archive listed =>
      unfold Item.archive? at found
      cases found
      exact readable archive stands

/-- The file of a package holds under each name what is remembered as committed. -/
def OnFile (package : Package) (files : Files) : Prop :=
  ∃ archive, archiveAt? files package.path = some archive ∧
    ∀ name, (archive.named? name).map (·.content) = bytesOf package.committed name

/-- What holds of a package that was opened and worked on. `taken` are the names that were taken
out at some time. -/
structure Sound (origin : Package) (taken : String → Prop) (standing : Standing) : Prop where
  path : standing.package.path = origin.path
  distinct : (Keyed.names standing.package.entries).Nodup
  whole : ∀ name ∈ standing.package.names, '\x00' ∉ name.toList
  present : ∀ name ∈ Keyed.names standing.package.infos, name ∈ standing.package.names
  infos : ∀ name, (taken name → standing.package.infos.lookup name = none) ∧
    (¬ taken name → standing.package.infos.lookup name = origin.infos.lookup name)
  onFile : OnFile standing.package standing.files

theorem mem_directoryName {name : String} {c : Char} (member : c ∈ (directoryName name).toList) :
    c ∈ name.toList ∨ c = '/' := by
  unfold directoryName at member
  rw [String.toList_append, String.toList_ofList, List.mem_append, List.mem_reverse] at member
  rcases member with inName | inSlash
  · have suffix := List.dropWhile_suffix (l := name.toList.reverse) (· == '/')
    exact Or.inl (List.mem_reverse.mp (suffix.subset inName))
  · exact Or.inr (List.mem_singleton.mp inSlash)

theorem whole_directoryName {name : String} (whole : '\x00' ∉ name.toList) :
    '\x00' ∉ (directoryName name).toList := by
  intro member
  rcases mem_directoryName member with inName | isSlash
  · exact whole inName
  · exact absurd isSlash (by decide)

section

variable {origin : Package} {taken : String → Prop} {standing : Standing}

/-- Entering a content under a name keeps the invariant. -/
theorem Sound.enter (sound : Sound origin taken standing) {name : String}
    (whole : '\x00' ∉ name.toList) (content : Content) (made : Nat) :
    Sound origin taken
      ⟨{ standing.package.writeContent name content with made }, standing.files⟩ where
  path := sound.path
  distinct := Keyed.nodup_names_put sound.distinct
  whole := fun other member =>
    (Keyed.mem_names_put.mp member).elim (fun same => same ▸ whole) (sound.whole other)
  present := fun other member => Keyed.mem_names_put.mpr (Or.inr (sound.present other member))
  infos := sound.infos
  onFile := sound.onFile

/-- Taking a name out keeps the invariant, and the name counts as taken out from then on. -/
theorem Sound.discard (sound : Sound origin taken standing) (name : String) :
    Sound origin (fun other => taken other ∨ other = name)
      ⟨standing.package.discard name, standing.files⟩ where
  path := (path_discard _ _).trans sound.path
  distinct := distinct_discard sound.distinct name
  whole := fun other member => by
    rw [names_discard] at member
    exact sound.whole other (List.mem_filter.mp member).1
  present := present_discard sound.present name
  infos := fun other => by
    rw [infos_discard sound.present]
    by_cases same : other = name
    · simp [same]
    · simpa [same] using sound.infos other
  onFile := by
    obtain ⟨archive, found, holds⟩ := sound.onFile
    exact ⟨archive, by simpa using found, by simpa using holds⟩

/-- What a commit does: it leaves a package that is not modified, and writes all entries of one
that is. -/
theorem commit_eq_ok {package after : Package} {files written : Files}
    (done : package.commit files = .ok (after, written)) :
    (package.isModified = false ∧ after = package ∧ written = files) ∨
      (package.isModified = true ∧ after = { package with committed := package.entries } ∧
        files.write package.path (.archive package.toArchive) = .ok written) := by
  unfold commit at done
  split at done
  · rename_i modified
    cases back : package.writeBack files with
    | error fault =>
      rw [back] at done
      contradiction
    | ok next =>
      rw [back] at done
      cases done
      refine Or.inr ⟨modified, rfl, ?_⟩
      unfold writeBack at back
      split at back
      · contradiction
      · split at back
        · contradiction
        · exact back
  · rename_i unmodified
    cases done
    exact Or.inl ⟨by simpa using unmodified, rfl, rfl⟩

/-- A commit keeps the invariant, and the file holds the entries of the package then. -/
theorem Sound.commit (sound : Sound origin taken standing) {after : Package} {written : Files}
    (done : standing.package.commit standing.files = .ok (after, written)) :
    Sound origin taken ⟨after, written⟩ ∧
      ∀ name, bytesOf after.committed name = standing.package.bytes? name := by
  rcases commit_eq_ok done with ⟨same, rfl, rfl⟩ | ⟨-, rfl, wrote⟩
  · refine ⟨sound, fun name => ?_⟩
    unfold bytes? bytesOf
    rw [lookup_eq_of_not_modified sound.distinct same]
  · refine ⟨{ sound with onFile := ?_ }, fun name => rfl⟩
    refine ⟨standing.package.toArchive, ?_, content_toArchive sound.whole⟩
    unfold archiveAt?
    rw [Files.look_write wrote]
    rfl

/-- No operation enters a name with a zero in it when it is given none. -/
theorem Operation.whole_of_enters {operation : Operation} {name : String}
    (enters : operation.Enters name)
    (whole : ∀ given ∈ operation.entered?, '\x00' ∉ given.toList) : '\x00' ∉ name.toList := by
  cases operation with
  | write other _ | rewrite other _ | addFile other _ =>
    cases enters
    exact whole name rfl
  | makeDirectory other =>
    cases enters
    exact whole_directoryName (whole other rfl)
  | remove _ | discard _ | commit => exact enters.elim

/-- Every operation keeps the invariant, whether it succeeds or fails. -/
theorem Sound.after (sound : Sound origin taken standing) {operation : Operation}
    (whole : ∀ name ∈ operation.entered?, '\x00' ∉ name.toList) :
    Sound origin (fun name => taken name ∨ operation.TakesOut name) (standing.after operation) := by
  have takes (name : String) : operation.TakesOut name ↔ operation.out? = some name :=
    Operation.takesOut_iff
  have unchanged (keeps : operation.out? = none) :
      (fun name => taken name ∨ operation.TakesOut name) = taken :=
    funext fun name => propext (or_iff_left (by rw [takes, keeps]; exact nofun))
  rcases standing.after_cases operation with
    ⟨keeps, next⟩ | ⟨keeps, name, content, made, enters, -, next⟩ |
      ⟨rfl, after, written, done, next⟩ | ⟨name, out, next⟩
  · rw [unchanged keeps, next]
    exact sound
  · rw [unchanged keeps, next]
    exact sound.enter (Operation.whole_of_enters enters whole) content made
  · rw [unchanged rfl, next]
    exact (sound.commit done).1
  · rw [next]
    simp only [takes, out, Option.some.injEq, eq_comm (a := name)]
    exact sound.discard name

/-- Whatever operations are done, the invariant holds, and a name counts as taken out when one of
them takes it out. -/
theorem Sound.afterAll {operations : List Operation} (sound : Sound origin taken standing)
    (whole : ∀ operation ∈ operations, ∀ name ∈ operation.entered?, '\x00' ∉ name.toList) :
    Sound origin (fun name => taken name ∨ ∃ operation ∈ operations, operation.TakesOut name)
      (standing.afterAll operations) := by
  induction operations generalizing standing taken with
  | nil => simpa [Standing.afterAll] using sound
  | cons operation rest ih =>
    have first := sound.after (whole operation List.mem_cons_self)
    have others := ih first fun later member => whole later (List.mem_cons_of_mem operation member)
    simpa only [Standing.afterAll, List.foldl_cons, List.exists_mem_cons_iff, or_assoc] using others

/-! ## Commits -/

/-- A package that was just opened satisfies the invariant. -/
theorem sound_ofArchive {files : Files} {path : Path} {archive : Archive}
    (found : archiveAt? files path = some archive) (readable : archive.IsReadable) :
    Sound (ofArchive path archive) (fun _ => False) ⟨ofArchive path archive, files⟩ where
  path := rfl
  distinct := nodup_ofArchive path archive
  whole := fun name member => by
    obtain ⟨entry, stands⟩ := Option.isSome_iff_exists.mp (mem_names_ofArchive.mp member)
    obtain ⟨inArchive, rfl⟩ := mem_of_named? stands
    exact (readable entry inArchive).1
  present := present_ofArchive path archive
  infos := fun name => ⟨False.elim, fun _ => rfl⟩
  onFile := by
    refine ⟨archive, by rw [path_ofArchive]; exact found, fun name => ?_⟩
    exact (bytes?_ofArchive path archive name).symm

/-- An archive lists a package. The type comes first and all else in its order. What was in the
source and was never taken out bears what it bore there, but that attributes of zero are replaced;
anything else is written as new. -/
structure Lists (source : Archive) (taken : String → Prop) (package : Package)
    (listed : Archive) : Prop where
  order : listed.map (·.name)
    = package.names.filter (· == typeEntry) ++ package.names.filter (· != typeEntry)
  kept : ∀ entry ∈ listed, ∀ old, source.named? entry.name = some old → ¬ taken entry.name →
    entry.info.method = old.info.method ∧ entry.info.moment = old.info.moment ∧
      entry.info.attributes
        = if old.info.attributes = 0 then defaultAttributes else old.info.attributes
  new : ∀ entry ∈ listed, source.named? entry.name = none ∨ taken entry.name →
    entry.info.method = (newInfo entry.name).method ∧
      entry.info.attributes = (newInfo entry.name).attributes

theorem attributes_newInfo_ne_zero (name : String) : (newInfo name).attributes ≠ 0 := by
  unfold newInfo
  dsimp only
  split
  · decide
  · decide

/-- The archive that a package is written as lists it. -/
theorem Sound.lists {path : Path} {archive : Archive} {standing : Standing}
    {taken : String → Prop} (sound : Sound (ofArchive path archive) taken standing)
    (readable : archive.IsReadable) :
    Lists archive taken standing.package standing.package.toArchive where
  order := by rw [names_toArchive sound.whole, writtenNames_eq sound.distinct]
  kept := by
    intro entry member old stands untouched
    obtain ⟨name, inNames, written⟩ := List.mem_map.mp member
    change standing.package.writtenEntry name = entry at written
    subst written
    rw [name_writtenEntry sound.whole inNames] at stands untouched
    have known : standing.package.infos.lookup name = some old.info := by
      rw [(sound.infos name).2 untouched, infos_ofArchive, stands]
      rfl
    have even := (readable old (mem_of_named? stands).1).2
    simp [writtenEntry, Entry.kept, Info.kept, infoOf, known, even]
  new := by
    intro entry member fresh
    obtain ⟨name, inNames, written⟩ := List.mem_map.mp member
    change standing.package.writtenEntry name = entry at written
    subst written
    rw [name_writtenEntry sound.whole inNames] at fresh ⊢
    have unknown : standing.package.infos.lookup name = none := by
      by_cases out : taken name
      · exact (sound.infos name).1 out
      · rw [(sound.infos name).2 out, infos_ofArchive, fresh.resolve_right out]
        rfl
    simp [writtenEntry, Entry.kept, Info.kept, infoOf, unknown, attributes_newInfo_ne_zero]

/-- A commit loses nothing. After any operations on a package that was opened, a commit that
succeeds leaves a file that opens with exactly the names and the contents of the package, whether
it wrote or found nothing to write; and if it wrote, the archive lists the package. -/
theorem commit_loses_nothing {files : Files} {path : Path} {package : Package}
    (opened : openAt files path = .ok package)
    (readable : ∀ entries, files.look path = .ok (.archive entries) → IsReadable entries)
    {operations : List Operation}
    (whole : ∀ operation ∈ operations, ∀ name ∈ operation.entered?, '\x00' ∉ name.toList)
    {last : Standing} (reached : Standing.afterAll ⟨package, files⟩ operations = last)
    {after : Package} {written : Files}
    (done : last.package.commit last.files = .ok (after, written)) :
    (∃ reopened, openAt written path = .ok reopened ∧
      (∀ name, name ∈ reopened.names ↔ name ∈ last.package.names) ∧
      ∀ name, reopened.bytes? name = last.package.bytes? name) ∧
    (last.package.isModified = true →
      ∃ source listed, archiveAt? files path = some source ∧
        archiveAt? written path = some listed ∧
        Lists source (fun name => ∃ operation ∈ operations, operation.TakesOut name)
          last.package listed) := by
  obtain ⟨source, found, rfl⟩ := openAt_eq_ok_iff.mp opened
  have isReadable : source.IsReadable := isReadable_of_archiveAt? readable found
  have sound := (sound_ofArchive found isReadable).afterAll whole
  rw [reached] at sound
  simp only [false_or] at sound
  obtain ⟨soundAfter, contents⟩ := sound.commit done
  obtain ⟨archive, onFile, holds⟩ := soundAfter.onFile
  rw [soundAfter.path, path_ofArchive] at onFile
  have same (name : String) : (ofArchive path archive).bytes? name = last.package.bytes? name := by
    rw [bytes?_ofArchive, holds, contents]
  refine ⟨⟨ofArchive path archive, openAt_eq_ok_iff.mpr ⟨archive, onFile, rfl⟩, fun name => ?_,
    same⟩, fun modified => ?_⟩
  · rw [← bytes?_isSome_iff, same, bytes?_isSome_iff]
  · have lists := sound.lists isReadable
    rcases commit_eq_ok done with ⟨unmodified, -, -⟩ | ⟨-, -, wrote⟩
    · rw [modified] at unmodified
      contradiction
    · refine ⟨source, last.package.toArchive, found, ?_, lists⟩
      rw [sound.path, path_ofArchive] at wrote
      rw [archiveAt?, Files.look_write wrote]
      rfl

end

/-- An archive that names an entry twice. -/
def twiceNamed : Archive :=
  [⟨"a.xml", ⟨.deflated, 0, .earliest⟩, "old".toUTF8⟩,
    ⟨"b.xml", ⟨.deflated, 1, .earliest⟩, "bb".toUTF8⟩,
    ⟨"mimetype", ⟨.stored, 2, .earliest⟩, "letter".toUTF8⟩,
    ⟨"a.xml", ⟨.stored, 0, .earliest⟩, "new".toUTF8⟩]

/-- The package of `twiceNamed`, as it was opened. -/
def untouched : Standing :=
  ⟨ofArchive ⟨"", ["t.odt"]⟩ twiceNamed, [(["t.odt"], .archive twiceNamed)]⟩

/-- A commit, an operation that fails, and an entry that is taken out and written anew. -/
def changes : List Operation :=
  [.makeDirectory "Pictures", .commit, .remove "c.xml", .discard "b.xml",
    .write "b.xml" "again".toUTF8, .rewrite "d.xml" ⟨"new".toUTF8, some 3⟩]

/-- The changes are committed: what was taken out has the attributes of a new entry, and what was
kept has those that it bore when it was last named. -/
theorem commit_loses_nothing_changes :
    ∃ after written reopened listed,
      (untouched.afterAll changes).package.commit (untouched.afterAll changes).files
        = .ok (after, written) ∧
      openAt written ⟨"", ["t.odt"]⟩ = .ok reopened ∧
      reopened.bytes? "b.xml" = some "again".toUTF8 ∧
      archiveAt? written ⟨"", ["t.odt"]⟩ = some listed ∧
      listed.map (·.name) = ["mimetype", "a.xml", "Pictures/", "b.xml", "d.xml"] ∧
      ∀ entry ∈ listed, entry.name = "a.xml" → entry.info.method = .stored ∧
        entry.info.attributes = defaultAttributes := by
  have opened : openAt untouched.files ⟨"", ["t.odt"]⟩ = .ok untouched.package := rfl
  have readable : ∀ entries, untouched.files.look ⟨"", ["t.odt"]⟩ = .ok (.archive entries) →
      IsReadable entries := by
    intro entries found
    have isThis : untouched.files.look ⟨"", ["t.odt"]⟩ = .ok (.archive twiceNamed) := rfl
    rw [isThis] at found
    cases found
    unfold IsReadable
    decide
  have whole : ∀ operation ∈ changes, ∀ name ∈ operation.entered?, '\x00' ∉ name.toList := by
    decide
  have succeeds : ((untouched.afterAll changes).package.commit
      (untouched.afterAll changes).files).toOption.isSome = true := by decide
  have modified : (untouched.afterAll changes).package.isModified = true := by decide
  cases done : (untouched.afterAll changes).package.commit (untouched.afterAll changes).files with
  | error fault =>
    rw [done] at succeeds
    contradiction
  | ok next =>
    obtain ⟨⟨reopened, isOpen, -, contents⟩, written⟩ :=
      commit_loses_nothing opened readable whole rfl done
    obtain ⟨source, listed, found, stands, lists⟩ := written modified
    have isThis : archiveAt? untouched.files ⟨"", ["t.odt"]⟩ = some twiceNamed := rfl
    rw [isThis] at found
    cases found
    refine ⟨next.1, next.2, reopened, listed, rfl, isOpen, ?_, stands, ?_, ?_⟩
    · rw [contents]
      decide
    · rw [lists.order]
      decide
    · intro entry member named
      have last : twiceNamed.named? "a.xml"
          = some ⟨"a.xml", ⟨.stored, 0, .earliest⟩, "new".toUTF8⟩ := by decide
      have never : ¬ ∃ operation ∈ changes, operation.TakesOut "a.xml" := by
        simp [changes, Operation.TakesOut]
      obtain ⟨method, -, attributes⟩ :=
        lists.kept entry member _ (named ▸ last) (named ▸ never)
      exact ⟨method, attributes.trans (if_pos rfl)⟩

end FormLetter.Package
