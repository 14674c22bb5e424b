import FormLetter.Proofs.Package.Commit

/-!
# What a closed package leaves in its file

A package is closed between operations, and a close that was done does not keep anyone from
operating on it. The file holds what the package remembers as committed, before and after each
close. So the first close leaves all of the package in its file, as a commit does. A further one
does nothing: the file holds what was committed last, which is all of the package as long as it does
not count as modified.

What becomes of one entry is asked apart from that. An archive cuts names at a zero, so an entry can
be told by its name where no other name is cut to it; and a content that was made since the last
commit is written by the next one, whatever the file has become meanwhile.
-/

namespace FormLetter.Package

open Archive

/-! ## Operating and closing -/

/-- What can be done to a package. -/
inductive Use where
  | operate (operation : Operation)
  | close

/-- What a use leads to. One that fails changes nothing. -/
def Standing.used (standing : Standing) : Use → Standing
  | .operate operation => standing.after operation
  | .close =>
    match standing.package.close standing.files with
    | .ok (package, files) => ⟨package, files⟩
    | .error _ => standing

/-- What uses lead to, one after the other. -/
def Standing.usedAll (standing : Standing) (uses : List Use) : Standing :=
  uses.foldl Standing.used standing

/-- What closing does: nothing when the package is closed, and else a commit. -/
theorem close_eq_ok {package after : Package} {files written : Files}
    (done : package.close files = .ok (after, written)) :
    (package.isClosed = true ∧ after = package ∧ written = files) ∨
      (package.isClosed = false ∧ ∃ committed, package.commit files = .ok (committed, written) ∧
        after = { committed with isClosed := true }) := by
  unfold close at done
  split at done
  · rename_i closed
    cases done
    exact .inl ⟨closed, rfl, rfl⟩
  · rename_i open_
    rw [Bool.not_eq_true] at open_
    cases wrote : package.commit files with
    | error fault =>
      rw [wrote] at done
      cases done
    | ok next =>
      rw [wrote] at done
      cases done
      exact .inr ⟨open_, next.1, rfl, rfl⟩

/-- A commit leaves the entries of the package. -/
theorem entries_commit {package after : Package} {files written : Files}
    (done : package.commit files = .ok (after, written)) : after.entries = package.entries := by
  rcases commit_eq_ok done with ⟨-, rfl, -⟩ | ⟨-, rfl, -⟩
  · rfl
  · rfl

theorem entries_close {package after : Package} {files written : Files}
    (done : package.close files = .ok (after, written)) : after.entries = package.entries := by
  rcases close_eq_ok done with ⟨-, rfl, -⟩ | ⟨-, committed, wrote, rfl⟩
  · rfl
  · have same := entries_commit wrote
    exact same

section

variable {origin : Package} {taken : String → Prop} {standing : Standing}

/-- A close keeps the invariant. Afterwards the package remembers all that it holds, unless it was
closed before. -/
theorem Sound.close (sound : Sound origin taken standing) {after : Package} {written : Files}
    (done : standing.package.close standing.files = .ok (after, written)) :
    Sound origin taken ⟨after, written⟩ ∧ (standing.package.isClosed = false →
      ∀ name, bytesOf after.committed name = standing.package.bytes? name) := by
  rcases close_eq_ok done with ⟨closed, rfl, rfl⟩ | ⟨-, committed, wrote, rfl⟩
  · refine ⟨sound, fun open_ => ?_⟩
    rw [closed] at open_
    cases open_
  · obtain ⟨kept, contents⟩ := sound.commit wrote
    exact ⟨{ kept with }, fun _ => contents⟩

/-- Every use keeps the invariant, whether it succeeds or fails. -/
theorem Sound.used (sound : Sound origin taken standing) {use : Use}
    (whole : ∀ operation, use = .operate operation →
      ∀ name ∈ operation.entered?, '\x00' ∉ name.toList) :
    ∃ taken, Sound origin taken (standing.used use) := by
  cases use with
  | operate operation => exact ⟨_, sound.after (whole operation rfl)⟩
  | close =>
    unfold Standing.used
    cases done : standing.package.close standing.files with
    | error fault => exact ⟨taken, sound⟩
    | ok next => exact ⟨taken, (sound.close done).1⟩

/-- Whatever is done to a package, the invariant holds. -/
theorem Sound.usedAll (sound : Sound origin taken standing) {uses : List Use}
    (whole : ∀ operation, .operate operation ∈ uses →
      ∀ name ∈ operation.entered?, '\x00' ∉ name.toList) :
    ∃ taken, Sound origin taken (standing.usedAll uses) := by
  induction uses generalizing standing taken with
  | nil => exact ⟨taken, sound⟩
  | cons use rest ih =>
    obtain ⟨_, first⟩ := sound.used fun operation isThis =>
      whole operation (isThis ▸ List.mem_cons_self)
    exact ih first fun operation member => whole operation (List.mem_cons_of_mem use member)

end

/-- An archive holds the names and the contents of a package, and no others. -/
def IsHeldBy (package : Package) (archive : Archive) : Prop :=
  ∀ name, (archive.named? name).map (·.content) = package.bytes? name

/-- What an archive holds of a package, it gives when it is opened. -/
theorem reopens_of_isHeldBy {files : Files} {path : Path} {archive : Archive} {package : Package}
    (found : archiveAt? files path = some archive) (holds : package.IsHeldBy archive) :
    ∃ reopened, openAt files path = .ok reopened ∧
      (∀ name, name ∈ reopened.names ↔ name ∈ package.names) ∧
      ∀ name, reopened.bytes? name = package.bytes? name := by
  have same (name : String) : (ofArchive path archive).bytes? name = package.bytes? name := by
    rw [bytes?_ofArchive, holds]
  refine ⟨ofArchive path archive, openAt_eq_ok_iff.mpr ⟨archive, found, rfl⟩, fun name => ?_, same⟩
  rw [← bytes?_isSome_iff, same, bytes?_isSome_iff]

/-- After any uses of a package that was opened, a close that succeeds leaves a file with exactly
the names and contents of the package, unless the package was closed before and counts as modified.
A package that was closed before is left as it is, and so is its file. -/
theorem isHeldBy_of_close {files : Files} {path : Path} {package : Package}
    (opened : openAt files path = .ok package)
    (readable : ∀ entries, files.look path = .ok (.archive entries) → IsReadable entries)
    {uses : List Use} (whole : ∀ operation, .operate operation ∈ uses →
      ∀ name ∈ operation.entered?, '\x00' ∉ name.toList)
    {last : Standing} (reached : Standing.usedAll ⟨package, files⟩ uses = last)
    {after : Package} {written : Files}
    (done : last.package.close last.files = .ok (after, written)) :
    (last.package.isClosed = true → after = last.package ∧ written = last.files) ∧
    ∃ archive, archiveAt? written path = some archive ∧
      (∀ name, (archive.named? name).map (·.content) = bytesOf after.committed name) ∧
      (last.package.isClosed = false ∨ last.package.isModified = false →
        after.IsHeldBy archive) := by
  obtain ⟨source, found, rfl⟩ := openAt_eq_ok_iff.mp opened
  have isReadable : source.IsReadable := isReadable_of_archiveAt? readable found
  obtain ⟨taken, sound⟩ := (sound_ofArchive found isReadable).usedAll whole
  rw [reached] at sound
  obtain ⟨soundAfter, contents⟩ := sound.close done
  obtain ⟨archive, onFile, holds⟩ := soundAfter.onFile
  rw [soundAfter.path, path_ofArchive] at onFile
  have entries := entries_close done
  refine ⟨fun closed => ?_, archive, onFile, holds, fun either name => ?_⟩
  · rcases close_eq_ok done with ⟨-, same, kept⟩ | ⟨open_, -⟩
    · exact ⟨same, kept⟩
    · rw [closed] at open_
      cases open_
  · rw [holds, bytes?, entries]
    cases wasClosed : last.package.isClosed with
    | false => exact contents wasClosed name
    | true =>
      -- Nothing was written, and there was nothing to write.
      rw [wasClosed] at either
      have same := lookup_eq_of_not_modified sound.distinct (either.resolve_left (by decide)) name
      rcases close_eq_ok done with ⟨-, rfl, -⟩ | ⟨open_, -⟩
      · unfold bytesOf
        rw [same]
      · rw [wasClosed] at open_
        cases open_

/-! ## One entry -/

/-- What a name stands for where each other name is given an entry of another name. -/
theorem named?_map_of_apart {names : List String} {make : String → Entry} {name : String}
    (apart : ∀ other ∈ names, (make other).name = name → other = name)
    (named : (make name).name = name) (member : name ∈ names) :
    named? (names.map make) name = some (make name) := by
  induction names with
  | nil => cases member
  | cons first rest ih =>
    obtain ⟨apartFirst, apart⟩ := List.forall_mem_cons.mp apart
    rw [List.map_cons, named?]
    by_cases later : name ∈ rest
    · rw [ih apart later, Option.some_or]
    · have isFirst : name = first := (List.mem_cons.mp member).resolve_right later
      subst isFirst
      have absent : named? (rest.map make) name = none := by
        cases found : named? (rest.map make) name with
        | none => rfl
        | some entry =>
          obtain ⟨isEntry, isNamed⟩ := mem_of_named? found
          obtain ⟨other, isOther, rfl⟩ := List.mem_map.mp isEntry
          exact absurd (apart other (List.mem_cons_of_mem _ isOther) isNamed ▸ isOther) later
      rw [absent, named, if_pos rfl, Option.none_or]

/-- A content that is one of the first so many, as far as it can be told apart. -/
def IsMade (made : Nat) (content : Content) : Prop := ∀ number ∈ content.stamp, number < made

theorem IsMade.mono {made later : Nat} {content : Content} (isMade : IsMade made content)
    (after : made ≤ later) : IsMade later content :=
  fun number stamped => Nat.lt_of_lt_of_le (isMade number stamped) after

theorem isMade_contentOf (isPlain : Bool) (number : Nat) (bytes : ByteArray) :
    IsMade (number + 1) (contentOf isPlain number bytes) := by
  intro stamp stamped
  unfold contentOf at stamped
  dsimp only at stamped
  split at stamped
  · cases stamped
  · cases stamped
    exact Nat.lt_succ_self _

/-- A content that is made next is none of those, unless it is so short that it may be the same. -/
theorem IsMade.ne_contentOf {made : Nat} {content : Content} {bytes : ByteArray}
    (isMade : IsMade made content) (long : 1 < bytes.size) :
    content ≠ contentOf true made bytes := by
  rintro rfl
  have short : ¬ bytes.size ≤ sharedSize true := Nat.not_le.mpr long
  have stamped : (contentOf true made bytes).stamp = some made := if_neg short
  exact absurd (isMade made stamped) (Nat.lt_irrefl made)

/-- What holds of a package whatever is done to it and whatever becomes of its file, as far as one
name is concerned: no other name is cut to it by an archive, and every content that is held or
remembered was made before. -/
structure IsOrderly (name : String) (path : Path) (package : Package) : Prop where
  path : package.path = path
  distinct : (Keyed.names package.entries).Nodup
  apart : ∀ other ∈ package.names, keptName other = name → other = name
  held : ∀ other content, package.entries.lookup other = some content →
    IsMade package.made content
  remembered : ∀ other content, package.committed.lookup other = some content →
    IsMade package.made content

namespace IsOrderly

variable {name : String} {path : Path} {package : Package}

/-- A name without a zero in it is cut to no other. -/
theorem apart_of_whole {other : String} (whole : '\x00' ∉ other.toList) :
    keptName other = name → other = name :=
  fun kept => (keptName_eq whole).symm.trans kept

/-- The contents of a package that is opened are made one after the other. -/
theorem isMade_foldl_load (package : Package) (archive : Archive)
    (held : ∀ other content, package.entries.lookup other = some content →
      IsMade package.made content) (other : String) (content : Content)
    (found : (archive.foldl load package).entries.lookup other = some content) :
    IsMade (archive.foldl load package).made content := by
  induction archive generalizing package with
  | nil => exact held other content found
  | cons entry rest ih =>
    refine ih (package.load entry) (fun known inner stands => ?_) found
    change (Keyed.put _ _ package.entries).lookup known = some inner at stands
    rw [Keyed.lookup_put] at stands
    split at stands
    · cases stands
      exact isMade_contentOf _ _ _
    · exact (held known inner stands).mono (Nat.le_succ _)

/-- A package that was just opened is orderly. -/
theorem ofArchive {archive : Archive} (readable : archive.IsReadable) :
    IsOrderly name path (ofArchive path archive) where
  path := path_ofArchive path archive
  distinct := nodup_ofArchive path archive
  apart other member := by
    obtain ⟨entry, stands⟩ := Option.isSome_iff_exists.mp (mem_names_ofArchive.mp member)
    obtain ⟨inArchive, rfl⟩ := mem_of_named? stands
    exact apart_of_whole (readable entry inArchive).1
  held := isMade_foldl_load ⟨path, [], [], [], false, 0⟩ archive nofun
  remembered := isMade_foldl_load ⟨path, [], [], [], false, 0⟩ archive nofun

section

variable (orderly : IsOrderly name path package)

include orderly

/-- Entering a content that was made. -/
theorem enter {other : String} {content : Content} {made : Nat}
    (apart : keptName other = name → other = name) (later : package.made ≤ made)
    (isMade : IsMade made content) :
    IsOrderly name path { package.writeContent other content with made } where
  path := orderly.path
  distinct := Keyed.nodup_names_put orderly.distinct
  apart known member := by
    rcases Keyed.mem_names_put.mp member with rfl | present
    · exact apart
    · exact orderly.apart known present
  held known inner found := by
    change (Keyed.put other content package.entries).lookup known = some inner at found
    rw [Keyed.lookup_put] at found
    split at found
    · cases found
      exact isMade
    · exact (orderly.held known inner found).mono later
  remembered known inner found := (orderly.remembered known inner found).mono later

theorem write {other : String} (apart : keptName other = name → other = name)
    (bytes : ByteArray) : IsOrderly name path (package.write other bytes) :=
  orderly.enter apart (Nat.le_succ _) (isMade_contentOf _ _ _)

theorem makeDirectory {other : String}
    (apart : keptName (directoryName other) = name → directoryName other = name) :
    IsOrderly name path (package.makeDirectory other) := by
  unfold Package.makeDirectory
  dsimp only
  split
  · exact orderly
  · exact orderly.write apart .empty

theorem addFile {other : String} (apart : keptName other = name → other = name) {files : Files}
    {source : Path} {added : Package} (done : package.addFile files other source = .ok added) :
    IsOrderly name path added := by
  unfold Package.addFile at done
  cases found : files.read source with
  | error fault =>
    rw [found] at done
    cases done
  | ok item =>
    rw [found] at done
    have made : IsMade (package.made + 1) ⟨.empty, some package.made⟩ := by
      rintro number ⟨⟩
      exact Nat.lt_succ_self _
    cases item with
    | bytes content =>
      cases done
      exact orderly.enter apart (Nat.le_succ _) (isMade_contentOf _ _ _)
    | directory | archive =>
      cases done
      exact orderly.enter apart (Nat.le_succ _) made

theorem discard (other : String) : IsOrderly name path (package.discard other) where
  path := (path_discard package other).trans orderly.path
  distinct := distinct_discard orderly.distinct other
  apart known member := by
    rw [names_discard] at member
    exact orderly.apart known (List.mem_filter.mp member).1
  held known inner found := by
    rw [lookup_discard] at found
    rw [made_discard]
    split at found
    · cases found
    · exact orderly.held known inner found
  remembered known inner found := by
    rw [committed_discard] at found
    rw [made_discard]
    exact orderly.remembered known inner found

theorem discardAll (others : List String) :
    IsOrderly name path (others.foldl Package.discard package) := by
  induction others generalizing package with
  | nil => exact orderly
  | cons first rest ih => exact ih (orderly.discard first)

theorem commit {files written : Files} {after : Package}
    (done : package.commit files = .ok (after, written)) : IsOrderly name path after := by
  rcases commit_eq_ok done with ⟨-, rfl, -⟩ | ⟨-, rfl, -⟩
  · exact orderly
  · exact { orderly with remembered := orderly.held }

theorem close {files written : Files} {after : Package}
    (done : package.close files = .ok (after, written)) : IsOrderly name path after := by
  rcases close_eq_ok done with ⟨-, rfl, -⟩ | ⟨-, committed, wrote, rfl⟩
  · exact orderly
  · exact { orderly.commit wrote with }

/-- Any operation may be done, if it enters no name with a zero in it, and gives an entry the very
content of another only when that content was made. -/
theorem after {operation : Operation} (whole : ∀ given ∈ operation.entered?, '\x00' ∉ given.toList)
    (isMade : ∀ other content, operation = .rewrite other content → IsMade package.made content)
    (files : Files) : IsOrderly name path (Standing.after ⟨package, files⟩ operation).package := by
  unfold Standing.after
  cases operation with
  | write other bytes => exact orderly.write (apart_of_whole (whole other rfl)) bytes
  | rewrite other content =>
    exact orderly.enter (apart_of_whole (whole other rfl)) (Nat.le_refl _)
      (isMade other content rfl)
  | makeDirectory other =>
    exact orderly.makeDirectory (apart_of_whole (whole_directoryName (whole other rfl)))
  | addFile other source =>
    dsimp only [Operation.perform]
    cases done : package.addFile files other source with
    | error fault => exact orderly
    | ok added => exact orderly.addFile (apart_of_whole (whole other rfl)) done
  | remove other =>
    dsimp only [Operation.perform]
    cases done : package.remove other with
    | error fault => exact orderly
    | ok taken =>
      unfold Package.remove at done
      split at done
      · cases done
        exact orderly.discard other
      · cases done
  | discard other => exact orderly.discard other
  | commit =>
    dsimp only [Operation.perform]
    cases done : package.commit files with
    | error fault => exact orderly
    | ok next => exact orderly.commit done

/-- Nor does a close matter, or any other use. -/
theorem used {use : Use}
    (whole : ∀ operation, use = .operate operation →
      ∀ given ∈ operation.entered?, '\x00' ∉ given.toList)
    (isMade : ∀ other content, use = .operate (.rewrite other content) →
      IsMade package.made content) (files : Files) :
    IsOrderly name path (Standing.used ⟨package, files⟩ use).package := by
  cases use with
  | operate operation =>
    exact orderly.after (whole operation rfl)
      (fun other content same => isMade other content (congrArg Use.operate same)) files
  | close =>
    unfold Standing.used
    dsimp only
    cases done : package.close files with
    | error fault => exact orderly
    | ok next => exact orderly.close done

/-- A close that is done leaves each content in the file that was made since the last commit, and
all others as long as the file was left alone. -/
theorem named?_of_close (whole : '\x00' ∉ name.toList) {content : Content}
    (stands : package.entries.lookup name = some content) {files written : Files}
    (fresh : package.committed.lookup name ≠ some content ∨ OnFile package files)
    (open_ : package.isClosed = false) {after : Package}
    (done : package.close files = .ok (after, written)) :
    ∃ archive, archiveAt? written path = some archive ∧
      (archive.named? name).map (·.content) = some content.bytes := by
  rcases close_eq_ok done with ⟨closed, -, -⟩ | ⟨-, committed, wrote, -⟩
  · rw [closed] at open_
    cases open_
  rcases commit_eq_ok wrote with ⟨unmodified, -, rfl⟩ | ⟨-, -, isWritten⟩
  · have same := lookup_eq_of_not_modified orderly.distinct unmodified name
    rw [stands] at same
    obtain ⟨archive, found, holds⟩ := fresh.resolve_left fun differs => differs same.symm
    rw [orderly.path] at found
    refine ⟨archive, found, (holds name).trans ?_⟩
    rw [bytesOf, ← same, Option.map_some]
  · rw [orderly.path] at isWritten
    refine ⟨package.toArchive, ?_, ?_⟩
    · rw [archiveAt?, Files.look_write isWritten]
      rfl
    · have member : name ∈ package.writtenNames :=
        mem_writtenNames.mpr (Keyed.lookup_isSome_iff.mp (Option.isSome_iff_exists.mpr ⟨_, stands⟩))
      have apart : ∀ other ∈ package.writtenNames,
          (package.writtenEntry other).name = name → other = name :=
        fun other isOther => orderly.apart other (mem_writtenNames.mp isOther)
      rw [toArchive_eq, named?_map_of_apart apart (keptName_eq whole) member]
      simp only [writtenEntry, Entry.kept, content?, stands, Option.map_some, Option.getD_some]

end

end IsOrderly

end FormLetter.Package
