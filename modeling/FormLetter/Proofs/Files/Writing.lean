import FormLetter.Files.Basic

/-!
# What writing changes

Putting something at one place changes what stands there and nothing else. Where a path leads only
depends on the directories on its way, and nothing is ever put in the place of a directory; so a
path that led somewhere leads there still, and a file that was written is found again.
-/

namespace FormLetter.Files

/-! ## Putting -/

theorem lookup_filter_ne (files : Files) {place other : Place} (differs : other ≠ place) :
    (files.filter (·.1 != place)).lookup other = files.lookup other := by
  induction files with
  | nil => rfl
  | cons entry rest ih =>
    rw [List.filter_cons]
    by_cases here : entry.1 = place
    · have unlike : (other == entry.1) = false := beq_false_of_ne (here ▸ differs)
      rw [if_neg (by simp [here]), List.lookup_cons, unlike, ih]
    · rw [if_pos (by simpa using here), List.lookup_cons, List.lookup_cons, ih]

theorem lookup_filter_self (files : Files) (place : Place) :
    (files.filter (·.1 != place)).lookup place = none := by
  rw [List.lookup_eq_none_iff]
  rintro entry member
  have differs : entry.1 ≠ place := by simpa using (List.mem_filter.mp member).2
  simpa using differs.symm

theorem at?_put_self (files : Files) {place : Place} (inside : isOutside place = false)
    (item : Item) : (files.put place item).at? place = some item := by
  unfold at? put
  rw [if_neg (by simp [inside]), List.lookup_append, lookup_filter_self]
  simp

theorem at?_put_of_ne (files : Files) {place other : Place} (differs : other ≠ place)
    (item : Item) : (files.put place item).at? other = files.at? other := by
  have single : ([(place, item)] : Files).lookup other = none := by
    simp [List.lookup_cons, beq_false_of_ne differs]
  unfold at? put
  rw [List.lookup_append, lookup_filter_ne files differs, single, Option.or_none]

/-- A way through directories is not changed by what is put where no directory is. -/
theorem follow_put {files : Files} {place : Place} (free : files.at? place ≠ some .directory)
    (item : Item) {from_ goal : Place} {names : List String}
    (leads : files.follow from_ names = .ok goal) :
    (files.put place item).follow from_ names = .ok goal := by
  induction names generalizing from_ with
  | nil => exact leads
  | cons name rest ih =>
    unfold follow at leads ⊢
    split at leads
    · rename_i isDirectory
      have differs : from_ ≠ place := fun same => free (same ▸ isDirectory)
      rw [at?_put_of_ne files differs, isDirectory]
      exact ih leads
    · contradiction
    · contradiction

theorem place_put {files : Files} {place : Place} (free : files.at? place ≠ some .directory)
    (item : Item) {path : Path} {goal : Place} (leads : files.place path = .ok goal) :
    (files.put place item).place path = .ok goal :=
  follow_put free item leads

theorem look_eq {files : Files} {path : Path} {place : Place}
    (leads : files.place path = .ok place) :
    files.look path = match files.at? place with
      | some item => .ok item
      | none => .error .missing := by
  unfold look
  rw [leads]
  rfl

/-- What a path leads to, where it leads. -/
theorem look_eq_ok_iff {files : Files} {path : Path} {item : Item} :
    files.look path = .ok item ↔
      ∃ place, files.place path = .ok place ∧ files.at? place = some item := by
  constructor
  · intro found
    cases leads : files.place path with
    | error problem =>
      unfold look at found
      rw [leads] at found
      contradiction
    | ok place =>
      rw [look_eq leads] at found
      split at found
      · rename_i other stands
        cases found
        exact ⟨place, rfl, stands⟩
      · contradiction
  · rintro ⟨place, leads, stands⟩
    rw [look_eq leads, stands]

/-! ## Writing -/

/-- What writing does: it puts the item where the path leads, and no directory is there. -/
theorem write_eq_ok {files written : Files} {path : Path} {item : Item}
    (done : files.write path item = .ok written) :
    ∃ place, files.place path = .ok place ∧ isOutside place = false ∧
      files.at? place ≠ some .directory ∧ written = files.put place item := by
  unfold write at done
  split at done
  · contradiction
  · rename_i place leads
    refine ⟨place, leads, ?_⟩
    have inside (free : files.at? place ≠ some .directory) : isOutside place = false := by
      rw [Bool.eq_false_iff]
      intro outside
      refine free ?_
      unfold at?
      rw [if_pos outside]
    split at done
    · contradiction
    · rename_i other isFile stands
      have free : files.at? place ≠ some .directory := fun isDirectory =>
        isFile (Option.some.inj (stands.symm.trans isDirectory))
      cases done
      exact ⟨inside free, free, rfl⟩
    · rename_i nothing around
      have free : files.at? place ≠ some .directory := by
        rw [nothing]
        exact nofun
      cases done
      exact ⟨inside free, free, rfl⟩
    · contradiction
    · contradiction

/-- What was written is found again. -/
theorem look_write {files written : Files} {path : Path} {item : Item}
    (done : files.write path item = .ok written) : written.look path = .ok item := by
  obtain ⟨place, leads, inside, free, rfl⟩ := write_eq_ok done
  exact look_eq_ok_iff.mpr ⟨place, place_put free item leads, at?_put_self files inside item⟩

theorem isFile_of_look {files : Files} {path : Path} {item : Item}
    (found : files.look path = .ok item) (isItem : item ≠ .directory) :
    files.isFile path = true := by
  unfold isFile
  rw [found]
  split
  · rename_i isDirectory
    cases isDirectory
    contradiction
  · contradiction
  · rfl

end FormLetter.Files
