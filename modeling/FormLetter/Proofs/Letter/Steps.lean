import FormLetter.Letter.Process
import FormLetter.Proofs.Script.Running

/-!
# Single steps of the work on letters

What each step that reads or changes a letter, its package or the files makes of them. Reports
change nothing but the log.
-/

namespace FormLetter

open FormLetter.Script

namespace Workspace

/-- A workspace in which a letter was changed. -/
def modify (workspace : Workspace) (id : Nat) (change : Letter → Letter) : Workspace :=
  { workspace with letters := workspace.letters.modify id change }

variable {workspace : Workspace} {id : Nat}

@[simp]
theorem size_modify (workspace : Workspace) (id : Nat) (change : Letter → Letter) :
    (workspace.modify id change).letters.size = workspace.letters.size := Array.size_modify

theorem letter_modify_self (inside : id < workspace.letters.size) (change : Letter → Letter) :
    (workspace.modify id change).letter id = change (workspace.letter id) := by
  unfold modify letter
  simp only [Array.getElem?_modify]
  simp [inside]

theorem letter_modify_of_ne {other : Nat} (differs : other ≠ id) (change : Letter → Letter) :
    (workspace.modify id change).letter other = workspace.letter other := by
  unfold modify letter
  simp only [Array.getElem?_modify]
  rw [if_neg differs.symm]

theorem letter_eq_getElem (inside : id < workspace.letters.size) :
    workspace.letter id = workspace.letters[id] := by
  unfold letter
  rw [Array.getElem?_eq_getElem inside]
  rfl

/-- What a change makes of other letters does not count. -/
theorem modify_congr {first second : Letter → Letter}
    (same : first (workspace.letter id) = second (workspace.letter id)) :
    workspace.modify id first = workspace.modify id second := by
  unfold modify
  congr 1
  refine Array.ext (by rw [Array.size_modify, Array.size_modify]) fun place before after => ?_
  rw [Array.getElem_modify, Array.getElem_modify]
  split
  · rename_i here
    subst here
    rw [Array.size_modify] at before
    rw [letter_eq_getElem before] at same
    exact same
  · rfl

/-- Two changes of a letter are one. -/
theorem modify_modify (first second : Letter → Letter) :
    (workspace.modify id first).modify id second
      = workspace.modify id fun letter => second (first letter) := by
  unfold modify
  congr 1
  refine Array.ext (by simp only [Array.size_modify]) fun place before after => ?_
  simp only [Array.getElem_modify]
  split
  · rfl
  · rfl

/-- A letter that is not there is nothing but a default. -/
theorem letter_of_size_le (outside : workspace.letters.size ≤ id) :
    workspace.letter id = default := by
  unfold letter
  rw [Array.getElem?_eq_none outside]
  rfl

theorem letter_push_of_lt {files : Files} {letters : Array Letter} {id : Nat}
    (inside : id < letters.size) (new : Letter) :
    (Workspace.mk files (letters.push new)).letter id = (Workspace.mk files letters).letter id := by
  unfold letter
  rw [Array.getElem?_push_lt inside, Array.getElem?_eq_getElem inside]

theorem letter_push_size (files : Files) (letters : Array Letter) (new : Letter) :
    (Workspace.mk files (letters.push new)).letter letters.size = new := by
  unfold letter
  rw [Array.getElem?_push_size]
  rfl

end Workspace

namespace Work

variable (store : Store Workspace)

@[simp]
theorem runFrom_workspace : M.runFrom workspace store = (.ok store.world, store) := rfl

@[simp]
theorem runFrom_files : M.runFrom files store = (.ok store.world.files, store) := rfl

@[simp]
theorem runFrom_letter (id : Nat) :
    M.runFrom (letter id) store = (.ok (store.world.letter id), store) := rfl

@[simp]
theorem runFrom_change (id : Nat) (change : Letter → Letter) :
    M.runFrom (Work.change id change) store
      = (.ok (), { store with world := store.world.modify id change }) := rfl

@[simp]
theorem runFrom_changePackage (id : Nat) (change : Package → Package) :
    M.runFrom (changePackage id change) store
      = (.ok (), { store with world := store.world.modify id fun letter =>
          { letter with package := change letter.package } }) := rfl

/-- Opening a letter opens its package: nothing is changed when that fails, and otherwise the letter
is the last one. -/
theorem openAt_cases (layout : Layout) (path : Path) (store : Store Workspace) :
    (∃ fault, Package.openAt store.world.files path = .error fault ∧
      M.runFrom (openAt layout path) store = (.error fault, store)) ∨
    ∃ package log, Package.openAt store.world.files path = .ok package ∧
      M.runFrom (openAt layout path) store = (.ok store.world.letters.size, { store with
        log, world := ⟨store.world.files,
          store.world.letters.push (.ofPackage layout store.isLenient package)⟩ }) := by
  unfold openAt
  rw [M.runFrom_bind, runFrom_files]
  simp only
  rw [M.runFrom_bind, M.runFrom_liftExcept]
  rcases Package.openAt store.world.files path with fault | package
  · exact Or.inl ⟨fault, rfl, rfl⟩
  · exact Or.inr ⟨package, _, rfl, rfl⟩

/-- A letter that is opened is the last one. -/
theorem openAt_eq_ok {store : Store Workspace} {layout : Layout} {path : Path} {id : Nat}
    {after : Store Workspace} (opened : M.runFrom (openAt layout path) store = (.ok id, after)) :
    id = store.world.letters.size ∧ ∃ package, Package.openAt store.world.files path = .ok package ∧
      after.world = ⟨store.world.files,
        store.world.letters.push (.ofPackage layout store.isLenient package)⟩ := by
  rcases openAt_cases layout path store with ⟨fault, -, ran⟩ | ⟨package, log, read, ran⟩
  · rw [ran] at opened
    cases opened
  · rw [ran] at opened
    cases opened
    exact ⟨rfl, package, read, rfl⟩

/-- A letter that cannot be opened changes nothing. -/
theorem world_of_openAt_error {store after : Store Workspace} {layout : Layout} {path : Path}
    {fault : Fault} (failed : M.runFrom (openAt layout path) store = (.error fault, after)) :
    after.world = store.world := by
  rcases openAt_cases layout path store with ⟨fault, -, ran⟩ | ⟨package, log, -, ran⟩
  · rw [ran] at failed
    cases failed
    rfl
  · rw [ran] at failed
    cases failed

/-- Closing a letter closes its package: nothing is changed when that fails. -/
theorem closePackage_cases (id : Nat) (store : Store Workspace) :
    (∃ fault, (store.world.letter id).package.close store.world.files = .error fault ∧
      M.runFrom (closePackage id) store = (.error fault, store)) ∨
    ∃ package files log, (store.world.letter id).package.close store.world.files
        = .ok (package, files) ∧
      M.runFrom (closePackage id) store = (.ok (), { store with
        log, world := ({ store.world with files }).modify id ({ · with package }) }) := by
  unfold closePackage
  rw [M.runFrom_bind, runFrom_letter]
  simp only
  rw [M.runFrom_bind, runFrom_files]
  simp only
  rw [M.runFrom_bind, M.runFrom_liftExcept]
  rcases (store.world.letter id).package.close store.world.files with fault | ⟨package, files⟩
  · exact Or.inl ⟨fault, rfl, rfl⟩
  · refine Or.inr ⟨package, files, ?_⟩
    dsimp only
    split
    · exact ⟨_, rfl, rfl⟩
    · exact ⟨_, rfl, rfl⟩

end Work

end FormLetter
