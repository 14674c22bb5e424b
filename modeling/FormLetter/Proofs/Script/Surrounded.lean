import FormLetter.Proofs.Script.Lenient

/-!
# No template code makes surroundings

Surroundings are kept apart from everything that template code can change: it can put another cell
in the place of a cell, and make new ones, but the surroundings in a heap stay those that a rendering
put there. So whoever finds surroundings at an address finds what they were made with.
-/

namespace FormLetter.Script

/-- The fields of all surroundings in a heap, in the order in which they were made. -/
def Heap.surroundings (heap : Heap) : List (List (String × Value)) :=
  heap.cells.toList.filterMap Kept.fields?

/-- A computation that leaves the surroundings in the heap as they are, where it succeeds. -/
def KeepsSurroundings {α : Type} (action : Local α) : Prop :=
  ∀ outlook heap value after, action.runFrom outlook heap = (.ok value, after) →
    after.surroundings = heap.surroundings

namespace KeepsSurroundings

variable {α β : Type}

/-! ## Steps -/

/-- A step that does not touch what is kept. -/
theorem of_cells {action : Local α}
    (same : ∀ outlook heap, (action.runFrom outlook heap).2.cells = heap.cells) :
    KeepsSurroundings action := by
  intro outlook heap value after ran
  have cells := same outlook heap
  rw [ran] at cells
  unfold Heap.surroundings
  rw [cells]

theorem of_fails {action : Local α} (fails : Fails action) : KeepsSurroundings action :=
  fun outlook heap value after ran => absurd ran (fails.not_ok outlook heap after value)

theorem pure (value : α) : KeepsSurroundings (Pure.pure value : Local α) :=
  of_cells fun _ _ => rfl

theorem bind {action : Local α} {next : α → Local β} (begun : KeepsSurroundings action)
    (ended : ∀ value, KeepsSurroundings (next value)) : KeepsSurroundings (action >>= next) := by
  intro outlook heap value after ran
  obtain ⟨first, middle, ran, done⟩ := Local.runFrom_bind_eq_ok.mp ran
  exact (ended first outlook middle value after done).trans (begun outlook heap first middle ran)

/-- What looks at the heap, and does what it says. -/
theorem looking {next : Heap → Local α} (each : ∀ heap, KeepsSurroundings (next heap)) :
    KeepsSurroundings (get >>= next) :=
  bind (of_cells fun _ _ => rfl) each

theorem allocate (cell : Cell) : KeepsSurroundings (allocate cell) := by
  intro outlook heap value after ran
  cases ran
  change (heap.cells.push (.cell cell)).toList.filterMap _ = _
  rw [Array.toList_push, List.filterMap_append]
  exact List.append_nil _

/-- What puts a cell in the place of a cell leaves the surroundings. -/
theorem filterMap_modify (cell : Cell) (kept : List Kept) (place : Nat) :
    (kept.modify place (Kept.replace cell)).filterMap Kept.fields? = kept.filterMap Kept.fields? := by
  induction kept generalizing place with
  | nil => rw [List.modify_nil]
  | cons first rest ih =>
    cases place with
    | zero =>
      rw [List.modify_zero_cons, List.filterMap_cons, List.filterMap_cons]
      cases first <;> rfl
    | succ place => rw [List.modify_succ_cons, List.filterMap_cons, List.filterMap_cons, ih]

theorem keep (place : Address) (cell : Cell) : KeepsSurroundings (keep place cell) := by
  intro outlook heap value after ran
  cases ran
  change (heap.cells.modify place (Kept.replace cell)).toList.filterMap _ = _
  rw [Array.toList_modify, filterMap_modify]
  rfl

/-! ## Undefined values -/

theorem note (label : Label) : KeepsSurroundings (note label) := by
  refine of_cells fun outlook heap => ?_
  change (if heap.recorded.contains label then heap
    else { heap with recorded := heap.recorded ++ [label] }).cells = heap.cells
  split
  · rfl
  · rfl

theorem noteMissing (missing : Missing) : KeepsSurroundings (noteMissing missing) := by
  unfold Script.noteMissing
  split
  · exact pure _
  · split
    · exact pure _
    · exact note _
  · exact of_fails (.kindTrouble _)

theorem noteUse (missing : Missing) : KeepsSurroundings (noteUse missing) := by
  unfold Script.noteUse
  split
  · exact of_cells fun _ _ => rfl
  · exact noteMissing missing

theorem useMissing (missing : Missing) : KeepsSurroundings (useMissing missing) := by
  unfold Script.useMissing
  split
  · exact pure _
  · refine looking fun heap => ?_
    split
    · exact noteUse missing
    · exact of_fails (.refuse missing)

theorem passMissing (missing : Missing) : KeepsSurroundings (passMissing missing) := by
  unfold Script.passMissing
  split
  · exact pure _
  · refine looking fun heap => ?_
    split
    · exact of_cells fun _ _ => rfl
    · exact of_fails (.refuse missing)

theorem noticeMissing (missing : Missing) : KeepsSurroundings (noticeMissing missing) := by
  unfold Script.noticeMissing
  refine looking fun heap => ?_
  split
  · exact noteMissing missing
  · exact pure _

theorem equalsMissing (missing : Missing) (other : Value) :
    KeepsSurroundings (equalsMissing missing other) := by
  obtain ⟨passed, same, compared⟩ := Local.equalsMissing_eq missing other
  rw [compared]
  exact bind (passMissing passed) fun _ => pure same

theorem makeMissing (label : Option Label) (message : String) (isPlain : Bool)
    (unhashable : Option String) :
    KeepsSurroundings (makeMissing label message isPlain unhashable) :=
  of_cells fun _ _ => rfl

theorem memberOfMissing? (missing : Missing) (name : String) :
    KeepsSurroundings (memberOfMissing? missing name) := by
  unfold Script.memberOfMissing?
  split
  · exact pure _
  · refine looking fun heap => ?_
    split
    · exact of_fails (.refuse missing)
    · refine bind (noteUse missing) fun _ => bind (makeMissing _ _ _ _) fun value => ?_
      exact pure _

end KeepsSurroundings

/-! ## All template code -/

/-- To keep the surroundings is a discipline. -/
def Discipline.surrounded : Discipline where
  holds action := KeepsSurroundings action
  pure := .pure
  bind := .bind
  fails never := fun outlook heap value after ran => absurd ran (never outlook heap after value)
  outlook := .of_cells fun _ _ => rfl
  fetch _ := .of_cells fun _ _ => rfl
  allocate := .allocate
  keep := .keep
  makeMissing := .makeMissing
  currentLine := .of_cells fun _ _ => rfl
  setLine _ := .of_cells fun _ _ => rfl
  exported? _ := .of_cells fun _ _ => rfl
  exportValue _ _ := .of_cells fun _ _ => rfl
  beginTemplate := .of_cells fun _ _ => rfl
  use := .useMissing
  pass := .passMissing
  notice := .noticeMissing
  equal := .equalsMissing
  memberOf := .memberOfMissing?

instance obeys_report_surrounded (level : Log.Level) (source : Log.Source) (message : String) :
    Obeys .surrounded (report level source message) :=
  ⟨.of_cells fun _ _ => rfl⟩

instance obeys_kindOf_surrounded (value : Value) : Obeys .surrounded (kindOf value) :=
  ⟨.of_cells fun _ _ => rfl⟩

instance obeys_surroundingsAt?_surrounded (place : Address) :
    Obeys .surrounded (surroundingsAt? place) :=
  ⟨.of_cells fun _ _ => rfl⟩

/-! ## Surroundings that are found, and new ones -/

/-- Surroundings that are found at an address are some of those in the heap. -/
theorem mem_surroundings {outlook : Outlook} {heap after : Heap} {place : Address}
    {fields : List (String × Value)}
    (found : (surroundingsAt? place).runFrom outlook heap = (.ok (some fields), after)) :
    after = heap ∧ fields ∈ heap.surroundings := by
  obtain ⟨isFields, rfl⟩ := Prod.mk.inj found
  have isThere : heap.cells[place]?.bind Kept.fields? = some fields := Except.ok.inj isFields
  obtain ⟨kept, isKept, isSome⟩ := Option.bind_eq_some_iff.mp isThere
  refine ⟨rfl, List.mem_filterMap.mpr ⟨kept, ?_, isSome⟩⟩
  exact Array.mem_toList_iff.mpr (Array.mem_of_getElem? isKept)

/-- New surroundings come last. -/
theorem surroundings_surround {outlook : Outlook} {heap after : Heap} {value : Value}
    {fields : List (String × Value)}
    (made : (surround fields).runFrom outlook heap = (.ok value, after)) :
    after.surroundings = heap.surroundings ++ [fields] := by
  cases made
  change (heap.cells.push (.surroundings fields)).toList.filterMap _ = _
  rw [Array.toList_push, List.filterMap_append]
  rfl

end FormLetter.Script
