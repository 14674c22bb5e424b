import FormLetter.Proofs.Script.Regime

/-!
# Two runs of one computation

A computation of template code is run twice, from heaps that hold the same but may differ in what
they do with undefined values. Where the first run succeeds, the second one has to keep up with it:
it gives the same value and leaves a heap that again holds the same, or it fails in a way that is
excused. This is a discipline as soon as the uses of undefined values keep up, and then all
template code does.
-/

namespace FormLetter.Script

/-- What became of the uses of undefined values: the labels that were noted, and what was
overlooked. -/
def Heap.notes (heap : Heap) : List Label × List Missing := (heap.recorded, heap.overlooked)

/-- What two runs have to do with each other: the modes of their heaps, what may be overlooked while
the second one keeps up, what may have become of the uses of undefined values in the first one in the
end, and the faults that excuse the second one. -/
structure Accord where
  first : Bool
  second : Bool
  overlooks : List Missing → List Missing → Prop
  counts : List Label × List Missing → Prop
  excused : Fault → Prop

namespace Accord

variable {α β : Type} (accord : Accord)

/-- Heaps that hold the same, each in its own mode. What was noted is left aside. -/
structure Alike (first second : Heap) : Prop where
  cells : first.cells = second.cells
  made : first.made = second.made
  line : first.line = second.line
  exported : first.exported = second.exported
  overlooked : accord.overlooks first.overlooked second.overlooked
  firstMode : first.isLenient = accord.first
  secondMode : second.isLenient = accord.second

/-- What comes of the second run keeps up with a value and a heap that the first one led to. -/
def KeepsUp (value : α) (after : Heap) : Except Fault α × Heap → Prop
  | (.ok found, last) => found = value ∧ accord.Alike after last
  | (.error fault, _) => accord.excused fault

/-- A computation whose second run keeps up with the first one. -/
structure Steady (action : Local α) : Prop where
  /-- What counts when it ends counted when it began. -/
  counts {outlook : Outlook} {heap after : Heap} {value : α} :
    action.runFrom outlook heap = (.ok value, after) → accord.counts after.notes →
      accord.counts heap.notes
  keepsUp {outlook : Outlook} {first second after : Heap} {value : α} :
    accord.Alike first second → action.runFrom outlook first = (.ok value, after) →
      accord.counts after.notes →
        accord.KeepsUp value after (action.runFrom outlook second)

variable {accord}

namespace Steady

/-- A step that always succeeds, notes nothing, and depends only on what the heaps share. -/
theorem of_runFrom {action : Local α} (result : Outlook → Heap → α)
    (change : Outlook → Heap → Heap)
    (runs : ∀ outlook heap,
      action.runFrom outlook heap = (.ok (result outlook heap), change outlook heap))
    (same : ∀ {outlook first second}, accord.Alike first second →
      result outlook first = result outlook second ∧
        accord.Alike (change outlook first) (change outlook second))
    (notes : ∀ outlook heap, (change outlook heap).notes = heap.notes) :
    accord.Steady action where
  counts {outlook heap after value} ran counts := by
    rw [runs] at ran
    cases ran
    rw [notes] at counts
    exact counts
  keepsUp {outlook first second after value} alike ran _ := by
    rw [runs] at ran
    cases ran
    rw [runs]
    exact ⟨(same alike).1.symm, (same alike).2⟩

/-- A step that gives what the heaps share, and changes nothing. -/
theorem of_reading {action : Local α} (result : Outlook → Heap → α)
    (runs : ∀ outlook heap, action.runFrom outlook heap = (.ok (result outlook heap), heap))
    (same : ∀ {outlook first second}, accord.Alike first second →
      result outlook first = result outlook second) : accord.Steady action :=
  of_runFrom result (fun _ heap => heap) runs (fun alike => ⟨same alike, alike⟩) fun _ _ => rfl

theorem of_fails {action : Local α}
    (fails : ∀ outlook heap after value, action.runFrom outlook heap ≠ (.ok value, after)) :
    accord.Steady action where
  counts ran := absurd ran (fails _ _ _ _)
  keepsUp _ ran := absurd ran (fails _ _ _ _)

theorem bind {action : Local α} {next : α → Local β} (begun : accord.Steady action)
    (ended : ∀ value, accord.Steady (next value)) : accord.Steady (action >>= next) where
  counts ran counts := by
    obtain ⟨found, middle, ran, done⟩ := Local.runFrom_bind_eq_ok.mp ran
    exact begun.counts ran ((ended found).counts done counts)
  keepsUp {outlook first second after value} alike ran counts := by
    obtain ⟨found, middle, ran, done⟩ := Local.runFrom_bind_eq_ok.mp ran
    have kept := begun.keepsUp alike ran ((ended found).counts done counts)
    rw [Local.runFrom_bind]
    rcases followed : action.runFrom outlook second with ⟨fault | other, last⟩
    · rw [followed] at kept
      exact kept
    · rw [followed] at kept
      obtain ⟨rfl, alike⟩ := kept
      exact (ended other).keepsUp alike done counts

theorem makeMissing (label : Option Label) (message : String) (isPlain : Bool)
    (unhashable : Option String) :
    accord.Steady (makeMissing label message isPlain unhashable) :=
  .of_runFrom (fun _ heap => .undefined ⟨label, message, isPlain, heap.made, unhashable⟩)
    (fun _ heap => { heap with made := heap.made + 1 }) (fun _ _ => rfl)
    (fun alike => ⟨by rw [alike.made], { alike with made := by rw [alike.made] }⟩) fun _ _ => rfl

end Steady

variable (accord) in
/-- An accord that the uses of undefined values keep to. -/
structure Lawful : Prop where
  use (missing : Missing) : accord.Steady (useMissing missing)
  pass (missing : Missing) : accord.Steady (passMissing missing)
  notice (missing : Missing) : accord.Steady (noticeMissing missing)
  equal (missing : Missing) (other : Value) : accord.Steady (equalsMissing missing other)
  memberOf (missing : Missing) (name : String) : accord.Steady (memberOfMissing? missing name)

/-- To keep up is a discipline. -/
def Lawful.discipline (lawful : accord.Lawful) : Discipline where
  holds action := accord.Steady action
  pure value := .of_reading (fun _ _ => value) (fun _ _ => rfl) fun _ => rfl
  bind := .bind
  fails := .of_fails
  outlook := .of_reading (fun outlook _ => outlook) (fun _ _ => rfl) fun _ => rfl
  fetch place := .of_reading (fun _ heap => (heap.cells[place]?.map Kept.content).getD default)
    (fun _ _ => rfl) fun alike => by rw [alike.cells]
  allocate cell := .of_runFrom (fun _ heap => heap.cells.size)
    (fun _ heap => { heap with cells := heap.cells.push (.cell cell) }) (fun _ _ => rfl)
    (fun alike => ⟨by rw [alike.cells], { alike with cells := by rw [alike.cells] }⟩)
    fun _ _ => rfl
  keep place cell := .of_runFrom (fun _ _ => ⟨⟩)
    (fun _ heap => { heap with cells := heap.cells.modify place (Kept.replace cell) })
    (fun _ _ => rfl) (fun alike => ⟨rfl, { alike with cells := by rw [alike.cells] }⟩) fun _ _ => rfl
  makeMissing := .makeMissing
  currentLine := .of_reading (fun _ heap => heap.line) (fun _ _ => rfl) fun alike => alike.line
  setLine line := .of_runFrom (fun _ _ => ⟨⟩) (fun _ heap => { heap with line }) (fun _ _ => rfl)
    (fun alike => ⟨rfl, { alike with line := rfl }⟩) fun _ _ => rfl
  exported? name := .of_reading (fun _ heap => heap.exported.lookup name) (fun _ _ => rfl)
    fun alike => by rw [alike.exported]
  exportValue name value := .of_runFrom (fun _ _ => ⟨⟩)
    (fun _ heap => { heap with exported := (name, value) :: heap.exported.filter (·.1 != name) })
    (fun _ _ => rfl) (fun alike => ⟨rfl, { alike with exported := by rw [alike.exported] }⟩)
    fun _ _ => rfl
  beginTemplate := .of_runFrom (fun _ _ => ⟨⟩)
    (fun _ heap => { heap with exported := [], line := 1 }) (fun _ _ => rfl)
    (fun alike => ⟨rfl, { alike with exported := rfl, line := rfl }⟩) fun _ _ => rfl
  use := lawful.use
  pass := lawful.pass
  notice := lawful.notice
  equal := lawful.equal
  memberOf := lawful.memberOf

/-! ### Surroundings -/

instance obeys_surround (lawful : accord.Lawful) (fields : List (String × Value)) :
    Obeys lawful.discipline (surround fields) :=
  ⟨.of_runFrom (fun _ heap => .record .context heap.cells.size)
    (fun _ heap => { heap with cells := heap.cells.push (.surroundings fields) }) (fun _ _ => rfl)
    (fun alike => ⟨by rw [alike.cells], { alike with cells := by rw [alike.cells] }⟩) fun _ _ => rfl⟩

instance obeys_surroundingsAt? (lawful : accord.Lawful) (place : Address) :
    Obeys lawful.discipline (surroundingsAt? place) :=
  ⟨.of_reading (fun _ heap => heap.cells[place]?.bind Kept.fields?) (fun _ _ => rfl)
    fun alike => by rw [alike.cells]⟩

end Accord

/-! ## Computations that call -/

/-- An accord of two runs that see a world each. What can be seen of the two is the same. It may
matter what the first run has made of its world in the end. -/
structure Pairing (σ : Type) [World σ] extends Accord where
  paired : σ → σ → Prop
  ends : σ → Prop
  outlook_eq {first second : σ} : paired first second →
    World.outlook first = World.outlook second

namespace Pairing

variable {σ α β : Type} [World σ] (pairing : Pairing σ)

/-- Stores whose heaps hold the same, and whose worlds are paired. -/
structure AlikeOut (first second : Store σ) : Prop where
  heaps : pairing.Alike first.toHeap second.toHeap
  worlds : pairing.paired first.world second.world

/-- A store in which the first run may end. -/
structure Counts (store : Store σ) : Prop where
  notes : pairing.counts store.notes
  world : pairing.ends store.world

/-- What comes of the second run keeps up with a value and a store that the first one led to. -/
def KeepsUpOut (value : α) (after : Store σ) : Except Fault α × Store σ → Prop
  | (.ok found, last) => found = value ∧ pairing.AlikeOut after last
  | (.error fault, _) => pairing.excused fault

/-- A computation that calls, and whose second run keeps up with the first one. -/
structure Abreast (action : M σ α) : Prop where
  counts {store after : Store σ} {value : α} :
    action.runFrom store = (.ok value, after) → pairing.Counts after → pairing.Counts store
  keepsUp {first second after : Store σ} {value : α} :
    pairing.AlikeOut first second → action.runFrom first = (.ok value, after) →
      pairing.Counts after → pairing.KeepsUpOut value after (action.runFrom second)

variable {pairing}

namespace Abreast

theorem pure (value : α) : pairing.Abreast (Pure.pure value : M σ α) where
  counts ran counts := by
    cases ran
    exact counts
  keepsUp alike ran _ := by
    cases ran
    exact ⟨rfl, alike⟩

theorem throw (fault : Fault) : pairing.Abreast (throw fault : M σ α) where
  counts ran := by cases ran
  keepsUp _ ran := by cases ran

theorem bind {action : M σ α} {next : α → M σ β} (begun : pairing.Abreast action)
    (ended : ∀ value, pairing.Abreast (next value)) : pairing.Abreast (action >>= next) where
  counts ran counts := by
    obtain ⟨found, middle, ran, done⟩ := M.runFrom_bind_eq_ok.mp ran
    exact begun.counts ran ((ended found).counts done counts)
  keepsUp {first second after value} alike ran counts := by
    obtain ⟨found, middle, ran, done⟩ := M.runFrom_bind_eq_ok.mp ran
    have kept := begun.keepsUp alike ran ((ended found).counts done counts)
    rw [M.runFrom_bind]
    rcases followed : action.runFrom second with ⟨fault | other, last⟩
    · rw [followed] at kept
      exact kept
    · rw [followed] at kept
      obtain ⟨rfl, alike⟩ := kept
      exact (ended other).keepsUp alike done counts

/-- What keeps to itself sees the same in both worlds, and changes neither. -/
theorem lift {action : Local α} (steady : pairing.Steady action) :
    pairing.Abreast (liftM action : M σ α) where
  counts {store after value} ran counts := by
    rw [M.runFrom_lift] at ran
    rcases kept : action.runFrom (World.outlook store.world) store.toHeap with ⟨outcome, heap⟩
    rw [kept] at ran
    cases ran
    exact ⟨steady.counts kept counts.notes, counts.world⟩
  keepsUp {first second after value} alike ran counts := by
    rw [M.runFrom_lift, pairing.outlook_eq alike.worlds] at ran
    rw [M.runFrom_lift]
    rcases kept : action.runFrom (World.outlook second.world) first.toHeap with ⟨outcome, heap⟩
    rw [kept] at ran
    cases ran
    have keptUp := steady.keepsUp alike.heaps kept counts.notes
    rcases followed : action.runFrom (World.outlook second.world) second.toHeap
      with ⟨fault | found, last⟩
    · rw [followed] at keptUp
      exact keptUp
    · rw [followed] at keptUp
      exact ⟨keptUp.1, keptUp.2, alike.worlds⟩

end Abreast

/-- Two runs that see nothing of the world. -/
def alone (accord : Accord) : Pairing Unit where
  toAccord := accord
  paired _ _ := True
  ends _ := True
  outlook_eq _ := rfl

/-- To keep up is a regime. -/
def regime (lawful : pairing.Lawful) : Regime σ where
  toDiscipline := lawful.discipline
  follows action := pairing.Abreast action
  pureOut := .pure
  throwOut := .throw
  bindOut := .bind
  lift := .lift

end Pairing

end FormLetter.Script
