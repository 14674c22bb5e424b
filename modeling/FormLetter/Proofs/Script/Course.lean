import FormLetter.Part
import FormLetter.Proofs.Script.Regime

/-!
# What running template code does to the world

Template code changes the world outside only by calling the things in it; everything else that it
does keeps to its own heap. So wherever each call leads the world, whole templates lead it, as long
as it may stay where it is and two steps make one. This holds whether they are rendered or fail.
-/

namespace FormLetter.Script

variable {σ : Type}

/-- A way in which a world may move: not at all, and in two steps where in one. -/
structure Course (σ : Type) where
  leads : σ → σ → Prop
  refl (world : σ) : leads world world
  trans {first second third : σ} : leads first second → leads second third → leads first third

/-- The course of a world that stays where it is. -/
def Course.still : Course σ where
  leads before after := after = before
  refl _ := rfl
  trans begun ended := ended.trans begun

/-- Whatever an action does, and whether it fails or not, it leads the world along a course. -/
def Leads {α : Type} (course : Course σ) (action : M σ α) : Prop :=
  ∀ store : Store σ, course.leads store.world (action.runFrom store).2.world

namespace Leads

variable {course : Course σ} {α β : Type}

/-! ## Steps -/

/-- An action that leaves the world as it is leads it along any course. -/
theorem of_same {action : M σ α}
    (same : ∀ store : Store σ, (action.runFrom store).2.world = store.world) :
    Leads course action := by
  intro store
  rw [same store]
  exact course.refl store.world

theorem pure (value : α) : Leads course (pure value : M σ α) := of_same fun _ => rfl

theorem throw (fault : Fault) : Leads course (throw fault : M σ α) := of_same fun _ => rfl

/-- What keeps to itself leaves the world as it is. -/
theorem lift [World σ] (action : Local α) : Leads course (liftM action : M σ α) :=
  of_same fun _ => rfl

theorem heap [World σ] : Leads course (get : M σ Heap) := of_same fun _ => rfl

theorem changeHeap [World σ] (change : Heap → Heap) : Leads course (modify change : M σ PUnit) :=
  of_same fun _ => rfl

theorem liftExcept (outcome : Except Fault α) : Leads course (liftM outcome : M σ α) :=
  of_same fun _ => rfl

theorem bind {action : M σ α} {next : α → M σ β} (first : Leads course action)
    (second : ∀ value, Leads course (next value)) : Leads course (action >>= next) := by
  intro store
  have begun := first store
  rw [M.runFrom_bind]
  rcases ran : action.runFrom store with ⟨fault | value, after⟩
  · rw [ran] at begun
    exact begun
  · rw [ran] at begun
    exact course.trans begun (second value after)

theorem seq {first : M σ α} {second : M σ β} (begun : Leads course first)
    (ended : Leads course second) : Leads course (first >>= fun _ => second) :=
  bind begun fun _ => ended

theorem discard {action : M σ α} (leads : Leads course action) : Leads course (discard action) :=
  leads.bind fun _ => pure _

theorem ite {condition : Prop} [Decidable condition] {first second : M σ α}
    (holds : Leads course first) (fails : Leads course second) :
    Leads course (if condition then first else second) := by
  split
  · exact holds
  · exact fails

theorem attempt {action : M σ α} (leads : Leads course action) : Leads course (attempt action) :=
  leads

theorem afterwards {action : M σ α} {last : M σ Unit} (first : Leads course action)
    (second : Leads course last) : Leads course (afterwards action last) := by
  refine (attempt first).bind fun outcome => second.seq ?_
  cases outcome with
  | ok value => exact pure value
  | error fault => exact throw fault

/-- The world is the same after an action that leads it nowhere else. -/
theorem world_eq {action : M σ α} (leads : Leads Course.still action) {store after : Store σ}
    {outcome : Except Fault α} (ran : action.runFrom store = (outcome, after)) :
    after.world = store.world := by
  have same := leads store
  rw [ran] at same
  exact same

/-- What follows an action that leaves the world as it is, begins in the same world, if anything
follows. -/
theorem still_bind {action : M σ α} {next : α → M σ β} (leads : Leads Course.still action)
    {store after : Store σ} {outcome : Except Fault β}
    (ran : (action >>= next).runFrom store = (outcome, after)) :
    (∃ fault, outcome = .error fault ∧ after.world = store.world) ∨
      ∃ value middle, action.runFrom store = (.ok value, middle) ∧
        middle.world = store.world ∧ (next value).runFrom middle = (outcome, after) := by
  rw [M.runFrom_bind] at ran
  rcases first : action.runFrom store with ⟨fault | value, middle⟩
  · rw [first] at ran
    cases ran
    exact Or.inl ⟨fault, rfl, leads.world_eq first⟩
  · rw [first] at ran
    exact Or.inr ⟨value, middle, rfl, leads.world_eq first, ran⟩

/-! ## Lists -/

theorem forM {items : List β} {body : β → M σ PUnit} (each : ∀ item, Leads course (body item)) :
    Leads course (items.forM body) := by
  induction items with
  | nil => exact pure _
  | cons item rest ih => exact (each item).seq ih

theorem mapM {γ : Type} {items : List β} {body : β → M σ γ}
    (each : ∀ item, Leads course (body item)) : Leads course (items.mapM body) := by
  induction items with
  | nil => exact pure _
  | cons item rest ih =>
    rw [List.mapM_cons]
    exact (each item).bind fun first => ih.bind fun others => pure _

/-! ## Templates -/

section

variable [World σ]

/-- The regime of a course: nothing is asked of what keeps to itself. -/
def regime (course : Course σ) : Regime σ where
  toDiscipline := .free
  follows action := Leads course action
  pureOut := pure
  throwOut := throw
  bindOut := bind
  lift _ := lift _

theorem render {host : Host σ}
    (hosted : ∀ subject name given, Leads course (host subject name given))
    (bound : List (String × Value)) (template : List Char) :
    Leads course (render host bound template) := by
  have followed : Follows (regime course) (Script.render host bound template) :=
    Follows.render (fun subject name given => ⟨hosted subject name given⟩) bound template
  exact followed.followed

theorem process {host : Host σ}
    (hosted : ∀ subject name given, Leads course (host subject name given))
    (bound : List (String × Value)) (part : Part) : Leads course (part.process host bound) := by
  unfold Part.process
  refine heap.bind fun before => (attempt (render hosted bound part.source)).bind fun outcome => ?_
  refine heap.bind fun after => (changeHeap _).seq ?_
  split
  · exact pure _
  · exact (lift _).seq (throw _)

end

end Leads

end FormLetter.Script

namespace FormLetter

open FormLetter.Script

/-- Rendering a part leads the world where rendering its template does. -/
theorem Part.world_process {σ : Type} [World σ] (host : Host σ) (bound : List (String × Value))
    (part : Part) (store : Store σ) :
    ((part.process host bound).runFrom store).2.world
      = ((render host bound part.source).runFrom store).2.world := by
  unfold Part.process
  rw [M.runFrom_bind]
  change (M.runFrom (attempt _ >>= _) store).2.world = _
  rw [M.runFrom_bind, M.runFrom_attempt]
  dsimp only
  rcases (render host bound part.source).runFrom store with ⟨fault | text, after⟩
  · rfl
  · rfl

/-- Rendering a part succeeds when its template is rendered. The line and the names that were
exported are those of the template around it again. -/
theorem Part.process_eq_ok_iff {σ : Type} [World σ] {host : Host σ}
    {bound : List (String × Value)} {part rendered : Part} {store last : Store σ} :
    (part.process host bound).runFrom store = (.ok rendered, last) ↔
      ∃ text after, (render host bound part.source).runFrom store = (.ok text, after) ∧
        rendered = { part with rendered := some text } ∧
        last = { after with line := store.line, exported := store.exported } := by
  unfold Part.process
  rw [M.runFrom_bind]
  change (M.runFrom (attempt _ >>= _) store = _) ↔ _
  rw [M.runFrom_bind, M.runFrom_attempt]
  dsimp only
  rcases (render host bound part.source).runFrom store with ⟨fault | text, after⟩
  · constructor
    · intro done
      cases done
    · rintro ⟨text, after, ran, -⟩
      cases ran
  · constructor
    · intro done
      cases done
      exact ⟨text, after, rfl, rfl, rfl⟩
    · rintro ⟨text, after, ran, rfl, rfl⟩
      cases ran
      rfl

end FormLetter
