import FormLetter.Script.Value

/-!
# Running computations step by step

What a computation makes of a store, one step after the other. A step that fails ends the
computation, and what it changed before stays changed. A computation that keeps to its heap leaves
the world as it is.
-/

namespace FormLetter.Script

variable {σ α β : Type}

/-! ## Computations that keep to themselves -/

namespace Local

/-- A step is followed by the next one unless it fails. -/
theorem runFrom_bind (action : Local α) (next : α → Local β) (outlook : Outlook) (heap : Heap) :
    (action >>= next).runFrom outlook heap = match action.runFrom outlook heap with
      | (.ok value, after) => (next value).runFrom outlook after
      | (.error fault, after) => (.error fault, after) := by
  unfold runFrom
  rw [ReaderT.run_bind, ExceptT.run_bind, StateT.run_bind]
  rcases StateT.run (ExceptT.run (ReaderT.run action outlook)) heap with ⟨fault | value, after⟩
  · rfl
  · rfl

/-- Two steps succeed when the first does, and the second does from where the first led. -/
theorem runFrom_bind_eq_ok {action : Local α} {next : α → Local β} {outlook : Outlook}
    {heap last : Heap} {value : β} :
    (action >>= next).runFrom outlook heap = (.ok value, last) ↔
      ∃ first middle, action.runFrom outlook heap = (.ok first, middle) ∧
        (next first).runFrom outlook middle = (.ok value, last) := by
  rw [runFrom_bind]
  constructor
  · intro done
    split at done
    · rename_i first middle begun
      exact ⟨first, middle, begun, done⟩
    · cases done
  · rintro ⟨first, middle, begun, done⟩
    rw [begun]
    exact done

end Local

/-! ## Computations that call -/

namespace M

/-- What has an outcome that is no fault, succeeds. -/
theorem runFrom_eq_ok_of_isSome {action : M σ α} {store : Store σ}
    (succeeds : (action.runFrom store).1.toOption.isSome = true) :
    ∃ value after, action.runFrom store = (.ok value, after) := by
  rcases ran : action.runFrom store with ⟨fault | value, after⟩
  · rw [ran] at succeeds
    contradiction
  · exact ⟨value, after, rfl⟩

@[simp]
theorem runFrom_liftExcept (outcome : Except Fault α) (store : Store σ) :
    (liftM outcome : M σ α).runFrom store = (outcome, store) := rfl

theorem runFrom_liftExcept_eq_ok {outcome : Except Fault α} {store after : Store σ} {value : α} :
    (liftM outcome : M σ α).runFrom store = (.ok value, after) ↔
      outcome = .ok value ∧ store = after := by
  rw [runFrom_liftExcept, Prod.mk.injEq]

/-- A step is followed by the next one unless it fails. -/
theorem runFrom_bind (action : M σ α) (next : α → M σ β) (store : Store σ) :
    (action >>= next).runFrom store = match action.runFrom store with
      | (.ok value, after) => (next value).runFrom after
      | (.error fault, after) => (.error fault, after) := by
  unfold runFrom
  rw [ExceptT.run_bind, StateT.run_bind]
  rcases StateT.run (ExceptT.run action) store with ⟨fault | value, after⟩
  · rfl
  · rfl

/-- Two steps succeed when the first does, and the second does from where the first led. -/
theorem runFrom_bind_eq_ok {action : M σ α} {next : α → M σ β} {store last : Store σ} {value : β} :
    (action >>= next).runFrom store = (.ok value, last) ↔
      ∃ first middle, action.runFrom store = (.ok first, middle) ∧
        (next first).runFrom middle = (.ok value, last) := by
  rw [runFrom_bind]
  constructor
  · intro done
    split at done
    · rename_i first middle begun
      exact ⟨first, middle, begun, done⟩
    · cases done
  · rintro ⟨first, middle, begun, done⟩
    rw [begun]
    exact done

@[simp]
theorem runFrom_attempt (action : M σ α) (store : Store σ) :
    (attempt action).runFrom store = (.ok (action.runFrom store).1, (action.runFrom store).2) := rfl

/-- What is done afterwards is done from where the first action led, and fails in its place. -/
theorem runFrom_afterwards (action : M σ α) (last : M σ Unit) (store : Store σ) :
    (afterwards action last).runFrom store = match last.runFrom (action.runFrom store).2 with
      | (.ok _, after) => ((action.runFrom store).1, after)
      | (.error fault, after) => (.error fault, after) := by
  unfold afterwards
  rw [runFrom_bind, runFrom_attempt]
  simp only
  rw [runFrom_bind]
  rcases last.runFrom (action.runFrom store).2 with ⟨fault | _, after⟩
  · rfl
  · rcases (action.runFrom store).1 with fault | value
    · rfl
    · rfl

/-- Where what is done afterwards succeeds, the outcome is that of the first action. -/
theorem runFrom_afterwards_of_ok {action : M σ α} {last : M σ Unit} {store after : Store σ}
    (done : last.runFrom (action.runFrom store).2 = (.ok (), after)) :
    (afterwards action last).runFrom store = ((action.runFrom store).1, after) := by
  rw [runFrom_afterwards, done]

/-- What is done afterwards leads to the end, whether it fails or not. -/
theorem snd_afterwards (action : M σ α) (last : M σ Unit) (store : Store σ) :
    ((afterwards action last).runFrom store).2 = (last.runFrom (action.runFrom store).2).2 := by
  rw [runFrom_afterwards]
  rcases last.runFrom (action.runFrom store).2 with ⟨fault | _, after⟩
  · rfl
  · rfl

/-- A computation that keeps to itself leaves the world as it is. -/
theorem runFrom_lift [World σ] (action : Local α) (store : Store σ) :
    (liftM action : M σ α).runFrom store
      = ((action.runFrom (World.outlook store.world) store.toHeap).1,
        { store with toHeap := (action.runFrom (World.outlook store.world) store.toHeap).2 }) := rfl

theorem lift_pure [World σ] (value : α) : (liftM (pure value : Local α) : M σ α) = pure value := rfl

/-- Steps that keep to themselves are lifted one by one. -/
theorem lift_bind [World σ] (action : Local α) (next : α → Local β) :
    (liftM (action >>= next) : M σ β)
      = (liftM action : M σ α) >>= fun value => liftM (next value) := by
  funext store
  change M.runFrom (liftM (action >>= next) : M σ β) store
    = M.runFrom ((liftM action : M σ α) >>= fun value => liftM (next value)) store
  rw [runFrom_lift, runFrom_bind, runFrom_lift, Local.runFrom_bind]
  rcases action.runFrom (World.outlook store.world) store.toHeap with ⟨fault | value, heap⟩
  · rfl
  · rfl

end M

end FormLetter.Script
