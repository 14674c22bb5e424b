import FormLetter.Proofs.Script.Running
import FormLetter.Script.Given
import FormLetter.Script.Member

/-!
# What goes from the steps of template code to all of it

Template code is put together from a few steps on its heap. What is said of a computation, and
passes from steps to what is put together of them, is a discipline: a template obeys it when those
steps do. Two kinds of steps need a word of their own. Those that look at the mode of the heap are
the few uses of undefined values; and the mode also shows in what a kind of value is called, but
only in a complaint, after which nothing succeeds.
-/

namespace FormLetter.Script

/-- Something that is said of computations, that the steps of template code obey, and that passes
to what is put together of computations that obey it. -/
structure Discipline where
  holds {α : Type} (action : Local α) : Prop
  pure {α : Type} (value : α) : holds (Pure.pure value)
  bind {α β : Type} {action : Local α} {next : α → Local β} :
    holds action → (∀ value, holds (next value)) → holds (action >>= next)
  /-- A computation that never succeeds obeys. -/
  fails {α : Type} {action : Local α} :
    (∀ outlook heap after value, action.runFrom outlook heap ≠ (.ok value, after)) → holds action
  outlook : holds (read : Local Outlook)
  fetch (place : Address) : holds (fetch place)
  allocate (cell : Cell) : holds (allocate cell)
  keep (place : Address) (cell : Cell) : holds (keep place cell)
  makeMissing (label : Option Label) (message : String) (isPlain : Bool)
    (unhashable : Option String) : holds (makeMissing label message isPlain unhashable)
  currentLine : holds currentLine
  setLine (line : Nat) : holds (setLine line)
  exported? (name : String) : holds (exported? name)
  exportValue (name : String) (value : Value) : holds (exportValue name value)
  beginTemplate : holds beginTemplate
  use (missing : Missing) : holds (useMissing missing)
  pass (missing : Missing) : holds (passMissing missing)
  notice (missing : Missing) : holds (noticeMissing missing)
  equal (missing : Missing) (other : Value) : holds (equalsMissing missing other)
  memberOf (missing : Missing) (name : String) : holds (memberOfMissing? missing name)

/-- The discipline that asks nothing. -/
def Discipline.free : Discipline where
  holds _ := True
  pure _ := trivial
  bind _ _ := trivial
  fails _ := trivial
  outlook := trivial
  fetch _ := trivial
  allocate _ := trivial
  keep _ _ := trivial
  makeMissing _ _ _ _ := trivial
  currentLine := trivial
  setLine _ := trivial
  exported? _ := trivial
  exportValue _ _ := trivial
  beginTemplate := trivial
  use _ := trivial
  pass _ := trivial
  notice _ := trivial
  equal _ _ := trivial
  memberOf _ _ := trivial

/-- A computation that obeys a discipline. -/
class Obeys {α : Type} (discipline : Discipline) (action : Local α) : Prop where
  obeyed : discipline.holds action

/-- A computation that never succeeds. -/
class Fails {α : Type} (action : Local α) : Prop where
  not_ok (outlook : Outlook) (heap after : Heap) (value : α) :
    action.runFrom outlook heap ≠ (.ok value, after)

variable {discipline : Discipline} {α β : Type}

/-! ## Failing -/

namespace Fails

instance throw (fault : Fault) : Fails (throw fault : Local α) :=
  ⟨fun _ _ _ _ ran => by cases ran⟩

instance trouble (cause : Trouble) : Fails (trouble cause : Local α) :=
  throw _

instance kindTrouble (cause : KindTrouble) : Fails (kindTrouble cause : Local α) :=
  trouble _

instance valueTrouble (cause : ValueTrouble) : Fails (valueTrouble cause : Local α) :=
  trouble _

instance argumentTrouble (callee complaint : String) :
    Fails (argumentTrouble callee complaint : Local α) :=
  kindTrouble _

instance refuse (missing : Missing) : Fails (refuse missing : Local α) :=
  trouble _

/-- What is followed by a failure never succeeds. -/
instance bind {action : Local α} {next : α → Local β} [fails : ∀ value, Fails (next value)] :
    Fails (action >>= next) where
  not_ok outlook heap after value ran := by
    obtain ⟨first, middle, _, ran⟩ := Local.runFrom_bind_eq_ok.mp ran
    exact (fails first).not_ok outlook middle after value ran

instance refuseCall (value : Value) : Fails (refuseCall value : Local α) := by
  unfold Script.refuseCall
  infer_instance

end Fails

/-! ## Steps -/

namespace Obeys

instance (priority := low) of_fails {action : Local α} [fails : Fails action] :
    Obeys discipline action :=
  ⟨discipline.fails fun outlook heap after value => fails.not_ok outlook heap after value⟩

instance pure (value : α) : Obeys discipline (pure value : Local α) :=
  ⟨discipline.pure value⟩

instance outlook : Obeys discipline (read : Local Outlook) :=
  ⟨discipline.outlook⟩

instance fetch (place : Address) : Obeys discipline (fetch place) :=
  ⟨discipline.fetch place⟩

instance allocate (cell : Cell) : Obeys discipline (allocate cell) :=
  ⟨discipline.allocate cell⟩

instance keep (place : Address) (cell : Cell) : Obeys discipline (keep place cell) :=
  ⟨discipline.keep place cell⟩

instance makeMissing (label : Option Label) (message : String) (isPlain : Bool)
    (unhashable : Option String) :
    Obeys discipline (makeMissing label message isPlain unhashable) :=
  ⟨discipline.makeMissing label message isPlain unhashable⟩

instance currentLine : Obeys discipline currentLine :=
  ⟨discipline.currentLine⟩

instance setLine (line : Nat) : Obeys discipline (setLine line) :=
  ⟨discipline.setLine line⟩

instance exported? (name : String) : Obeys discipline (exported? name) :=
  ⟨discipline.exported? name⟩

instance exportValue (name : String) (value : Value) : Obeys discipline (exportValue name value) :=
  ⟨discipline.exportValue name value⟩

instance beginTemplate : Obeys discipline beginTemplate :=
  ⟨discipline.beginTemplate⟩

instance useMissing (missing : Missing) : Obeys discipline (useMissing missing) :=
  ⟨discipline.use missing⟩

instance passMissing (missing : Missing) : Obeys discipline (passMissing missing) :=
  ⟨discipline.pass missing⟩

instance noticeMissing (missing : Missing) : Obeys discipline (noticeMissing missing) :=
  ⟨discipline.notice missing⟩

instance equalsMissing (missing : Missing) (other : Value) :
    Obeys discipline (equalsMissing missing other) :=
  ⟨discipline.equal missing other⟩

instance memberOfMissing? (missing : Missing) (name : String) :
    Obeys discipline (memberOfMissing? missing name) :=
  ⟨discipline.memberOf missing name⟩

/-! ## Putting together -/

theorem bind {action : Local α} {next : α → Local β} (begun : Obeys discipline action)
    (ended : ∀ value, Obeys discipline (next value)) : Obeys discipline (action >>= next) :=
  ⟨discipline.bind begun.obeyed fun value => (ended value).obeyed⟩

/-- What follows a step that is known to obey. -/
theorem andThen {action : Local α} {next : α → Local β} [begun : Obeys discipline action]
    (ended : ∀ value, Obeys discipline (next value)) : Obeys discipline (action >>= next) :=
  begun.bind ended

instance seq {action : Local α} {next : α → Local β} [begun : Obeys discipline action]
    [ended : ∀ value, Obeys discipline (next value)] : Obeys discipline (action >>= next) :=
  begun.bind ended

theorem of_ite {condition : Prop} [Decidable condition] {first second : Local α}
    (holds : Obeys discipline first) (fails : Obeys discipline second) :
    Obeys discipline (if condition then first else second) := by
  split
  · exact holds
  · exact fails

instance ite {condition : Prop} [Decidable condition] {first second : Local α}
    [holds : Obeys discipline first] [fails : Obeys discipline second] :
    Obeys discipline (if condition then first else second) :=
  of_ite holds fails

/-! ## Lists -/

theorem of_mapM {items : List α} {body : α → Local β} (each : ∀ item, Obeys discipline (body item)) :
    Obeys discipline (items.mapM body) := by
  induction items with
  | nil => exact pure _
  | cons item rest ih =>
    rw [List.mapM_cons]
    infer_instance

instance mapM {items : List α} {body : α → Local β} [each : ∀ item, Obeys discipline (body item)] :
    Obeys discipline (items.mapM body) :=
  of_mapM each

theorem of_forM {items : List α} {body : α → Local PUnit}
    (each : ∀ item, Obeys discipline (body item)) : Obeys discipline (items.forM body) := by
  induction items with
  | nil => exact pure _
  | cons item rest ih => exact (each item).bind fun _ => ih

instance forM {items : List α} {body : α → Local PUnit}
    [each : ∀ item, Obeys discipline (body item)] : Obeys discipline (items.forM body) :=
  of_forM each

theorem of_foldlM {items : List α} {body : β → α → Local β} {start : β}
    (each : ∀ found item, Obeys discipline (body found item)) :
    Obeys discipline (items.foldlM body start) := by
  induction items generalizing start with
  | nil => exact pure _
  | cons item rest ih => exact (each start item).bind fun _ => ih

instance foldlM {items : List α} {body : β → α → Local β} {start : β}
    [each : ∀ found item, Obeys discipline (body found item)] :
    Obeys discipline (items.foldlM body start) :=
  of_foldlM each

theorem of_filterMapM {items : List α} {body : α → Local (Option β)}
    (each : ∀ item, Obeys discipline (body item)) : Obeys discipline (items.filterMapM body) := by
  have kept (items : List α) (found : List β) :
      Obeys discipline (List.filterMapM.loop body items found) := by
    induction items generalizing found with
    | nil => exact pure _
    | cons item rest ih =>
      refine (each item).bind fun value => ?_
      cases value with
      | none => exact ih found
      | some value => exact ih (value :: found)
  exact kept items []

end Obeys

end FormLetter.Script
