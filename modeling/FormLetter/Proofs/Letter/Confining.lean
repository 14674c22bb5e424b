import FormLetter.Proofs.Letter.Keeping

/-!
# Code that keeps to its surroundings

Template code can call methods of every letter that it gets hold of. Code that keeps to its
surroundings reaches outside only by showing pictures and by enclosing letters that it names itself:
it is rendered alike where all other calls are refused, also those of the letters that it encloses.
Besides, it may be asked to keep its pictures apart, so that none takes the place of another one.
-/

namespace FormLetter

open FormLetter.Script

/-- True for the things of the world outside. -/
def Script.Value.isThing : Value → Bool
  | .object _ _ => true
  | _ => false

/-- True when no thing of the world outside is given. -/
def Script.Given.isPlain (given : Given) : Bool :=
  (given.positional ++ given.named.map (·.2)).all (!·.isThing)

namespace Work

/-- The methods with which code shows pictures and encloses letters. -/
def offered : List String := ["add_image", "image", "partial"]

/-- True when every picture of a register is in another one, too. -/
def stay (before after : List (String × Path)) : Bool :=
  before.all fun picture => after.lookup picture.1 == some picture.2

/-- Calls a method of surroundings. With `apart`, no picture may take the place of another one. -/
def confinedMethod (apart : Bool) (render : Renderer) (around : Surroundings) (name : String)
    (given : Given) (refused : Work Value) : Work Value := do
  let before ← letter around.occasion.master
  let value ← surroundingsMethod render around name given
  let after ← letter around.occasion.master
  if !apart || stay before.pictures after.pictures then return value else refused

/-- How the methods are called of which the code of letters may make use that keeps to its
surroundings. All other calls are refused. -/
def confinedWithin (apart : Bool) : Nat → Host Workspace
  | 0 => fun _ _ _ => trouble .recursion
  | depth + 1 => fun subject name given => do
    let refused := Host.none subject name given
    match subject with
    | .record .context place => do
      match ← surroundingsAt? place with
      | some fields =>
        if offered.contains name && given.isPlain then
          confinedMethod apart (processWith (confinedWithin apart depth)) (.ofFields fields) name given
            refused
        else refused
      | none => refused
    | _ => refused

/-- The code of a letter, and of those that it encloses, keeps to its surroundings: rendering it goes
the same way where all other calls are refused. With `apart`, its pictures keep apart. -/
def KeepsToSurroundings (apart : Bool) (id : Nat) (occasion : Occasion) (store : Store Workspace) :
    Prop :=
  let free := (renderParts (hostWithin enclosureLimit) id occasion).runFrom store
  let confined := (renderParts (confinedWithin apart enclosureLimit) id occasion).runFrom store
  free.1.toOption.isSome = confined.1.toOption.isSome ∧ free.2.world = confined.2.world

/-! ## Where confined calls lead -/

theorem leads_confinedMethod {course : Course Workspace} {count : Nat} {render : Renderer}
    (admits : Admits course count)
    (renders : ∀ id occasion, count ≤ id → Leads course (render id occasion)) (apart : Bool)
    (around : Surroundings) (name : String) (given : Given) {refused : Work Value}
    (refuses : Leads course refused) :
    Leads course (confinedMethod apart render around name given refused) := by
  unfold confinedMethod
  refine (leads_letter _).bind fun before => ?_
  refine (leads_surroundingsMethod admits renders around name given).bind fun value => ?_
  exact (leads_letter _).bind fun after => Leads.ite (Leads.pure _) refuses

/-- What a course admits leads along it, too, where some calls are refused. -/
theorem leads_confinedWithin {course : Course Workspace} {count : Nat} (admits : Admits course count)
    (apart : Bool) (depth : Nat) (subject : Value) (name : String) (given : Given) :
    Leads course (confinedWithin apart depth subject name given) := by
  induction depth generalizing subject name given with
  | zero => exact Leads.lift _
  | succ depth ih =>
    have refuses : Leads course (Host.none subject name given : Work Value) := Leads.lift _
    unfold confinedWithin
    dsimp only
    split
    · refine (Leads.lift _).bind fun found => ?_
      cases found with
      | none => exact refuses
      | some fields =>
        refine Leads.ite ?_ refuses
        exact leads_confinedMethod admits
          (fun id occasion later => leads_processWith ih (admits.renders id later) occasion) apart _ _ _
          refuses
    · exact refuses

theorem keepsAll_confinedWithin (apart : Bool) (depth : Nat) :
    KeepsAll (confinedWithin apart depth) :=
  fun count => leads_confinedWithin (keeping_admits count) apart depth

end Work

end FormLetter
