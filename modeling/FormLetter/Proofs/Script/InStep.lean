import FormLetter.Part
import FormLetter.Proofs.Script.Course
import FormLetter.Proofs.Script.Lenient

/-!
# Two runs in the same mode

Template code never looks at what was noted about undefined values. So two runs from heaps that hold
the same, in the same mode, succeed together and give the same, whatever was noted before; and as
long as the two worlds look the same, and what is called in them keeps step, whole templates do.
-/

namespace FormLetter.Script

/-- Two runs in the same mode, neither of which may fail where the other one succeeds. -/
def Accord.inStep (mode : Bool) : Accord where
  first := mode
  second := mode
  overlooks _ _ := True
  counts _ := True
  excused _ := False

namespace Accord.inStep

variable {mode : Bool} {α : Type}

theorem alike_symm {first second : Heap} (alike : (inStep mode).Alike first second) :
    (inStep mode).Alike second first :=
  ⟨alike.cells.symm, alike.made.symm, alike.line.symm, alike.exported.symm, trivial,
    alike.secondMode, alike.firstMode⟩

/-- Notes are not looked at. -/
theorem steady_of_notes {action : Local Unit}
    (runs : ∀ outlook heap, ∃ recorded overlooked,
      action.runFrom outlook heap = (.ok (), { heap with recorded, overlooked })) :
    (inStep mode).Steady action where
  counts _ _ := trivial
  keepsUp {outlook first second after value} alike ran _ := by
    obtain ⟨recorded, overlooked, noted⟩ := runs outlook first
    rw [noted] at ran
    cases ran
    obtain ⟨recorded, overlooked, noted⟩ := runs outlook second
    rw [noted]
    exact ⟨rfl, { alike with overlooked := trivial }⟩

/-- What looks at the mode only finds the same. -/
theorem steady_of_mode {next : Heap → Local α}
    (same : ∀ first second, first.isLenient = second.isLenient → next first = next second)
    (each : ∀ heap, (inStep mode).Steady (next heap)) :
    (inStep mode).Steady (get >>= next) where
  counts _ _ := trivial
  keepsUp {outlook first second after value} alike ran counts := by
    rw [Local.runFrom_bind] at ran ⊢
    change (next first).runFrom outlook first = _ at ran
    change (inStep mode).KeepsUp value after ((next second).runFrom outlook second)
    rw [same first second (alike.firstMode.trans alike.secondMode.symm)] at ran
    exact (each second).keepsUp alike ran counts

theorem steady_of_fails {action : Local α} (fails : Fails action) : (inStep mode).Steady action :=
  .of_fails fun outlook heap after value => fails.not_ok outlook heap after value

theorem steady_pure (value : α) : (inStep mode).Steady (pure value) :=
  .of_reading (fun _ _ => value) (fun _ _ => rfl) fun _ => rfl

theorem steady_overlook (missing : Missing) : (inStep mode).Steady (overlook missing) :=
  steady_of_notes fun _ _ => ⟨_, _, rfl⟩

theorem steady_note (label : Label) : (inStep mode).Steady (note label) := by
  refine steady_of_notes fun outlook heap => ?_
  by_cases known : heap.recorded.contains label = true
  · refine ⟨heap.recorded, heap.overlooked, ?_⟩
    change (Except.ok (), ite _ _ _) = _
    rw [if_pos known]
  · refine ⟨heap.recorded ++ [label], heap.overlooked, ?_⟩
    change (Except.ok (), ite _ _ _) = _
    rw [if_neg known]

theorem steady_noteMissing (missing : Missing) : (inStep mode).Steady (noteMissing missing) := by
  unfold noteMissing
  split
  · exact steady_pure _
  · split
    · exact steady_pure _
    · exact steady_note _
  · exact steady_of_fails (.kindTrouble _)

theorem steady_noteUse (missing : Missing) : (inStep mode).Steady (noteUse missing) := by
  unfold noteUse
  split
  · exact steady_overlook missing
  · exact steady_noteMissing missing

theorem steady_useMissing (missing : Missing) : (inStep mode).Steady (useMissing missing) := by
  unfold useMissing
  split
  · exact steady_pure _
  · refine steady_of_mode (fun first second same => by rw [same]) fun heap => ?_
    split
    · exact steady_noteUse missing
    · exact steady_of_fails (.refuse missing)

theorem steady_passMissing (missing : Missing) : (inStep mode).Steady (passMissing missing) := by
  unfold passMissing
  split
  · exact steady_pure _
  · refine steady_of_mode (fun first second same => by rw [same]) fun heap => ?_
    split
    · exact steady_overlook missing
    · exact steady_of_fails (.refuse missing)

theorem steady_noticeMissing (missing : Missing) :
    (inStep mode).Steady (noticeMissing missing) := by
  unfold noticeMissing
  refine steady_of_mode (fun first second same => by rw [same]) fun heap => ?_
  split
  · exact steady_noteMissing missing
  · exact steady_pure _

theorem steady_equalsMissing (missing : Missing) (other : Value) :
    (inStep mode).Steady (equalsMissing missing other) := by
  obtain ⟨passed, same, compared⟩ := Local.equalsMissing_eq missing other
  rw [compared]
  exact (steady_passMissing passed).bind fun _ => steady_pure same

theorem steady_memberOfMissing? (missing : Missing) (name : String) :
    (inStep mode).Steady (memberOfMissing? missing name) := by
  unfold memberOfMissing?
  split
  · exact steady_pure _
  · refine steady_of_mode (fun first second same => by rw [same]) fun heap => ?_
    split
    · exact steady_of_fails (.refuse missing)
    · refine (steady_noteUse missing).bind fun _ => ?_
      exact (Steady.makeMissing _ _ _ _).bind fun value => steady_pure _

/-- Uses of undefined values keep step. -/
theorem lawful (mode : Bool) : (inStep mode).Lawful where
  use := steady_useMissing
  pass := steady_passMissing
  notice := steady_noticeMissing
  equal := steady_equalsMissing
  memberOf := steady_memberOfMissing?

/-- What is reported is not looked at. -/
theorem steady_report (level : Log.Level) (source : Log.Source) (message : String) :
    (inStep mode).Steady (report level source message) :=
  .of_runFrom (fun _ _ => ())
    (fun _ heap => { heap with log := heap.log ++ [⟨level, source, message⟩] }) (fun _ _ => rfl)
    (fun alike => ⟨rfl, { alike with }⟩) fun _ _ => rfl

theorem steady_liftExcept (outcome : Except Fault α) :
    (inStep mode).Steady (liftM outcome : Local α) := by
  cases outcome with
  | error fault => exact steady_of_fails (.throw fault)
  | ok value => exact steady_pure value


end Accord.inStep

/-! ## Computations that call -/

/-- Two runs in the same mode that see worlds of this kind, as long as the first one ends in such a
world. -/
def Pairing.inStep {σ : Type} [World σ] (mode : Bool) (paired : σ → σ → Prop) (ends : σ → Prop)
    (outlook_eq : ∀ {first second}, paired first second →
      World.outlook first = World.outlook second) : Pairing σ where
  toAccord := .inStep mode
  paired := paired
  ends := ends
  outlook_eq := outlook_eq

/-- Where the first run succeeds and ends in such a world, the second one succeeds with the same
value, and the stores that they lead to are related. -/
def Carries {σ α : Type} (ends : σ → Prop) (related : Store σ → Store σ → Prop)
    (first second : Except Fault α × Store σ) : Prop :=
  ∀ value after, first = (.ok value, after) → ends after.world →
    ∃ last, second = (.ok value, last) ∧ related after last

/-- When an action ends in such a world, it began in one. -/
def Begins {σ α : Type} (ends : σ → Prop) (action : M σ α) : Prop :=
  ∀ store value after, action.runFrom store = (.ok value, after) → ends after.world →
    ends store.world

namespace Carries

variable {σ α β : Type} {ends : σ → Prop} {between related : Store σ → Store σ → Prop}
  {first second : Store σ}

theorem bind {action : M σ α} {next : α → M σ β}
    (begun : Carries ends between (action.runFrom first) (action.runFrom second))
    (begins : ∀ value, Begins ends (next value))
    (ended : ∀ value after last, between after last →
      Carries ends related ((next value).runFrom after) ((next value).runFrom last)) :
    Carries ends related ((action >>= next).runFrom first) ((action >>= next).runFrom second) := by
  intro value after ran holds
  obtain ⟨found, middle, ran, done⟩ := M.runFrom_bind_eq_ok.mp ran
  obtain ⟨other, followed, alike⟩ := begun found middle ran (begins found middle value after done holds)
  obtain ⟨last, done, alike⟩ := ended found middle other alike value after done holds
  exact ⟨last, M.runFrom_bind_eq_ok.mpr ⟨found, other, followed, done⟩, alike⟩

end Carries

namespace Pairing.Abreast

variable {σ α : Type} [World σ] {mode : Bool} {paired : σ → σ → Prop} {ends : σ → Prop}
  {outlook_eq : ∀ {first second}, paired first second →
    World.outlook first = World.outlook second}

theorem begins {action : M σ α}
    (abreast : (Pairing.inStep mode paired ends outlook_eq).Abreast action) : Begins ends action :=
  fun _ _ _ ran holds => (abreast.counts ran ⟨trivial, holds⟩).world

/-- Runs that are abreast succeed together. -/
theorem carries {action : M σ α}
    (abreast : (Pairing.inStep mode paired ends outlook_eq).Abreast action) {first second : Store σ}
    (alike : (Pairing.inStep mode paired ends outlook_eq).AlikeOut first second) :
    Carries ends (Pairing.inStep mode paired ends outlook_eq).AlikeOut (action.runFrom first)
      (action.runFrom second) := by
  intro value after ran holds
  have kept := abreast.keepsUp alike ran ⟨trivial, holds⟩
  rcases followed : action.runFrom second with ⟨fault | found, last⟩
  · rw [followed] at kept
    exact False.elim kept
  · rw [followed] at kept
    obtain ⟨rfl, alike⟩ := kept
    exact ⟨last, rfl, alike⟩

theorem of_carries {action : M σ α} (begins : Begins ends action)
    (carries : ∀ {first second},
      (Pairing.inStep mode paired ends outlook_eq).AlikeOut first second →
        Carries ends (Pairing.inStep mode paired ends outlook_eq).AlikeOut (action.runFrom first)
          (action.runFrom second)) :
    (Pairing.inStep mode paired ends outlook_eq).Abreast action where
  counts ran counts := ⟨trivial, begins _ _ _ ran counts.world⟩
  keepsUp alike ran counts := by
    obtain ⟨last, followed, alike⟩ := carries alike _ _ ran counts.world
    rw [followed]
    exact ⟨rfl, alike⟩

theorem liftExcept (outcome : Except Fault α) :
    (Pairing.inStep mode paired ends outlook_eq).Abreast (liftM outcome : M σ α) := by
  cases outcome with
  | error fault => exact throw fault
  | ok value => exact pure value

/-- Parts are rendered in step when what is called keeps step. -/
theorem process {host : Host σ}
    (hosted : ∀ subject name given,
      (Pairing.inStep mode paired ends outlook_eq).Abreast (host subject name given))
    (bound : List (String × Value)) (part : Part) :
    (Pairing.inStep mode paired ends outlook_eq).Abreast (part.process host bound) := by
  let pairing := Pairing.inStep mode paired ends outlook_eq
  have followed : Follows (pairing.regime (Accord.inStep.lawful mode))
      (render host bound part.source) :=
    Follows.render (fun subject name given => ⟨hosted subject name given⟩) bound part.source
  have abreast : pairing.Abreast (render host bound part.source) := followed.followed
  refine of_carries (fun store rendered last done holds => ?_)
    fun {first second} alike rendered last done holds => ?_
  · obtain ⟨text, after, ran, -, rfl⟩ := Part.process_eq_ok_iff.mp done
    exact abreast.begins _ _ _ ran holds
  · obtain ⟨text, after, ran, rfl, rfl⟩ := Part.process_eq_ok_iff.mp done
    obtain ⟨other, ran, heaps, worlds⟩ := abreast.carries alike text after ran holds
    refine ⟨_, Part.process_eq_ok_iff.mpr ⟨text, other, ran, rfl, rfl⟩, ?_, worlds⟩
    exact { heaps with line := alike.heaps.line, exported := alike.heaps.exported }

end Pairing.Abreast

end FormLetter.Script
