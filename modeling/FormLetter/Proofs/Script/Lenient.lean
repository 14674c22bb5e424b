import FormLetter.Proofs.Script.Accord

/-!
# A lenient run does what a strict one does

A template that is rendered where undefined values are refused is rendered to the same text where
their use is noted. The two runs part only where the strict one fails, but for one kind of place: a
test whether a value is defined, which the strict run does not mind, makes the lenient one note the
label of an undefined value. A label that can be changed, as that of an item that was looked up at
a list, cannot be noted, and the lenient run fails.
-/

namespace FormLetter.Script

/-! ## Undefined values in either mode -/

namespace Local

variable {outlook : Outlook} {heap : Heap} {missing : Missing}

theorem runFrom_useMissing_of_isPlain (plain : missing.isPlain = true) :
    (useMissing missing).runFrom outlook heap = (.ok (), heap) := by
  unfold useMissing
  rw [if_pos plain]
  rfl

theorem runFrom_useMissing_of_strict (uses : missing.isPlain = false) (strict : heap.isLenient = false) :
    (useMissing missing).runFrom outlook heap = (.error (.trouble (.undefined missing.message)), heap) := by
  unfold useMissing
  rw [uses, if_neg Bool.false_ne_true, runFrom_bind]
  show (ite _ _ _ : Local Unit).runFrom _ _ = _
  rw [strict]
  rfl

theorem runFrom_passMissing_of_isPlain (plain : missing.isPlain = true) :
    (passMissing missing).runFrom outlook heap = (.ok (), heap) := by
  unfold passMissing
  rw [plain]
  rfl

theorem runFrom_passMissing_of_strict (uses : missing.isPlain = false) (strict : heap.isLenient = false) :
    (passMissing missing).runFrom outlook heap = (.error (.trouble (.undefined missing.message)), heap) := by
  unfold passMissing
  rw [uses, if_neg Bool.false_ne_true, runFrom_bind]
  show (ite _ _ _ : Local Unit).runFrom _ _ = _
  rw [strict]
  rfl

theorem runFrom_noticeMissing_of_strict (strict : heap.isLenient = false) :
    (noticeMissing missing).runFrom outlook heap = (.ok (), heap) := by
  unfold noticeMissing
  rw [runFrom_bind]
  show (ite _ _ _ : Local Unit).runFrom _ _ = _
  rw [strict]
  rfl

theorem runFrom_noticeMissing_of_lenient (strict : heap.isLenient = true) :
    (noticeMissing missing).runFrom outlook heap = (noteMissing missing).runFrom outlook heap := by
  unfold noticeMissing
  rw [runFrom_bind]
  show (ite _ _ _ : Local Unit).runFrom _ _ = _
  rw [strict]
  rfl

/-- To compare an undefined value with another value is to pass one of the two. -/
theorem equalsMissing_eq (missing : Missing) (other : Value) :
    ∃ passed same, equalsMissing missing other = passMissing passed >>= fun _ => pure same := by
  cases other with
  | undefined found =>
    refine ⟨if missing.isPlain then found else missing, missing.isPlain == found.isPlain, ?_⟩
    cases plain : missing.isPlain <;> cases other : found.isPlain <;>
      simp [equalsMissing, passMissing, plain, other]
  | _ => exact ⟨missing, false, rfl⟩

theorem not_ok_memberOfMissing? (strict : heap.isLenient = false) {name : String}
    (isMember : name.startsWith "__" = false) (value : Option Value) (after : Heap) :
    (memberOfMissing? missing name).runFrom outlook heap ≠ (.ok value, after) := by
  unfold memberOfMissing?
  rw [isMember, if_neg Bool.false_ne_true, runFrom_bind]
  show (ite _ _ _ : Local (Option Value)).runFrom _ _ ≠ _
  rw [strict, Bool.not_false, Bool.or_true, if_pos rfl]
  exact Fails.refuse missing |>.not_ok _ _ _ _

end Local

/-! ## A strict run and a lenient one -/

/-- A strict run, and a lenient one that may fail over a label that cannot be noted. -/
def Accord.strictThenLenient : Accord where
  first := false
  second := true
  overlooks _ _ := True
  counts _ := True
  excused fault := ∃ kind, fault = .trouble (.kind (.unhashable kind))

namespace Accord.strictThenLenient

/-- A lenient run notes a label, or it cannot and is excused. -/
theorem keepsUp_noteMissing (missing : Missing) (outlook : Outlook) {first second : Heap}
    (alike : strictThenLenient.Alike first second) :
    strictThenLenient.KeepsUp () first ((noteMissing missing).runFrom outlook second) := by
  unfold noteMissing
  split
  · exact ⟨rfl, alike⟩
  · split
    · exact ⟨rfl, alike⟩
    · refine ⟨rfl, ?_⟩
      dsimp only
      split
      · exact alike
      · exact { alike with }
  · rename_i kind _ _
    exact ⟨kind, rfl⟩

theorem steady_useMissing (missing : Missing) : strictThenLenient.Steady (useMissing missing) where
  counts _ _ := trivial
  keepsUp {outlook first second after value} alike ran _ := by
    cases uses : missing.isPlain with
    | true =>
      rw [Local.runFrom_useMissing_of_isPlain uses] at ran ⊢
      cases ran
      exact ⟨rfl, alike⟩
    | false =>
      rw [Local.runFrom_useMissing_of_strict uses alike.firstMode] at ran
      cases ran

theorem steady_passMissing (missing : Missing) :
    strictThenLenient.Steady (passMissing missing) where
  counts _ _ := trivial
  keepsUp {outlook first second after value} alike ran _ := by
    cases uses : missing.isPlain with
    | true =>
      rw [Local.runFrom_passMissing_of_isPlain uses] at ran ⊢
      cases ran
      exact ⟨rfl, alike⟩
    | false =>
      rw [Local.runFrom_passMissing_of_strict uses alike.firstMode] at ran
      cases ran

theorem steady_noticeMissing (missing : Missing) :
    strictThenLenient.Steady (noticeMissing missing) where
  counts _ _ := trivial
  keepsUp {outlook first second after value} alike ran _ := by
    rw [Local.runFrom_noticeMissing_of_strict alike.firstMode] at ran
    cases ran
    rw [Local.runFrom_noticeMissing_of_lenient alike.secondMode]
    exact keepsUp_noteMissing missing outlook alike

theorem steady_equalsMissing (missing : Missing) (other : Value) :
    strictThenLenient.Steady (equalsMissing missing other) := by
  obtain ⟨passed, same, compared⟩ := Local.equalsMissing_eq missing other
  rw [compared]
  exact (steady_passMissing passed).bind fun _ =>
    .of_reading (fun _ _ => same) (fun _ _ => rfl) fun _ => rfl

theorem steady_memberOfMissing? (missing : Missing) (name : String) :
    strictThenLenient.Steady (memberOfMissing? missing name) where
  counts _ _ := trivial
  keepsUp {outlook first second after value} alike ran _ := by
    cases isMember : name.startsWith "__" with
    | true =>
      unfold memberOfMissing? at ran ⊢
      rw [isMember, if_pos rfl] at ran ⊢
      cases ran
      exact ⟨rfl, alike⟩
    | false => exact absurd ran (Local.not_ok_memberOfMissing? alike.firstMode isMember _ _)

/-- The uses of undefined values by which a strict run gets past are the same in a lenient one. -/
theorem lawful : strictThenLenient.Lawful where
  use := steady_useMissing
  pass := steady_passMissing
  notice := steady_noticeMissing
  equal := steady_equalsMissing
  memberOf := steady_memberOfMissing?

end Accord.strictThenLenient

/-- Two runs in a world in which there is nothing. -/
def Pairing.strictThenLenient : Pairing Unit := .alone .strictThenLenient

/-- What is rendered where undefined values are refused is rendered to the same text where their
use is noted, unless a label cannot be noted. -/
theorem renderAlone_lenient (data : List (String × Json)) (template text : List Char)
    (rendered : (renderAlone false data template).text = .ok text) :
    (renderAlone true data template).text = .ok text ∨
      ∃ kind, (renderAlone true data template).text
        = .error (.trouble (.kind (.unhashable kind))) := by
  let rendering : M Unit (List Char) := do Script.render Host.none (← bindings data) template
  have followed : Follows (Pairing.strictThenLenient.regime Accord.strictThenLenient.lawful)
      rendering :=
    (Follows.lift _).bind fun bound => .render (fun _ _ _ => .lift _) bound template
  have abreast : Pairing.strictThenLenient.Abreast rendering := followed.followed
  have alike : Pairing.strictThenLenient.AlikeOut (Store.start false ()) (Store.start true ()) :=
    ⟨⟨rfl, rfl, rfl, rfl, trivial, rfl, rfl⟩, trivial⟩
  have ran : rendering.runFrom (Store.start false ())
      = (.ok text, (rendering.runFrom (Store.start false ())).2) :=
    Prod.ext rendered rfl
  have keptUp := abreast.keepsUp alike ran ⟨trivial, trivial⟩
  show (rendering.runFrom (Store.start true ())).1 = _ ∨
    ∃ kind, (rendering.runFrom (Store.start true ())).1 = _
  rcases followed : rendering.runFrom (Store.start true ()) with ⟨fault | found, last⟩
  · rw [followed] at keptUp
    obtain ⟨kind, rfl⟩ := keptUp
    exact Or.inr ⟨kind, rfl⟩
  · rw [followed] at keptUp
    obtain ⟨rfl, -⟩ := keptUp
    exact Or.inl rfl

/-- It is tested whether a name is known, which it is not. -/
theorem renderAlone_lenient_unknownName :
    (renderAlone false [] "<%= 1 if x is defined else 2 %>".toList).text = .ok "2".toList ∧
      ((renderAlone true [] "<%= 1 if x is defined else 2 %>".toList).text = .ok "2".toList ∨
        ∃ kind, (renderAlone true [] "<%= 1 if x is defined else 2 %>".toList).text
          = .error (.trouble (.kind (.unhashable kind)))) := by
  have rendered : (renderAlone false [] "<%= 1 if x is defined else 2 %>".toList).text
      = .ok "2".toList := by
    have shown : (renderAlone false [] "<%= 1 if x is defined else 2 %>".toList).text.toOption
        = some "2".toList := by decide +kernel
    cases text : (renderAlone false [] "<%= 1 if x is defined else 2 %>".toList).text with
    | error fault =>
      rw [text] at shown
      cases shown
    | ok found =>
      rw [text] at shown
      exact congrArg Except.ok (Option.some.inj shown)
  exact ⟨rendered, renderAlone_lenient [] _ _ rendered⟩

/-- A list has no item at a list. A strict run tells so, and a lenient one fails. -/
theorem renderAlone_lenient_fails :
    (renderAlone false [] "<%= [1][[2]] is defined %>".toList).text.toOption
        = some "False".toList ∧
      (renderAlone true [] "<%= [1][[2]] is defined %>".toList).text.toOption = none := by
  decide +kernel

end FormLetter.Script
