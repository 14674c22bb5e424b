import FormLetter.Proofs.Script.Lenient

/-!
# What a lenient run leaves unsaid

A lenient run notes the labels of the undefined values that it uses. Where it notes none, a strict
run of the same template is expected to succeed with the same text. It does as long as the lenient
run overlooked nothing; otherwise it refuses the first value that was overlooked. Comparing an
undefined value with another one, looking for a place by it and counting or reversing its members
overlook it, and so does every use of an undefined value that has no label.
-/

namespace FormLetter.Script

/-! ## What is noted stays noted -/

/-- A computation that takes back no label and nothing that was overlooked. -/
def Local.Piles {α : Type} (action : Local α) : Prop :=
  ∀ (outlook : Outlook) (heap after : Heap) (value : α),
    action.runFrom outlook heap = (.ok value, after) → after.recorded = [] →
      heap.recorded = [] ∧ heap.overlooked <+: after.overlooked

namespace Local.Piles

variable {α β : Type} (missing : Missing)

theorem pure (value : α) : Piles (Pure.pure value) := by
  intro outlook heap after found ran unnoted
  cases ran
  exact ⟨unnoted, List.prefix_refl _⟩

theorem bind {action : Local α} {next : α → Local β} (begun : Piles action)
    (ended : ∀ value, Piles (next value)) : Piles (action >>= next) := by
  intro outlook heap after found ran unnoted
  obtain ⟨value, middle, ran, rest⟩ := runFrom_bind_eq_ok.mp ran
  have ⟨unnoted, later⟩ := ended value _ _ _ _ rest unnoted
  have ⟨unnoted, sooner⟩ := begun _ _ _ _ ran unnoted
  exact ⟨unnoted, sooner.trans later⟩

theorem heap : Piles get := by
  intro outlook heap after found ran unnoted
  cases ran
  exact ⟨unnoted, List.prefix_refl _⟩

theorem of_fails {action : Local α} (fails : Fails action) : Piles action := by
  intro outlook heap after value ran _
  exact absurd ran (fails.not_ok _ _ _ _)

theorem overlook : Piles (Script.overlook missing) := by
  intro outlook heap after value ran unnoted
  cases ran
  exact ⟨unnoted, List.prefix_append _ _⟩

theorem note (label : Label) : Piles (Script.note label) := by
  intro outlook heap after value ran unnoted
  cases ran
  dsimp only at unnoted ⊢
  split at unnoted <;> rename_i noted
  · rw [if_pos noted]
    exact ⟨unnoted, List.prefix_refl _⟩
  · exact absurd unnoted (List.append_ne_nil_of_right_ne_nil _ (List.cons_ne_nil _ _))

theorem noteMissing : Piles (Script.noteMissing missing) := by
  unfold Script.noteMissing
  split
  · exact pure _
  · split
    · exact pure _
    · exact note _
  · exact of_fails (.kindTrouble _)

theorem noteUse : Piles (Script.noteUse missing) := by
  unfold Script.noteUse
  split
  · exact overlook missing
  · exact noteMissing missing

theorem useMissing : Piles (Script.useMissing missing) := by
  unfold Script.useMissing
  split
  · exact pure _
  · apply bind heap
    intro heap
    split
    · exact noteUse missing
    · exact of_fails (.refuse missing)

theorem passMissing : Piles (Script.passMissing missing) := by
  unfold Script.passMissing
  split
  · exact pure _
  · apply bind heap
    intro heap
    split
    · exact overlook missing
    · exact of_fails (.refuse missing)

theorem noticeMissing : Piles (Script.noticeMissing missing) := by
  unfold Script.noticeMissing
  apply bind heap
  intro heap
  split
  · exact noteMissing missing
  · exact pure _

theorem memberOfMissing? (name : String) : Piles (Script.memberOfMissing? missing name) := by
  unfold Script.memberOfMissing?
  split
  · exact pure _
  · apply bind heap
    intro heap
    split
    · exact of_fails (.refuse missing)
    · apply bind (noteUse missing)
      intro _
      apply bind
      · intro outlook heap after value ran unnoted
        cases ran
        exact ⟨unnoted, List.prefix_refl _⟩
      · exact fun _ => pure _

end Local.Piles

/-! ## Undefined values in a lenient heap -/

namespace Local

variable {outlook : Outlook} {heap after : Heap} {missing : Missing}

theorem runFrom_useMissing_of_lenient (uses : missing.isPlain = false)
    (lenient : heap.isLenient = true) :
    (useMissing missing).runFrom outlook heap = (noteUse missing).runFrom outlook heap := by
  unfold useMissing
  rw [uses, if_neg Bool.false_ne_true, runFrom_bind]
  show (ite _ _ _ : Local Unit).runFrom _ _ = _
  rw [lenient]
  rfl

theorem runFrom_passMissing_of_lenient (uses : missing.isPlain = false)
    (lenient : heap.isLenient = true) :
    (passMissing missing).runFrom outlook heap = (overlook missing).runFrom outlook heap := by
  unfold passMissing
  rw [uses, if_neg Bool.false_ne_true, runFrom_bind]
  show (ite _ _ _ : Local Unit).runFrom _ _ = _
  rw [lenient]
  rfl

theorem runFrom_memberOfMissing?_of_strict {name : String} (isMember : name.startsWith "__" = false)
    (strict : heap.isLenient = false) :
    (memberOfMissing? missing name).runFrom outlook heap
      = (.error (.trouble (.undefined missing.message)), heap) := by
  unfold memberOfMissing?
  rw [isMember, if_neg Bool.false_ne_true, runFrom_bind]
  show (ite _ _ _ : Local (Option Value)).runFrom _ _ = _
  rw [strict, Bool.not_false, Bool.or_true, if_pos rfl]
  rfl

/-- The member of an undefined value that can be looked up: the value is used, and another one is
made. -/
theorem memberOfMissing?_eq_ok {name : String} {value : Option Value}
    (isMember : name.startsWith "__" = false) (lenient : heap.isLenient = true)
    (ran : (memberOfMissing? missing name).runFrom outlook heap = (.ok value, after)) :
    missing.isPlain = false ∧ ∃ middle,
      (noteUse missing).runFrom outlook heap = (.ok (), middle) ∧ after.notes = middle.notes := by
  unfold memberOfMissing? at ran
  rw [isMember, if_neg Bool.false_ne_true, runFrom_bind] at ran
  change (ite _ _ _ : Local (Option Value)).runFrom _ _ = _ at ran
  rw [lenient, Bool.not_true, Bool.or_false] at ran
  cases uses : missing.isPlain with
  | true =>
    rw [uses, if_pos rfl] at ran
    exact absurd ran ((Fails.refuse missing).not_ok _ _ _ _)
  | false =>
    rw [uses, if_neg Bool.false_ne_true] at ran
    obtain ⟨_, middle, noted, ran⟩ := runFrom_bind_eq_ok.mp ran
    refine ⟨rfl, middle, noted, ?_⟩
    cases ran
    rfl

/-- What is used without a label being noted is overlooked. -/
theorem noteUse_eq_ok (uses : missing.isPlain = false)
    (ran : (noteUse missing).runFrom outlook heap = (.ok (), after))
    (unnoted : after.recorded = []) : after.overlooked = heap.overlooked ++ [missing] := by
  unfold noteUse at ran
  split at ran
  · cases ran
    rfl
  · rename_i label labelled
    unfold noteMissing at ran
    split at ran
    · rename_i unlabelled
      rw [labelled] at unlabelled
      cases unlabelled
    · rw [uses, if_neg Bool.false_ne_true] at ran
      cases ran
      -- A label that is noted, or was before, does not go away.
      dsimp only at unnoted
      split at unnoted
      · rename_i noted
        rw [unnoted] at noted
        cases noted
      · exact absurd unnoted (List.append_ne_nil_of_right_ne_nil _ (List.cons_ne_nil _ _))
    · cases ran

end Local

/-! ## A lenient run and a strict one -/

/-- A lenient run that notes no label, and a strict one that may refuse the first of the values that
the lenient one overlooked. -/
def Accord.lenientThenStrict (overlooked : List Missing) : Accord where
  first := true
  second := false
  overlooks passed _ := passed = []
  counts notes := notes.1 = [] ∧ notes.2 <+: overlooked
  excused fault :=
    ∃ missing, overlooked.head? = some missing ∧ fault = .trouble (.undefined missing.message)

namespace Accord.lenientThenStrict

variable {α : Type} {overlooked : List Missing} {missing : Missing}

theorem counts_of_piles {action : Local α} (piles : action.Piles) {outlook : Outlook}
    {heap after : Heap} {value : α} (ran : action.runFrom outlook heap = (.ok value, after))
    (counts : (lenientThenStrict overlooked).counts after.notes) :
    (lenientThenStrict overlooked).counts heap.notes :=
  have ⟨unnoted, sooner⟩ := piles _ _ _ _ ran counts.1
  ⟨unnoted, sooner.trans counts.2⟩

/-- A strict run may refuse the value that a lenient one overlooks. -/
theorem excused_of_overlooked {heap after : Heap} (none : heap.overlooked = [])
    (passed : after.overlooked = heap.overlooked ++ [missing])
    (counts : (lenientThenStrict overlooked).counts after.notes) :
    (lenientThenStrict overlooked).excused (.trouble (.undefined missing.message)) := by
  obtain ⟨rest, rfl⟩ := counts.2
  refine ⟨missing, ?_, rfl⟩
  show (after.overlooked ++ rest).head? = _
  rw [passed, none]
  rfl

theorem steady_useMissing (missing : Missing) :
    (lenientThenStrict overlooked).Steady (useMissing missing) where
  counts := counts_of_piles (.useMissing missing)
  keepsUp {outlook first second after value} alike ran counts := by
    cases uses : missing.isPlain with
    | true =>
      rw [Local.runFrom_useMissing_of_isPlain uses] at ran ⊢
      cases ran
      exact ⟨rfl, alike⟩
    | false =>
      rw [Local.runFrom_useMissing_of_lenient uses alike.firstMode] at ran
      rw [Local.runFrom_useMissing_of_strict uses alike.secondMode]
      exact excused_of_overlooked alike.overlooked (Local.noteUse_eq_ok uses ran counts.1) counts

theorem steady_passMissing (missing : Missing) :
    (lenientThenStrict overlooked).Steady (passMissing missing) where
  counts := counts_of_piles (.passMissing missing)
  keepsUp {outlook first second after value} alike ran counts := by
    cases uses : missing.isPlain with
    | true =>
      rw [Local.runFrom_passMissing_of_isPlain uses] at ran ⊢
      cases ran
      exact ⟨rfl, alike⟩
    | false =>
      rw [Local.runFrom_passMissing_of_lenient uses alike.firstMode] at ran
      rw [Local.runFrom_passMissing_of_strict uses alike.secondMode]
      cases ran
      exact excused_of_overlooked alike.overlooked rfl counts

/-- To look whether a value is defined does not stop a strict run. -/
theorem steady_noticeMissing (missing : Missing) :
    (lenientThenStrict overlooked).Steady (noticeMissing missing) where
  counts := counts_of_piles (.noticeMissing missing)
  keepsUp {outlook first second after value} alike ran counts := by
    rw [Local.runFrom_noticeMissing_of_lenient alike.firstMode] at ran
    rw [Local.runFrom_noticeMissing_of_strict alike.secondMode]
    unfold noteMissing at ran
    split at ran
    · cases ran
      exact ⟨rfl, alike⟩
    · split at ran
      · cases ran
        exact ⟨rfl, alike⟩
      · cases ran
        refine ⟨rfl, ?_⟩
        dsimp only
        split
        · exact alike
        · exact { alike with }
    · cases ran

theorem steady_equalsMissing (missing : Missing) (other : Value) :
    (lenientThenStrict overlooked).Steady (equalsMissing missing other) := by
  obtain ⟨passed, same, compared⟩ := Local.equalsMissing_eq missing other
  rw [compared]
  exact (steady_passMissing passed).bind fun _ =>
    .of_reading (fun _ _ => same) (fun _ _ => rfl) fun _ => rfl

theorem steady_memberOfMissing? (missing : Missing) (name : String) :
    (lenientThenStrict overlooked).Steady (memberOfMissing? missing name) where
  counts := counts_of_piles (.memberOfMissing? missing name)
  keepsUp {outlook first second after value} alike ran counts := by
    cases isMember : name.startsWith "__" with
    | true =>
      unfold memberOfMissing? at ran ⊢
      rw [isMember, if_pos rfl] at ran ⊢
      cases ran
      exact ⟨rfl, alike⟩
    | false =>
      obtain ⟨uses, middle, used, notes⟩ :=
        Local.memberOfMissing?_eq_ok isMember alike.firstMode ran
      rw [notes] at counts
      rw [Local.runFrom_memberOfMissing?_of_strict isMember alike.secondMode]
      exact excused_of_overlooked alike.overlooked (Local.noteUse_eq_ok uses used counts.1) counts

/-- The uses of undefined values by which a lenient run notes nothing are the same in a strict one,
up to the first that is overlooked. -/
theorem lawful (overlooked : List Missing) : (lenientThenStrict overlooked).Lawful where
  use := steady_useMissing
  pass := steady_passMissing
  notice := steady_noticeMissing
  equal := steady_equalsMissing
  memberOf := steady_memberOfMissing?

end Accord.lenientThenStrict

/-- Two runs in a world in which there is nothing. -/
def Pairing.lenientThenStrict (overlooked : List Missing) : Pairing Unit :=
  .alone (.lenientThenStrict overlooked)

/-- Where a lenient run notes nothing, a strict one gives the same text, or it refuses the first
value that the lenient run overlooked. -/
theorem renderAlone_strict_eq {data : List (String × Json)} {template text : List Char}
    (rendered : (renderAlone true data template).text = .ok text)
    (unnoted : (renderAlone true data template).recorded = []) :
    (renderAlone false data template).text
      = match (renderAlone true data template).overlooked with
        | [] => .ok text
        | missing :: _ => .error (.trouble (.undefined missing.message)) := by
  let rendering : M Unit (List Char) := do Script.render Host.none (← bindings data) template
  let last := (rendering.runFrom (Store.start true ())).2
  let pairing := Pairing.lenientThenStrict last.overlooked
  have followed : Follows (pairing.regime (Accord.lenientThenStrict.lawful _)) rendering :=
    (Follows.lift _).bind fun bound => .render (fun _ _ _ => .lift _) bound template
  have abreast : pairing.Abreast rendering := followed.followed
  have alike : pairing.AlikeOut (Store.start true ()) (Store.start false ()) :=
    ⟨⟨rfl, rfl, rfl, rfl, rfl, rfl, rfl⟩, trivial⟩
  have ran : rendering.runFrom (Store.start true ()) = (.ok text, last) := Prod.ext rendered rfl
  have keptUp := abreast.keepsUp alike ran ⟨⟨unnoted, List.prefix_refl _⟩, trivial⟩
  show (rendering.runFrom (Store.start false ())).1 = match last.overlooked with
    | [] => .ok text
    | missing :: _ => .error (.trouble (.undefined missing.message))
  rcases strict : rendering.runFrom (Store.start false ()) with ⟨fault | found, after⟩
  · rw [strict] at keptUp
    obtain ⟨missing, first, rfl⟩ := keptUp
    cases passed : last.overlooked with
    | nil =>
      rw [passed] at first
      cases first
    | cons other rest =>
      rw [passed] at first
      cases first
      rfl
  · rw [strict] at keptUp
    obtain ⟨rfl, alike⟩ := keptUp
    rw [alike.heaps.overlooked]

theorem Rendering.text_eq_ok {rendering : Rendering} {text : List Char}
    (shown : rendering.text.toOption = some text) : rendering.text = .ok text := by
  cases outcome : rendering.text with
  | error fault =>
    rw [outcome] at shown
    cases shown
  | ok found =>
    rw [outcome] at shown
    exact congrArg Except.ok (Option.some.inj shown)

/-- Where a lenient run notes nothing and overlooks nothing, a strict one gives the same text. -/
theorem renderAlone_strict {data : List (String × Json)} {template text : List Char}
    (rendered : (renderAlone true data template).text = .ok text)
    (unnoted : (renderAlone true data template).recorded = [])
    (unpassed : (renderAlone true data template).overlooked = []) :
    (renderAlone false data template).text = .ok text := by
  rw [renderAlone_strict_eq rendered unnoted, unpassed]

/-- Items are gone through, and one has no number, which a default is for. -/
theorem renderAlone_strict_default :
    let data := [("xs", Json.array [.object [("n", .int 1)], .object []])]
    let template := "<% for x in xs %><%= x.n | default(0) %>,<% endfor %>".toList
    (renderAlone true data template).text = .ok "1,0,".toList ∧
      (renderAlone true data template).recorded = [] ∧
      (renderAlone true data template).overlooked = [] ∧
      (renderAlone false data template).text = .ok "1,0,".toList := by
  intro data template
  have rendered : (renderAlone true data template).text = .ok "1,0,".toList :=
    Rendering.text_eq_ok (by decide +kernel)
  have unnoted : (renderAlone true data template).recorded = [] := by decide +kernel
  have unpassed : (renderAlone true data template).overlooked = [] := by decide +kernel
  exact ⟨rendered, unnoted, unpassed, renderAlone_strict rendered unnoted unpassed⟩

/-- A comparison with an unknown name is answered, and nothing is noted. A strict run fails. -/
theorem renderAlone_strict_fails :
    (renderAlone true [] "<%= x == 1 %>".toList).text.toOption = some "False".toList ∧
      (renderAlone true [] "<%= x == 1 %>".toList).recorded = [] ∧
      (renderAlone false [] "<%= x == 1 %>".toList).text.toOption = none := by
  decide +kernel

end FormLetter.Script
