import FormLetter.Proofs.Letter.Calling

/-!
# What the code of a letter can do to letters and files

Template code can register pictures and enclosures with any letter that it knows, and it can open
further letters, which are rendered and closed again. So letters that were there before stay as they
are, but for what is registered with them, and files change only when a letter was opened.
-/

namespace FormLetter

open FormLetter.Script

namespace Workspace

/-- No letter is gone, and the first so many letters are as they were but for what was registered
with them. -/
structure KeepsLetters (count : Nat) (before after : Workspace) : Prop where
  grows : before.letters.size ≤ after.letters.size
  bare : ∀ id < count, (after.letter id).bare = (before.letter id).bare

/-- Besides, the files are the same when there are no other letters. -/
structure Keeps (count : Nat) (before after : Workspace) : Prop
    extends KeepsLetters count before after where
  files : after.letters.size = count → after.files = before.files

variable {count : Nat} {first second third : Workspace}

theorem KeepsLetters.trans (begun : first.KeepsLetters count second)
    (ended : second.KeepsLetters count third) : first.KeepsLetters count third :=
  ⟨Nat.le_trans begun.grows ended.grows,
    fun id old => (ended.bare id old).trans (begun.bare id old)⟩

theorem Keeps.trans (enough : count ≤ first.letters.size) (begun : first.Keeps count second)
    (ended : second.Keeps count third) : first.Keeps count third := by
  refine ⟨begun.toKeepsLetters.trans ended.toKeepsLetters, fun alone => ?_⟩
  have still : second.letters.size = count := by
    have early := begun.grows
    have late := ended.grows
    omega
  exact (ended.files alone).trans (begun.files still)

/-- The course of a workspace that keeps its first letters, if there are so many. -/
def keeping (count : Nat) : Course Workspace where
  leads before after := count ≤ before.letters.size → before.Keeps count after
  refl _ _ := ⟨⟨Nat.le_refl _, fun _ _ => rfl⟩, fun _ => rfl⟩
  trans begun ended enough :=
    (begun enough).trans enough (ended (Nat.le_trans enough (begun enough).grows))

/-- The course of a workspace whose files stay as they are when there are no more letters than so
many. -/
def alone (count : Nat) : Course Workspace where
  leads before after := count ≤ before.letters.size → before.letters.size ≤ after.letters.size ∧
    (after.letters.size ≤ count → after.files = before.files)
  refl _ _ := ⟨Nat.le_refl _, fun _ => rfl⟩
  trans begun ended enough := by
    obtain ⟨early, sameEarly⟩ := begun enough
    obtain ⟨late, sameLate⟩ := ended (Nat.le_trans enough early)
    exact ⟨Nat.le_trans early late, fun few =>
      (sameLate few).trans (sameEarly (Nat.le_trans late few))⟩

/-- What keeps the first letters leaves the files as they are when there are no others. -/
theorem alone_of_keeping {α : Type} {action : M Workspace α}
    (keeps : Leads (keeping count) action) : Leads (alone count) action := by
  intro store enough
  have kept := keeps store enough
  exact ⟨kept.grows, fun few => kept.files (Nat.le_antisymm few (Nat.le_trans enough kept.grows))⟩

end Workspace

namespace Work

open Workspace

variable {count : Nat}

/-! ## Single steps -/

/-- A change of what is registered with a letter. -/
theorem keeps_change_registered {change : Letter → Letter}
    (same : ∀ letter, (change letter).bare = letter.bare) (id : Nat) :
    Leads (keeping count) (Work.change id change) := by
  intro store enough
  rw [runFrom_change]
  refine ⟨⟨Nat.le_of_eq (size_modify _ _ _).symm, fun other old => ?_⟩, fun _ => rfl⟩
  by_cases here : other = id
  · subst here
    rw [letter_modify_self (Nat.lt_of_lt_of_le old enough), same]
  · rw [letter_modify_of_ne here]

/-- A change of a letter that came later keeps the first letters, whatever happens to the files. -/
theorem keepsLetters_modify {id : Nat} (later : count ≤ id) (workspace : Workspace) (files : Files)
    (change : Letter → Letter) :
    workspace.KeepsLetters count (({ workspace with files }).modify id change) := by
  refine ⟨Nat.le_of_eq (size_modify _ _ _).symm, fun other old => ?_⟩
  rw [letter_modify_of_ne (Nat.ne_of_lt (Nat.lt_of_lt_of_le old later))]
  rfl

/-- A change of a letter that came later. -/
theorem keeps_change_later {id : Nat} (later : count ≤ id) (change : Letter → Letter) :
    Leads (keeping count) (Work.change id change) :=
  fun store _ => ⟨keepsLetters_modify later store.world store.world.files change, fun _ => rfl⟩

/-- A letter that came later can be rendered. -/
theorem keeping_renders {id : Nat} (later : count ≤ id) : Renders (keeping count) id where
  package _ := keeps_change_later later _
  rawStyles _ := keeps_change_later later _
  rawContent _ := keeps_change_later later _
  styles _ := keeps_change_later later _
  content _ := keeps_change_later later _
  bare := keeps_change_later later _

theorem alone_change (id : Nat) (change : Letter → Letter) :
    Leads (alone count) (Work.change id change) :=
  fun _ _ => ⟨Nat.le_of_eq (size_modify _ _ _).symm, fun _ => rfl⟩

/-- Rendering any letter leaves the files as they are, as far as its code does. -/
theorem alone_renders (id : Nat) : Renders (alone count) id where
  package _ := alone_change id _
  rawStyles _ := alone_change id _
  rawContent _ := alone_change id _
  styles _ := alone_change id _
  content _ := alone_change id _
  bare := alone_change id _

/-! ## What is registered -/

theorem keeps_addPicture (id : Nat) (path : Path) : Leads (keeping count) (addPicture id path) := by
  unfold addPicture
  refine leads_files.bind fun found => Leads.ite (Leads.seq ?_ (Leads.pure _)) (Leads.throw _)
  refine keeps_change_registered ?_ id
  exact fun letter => rfl

theorem keeps_addEnclosure (id : Nat) (key : String) (enclosed : Value) :
    Leads (keeping count) (addEnclosure id key enclosed) := by
  unfold addEnclosure
  refine (leads_enclosureOf enclosed).bind fun enclosure => ?_
  refine keeps_change_registered ?_ id
  exact fun letter => rfl

/-! ## Letters that came later -/

theorem keeps_add (new : Letter) : Leads (keeping count) (add new) := by
  unfold add
  refine leads_workspace.bind fun before => Leads.seq ?_ (Leads.pure _)
  intro store enough
  refine ⟨⟨?_, fun id old => ?_⟩, fun _ => rfl⟩
  · change _ ≤ (store.world.letters.push new).size
    rw [Array.size_push]
    exact Nat.le_succ _
  · exact congrArg Letter.bare (letter_push_of_lt (Nat.lt_of_lt_of_le old enough) new)

/-- Closing a letter that came later may change files, since there is another letter then. One that
is not there has nothing to write. -/
theorem keeps_closePackage {id : Nat} (later : count ≤ id) :
    Leads (keeping count) (closePackage id) := by
  intro store enough
  rcases closePackage_cases id store with ⟨fault, -, ran⟩ | ⟨package, files, log, closed, ran⟩
  · rw [ran]
    exact (keeping count).refl store.world enough
  · rw [ran]
    refine ⟨keepsLetters_modify later store.world files _, fun alone => ?_⟩
    have outside : store.world.letters.size ≤ id := by
      rw [size_modify] at alone
      exact Nat.le_trans (Nat.le_of_eq alone) later
    rw [letter_of_size_le outside] at closed
    cases closed
    rfl

/-! ## What can be called -/

/-- Whatever template code calls keeps the first letters. -/
theorem keeping_admits (count : Nat) : Admits (keeping count) count where
  given leads enough := leads enough enough
  picture := keeps_addPicture
  enclosure := keeps_addEnclosure
  add := keeps_add
  renders _ later := keeping_renders later
  closePackage _ later := keeps_closePackage later

/-- Whatever template code calls, the letters that were there before are kept. -/
def KeepsAll (host : Host Workspace) : Prop :=
  ∀ count subject name given, Leads (keeping count) (host subject name given)

/-- Letters are kept however deep other letters enclose each other. -/
theorem keepsAll_hostWithin (depth : Nat) : KeepsAll (hostWithin depth) :=
  fun count => leads_hostWithin (keeping_admits count) depth

end Work

end FormLetter
