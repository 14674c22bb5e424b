import FormLetter.Proofs.Letter.Confining
import FormLetter.Proofs.Letter.Inspecting
import FormLetter.Proofs.Letter.Staging
import FormLetter.Proofs.Script.Surrounded

/-!
# What is gathered while a letter is rendered

All surroundings that code comes by report to one letter, the master. So as long as code keeps to
its surroundings, only two letters change while a letter is rendered: the master, with which pictures
and enclosures are registered, and the letter itself. Letters that are opened meanwhile are put away
again, as they were. This is said step by step: of a step that fails, and more of one that succeeds.
-/

namespace FormLetter

open FormLetter.Script

/-- A letter that was opened and is done with: nothing is registered with it, its package is closed
and holds the entries of its archive. -/
structure Letter.IsPutAway (files : Files) (letter : Letter) : Prop where
  pictures : letter.pictures = []
  enclosures : letter.enclosures = []
  isClosed : letter.package.isClosed = true
  entries : ∃ archive, Package.archiveAt? files letter.path = some archive ∧
    letter.package.entries = (Package.ofArchive letter.path archive).entries

namespace Workspace

/-- A letter that was opened between two workspaces. -/
def Opened (before after : Workspace) (k : Nat) : Prop :=
  before.letters.size ≤ k ∧ k < after.letters.size

/-- The archives of the letters that were opened have no names that letters keep for themselves. -/
def OpensClean (before after : Workspace) : Prop :=
  ∀ k, Opened before after k → ∀ archive,
    Package.archiveAt? before.files (after.letter k).path = some archive →
      ∀ entry ∈ archive, ¬ IsOwn entry.name

/-- The letters that were opened have different paths. -/
def PathsDiffer (before after : Workspace) : Prop :=
  ∀ j k, Opened before after j → Opened before after k →
    (after.letter j).path = (after.letter k).path → j = k

/-- The course of a workspace in which letters and their paths last. -/
def lasting : Course Workspace where
  leads before after := before.letters.size ≤ after.letters.size ∧
    ∀ k < before.letters.size, (after.letter k).path = (before.letter k).path
  refl _ := ⟨Nat.le_refl _, fun _ _ => rfl⟩
  trans begun ended := ⟨Nat.le_trans begun.1 ended.1, fun k old =>
    (ended.2 k (Nat.lt_of_lt_of_le old begun.1)).trans (begun.2 k old)⟩

variable {before between after : Workspace}

/-- The first of two steps opened some of the letters that both did. -/
theorem OpensClean.early (clean : OpensClean before after) (lasts : lasting.leads between after) :
    OpensClean before between := by
  intro k opened archive found
  rw [← lasts.2 k opened.2] at found
  exact clean k ⟨opened.1, Nat.lt_of_lt_of_le opened.2 lasts.1⟩ archive found

theorem OpensClean.late (clean : OpensClean before after)
    (grows : before.letters.size ≤ between.letters.size) (files : between.files = before.files) :
    OpensClean between after := by
  intro k opened archive found
  rw [files] at found
  exact clean k ⟨Nat.le_trans grows opened.1, opened.2⟩ archive found

theorem PathsDiffer.early (differ : PathsDiffer before after) (lasts : lasting.leads between after) :
    PathsDiffer before between := by
  intro j k first second same
  rw [← lasts.2 j first.2, ← lasts.2 k second.2] at same
  exact differ j k ⟨first.1, Nat.lt_of_lt_of_le first.2 lasts.1⟩
    ⟨second.1, Nat.lt_of_lt_of_le second.2 lasts.1⟩ same

theorem PathsDiffer.late (differ : PathsDiffer before after)
    (grows : before.letters.size ≤ between.letters.size) : PathsDiffer between after :=
  fun j k first second => differ j k ⟨Nat.le_trans grows first.1, first.2⟩
    ⟨Nat.le_trans grows second.1, second.2⟩

theorem lasting_modify (workspace : Workspace) (files : Files) (k : Nat) {change : Letter → Letter}
    (same : ∀ letter, (change letter).path = letter.path) :
    lasting.leads workspace (({ workspace with files }).modify k change) := by
  refine ⟨Nat.le_of_eq (size_modify _ _ _).symm, fun j old => ?_⟩
  by_cases here : j = k
  · subst here
    rw [letter_modify_self (by exact old), same]
    rfl
  · rw [letter_modify_of_ne here]
    rfl

end Workspace

namespace Work

open Workspace

/-! ## Letters and their paths last -/

theorem leads_lasting_change (k : Nat) {change : Letter → Letter}
    (same : ∀ letter, (change letter).path = letter.path) :
    Leads lasting (Work.change k change) := by
  intro store
  rw [runFrom_change]
  exact lasting_modify store.world store.world.files k same

theorem lasting_renders (k : Nat) : Renders lasting k where
  package _ := leads_lasting_change k fun _ => rfl
  rawStyles _ := leads_lasting_change k fun _ => rfl
  rawContent _ := leads_lasting_change k fun _ => rfl
  styles _ := leads_lasting_change k fun _ => rfl
  content _ := leads_lasting_change k fun _ => rfl
  bare := leads_lasting_change k fun _ => rfl

theorem lasting_admits : Admits lasting 0 where
  given leads := leads (Nat.zero_le _)
  picture id path := by
    unfold addPicture
    refine leads_files.bind fun found => Leads.ite (Leads.seq ?_ (Leads.pure _)) (Leads.throw _)
    exact leads_lasting_change id fun _ => rfl
  enclosure id key enclosed := by
    unfold addEnclosure
    refine (leads_enclosureOf enclosed).bind fun enclosure => ?_
    exact leads_lasting_change id fun _ => rfl
  add new := by
    unfold add
    refine leads_workspace.bind fun before => Leads.seq ?_ (Leads.pure _)
    intro store
    refine ⟨?_, fun k old => congrArg Letter.path (letter_push_of_lt old new)⟩
    change _ ≤ (store.world.letters.push new).size
    rw [Array.size_push]
    exact Nat.le_succ _
  renders k _ := lasting_renders k
  closePackage k _ := by
    intro store
    rcases closePackage_cases k store with ⟨fault, -, ran⟩ | ⟨package, files, log, -, ran⟩
    · rw [ran]
      exact lasting.refl store.world
    · rw [ran]
      exact lasting_modify store.world files k fun _ => rfl

/-! ## What is said of a step -/

/-- All surroundings report to a letter, which is there and of the usual layout, and so is the letter
that is being rendered. -/
structure Hosts (master busy : Nat) (store : Store Workspace) : Prop where
  reports : ∀ fields ∈ store.surroundings, (Surroundings.ofFields fields).occasion.master = master
  inside : master < store.world.letters.size
  isBusy : busy < store.world.letters.size
  layout : (store.world.letter master).layout = {}

/-- Nothing changes but the master and the letter that is being rendered, and what is opened is put
away again. -/
structure Spares (master busy : Nat) (before after : Workspace) : Prop where
  others : ∀ k < before.letters.size, k ≠ master → k ≠ busy → after.letter k = before.letter k
  pictures : busy ≠ master → (after.letter busy).pictures = (before.letter busy).pictures
  enclosures : busy ≠ master → (after.letter busy).enclosures = (before.letter busy).enclosures
  files : after.files = before.files
  away : ∀ k, Opened before after k → (after.letter k).IsPutAway before.files

/-- What the master gathers: pictures, one after the other, which stay when they keep apart, and the
letters that are opened, all of which it holds when their paths differ. -/
structure Gathers (master : Nat) (apart : Bool) (before after : Workspace) : Prop where
  staged : ∃ paths, Stages master paths before after ∧ (apart = true → ∀ path ∈ paths,
    (after.letter master).pictures.lookup path.name = some path)
  stays : apart = true → ∀ name path, (before.letter master).pictures.lookup name = some path →
    (after.letter master).pictures.lookup name = some path
  registers : ∀ key, (after.letter master).enclosures.lookup key
      = (before.letter master).enclosures.lookup key ∨
    ∃ k, Opened before after k ∧ Path.ofString key = (after.letter k).path
  encloses : PathsDiffer before after → ∀ k, Opened before after k →
    ∃ key, Path.ofString key = (after.letter k).path ∧
      (after.letter master).enclosures.lookup key = some (.letter k)
  rendered : ∀ k, Opened before after k →
    ∃ text, (after.letter k).styles.bind (·.rendered) = some text

section

variable {master busy : Nat} {apart : Bool} {before between after : Workspace}

theorem Opened.of_trans {k : Nat} (opened : Opened before after k) :
    Opened before between k ∨ Opened between after k := by
  by_cases early : k < between.letters.size
  · exact .inl ⟨opened.1, early⟩
  · exact .inr ⟨Nat.le_of_not_lt early, opened.2⟩

/-- Letters that were opened before a step are none of those that it changes. -/
theorem Spares.letter_eq {k : Nat} (inside : master < before.letters.size)
    (isBusy : busy < before.letters.size) (spares : Spares master busy between after)
    (opened : Opened before between k) : after.letter k = between.letter k := by
  refine spares.others k opened.2 ?_ ?_
  · exact (Nat.ne_of_lt (Nat.lt_of_lt_of_le inside opened.1)).symm
  · exact (Nat.ne_of_lt (Nat.lt_of_lt_of_le isBusy opened.1)).symm

theorem Spares.refl (workspace : Workspace) : Spares master busy workspace workspace where
  others _ _ _ _ := rfl
  pictures _ := rfl
  enclosures _ := rfl
  files := rfl
  away _ opened := absurd opened.2 (Nat.not_lt_of_le opened.1)

theorem Spares.trans (inside : master < before.letters.size) (isBusy : busy < before.letters.size)
    (grows : before.letters.size ≤ between.letters.size) (begun : Spares master busy before between)
    (ended : Spares master busy between after) : Spares master busy before after where
  others k old notMaster notBusy :=
    (ended.others k (Nat.lt_of_lt_of_le old grows) notMaster notBusy).trans
      (begun.others k old notMaster notBusy)
  pictures other := (ended.pictures other).trans (begun.pictures other)
  enclosures other := (ended.enclosures other).trans (begun.enclosures other)
  files := ended.files.trans begun.files
  away k opened := by
    rcases Opened.of_trans opened with early | late
    · rw [ended.letter_eq inside isBusy early]
      exact begun.away k early
    · rw [← begun.files]
      exact ended.away k late

/-- What is said with the master being rendered holds whichever letter is. -/
theorem Spares.of_master (inside : busy < before.letters.size)
    (spares : Spares master master before after) : Spares master busy before after where
  others k old notMaster _ := spares.others k old notMaster notMaster
  pictures other := by rw [spares.others busy inside other other]
  enclosures other := by rw [spares.others busy inside other other]
  files := spares.files
  away := spares.away

/-- Nothing is gathered where nothing is opened and nothing registered. -/
theorem Gathers.of_still (size : after.letters.size = before.letters.size)
    (pictures : (after.letter master).pictures = (before.letter master).pictures)
    (enclosures : (after.letter master).enclosures = (before.letter master).enclosures) :
    Gathers master apart before after := by
  have none_ {k : Nat} (opened : Opened before after k) : False := by
    have early := opened.1
    have late := opened.2
    omega
  exact
    { staged := ⟨[], .still pictures, fun _ => by simp⟩
      stays := fun _ name path found => by rwa [pictures]
      registers := fun key => .inl (by rw [enclosures])
      encloses := fun _ k opened => (none_ opened).elim
      rendered := fun k opened => (none_ opened).elim }

theorem Gathers.trans (inside : master < before.letters.size)
    (isBusy : busy < before.letters.size) (grows : before.letters.size ≤ between.letters.size)
    (lasts : lasting.leads between after) (spares : Spares master busy between after)
    (begun : Gathers master apart before between) (ended : Gathers master apart between after) :
    Gathers master apart before after where
  staged := by
    obtain ⟨first, stagesFirst, holdsFirst⟩ := begun.staged
    obtain ⟨second, stagesSecond, holdsSecond⟩ := ended.staged
    refine ⟨first ++ second, stagesFirst.append stagesSecond, fun isApart path member => ?_⟩
    rcases List.mem_append.mp member with early | late
    · exact ended.stays isApart _ path (holdsFirst isApart path early)
    · exact holdsSecond isApart path late
  stays isApart name path found := ended.stays isApart name path (begun.stays isApart name path found)
  registers key := by
    rcases ended.registers key with same | ⟨k, opened, isPath⟩
    · rcases begun.registers key with still | ⟨k, opened, isPath⟩
      · exact .inl (same.trans still)
      · refine .inr ⟨k, ⟨opened.1, Nat.lt_of_lt_of_le opened.2 lasts.1⟩, ?_⟩
        rw [isPath, lasts.2 k opened.2]
    · exact .inr ⟨k, ⟨Nat.le_trans grows opened.1, opened.2⟩, isPath⟩
  encloses differ k opened := by
    rcases Opened.of_trans opened with early | late
    · obtain ⟨key, isPath, held⟩ := begun.encloses (differ.early lasts) k early
      rw [← lasts.2 k early.2] at isPath
      refine ⟨key, isPath, ?_⟩
      -- A later letter that is held under the same key would have the same path.
      rcases ended.registers key with same | ⟨other, late, clash⟩
      · exact same.trans held
      · have equal := differ k other opened ⟨Nat.le_trans grows late.1, late.2⟩
          (isPath.symm.trans clash)
        have before_ := early.2
        have after_ := late.1
        omega
    · exact ended.encloses (differ.late grows) k late
  rendered k opened := by
    rcases Opened.of_trans opened with early | late
    · rw [spares.letter_eq inside isBusy early]
      exact begun.rendered k early
    · exact ended.rendered k late

end

/-! ## What only looks -/

/-- An action that leaves the world as it is, and the surroundings, too, where it succeeds. -/
structure Looks {α : Type} (action : Work α) : Prop where
  world : ∀ store : Store Workspace, (action.runFrom store).2.world = store.world
  keeps : ∀ {store : Store Workspace} {value after}, action.runFrom store = (.ok value, after) →
    after.surroundings = store.surroundings

namespace Looks

variable {α β : Type}

theorem pure (value : α) : Looks (pure value : Work α) :=
  ⟨fun _ => rfl, fun ran => by cases ran; rfl⟩

theorem throw (fault : Fault) : Looks (throw fault : Work α) :=
  ⟨fun _ => rfl, fun ran => by cases ran⟩

theorem liftExcept (outcome : Except Fault α) : Looks (liftM outcome : Work α) :=
  ⟨fun _ => rfl, fun ran => by rw [(M.runFrom_liftExcept_eq_ok.mp ran).2]⟩

theorem of_keepsSurroundings {action : Local α} (keeps : KeepsSurroundings action) :
    Looks (liftM action : Work α) := by
  refine ⟨fun _ => rfl, fun {store value after} ran => ?_⟩
  rw [M.runFrom_lift] at ran
  obtain ⟨succeeded, rfl⟩ := Prod.mk.inj ran
  exact keeps _ _ value _ (Prod.ext succeeded rfl)

/-- What keeps to itself makes no surroundings. -/
theorem lift (action : Local α) [obeyed : Obeys .surrounded action] :
    Looks (liftM action : Work α) :=
  of_keepsSurroundings obeyed.obeyed

theorem letter (k : Nat) : Looks (letter k) := ⟨fun _ => rfl, fun ran => by cases ran; rfl⟩

theorem nameOf (k : Nat) : Looks (nameOf k) := ⟨fun _ => rfl, fun ran => by cases ran; rfl⟩

theorem bind {action : Work α} {next : α → Work β} (begun : Looks action)
    (ended : ∀ value, Looks (next value)) : Looks (action >>= next) := by
  refine ⟨fun store => ?_, fun {store value after} ran => ?_⟩
  · have same := begun.world store
    rw [M.runFrom_bind]
    rcases ran : action.runFrom store with ⟨fault | value, middle⟩
    · rw [ran] at same
      exact same
    · rw [ran] at same
      exact ((ended value).world middle).trans same
  · obtain ⟨found, middle, ran, done⟩ := M.runFrom_bind_eq_ok.mp ran
    exact ((ended found).keeps done).trans (begun.keeps ran)

theorem ite {condition : Prop} [Decidable condition] {first second : Work α}
    (holds : Looks first) (fails : Looks second) : Looks (if condition then first else second) := by
  split
  · exact holds
  · exact fails

theorem bindMethod (kind name : String) (given : Given) (parameters : List Parameter) :
    Looks (bindMethod kind name given parameters) := by
  unfold Work.bindMethod
  exact lift _

theorem pathArgument (value : Value) : Looks (pathArgument value) := by
  unfold Work.pathArgument
  split
  · exact pure _
  · exact ite ((letter _).bind fun found => pure _) ((lift _).bind fun kind => lift _)
  · exact (lift _).bind fun kind => lift _

end Looks

/-! ## What tends to the master -/

/-- What is said of an action: letters last, others are spared whether it fails or not, and where it
succeeds, the master gathers what there is. The archives that are opened have to be clean. -/
structure Tends {α : Type} (master busy : Nat) (apart : Bool) (action : Work α) : Prop where
  lasts : Leads lasting action
  spares : ∀ {store}, Hosts master busy store →
    OpensClean store.world (action.runFrom store).2.world →
      Spares master busy store.world (action.runFrom store).2.world
  gathers : ∀ {store value after}, Hosts master busy store →
    action.runFrom store = (.ok value, after) → OpensClean store.world after.world →
      Hosts master busy after ∧ Gathers master apart store.world after.world

namespace Tends

variable {α β : Type} {master busy : Nat} {apart : Bool}

/-! ## Putting together -/

/-- What only looks tends to any letter. -/
theorem of_looks {action : Work α} (looks : Looks action) : Tends master busy apart action where
  lasts := .of_same looks.world
  spares {store} _ _ := by
    rw [looks.world store]
    exact .refl store.world
  gathers {store value after} hosts ran _ := by
    have world : after.world = store.world := by
      have held := looks.world store
      rwa [ran] at held
    refine ⟨⟨?_, ?_, ?_, ?_⟩, ?_⟩
    · rw [looks.keeps ran]
      exact hosts.reports
    · rw [world]
      exact hosts.inside
    · rw [world]
      exact hosts.isBusy
    · rw [world]
      exact hosts.layout
    · rw [world]
      exact .of_still rfl rfl rfl

theorem pure (value : α) : Tends master busy apart (pure value : Work α) := of_looks (.pure value)

theorem throw (fault : Fault) : Tends master busy apart (throw fault : Work α) :=
  of_looks (.throw fault)

theorem liftExcept (outcome : Except Fault α) :
    Tends master busy apart (liftM outcome : Work α) := of_looks (.liftExcept outcome)

theorem lift (action : Local α) [Obeys .surrounded action] :
    Tends master busy apart (liftM action : Work α) := of_looks (.lift action)

theorem letter (k : Nat) : Tends master busy apart (letter k) := of_looks (.letter k)

theorem nameOf (k : Nat) : Tends master busy apart (nameOf k) := of_looks (.nameOf k)

theorem bind {action : Work α} {next : α → Work β} (begun : Tends master busy apart action)
    (ended : ∀ value, Tends master busy apart (next value)) :
    Tends master busy apart (action >>= next) where
  lasts := begun.lasts.bind fun value => (ended value).lasts
  spares {store} hosts clean := by
    rw [M.runFrom_bind] at clean ⊢
    have grows := (begun.lasts store).1
    have spared := begun.spares hosts
    rcases ran : action.runFrom store with ⟨fault | value, middle⟩
    · rw [ran] at clean spared
      exact spared clean
    · rw [ran] at clean spared grows
      have early := clean.early ((ended value).lasts middle)
      have first := spared early
      have late := (ended value).spares (begun.gathers hosts ran early).1
        (clean.late grows first.files)
      exact first.trans hosts.inside hosts.isBusy grows late
  gathers {store value after} hosts ran clean := by
    obtain ⟨found, middle, ran, done⟩ := M.runFrom_bind_eq_ok.mp ran
    have grows := (begun.lasts store).1
    have lasts := (ended found).lasts middle
    have spared := begun.spares hosts
    rw [done] at lasts
    rw [ran] at spared grows
    have early := clean.early lasts
    have first := spared early
    obtain ⟨hosting, gathered⟩ := begun.gathers hosts ran early
    have later := clean.late grows first.files
    obtain ⟨hosts_, gathers⟩ := (ended found).gathers hosting done later
    have late := (ended found).spares hosting
    rw [done] at late
    exact ⟨hosts_, .trans hosts.inside hosts.isBusy grows lasts (late later) gathered gathers⟩

theorem seq {first : Work α} {second : Work β} (begun : Tends master busy apart first)
    (ended : Tends master busy apart second) :
    Tends master busy apart (first >>= fun _ => second) :=
  bind begun fun _ => ended

theorem discard {action : Work α} (tends : Tends master busy apart action) :
    Tends master busy apart (discard action) :=
  tends.bind fun _ => pure _

theorem ite {condition : Prop} [Decidable condition] {first second : Work α}
    (holds : Tends master busy apart first) (fails : Tends master busy apart second) :
    Tends master busy apart (if condition then first else second) := by
  split
  · exact holds
  · exact fails

theorem forM {items : List β} {body : β → Work PUnit}
    (each : ∀ item, Tends master busy apart (body item)) :
    Tends master busy apart (items.forM body) := by
  induction items with
  | nil => exact pure _
  | cons item rest ih => exact (each item).seq ih

/-- What is said with the master being rendered holds whichever letter is. -/
theorem of_master {action : Work α} (tends : Tends master master apart action) :
    Tends master busy apart action where
  lasts := tends.lasts
  spares hosts clean :=
    (tends.spares { hosts with isBusy := hosts.inside } clean).of_master hosts.isBusy
  gathers {store value after} hosts ran clean := by
    obtain ⟨still, gathers⟩ := tends.gathers { hosts with isBusy := hosts.inside } ran clean
    have grows := (tends.lasts store).1
    rw [ran] at grows
    exact ⟨{ still with isBusy := Nat.lt_of_lt_of_le hosts.isBusy grows }, gathers⟩

/-! ## Templates -/

/-- The regime of what tends to a master while it is rendered itself. -/
def regime (master : Nat) (apart : Bool) : Regime Workspace where
  toDiscipline := .surrounded
  follows action := Tends master master apart action
  pureOut := pure
  throwOut := throw
  bindOut := bind
  lift keeps := of_looks (.of_keepsSurroundings keeps)

theorem process {host : Host Workspace}
    (hosted : ∀ subject name given, Tends master master apart (host subject name given))
    (bound : List (String × Value)) (part : Part) :
    Tends master busy apart (part.process host bound) := by
  have followed : Follows (regime master apart) (render host bound part.source) :=
    Follows.render (fun subject name given => ⟨hosted subject name given⟩) bound part.source
  have tends : Tends master busy apart (render host bound part.source) := of_master followed.followed
  refine ⟨Leads.process (fun subject name given => (hosted subject name given).lasts) bound part,
    fun {store} hosts clean => ?_, fun {store value after} hosts ran clean => ?_⟩
  · rw [Part.world_process] at clean ⊢
    exact tends.spares hosts clean
  · obtain ⟨text, last, done, -, rfl⟩ := Part.process_eq_ok_iff.mp ran
    obtain ⟨still, gathers⟩ := tends.gathers hosts done clean
    exact ⟨{ still with reports := still.reports }, gathers⟩

end Tends

end Work

end FormLetter
