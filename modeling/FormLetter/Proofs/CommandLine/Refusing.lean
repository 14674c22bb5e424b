import FormLetter.CommandLine.Run
import FormLetter.Proofs.Letter.Repeating

/-!
# Why a document is refused

Making a document fails for few reasons. Most of them the program is made to report: files that
cannot be used, archives that are none, parts that are not well formed, template code that runs into
trouble. The others are told by the letter alone, before any of its code runs: it lacks a part, or
it brings compiled parts of its own of which one is missing or no text, or there is something inside
of its manifest as if that were a directory. Only one comes from what code registers: a picture whose
name no manifest may hold.
-/

namespace FormLetter

open FormLetter.Script

/-- What comes of an action fails for some faults only. -/
def FailsFor {α : Type} (faults : Fault → Prop) (outcome : Except Fault α) : Prop :=
  ∀ fault, outcome = .error fault → faults fault

namespace FailsFor

variable {α β : Type} {faults : Fault → Prop}

theorem ok (value : α) : FailsFor faults (.ok value) := nofun

theorem error {fault : Fault} (isOne : faults fault) :
    FailsFor faults (.error fault : Except Fault α) := by
  intro problem failed
  cases failed
  exact isOne

theorem bind {outcome : Except Fault α} {next : α → Except Fault β}
    (first : FailsFor faults outcome) (second : ∀ value, FailsFor faults (next value)) :
    FailsFor faults (outcome >>= next) := by
  cases outcome with
  | error fault => exact error (first fault rfl)
  | ok value => exact second value

end FailsFor

/-! ## Files that cannot be used -/

namespace CommandLine

/-- What the program is made to report when it goes wrong. -/
def Told {α : Type} (outcome : Except Fault α) : Prop := FailsFor (isReported · = true) outcome

end CommandLine

namespace Files

open FormLetter.CommandLine

variable (files : Files) (path : Path)

theorem told_refuse {α : Type} (problem : FileProblem) :
    Told (refuse path problem : Except Fault α) := .error rfl

theorem told_read : Told (files.read path) := by
  unfold read
  split
  · exact told_refuse path .isDirectory
  · exact .ok _
  · exact told_refuse path _

theorem told_write (item : Item) : Told (files.write path item) := by
  unfold write
  split
  · exact told_refuse path _
  · split
    · exact told_refuse path .isDirectory
    · exact .ok _
    · exact .ok _
    · exact told_refuse path .notDirectory
    · exact told_refuse path .missing

theorem told_makeDirectory : Told (files.makeDirectory path) := by
  unfold makeDirectory
  split
  · exact told_refuse path _
  · split
    · exact told_refuse path .present
    · exact .ok _
    · exact told_refuse path .notDirectory
    · exact told_refuse path .missing

theorem told_ensureDirectory : Told (files.ensureDirectory path).2 := by
  unfold ensureDirectory
  split
  · exact .ok _
  · split
    · exact .ok _
    · rename_i fault failed
      exact .error (told_makeDirectory files path fault failed)

/-- A directory that cannot be made, or one around it. -/
theorem told_makeWithin (depth : Nat) : Told (files.makeWithin path depth).2 := by
  induction depth generalizing files path with
  | zero => exact told_ensureDirectory files path
  | succ depth ih =>
    unfold makeWithin
    split
    · exact .ok _
    · split
      · exact told_ensureDirectory _ path
      · rename_i fault failed
        have around := ih files path.parent
        rw [failed] at around
        exact around
    · rename_i fault _ failed
      dsimp only
      split
      · exact .ok _
      · exact .error (told_makeDirectory files path fault failed)

theorem told_copy (target : Path) : Told (files.copy path target) := by
  unfold copy
  split
  · exact .error rfl
  · exact .bind (told_read files path) fun item => told_write files target item

end Files

namespace Package

open FormLetter.CommandLine

variable (files : Files)

theorem told_openAt (path : Path) : Told (Package.openAt files path) := by
  unfold openAt
  split
  · split
    · exact .ok _
    · exact .error rfl
  · exact .error rfl

theorem told_addFile (package : Package) (name : String) (source : Path) :
    Told (package.addFile files name source) := by
  refine .bind (files.told_read source) fun item => ?_
  cases item <;> exact .ok _

theorem told_writeBack (package : Package) : Told (package.writeBack files) := by
  unfold writeBack
  dsimp only
  split
  · exact Files.told_refuse _ _
  · split
    · exact .error rfl
    · exact files.told_write _ _

theorem told_close (package : Package) : Told (package.close files) := by
  unfold close commit
  split
  · exact .ok _
  · refine .bind ?_ fun committed => .ok _
    split
    · exact .bind (told_writeBack files package) fun written => .ok _
    · exact .ok _

end Package

namespace Script.Local

variable {α β : Type} {faults : Fault → Prop}

/-! ## What keeps to itself -/

/-- A computation that keeps to itself fails for some faults at most. -/
def MayFail (faults : Fault → Prop) (action : Local α) : Prop :=
  ∀ outlook heap, FailsFor faults (action.runFrom outlook heap).1

namespace MayFail

theorem pure (value : α) : MayFail faults (Pure.pure value) := fun _ _ => .ok value

theorem throw {fault : Fault} (isOne : faults fault) :
    MayFail faults (MonadExcept.throw fault : Local α) :=
  fun _ _ => .error isOne

theorem liftExcept {outcome : Except Fault α} (refuses : FailsFor faults outcome) :
    MayFail faults (liftM outcome : Local α) := by
  intro outlook heap
  cases outcome with
  | error fault => exact .error (refuses fault rfl)
  | ok value => exact .ok value

theorem report (level : Log.Level) (source : Log.Source) (message : String) :
    MayFail faults (Script.report level source message) := fun _ _ => .ok ()

theorem bind {action : Local α} {next : α → Local β} (first : MayFail faults action)
    (second : ∀ value, MayFail faults (next value)) : MayFail faults (action >>= next) := by
  intro outlook heap
  have begun := first outlook heap
  rw [runFrom_bind]
  rcases ran : action.runFrom outlook heap with ⟨fault | value, middle⟩
  · rw [ran] at begun
    exact .error (begun fault rfl)
  · exact second value outlook middle

theorem filterMapM {items : List α} {body : α → Local (Option β)}
    (each : ∀ item, MayFail faults (body item)) : MayFail faults (items.filterMapM body) := by
  have kept (items : List α) (found : List β) :
      MayFail faults (List.filterMapM.loop body items found) := by
    induction items generalizing found with
    | nil => exact pure _
    | cons item rest ih =>
      refine (each item).bind fun value => ?_
      cases value with
      | none => exact ih found
      | some value => exact ih (value :: found)
  exact kept items []

theorem allocate (cell : Cell) : MayFail faults (Script.allocate cell) := fun _ _ => .ok _

theorem newRecord (kind : RecordKind) (fields : List (String × Value)) :
    MayFail faults (Script.newRecord kind fields) := (allocate _).bind fun _ => .pure _

theorem surround (fields : List (String × Value)) : MayFail faults (Script.surround fields) :=
  fun _ _ => .ok _

end MayFail

mutual

/-- Data always has a value. -/
theorem mayFail_ofJson : ∀ data : Json, MayFail faults (ofJson data)
  | .null => .pure _
  | .bool _ => .pure _
  | .int _ => .pure _
  | .float _ => .pure _
  | .text _ => .pure _
  | .array items => (mayFail_ofItems items).bind fun _ => (MayFail.allocate _).bind fun _ => .pure _
  | .object members =>
    (mayFail_ofMembers members).bind fun _ => (MayFail.allocate _).bind fun _ => .pure _

theorem mayFail_ofItems : ∀ items : List Json, MayFail faults (ofItems items)
  | [] => .pure _
  | first :: rest =>
    (mayFail_ofJson first).bind fun _ => (mayFail_ofItems rest).bind fun _ => .pure _

theorem mayFail_ofMembers : ∀ members : List (String × Json), MayFail faults (ofMembers members)
  | [] => .pure _
  | (_, first) :: rest =>
    (mayFail_ofJson first).bind fun _ => (mayFail_ofMembers rest).bind fun _ => .pure _

end

theorem mayFail_bindings (data : List (String × Json)) :
    MayFail faults (Script.bindings data) := by
  unfold Script.bindings
  induction data with
  | nil => exact .pure _
  | cons first rest ih =>
    rw [List.mapM_cons]
    refine MayFail.bind ?_ fun _ => ih.bind fun _ => .pure _
    exact (mayFail_ofJson first.2).bind fun _ => .pure _

end Script.Local

namespace Work

variable {α β : Type} {id : Nat}

/-! ## How actions end -/

/-- An action that begins where one thing holds ends where another one does, unless it fails with
one of some faults. -/
def Ends (before : Workspace → Prop) (action : Work α) (after : Workspace → Prop)
    (faults : Fault → Prop) : Prop :=
  ∀ store, before store.world →
    (∀ value last, action.runFrom store = (.ok value, last) → after last.world) ∧
    FailsFor faults (action.runFrom store).1

/-- Nothing is asked of the workspace. -/
def Anywhere (_ : Workspace) : Prop := True

namespace Ends

variable {before between after : Workspace → Prop} {faults : Fault → Prop}

theorem bind {action : Work α} {next : α → Work β} (first : Ends before action between faults)
    (second : ∀ value, Ends between (next value) after faults) :
    Ends before (action >>= next) after faults := by
  intro store holds
  obtain ⟨ends, fails⟩ := first store holds
  rw [M.runFrom_bind]
  rcases begun : action.runFrom store with ⟨fault | found, middle⟩
  · rw [begun] at fails
    exact ⟨nofun, .error (fails fault rfl)⟩
  · exact second found middle (ends found middle begun)

/-- What changes nothing outside ends where it begins. -/
theorem of_same {action : Work α} (same : Leads Course.still action)
    (fails : ∀ store, FailsFor faults (action.runFrom store).1) :
    Ends before action before faults := by
  intro store holds
  refine ⟨fun value last ran => ?_, fails store⟩
  rw [same.world_eq ran]
  exact holds

theorem pure (value : α) : Ends before (pure value : Work α) before faults :=
  of_same (Leads.pure value) fun _ => .ok value

theorem throw {fault : Fault} (isOne : faults fault) :
    Ends before (throw fault : Work α) after faults := by
  intro store holds
  refine ⟨fun value last ran => ?_, .error isOne⟩
  cases ran

theorem liftExcept {outcome : Except Fault α} (refuses : FailsFor faults outcome) :
    Ends before (liftM outcome : Work α) before faults :=
  of_same (Leads.liftExcept outcome) fun _ => refuses

theorem lift {action : Local α} (mayFail : action.MayFail faults) :
    Ends before (liftM action : Work α) before faults :=
  of_same (Leads.lift action) fun store => mayFail (World.outlook store.world) store.toHeap

/-- What follows an outcome knows it. -/
theorem liftExcept_bind {outcome : Except Fault α} {next : α → Work β}
    (refuses : FailsFor faults outcome)
    (follows : ∀ value, outcome = .ok value → Ends before (next value) after faults) :
    Ends before (liftM outcome >>= next) after faults := by
  intro store holds
  rw [M.runFrom_bind, M.runFrom_liftExcept]
  cases outcome with
  | error fault => exact ⟨nofun, .error (refuses fault rfl)⟩
  | ok value => exact follows value rfl store holds

theorem report (level : Log.Level) (source : Log.Source) (message : String) :
    Ends before (liftM (Script.report level source message) : Work Unit) before faults :=
  lift (.report level source message)

theorem look (id : Nat) : Ends before (letter id) before faults :=
  of_same (leads_letter id) fun _ => .ok _

theorem lookFiles : Ends before files before faults := of_same leads_files fun _ => .ok _

theorem ite {condition : Prop} [Decidable condition] {first second : Work α}
    (holds : Ends before first after faults) (fails : Ends before second after faults) :
    Ends before (if condition then first else second) after faults := by
  split
  · exact holds
  · exact fails

theorem mapM {items : List α} {body : α → Work β}
    (each : ∀ item, Ends before (body item) before faults) :
    Ends before (items.mapM body) before faults := by
  induction items with
  | nil => exact pure _
  | cons item rest ih =>
    rw [List.mapM_cons]
    exact (each item).bind fun first => ih.bind fun others => pure _

/-- Where an action ends does not always count. -/
theorem anywhere {action : Work α} (ends : Ends before action after faults) :
    Ends before action Anywhere faults :=
  fun store holds => ⟨fun _ _ _ => trivial, (ends store holds).2⟩

/-- Where an action begins does not always count, either. -/
theorem strengthen {action : Work α} {stronger : Workspace → Prop}
    (ends : Ends before action after faults) (strengthens : ∀ world, stronger world → before world) :
    Ends stronger action after faults :=
  fun store holds => ends store (strengthens store.world holds)

/-- A change never fails. -/
theorem change {change : Letter → Letter}
    (changes : ∀ world, before world → after (world.modify id change)) :
    Ends before (Work.change id change) after faults := by
  intro store holds
  refine ⟨fun value last ran => ?_, .ok ()⟩
  rw [runFrom_change] at ran
  cases ran
  exact changes store.world holds

theorem change_anywhere (id : Nat) (change : Letter → Letter) :
    Ends Anywhere (Work.change id change) Anywhere faults :=
  Ends.change fun _ _ => trivial

end Ends

/-! ## The package meanwhile -/

/-- There is a letter of the usual layout, with a package of some kind. -/
def Among (id : Nat) (packages : Package → Prop) (world : Workspace) : Prop :=
  ∃ package, packages package ∧ Shows id packed (package, {}) world

/-- What the letter's package may be when the letter is ready: itself, if it came with compiled
parts, or else with the compiled parts in it. -/
inductive IsReadyOf (package : Package) : Package → Prop
  | same (compiled : package.has ({} : Layout).sourceDirectory = true) : IsReadyOf package package
  | keep (fresh : package.has ({} : Layout).sourceDirectory = false) (sources : Sources) :
    IsReadyOf package (sources.keep {} package)

/-- Why a letter with this package is refused, where the program is not made to report it. -/
inductive Untold (package : Package) : Fault → Prop
  /-- A letter without compiled parts lacks a part. -/
  | lacksPart {name : String} (fresh : package.has ({} : Layout).sourceDirectory = false)
    (isPart : name ∈ [({} : Layout).stylesPart, ({} : Layout).contentPart])
    (absent : package.content? name = none) : Untold package (.missingEntry name)
  /-- A letter that came with compiled parts lacks one. -/
  | lacksSource {name : String} (compiled : package.has ({} : Layout).sourceDirectory = true)
    (isSource : name ∈ [({} : Layout).stylesSource, ({} : Layout).contentSource])
    (absent : package.content? name = none) : Untold package (.missingEntry name)
  /-- A letter came with compiled parts, of which one is no text. -/
  | noText {name : String} {content : Content}
    (compiled : package.has ({} : Layout).sourceDirectory = true)
    (isSource : name ∈ [({} : Layout).stylesSource, ({} : Layout).contentSource])
    (held : package.content? name = some content)
    (noText : String.fromUTF8? content.bytes = none) : Untold package .notText
  /-- The manifest is a directory. -/
  | lacksManifest (listed : package.has ({} : Layout).manifestPart = true)
    (absent : package.content? ({} : Layout).manifestPart = none) :
    Untold package (.missingEntry ({} : Layout).manifestPart)
  /-- The manifest cannot hold the name of a picture. -/
  | foreignName (listed : package.has ({} : Layout).manifestPart = true) :
    Untold package (.trouble (.value .foreignCharacter))

theorem Untold.not_reported {package : Package} {fault : Fault} (untold : Untold package fault) :
    CommandLine.isReported fault = false := by
  cases untold <;> rfl

/-- Why a letter with this package is refused at all. -/
def Refused (package : Package) (fault : Fault) : Prop :=
  CommandLine.isReported fault = true ∨ Untold package fault

section

variable {packages : Package → Prop} {after : Workspace → Prop} {faults : Fault → Prop}

/-- What leaves the package of the letter as it is, and fails for some faults at most. -/
theorem Ends.of_leads {action : Work α} (leads : Leads (showing id packed) action)
    (fails : ∀ store, FailsFor faults (action.runFrom store).1) :
    Ends (Among id packages) action (Among id packages) faults := by
  rintro store ⟨package, isOne, shows⟩
  refine ⟨fun value last ran => ?_, fails store⟩
  have shown := shows.after_leads leads
  rw [ran] at shown
  exact ⟨package, isOne, shown⟩

/-- What comes after a look at the letter knows its package. -/
theorem Ends.letter_bind {next : Letter → Work α}
    (follows : ∀ found package, packages package → packed found = (package, {}) →
      Ends (Among id packages) (next found) after faults) :
    Ends (Among id packages) (letter id >>= next) after faults := by
  rintro store ⟨package, isOne, shows⟩
  rw [M.runFrom_bind, runFrom_letter]
  exact follows (store.world.letter id) package isOne shows.2 store ⟨package, isOne, shows⟩

theorem Ends.changePackage {change : Package → Package} {packagesAfter : Package → Prop}
    (changes : ∀ package, packages package → packagesAfter (change package)) :
    Ends (Among id packages) (Work.changePackage id change) (Among id packagesAfter) faults := by
  refine Ends.change ?_
  rintro world ⟨package, isOne, inside, shown⟩
  obtain ⟨samePackage, sameLayout⟩ := Prod.mk.inj shown
  refine ⟨change package, changes package isOne, ?_, ?_⟩
  · exact Nat.lt_of_lt_of_eq inside (Workspace.size_modify _ _ _).symm
  · rw [Workspace.letter_modify_self inside]
    exact Prod.ext (congrArg change samePackage) sameLayout

theorem Ends.changeUnpacked {change : Letter → Letter}
    (same : ∀ letter, packed (change letter) = packed letter) :
    Ends (Among id packages) (Work.change id change) (Among id packages) faults :=
  .of_leads (shows_change same) fun _ => .ok ()

end

/-! ## Getting ready -/

section

variable {origin : Package}

/-- Parts that cannot be compiled: one is missing, or one is not well formed. -/
theorem refused_of_sources (fresh : origin.has ({} : Layout).sourceDirectory = false) :
    FailsFor (Refused origin) origin.sources := by
  have reads {name : String}
      (isPart : name ∈ [({} : Layout).stylesPart, ({} : Layout).contentPart]) :
      FailsFor (Refused origin) (origin.read name) := by
    unfold Package.read
    split
    · exact .ok _
    · rename_i absent
      exact .error (.inr (.lacksPart fresh isPart absent))
  have indents (bytes : ByteArray) : FailsFor (Refused origin) (indented bytes) := by
    unfold indented
    split
    · exact .ok _
    · exact .error (.inl rfl)
  have rereads (text : List Char) : FailsFor (Refused origin) (Part.readRendered text) := by
    unfold Part.readRendered
    split
    · exact .ok _
    · exact .error (.inl rfl)
  unfold Package.sources Sources.ofParts
  refine .bind (reads (by simp)) fun stylesBytes => .bind (indents stylesBytes) fun styles => ?_
  refine .bind (reads (by simp)) fun contentBytes => .bind (indents contentBytes) fun content => ?_
  exact .bind (rereads styles) fun _ => .bind (rereads content) fun _ => .ok _

/-- Getting ready compiles a letter without compiled parts. -/
theorem ends_makeReady :
    Ends (Among id (· = origin)) (makeReady id) (Among id (IsReadyOf origin)) (Refused origin) := by
  rintro store ⟨package, rfl, inside, shown⟩
  obtain ⟨samePackage, sameLayout⟩ := Prod.mk.inj shown
  have isCompiled : (store.world.letter id).isCompiled
      = package.has ({} : Layout).sourceDirectory := by
    unfold Letter.isCompiled
    rw [samePackage, sameLayout]
  unfold makeReady
  rw [M.runFrom_bind, runFrom_letter]
  dsimp only
  rw [isCompiled]
  cases compiled : package.has ({} : Layout).sourceDirectory with
  | true =>
    rw [if_pos rfl]
    refine ⟨fun value last ran => ?_, .ok ()⟩
    cases ran
    exact ⟨package, .same compiled, inside, shown⟩
  | false =>
    rw [if_neg Bool.false_ne_true]
    obtain ⟨log, change, ran, compiles⟩ := compile_runs samePackage sameLayout
    change (∀ value last, M.runFrom (compile id >>= fun _ => pure ()) store = _ → _) ∧
      FailsFor _ (M.runFrom (compile id >>= fun _ => pure ()) store).1
    rw [M.runFrom_bind, ran]
    have kept := compiles.package _ samePackage
    cases made : package.sources with
    | error problem => exact ⟨nofun, .error (refused_of_sources compiled problem made)⟩
    | ok sources =>
      rw [made] at kept
      refine ⟨fun value last ended => ?_, .ok ()⟩
      cases ended
      have layout := congrArg (fun seen => seen.1.2) (compiles.aside (store.world.letter id))
      refine ⟨_, .keep compiled sources, ?_, ?_⟩
      · exact Nat.lt_of_lt_of_eq inside (Workspace.size_modify _ _ _).symm
      · rw [Workspace.letter_modify_self inside]
        exact Prod.ext kept (layout.trans sameLayout)

/-- A compiled part that cannot be read came with the letter. -/
theorem refused_of_readText {package : Package} {name : String}
    (isSource : name ∈ [({} : Layout).stylesSource, ({} : Layout).contentSource])
    (ready : IsReadyOf origin package) : FailsFor (Refused origin) (package.readText name) := by
  cases ready with
  | same compiled =>
    unfold Package.readText Package.read
    cases held : origin.content? name with
    | none => exact .error (.inr (.lacksSource compiled isSource held))
    | some content =>
      dsimp only [bind, Except.bind]
      split
      · exact .ok _
      · rename_i noText
        exact .error (.inr (.noText compiled isSource held noText))
  | keep fresh sources =>
    have kept : Package.Ready sources origin (sources.keep {} origin) := .keep
    rw [List.mem_cons, List.mem_singleton] at isSource
    obtain rfl | rfl := isSource
    · rw [kept.styles]
      exact .ok _
    · rw [kept.content]
      exact .ok _

theorem ends_partOf {source : String} (name : String)
    (isSource : source ∈ [({} : Layout).stylesSource, ({} : Layout).contentSource]) :
    Ends (Among id (IsReadyOf origin)) (partOf id source name) (Among id (IsReadyOf origin))
      (Refused origin) := by
  unfold partOf Work.source
  refine Ends.bind (Ends.letter_bind fun found package ready shown => ?_) fun text => .pure _
  refine Ends.bind (Ends.liftExcept ?_) fun text => .pure _
  rw [(Prod.mk.inj shown).1]
  exact refused_of_readText isSource ready

end

/-! ## Rendering and saving -/

section

variable {origin : Package}

/-- The program is made to report that a part cannot be rendered. -/
theorem told_process {host : Host Workspace} (bound : List (String × Value)) (part : Part)
    (store : Store Workspace) : CommandLine.Told ((part.process host bound).runFrom store).1 := by
  unfold Part.process
  rw [M.runFrom_bind]
  change CommandLine.Told (M.runFrom (attempt _ >>= _) store).1
  rw [M.runFrom_bind, M.runFrom_attempt]
  dsimp only
  rcases (render host bound part.source).runFrom store with ⟨fault | text, after⟩
  · exact .error rfl
  · exact .ok _

theorem refused_of_told {outcome : Except Fault α} (told : CommandLine.Told outcome) :
    FailsFor (Refused origin) outcome := fun fault failed => .inl (told fault failed)

section

variable {host : Host Workspace} (hosted : KeepsAll host)

include hosted

theorem ends_renderPart {packages : Package → Prop} {keep : Part → Letter → Letter}
    (same : ∀ part letter, packed (keep part letter) = packed letter)
    (bound : List (String × Value)) (part : Part) :
    Ends (Among id packages) (renderPart host bound keep id part) (Among id packages)
      (Refused origin) := by
  have calls (subject : Value) (name : String) (given : Given) :
      Leads (showing id packed) (host subject name given) :=
    shows_of_keeps (hosted _ subject name given) packed_bare
  have processes : Ends (Among id packages) (part.process host bound) (Among id packages)
      (Refused origin) :=
    .of_leads (Leads.process calls bound part) fun store =>
      refused_of_told (told_process bound part store)
  unfold renderPart
  refine (Ends.changeUnpacked (same part)).bind fun _ => processes.bind fun rendered => ?_
  exact (Ends.changeUnpacked (same rendered)).bind fun _ => .pure _

theorem ends_renderParts (occasion : Occasion) :
    Ends (Among id (· = origin)) (renderParts host id occasion) (Among id (IsReadyOf origin))
      (Refused origin) := by
  have binds : Ends (Among id (IsReadyOf origin)) (bindings id occasion)
      (Among id (IsReadyOf origin)) (Refused origin) := by
    unfold bindings
    refine (Ends.look id).bind fun template => (Ends.look _).bind fun master => ?_
    exact (Ends.lift (.surround _)).bind fun surroundings => .pure _
  have names : Ends (Among id (IsReadyOf origin)) (nameOf id) (Among id (IsReadyOf origin))
      (Refused origin) := .of_same (leads_nameOf id) fun _ => .ok _
  have stylesKept (part : Part) (letter : Letter) :
      packed (letter.withStyles part) = packed letter := rfl
  have contentKept (part : Part) (letter : Letter) :
      packed (letter.withContent part) = packed letter := rfl
  have isStyles : ({} : Layout).stylesSource ∈
      [({} : Layout).stylesSource, ({} : Layout).contentSource] := List.mem_cons_self
  have isContent : ({} : Layout).contentSource ∈
      [({} : Layout).stylesSource, ({} : Layout).contentSource] :=
    List.mem_cons_of_mem _ List.mem_cons_self
  have prepares : Ends (Among id (· = origin)) (prepare id occasion) (Among id (IsReadyOf origin))
      (Refused origin) := by
    unfold prepare
    refine ends_makeReady.bind fun _ => Ends.letter_bind fun found _ _ shown => ?_
    rw [(Prod.mk.inj shown).2]
    refine binds.bind fun bound => names.bind fun name => (Ends.report _ _ _).bind fun _ => ?_
    exact (ends_partOf _ isStyles).bind fun part => .pure _
  have styles : Ends (Among id (· = origin)) (renderStyles host id occasion)
      (Among id (IsReadyOf origin)) (Refused origin) := by
    unfold renderStyles
    refine prepares.bind fun prepared => (ends_renderPart hosted stylesKept _ _).bind fun _ => ?_
    refine Ends.letter_bind fun found _ _ shown => ?_
    rw [(Prod.mk.inj shown).2]
    exact (ends_partOf _ isContent).bind fun part => .pure _
  unfold renderParts
  refine styles.bind fun begun => (ends_renderPart hosted contentKept _ _).bind fun _ => ?_
  exact .pure _

end

/-- Styles that cannot be merged were not rendered, or are not well formed. -/
theorem told_mergeStyles (part : Part) (sources : List Part.StyleSource) :
    Local.MayFail (CommandLine.isReported · = true) (part.mergeStyles sources) := by
  have rereads (text : List Char) : CommandLine.Told (Part.readRendered text) := by
    unfold Part.readRendered
    split
    · exact .ok _
    · exact .error rfl
  unfold Part.mergeStyles
  split
  · exact .throw rfl
  · rename_i rendered _
    refine .bind (.liftExcept (rereads rendered)) fun root => ?_
    refine .bind (.filterMapM fun source => ?_) fun documents => ?_
    · split
      · exact .bind (.report _ _ _) fun _ => .pure _
      · rename_i text _
        exact .bind (.liftExcept (rereads text)) fun document => .pure _
    · exact .bind (.report _ _ _) fun _ => .pure _

theorem ends_addEnclosed {packages : Package → Prop} :
    Ends (Among id packages) (addEnclosed id) (Among id packages) (Refused origin) := by
  have merges : Ends (Among id packages) (mergeEnclosures id) (Among id packages)
      (Refused origin) := by
    unfold mergeEnclosures
    refine (Ends.of_same leads_workspace fun _ => .ok _).bind fun found => ?_
    split
    · exact .pure _
    · rename_i part _
      have told : Local.MayFail (Refused origin) (part.mergeStyles (sharedStyles found id)) :=
        fun outlook heap => refused_of_told (told_mergeStyles part _ outlook heap)
      exact (Ends.lift told).bind fun merged => .changeUnpacked fun _ => rfl
  unfold addEnclosed
  exact (Ends.look id).bind fun before => .ite (.pure _) merges

/-! ## Adding pictures -/

/-- The manifest that pictures are listed in is the one that came with the letter. -/
theorem IsReadyOf.agrees {package : Package} (ready : IsReadyOf origin package) :
    Package.Agrees ({} : Layout).manifestPart origin package := by
  cases ready with
  | same compiled => exact .refl origin
  | keep fresh sources => exact Package.agrees_keep sources origin

/-- A manifest in which pictures cannot be listed. -/
theorem refused_of_register {package : Package} (added : List String)
    (agrees : Package.Agrees ({} : Layout).manifestPart origin package)
    (listed : package.has ({} : Layout).manifestPart = true) :
    FailsFor (Refused origin) (package.read ({} : Layout).manifestPart) ∧
      ∀ bytes, FailsFor (Refused origin) (Manifest.extended added bytes) := by
  rw [agrees.has] at listed
  constructor
  · unfold Package.read
    rw [agrees.content]
    split
    · exact .ok _
    · rename_i absent
      exact .error (.inr (.lacksManifest listed absent))
  · intro bytes
    unfold Manifest.extended
    split
    · exact .error (.inl rfl)
    · split
      · exact .ok _
      · exact .error (.inr (.foreignName listed))

theorem ends_register (added : List String) :
    Ends (Among id (Package.Agrees ({} : Layout).manifestPart origin)) (register id added)
      Anywhere (Refused origin) := by
  unfold register
  refine Ends.letter_bind fun found package agrees shown => ?_
  obtain ⟨samePackage, sameLayout⟩ := Prod.mk.inj shown
  rw [samePackage, sameLayout]
  dsimp only
  split
  · rename_i listed
    obtain ⟨reads, extends_⟩ := refused_of_register added agrees listed
    refine (Ends.liftExcept reads).bind fun bytes => ?_
    exact (Ends.liftExcept (extends_ bytes)).bind fun written => .change fun _ _ => trivial
  · exact (Ends.pure ()).anywhere

theorem ends_embedPicture (name : String) (path : Path) :
    Ends (Among id (Package.Agrees ({} : Layout).manifestPart origin)) (embedPicture id name path)
      (Among id (Package.Agrees ({} : Layout).manifestPart origin)) (Refused origin) := by
  unfold embedPicture
  refine Ends.letter_bind fun found package agrees shown => ?_
  obtain ⟨samePackage, sameLayout⟩ := Prod.mk.inj shown
  rw [samePackage, sameLayout]
  refine Ends.lookFiles.bind fun files => ?_
  refine Ends.liftExcept_bind (refused_of_told (Package.told_addFile files _ _ _)) fun after added => ?_
  refine Ends.bind (Ends.changePackage fun _ _ => ?_) fun _ => .pure _
  exact agrees.trans (.addFile (Package.apart_picture List.mem_cons_self name) added)

theorem ends_addPictures :
    Ends (Among id (IsReadyOf origin)) (addPictures id) Anywhere (Refused origin) := by
  have makes : Ends (Among id (Package.Agrees ({} : Layout).manifestPart origin))
      (makePictureDirectory id) (Among id (Package.Agrees ({} : Layout).manifestPart origin))
      (Refused origin) := by
    rintro store ⟨package, agrees, shows⟩
    obtain ⟨middle, ran, -, shown⟩ := makePictureDirectory_holding ⟨rfl, shows⟩
    rw [ran]
    refine ⟨fun value last ended => ?_, .ok ()⟩
    cases ended
    exact ⟨_, agrees.trans (Package.agrees_withPictureDirectory List.mem_cons_self package), shown⟩
  have embeds : Ends (Among id (Package.Agrees ({} : Layout).manifestPart origin))
      (embedPictures id) Anywhere (Refused origin) := by
    unfold embedPictures
    refine makes.bind fun _ => (Ends.look id).bind fun before => ?_
    refine Ends.bind (Ends.mapM fun picture => ?_) fun added => ?_
    · exact ends_embedPicture picture.1 picture.2
    · exact (ends_register added).bind fun _ => .report _ _ _
  unfold addPictures
  refine (Ends.look id).bind fun before => .ite (Ends.pure ()).anywhere (embeds.strengthen ?_)
  rintro world ⟨package, ready, shows⟩
  exact ⟨package, ready.agrees, shows⟩

/-! ## Whole letters -/

/-- A letter with this package that cannot be rendered is refused. -/
theorem ends_process (occasion : Occasion) :
    Ends (Among id (· = origin)) (process id occasion) Anywhere (Refused origin) := by
  have fills : Ends (Among id (· = origin)) (fill (hostWithin enclosureLimit) id occasion)
      Anywhere (Refused origin) := by
    unfold fill addRegistered
    refine (ends_renderParts (keepsAll_hostWithin _) occasion).bind fun parts => ?_
    exact ends_addEnclosed.bind fun _ => ends_addPictures
  intro store holds
  refine ⟨fun _ _ _ => trivial, ?_⟩
  unfold process
  rw [processWith_eq]
  exact (fills store holds).2

theorem ends_save : Ends Anywhere (save id) Anywhere (Refused origin) := by
  unfold save
  refine (Ends.look id).bind fun before => ?_
  dsimp only
  split
  · exact .throw (.inl rfl)
  · refine (Ends.change_anywhere id _).bind fun _ => ?_
    split
    · exact .pure _
    · exact .change_anywhere id _

theorem ends_close : Ends Anywhere (close id) Anywhere (Refused origin) := by
  have closes : Ends Anywhere (closePackage id) Anywhere (Refused origin) := by
    intro store _
    refine ⟨fun _ _ _ => trivial, ?_⟩
    rcases closePackage_cases id store with ⟨fault, failed, ran⟩ | ⟨_, _, _, -, ran⟩
    · rw [ran]
      exact .error (.inl (Package.told_close _ _ fault failed))
    · rw [ran]
      exact .ok _
  unfold close
  exact (Ends.look id).bind fun before => (Ends.change_anywhere id _).bind fun _ => closes

end

/-! ## Orders -/

/-- An order names its files by texts, or not at all. -/
def Order.NamesFiles (order : Order) : Prop :=
  ∀ name ∈ ["template_file", "output_file"],
    order.options.lookup name = some .null ∨ ∃ text, order.options.lookup name = some (.text text)

/-- An action that always gives this value, and leaves everything as it is. -/
def Yields (action : Work α) (value : α) : Prop :=
  ∀ store, action.runFrom store = (.ok value, store)

theorem Yields.bind {before after : Workspace → Prop} {faults : Fault → Prop} {action : Work α}
    {value : α} {next : α → Work β} (yields : Yields action value)
    (follows : Ends before (next value) after faults) :
    Ends before (action >>= next) after faults := by
  intro store holds
  rw [M.runFrom_bind, yields store]
  exact follows store holds

/-- An option that names a file is true when it is a text that is not empty. -/
theorem Order.NamesFiles.option {order : Order} (names : order.NamesFiles) {name : String}
    (isName : name ∈ ["template_file", "output_file"]) :
    ∃ value isGiven, Yields (order.option name) value ∧ Yields (liftM (isTrue value)) isGiven ∧
      (isGiven = true → ∃ path, Yields (pathArgument value) path) := by
  unfold Order.option
  rcases names name isName with given | ⟨text, given⟩
  · rw [given]
    exact ⟨.none, false, fun _ => rfl, fun _ => rfl, nofun⟩
  · rw [given]
    exact ⟨.ofString text, text.toList.length != 0, fun _ => rfl, fun _ => rfl,
      fun _ => ⟨_, fun _ => rfl⟩⟩

theorem ends_copyTemplate {template output : Value} {source target : Path}
    (givesSource : Yields (pathArgument template) source)
    (givesTarget : Yields (pathArgument output) target) :
    Ends Anywhere (copyTemplate template output) Anywhere (CommandLine.isReported · = true) := by
  have makes (path : Path) :
      Ends Anywhere (makeDirectories path) Anywhere (CommandLine.isReported · = true) := by
    intro store _
    rw [runFrom_makeDirectories]
    exact ⟨fun _ _ _ => trivial, Files.told_makeWithin _ _ _⟩
  have sets (files : Files) :
      Ends Anywhere (setFiles files) Anywhere (CommandLine.isReported · = true) :=
    fun _ _ => ⟨fun _ _ _ => trivial, .ok ()⟩
  unfold copyTemplate
  refine givesSource.bind (Ends.lookFiles.bind fun found => .ite (.throw rfl) ?_)
  refine givesTarget.bind ((makes _).bind fun _ => Ends.lookFiles.bind fun found => ?_)
  refine Ends.bind (Ends.liftExcept (found.told_copy source target)) fun copied => ?_
  exact (sets copied).bind fun _ => .pure _

theorem ends_openAt (layout : Layout) (path : Path) :
    Ends Anywhere (openAt layout path) Anywhere (CommandLine.isReported · = true) := by
  have adds (new : Letter) : Ends Anywhere (add new) Anywhere (CommandLine.isReported · = true) :=
    fun _ _ => ⟨fun _ _ _ => trivial, .ok _⟩
  unfold openAt
  refine Ends.lookFiles.bind fun found => ?_
  refine Ends.bind (Ends.liftExcept (Package.told_openAt found path)) fun package => ?_
  refine (Ends.report _ _ _).bind fun _ => ?_
  exact (Ends.of_same Leads.heap fun _ => .ok _).bind fun heap => adds _

/-- A document that cannot be begun is told. -/
theorem ends_openDraft {order : Order} (names : order.NamesFiles) :
    Ends Anywhere (openDraft order) Anywhere (CommandLine.isReported · = true) := by
  have isTemplateName : "template_file" ∈ ["template_file", "output_file"] := by simp
  have isOutputName : "output_file" ∈ ["template_file", "output_file"] := by simp
  obtain ⟨template, hasTemplate, isTemplate, templateGiven, source⟩ := names.option isTemplateName
  obtain ⟨output, hasOutput, isOutput, outputGiven, target⟩ := names.option isOutputName
  unfold openDraft
  refine isTemplate.bind (isOutput.bind (templateGiven.bind (outputGiven.bind ?_)))
  split
  · exact .throw rfl
  · rename_i given
    have both : hasTemplate = true ∧ hasOutput = true := by simpa using given
    obtain ⟨source, isSource⟩ := source both.1
    obtain ⟨target, isTarget⟩ := target both.2
    refine (ends_copyTemplate isSource isTarget).bind fun paths => ?_
    refine (ends_openAt _ _).bind fun id => (Ends.lift (Local.mayFail_ofJson _)).bind fun data => ?_
    refine (Ends.lift (Local.mayFail_bindings _)).bind fun fields => ?_
    exact (Ends.lift (.newRecord _ _)).bind fun options => .pure _

/-- A document of an order is refused for what is told, or for what its letter's file is. -/
theorem deliver_refused {order : Order} (names : order.NamesFiles) (start : Store Workspace) :
    FailsFor (fun fault => CommandLine.isReported fault = true ∨
        ∃ source target archive, order.Gives "template_file" source ∧
          order.Gives "output_file" target ∧
          Package.archiveAt? start.world.files source = some archive ∧
          Untold (Package.ofArchive target archive) fault)
      ((deliver order none).runFrom start).1 := by
  unfold deliver
  rw [M.runFrom_bind]
  have begins := (ends_openDraft names start trivial).2
  rcases opened : (openDraft order).runFrom start with ⟨fault | draft, middle⟩
  · rw [opened] at begins
    exact .error (.inl (begins fault rfl))
  obtain ⟨-, -, opens⟩ := openDraft_cases opened
  have opens := opens draft rfl
  obtain ⟨isLenient, archive, isArchive, letter⟩ := opens.letter_eq
  have among : Among draft.id (· = Package.ofArchive draft.target archive) middle.world := by
    refine ⟨_, rfl, opens.inside, ?_⟩
    rw [letter]
    rfl
  have fills : Ends (Among draft.id (· = Package.ofArchive draft.target archive)) (do
      fillDraft draft
      changeDraft none draft.id
      close draft.id
      report .info .document ("Rendered " ++ draft.source.name ++ " into " ++ draft.target.toString)
      return draft.target) Anywhere (Refused (Package.ofArchive draft.target archive)) := by
    refine Ends.bind ((ends_process _).bind fun _ => ends_save) fun _ => ?_
    refine (Ends.pure ()).bind fun _ => ends_close.bind fun _ => ?_
    exact (Ends.report _ _ _).bind fun _ => .pure _
  intro fault failed
  refine ((fills middle among).2 fault failed).imp_right fun untold => ?_
  exact ⟨draft.source, draft.target, archive, opens.copies.template, opens.copies.output, isArchive,
    untold⟩

end Work

end FormLetter
