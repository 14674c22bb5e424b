import FormLetter.Proofs.Letter.Gathering

/-!
# Letters that enclose letters

Rendering a letter tends to the master, and so does enclosing another one: that letter is opened,
rendered with the same master, closed and registered. Each of them may enclose further letters, to
any depth. Whatever fails on the way, the letters that were opened are put away, and their files are
what they were.
-/

namespace FormLetter

open FormLetter.Script

namespace Work

open Workspace

variable {α : Type} {master busy : Nat} {apart : Bool}

namespace Tends

/-! ## Steps of rendering a letter -/

/-- A change of a letter that leaves its path, its layout and its registers. -/
structure Leaves (change : Letter → Letter) : Prop where
  path : ∀ letter, (change letter).path = letter.path
  layout : ∀ letter, (change letter).layout = letter.layout
  pictures : ∀ letter, (change letter).pictures = letter.pictures
  enclosures : ∀ letter, (change letter).enclosures = letter.enclosures

/-- The letter that is being rendered may change, but for what it leaves. -/
theorem change {change : Letter → Letter} (leaves : Leaves change) :
    Tends master busy apart (Work.change busy change) := by
  have view {β : Type} {look : Letter → β} (same : ∀ letter, look (change letter) = look letter)
      {workspace : Workspace} (there : busy < workspace.letters.size) (k : Nat) :
      look ((workspace.modify busy change).letter k) = look (workspace.letter k) := by
    by_cases here : k = busy
    · subst here
      rw [letter_modify_self there, same]
    · rw [letter_modify_of_ne here]
  refine ⟨leads_lasting_change busy leaves.path, fun {store} hosts _ => ?_,
    fun {store value after} hosts ran _ => ?_⟩
  · rw [runFrom_change]
    exact
      { others := fun k _ _ notBusy => letter_modify_of_ne notBusy _
        pictures := fun _ => view leaves.pictures hosts.isBusy _
        enclosures := fun _ => view leaves.enclosures hosts.isBusy _
        files := rfl
        away := fun k opened => absurd opened.2 (by
          rw [size_modify]
          exact Nat.not_lt_of_le opened.1) }
  · rw [runFrom_change] at ran
    cases ran
    refine ⟨⟨hosts.reports, ?_, ?_, ?_⟩, .of_still ?_ ?_ ?_⟩
    · exact Nat.lt_of_lt_of_eq hosts.inside (size_modify _ _ _).symm
    · exact Nat.lt_of_lt_of_eq hosts.isBusy (size_modify _ _ _).symm
    · exact (view leaves.layout hosts.isBusy _).trans hosts.layout
    · exact size_modify _ _ _
    · exact view leaves.pictures hosts.isBusy _
    · exact view leaves.enclosures hosts.isBusy _

theorem changePackage (change : Package → Package) :
    Tends master busy apart (changePackage busy change) :=
  .change ⟨fun _ => rfl, fun _ => rfl, fun _ => rfl, fun _ => rfl⟩

theorem compile : Tends master busy apart (compile busy) := by
  have styles (text : List Char) : Leaves ({ · with rawStyles := some text }) :=
    ⟨fun _ => rfl, fun _ => rfl, fun _ => rfl, fun _ => rfl⟩
  have content (text : List Char) : Leaves ({ · with rawContent := some text }) :=
    ⟨fun _ => rfl, fun _ => rfl, fun _ => rfl, fun _ => rfl⟩
  unfold Work.compile
  refine (letter busy).bind fun before => (liftExcept _).bind fun bytes => ?_
  refine (liftExcept _).bind fun text => (change (styles text)).seq ?_
  refine (liftExcept _).bind fun bytes => ?_
  refine (liftExcept _).bind fun text => (change (content text)).seq ?_
  refine (liftExcept _).bind fun sources => (forM fun line => lift _).seq ?_
  exact (changePackage _).seq ((nameOf busy).bind fun name => (lift _).seq (pure _))

/-- Surroundings that report to the master may be made. -/
theorem surround {fields : List (String × Value)}
    (reports : (Surroundings.ofFields fields).occasion.master = master) :
    Tends master busy apart (liftM (surround fields) : Work Value) where
  lasts := .lift _
  spares _ _ := .refl _
  gathers {store value after} hosts ran _ := by
    rw [M.runFrom_lift] at ran
    obtain ⟨succeeded, rfl⟩ := Prod.mk.inj ran
    refine ⟨{ hosts with reports := fun found member => ?_ }, .of_still rfl rfl rfl⟩
    have made := surroundings_surround (Prod.ext succeeded rfl)
    rw [made, List.mem_append, List.mem_singleton] at member
    rcases member with old | rfl
    · exact hosts.reports found old
    · exact reports

theorem bindings {occasion : Occasion} (reports : occasion.master = master) :
    Tends master busy apart (bindings busy occasion) := by
  unfold Work.bindings
  refine (letter busy).bind fun template => (letter _).bind fun held => ?_
  refine Tends.bind (surround ?_) fun surroundings => pure _
  exact reports

theorem partOf (source name : String) : Tends master busy apart (partOf busy source name) := by
  unfold Work.partOf Work.source
  refine ((letter busy).bind fun found => (liftExcept _).bind fun text => pure _).bind fun text => ?_
  exact pure _

theorem prepare {occasion : Occasion} (reports : occasion.master = master) :
    Tends master busy apart (prepare busy occasion) := by
  have ready : Tends master busy apart (makeReady busy) := by
    unfold makeReady
    refine (letter busy).bind fun before => ite ?_ compile.discard
    exact (nameOf busy).bind fun name => lift _
  unfold Work.prepare
  refine ready.seq ((letter busy).bind fun found => (bindings reports).bind fun bound => ?_)
  refine (nameOf busy).bind fun name => (lift _).seq ?_
  exact (partOf _ _).bind fun part => pure _

section

variable {host : Host Workspace}
  (hosted : ∀ subject name given, Tends master master apart (host subject name given))

include hosted

theorem renderPart {keep : Part → Letter → Letter} (keeps : ∀ part, Leaves (keep part))
    (bound : List (String × Value)) (part : Part) :
    Tends master busy apart (renderPart host bound keep busy part) := by
  unfold Work.renderPart
  refine (change (keeps part)).seq ((process hosted bound part).bind fun rendered => ?_)
  exact (change (keeps rendered)).seq (pure _)

/-- Rendering the parts of a letter tends to its master, if what its code calls does. -/
theorem renderParts {occasion : Occasion} (reports : occasion.master = master) :
    Tends master busy apart (renderParts host busy occasion) := by
  have styles (part : Part) : Leaves (Letter.withStyles part) :=
    ⟨fun _ => rfl, fun _ => rfl, fun _ => rfl, fun _ => rfl⟩
  have content (part : Part) : Leaves (Letter.withContent part) :=
    ⟨fun _ => rfl, fun _ => rfl, fun _ => rfl, fun _ => rfl⟩
  have begins : Tends master busy apart (renderStyles host busy occasion) := by
    unfold renderStyles
    refine (prepare reports).bind fun prepared => (renderPart hosted styles _ _).bind fun part => ?_
    exact (letter busy).bind fun found => (partOf _ _).bind fun content => pure _
  unfold Work.renderParts
  exact begins.bind fun begun => (renderPart hosted content _ _).bind fun part => pure _

end

end Tends

/-! ## Showing a picture -/

/-- A picture is registered with a letter, or nothing happens. -/
def Puts (master : Nat) (before after : Workspace) : Prop :=
  after = before ∨ ∃ path, before.files.isFile path = true ∧
    after = before.modify master fun letter =>
      { letter with pictures := Keyed.put path.name path letter.pictures }

/-- An action that registers one picture at most. -/
structure PutsPicture (master : Nat) (action : Work α) : Prop where
  world : ∀ store : Store Workspace, Puts master store.world (action.runFrom store).2.world
  keeps : ∀ {store : Store Workspace} {value after}, action.runFrom store = (.ok value, after) →
    after.surroundings = store.surroundings

namespace PutsPicture

variable {β : Type}

theorem of_looks {action : Work α} (looks : Looks action) : PutsPicture master action :=
  ⟨fun store => .inl (looks.world store), looks.keeps⟩

theorem after_looking {action : Work α} {next : α → Work β} (begun : Looks action)
    (ended : ∀ value, PutsPicture master (next value)) : PutsPicture master (action >>= next) := by
  refine ⟨fun store => ?_, fun {store value after} ran => ?_⟩
  · have same := begun.world store
    rw [M.runFrom_bind]
    rcases ran : action.runFrom store with ⟨fault | value, middle⟩
    · rw [ran] at same
      exact .inl same
    · rw [ran] at same
      have puts := (ended value).world middle
      rwa [same] at puts
  · obtain ⟨found, middle, ran, done⟩ := M.runFrom_bind_eq_ok.mp ran
    exact ((ended found).keeps done).trans (begun.keeps ran)

theorem then_looking {action : Work α} {next : α → Work β} (begun : PutsPicture master action)
    (ended : ∀ value, Looks (next value)) : PutsPicture master (action >>= next) := by
  refine ⟨fun store => ?_, fun {store value after} ran => ?_⟩
  · have puts := begun.world store
    rw [M.runFrom_bind]
    rcases ran : action.runFrom store with ⟨fault | value, middle⟩
    · rw [ran] at puts
      exact puts
    · rw [ran] at puts
      have same := (ended value).world middle
      rwa [← same] at puts
  · obtain ⟨found, middle, ran, done⟩ := M.runFrom_bind_eq_ok.mp ran
    exact ((ended found).keeps done).trans (begun.keeps ran)

theorem addPicture (path : Path) : PutsPicture master (addPicture master path) := by
  refine ⟨fun store => ?_, fun {store value after} ran => ?_⟩
  · unfold Work.addPicture
    rw [M.runFrom_bind, runFrom_files]
    dsimp only
    split
    · rename_i isFile
      rw [M.runFrom_bind, runFrom_change]
      exact .inr ⟨path, isFile, rfl⟩
    · exact .inl rfl
  · unfold Work.addPicture at ran
    rw [M.runFrom_bind, runFrom_files] at ran
    dsimp only at ran
    split at ran
    · rw [M.runFrom_bind, runFrom_change] at ran
      cases ran
      rfl
    · cases ran

theorem showPicture (path width height name : Value) :
    PutsPicture master (showPicture master path width height name) := by
  unfold Work.showPicture
  refine after_looking (.pathArgument path) fun file => then_looking (addPicture file) fun shown => ?_
  refine (Looks.letter _).bind fun found => (Looks.lift _).bind fun isNamed => ?_
  refine (Looks.lift _).bind fun name => (Looks.lift _).bind fun width => ?_
  exact (Looks.lift _).bind fun height => .pure _

theorem surroundingsMethod (render : Renderer) {around : Surroundings}
    (reports : around.occasion.master = master) {name : String}
    (shows : name = "add_image" ∨ name = "image") (given : Given) :
    PutsPicture master (surroundingsMethod render around name given) := by
  subst reports
  obtain rfl | rfl := shows
  · unfold Work.surroundingsMethod
    refine after_looking (.bindMethod _ _ _ _) fun bound => ?_
    split
    · refine after_looking (.pathArgument _) fun path => ?_
      exact then_looking (addPicture path) fun name => .pure _
    · exact of_looks (.pure _)
  · unfold Work.surroundingsMethod
    refine after_looking (.bindMethod _ _ _ _) fun bound => ?_
    split
    · exact showPicture _ _ _ _
    · exact of_looks (.pure _)

end PutsPicture

/-- A register that stays leads every name to where it led before. -/
theorem lookup_of_stay {before after : List (String × Path)} (stays : stay before after = true)
    {name : String} {path : Path} (found : before.lookup name = some path) :
    after.lookup name = some path := by
  have member : (name, path) ∈ before := by
    induction before with
    | nil => cases found
    | cons first rest ih =>
      rw [Keyed.lookup_cons_eq] at found
      unfold stay at stays
      rw [List.all_cons, Bool.and_eq_true] at stays
      split at found
      · rename_i here
        cases found
        exact here ▸ List.mem_cons_self
      · exact List.mem_cons_of_mem _ (ih stays.2 found)
  exact beq_iff_eq.mp (List.all_eq_true.mp stays _ member)

/-- What registers a picture spares everything else. -/
theorem Puts.spares {before after : Workspace} (puts : Puts master before after) :
    Spares master master before after := by
  rcases puts with rfl | ⟨path, isFile, rfl⟩
  · exact .refl _
  · exact
      { others := fun k _ notMaster _ => letter_modify_of_ne notMaster _
        pictures := fun other => absurd rfl other
        enclosures := fun other => absurd rfl other
        files := rfl
        away := fun k opened => absurd opened.2 (by
          rw [size_modify]
          exact Nat.not_lt_of_le opened.1) }

/-- A picture that is registered is gathered, when it has to stay apart as long as it does. -/
theorem Puts.gathers {before after : Workspace} (inside : master < before.letters.size)
    (puts : Puts master before after)
    (stays : apart = true →
      stay (before.letter master).pictures (after.letter master).pictures = true) :
    Gathers master apart before after := by
  rcases puts with rfl | ⟨path, isFile, rfl⟩
  · exact .of_still rfl rfl rfl
  · have now := letter_modify_self inside fun letter : Letter =>
      { letter with pictures := Keyed.put path.name path letter.pictures }
    have none_ {k : Nat} (opened : Opened before (before.modify master fun letter : Letter =>
        { letter with pictures := Keyed.put path.name path letter.pictures }) k) : False := by
      have early := opened.1
      have late := opened.2
      rw [size_modify] at late
      omega
    refine
      { staged := ⟨[path], .picture inside isFile, fun _ other member => ?_⟩
        stays := fun isApart name other found => lookup_of_stay (stays isApart) found
        registers := fun key => .inl (by rw [now])
        encloses := fun _ k opened => (none_ opened).elim
        rendered := fun k opened => (none_ opened).elim }
    cases List.mem_singleton.mp member
    rw [now, Keyed.lookup_put, if_pos rfl]

/-- A call that fails and leaves the world as it is. -/
def Refuses (refused : Work α) : Prop :=
  ∀ store, ∃ fault last, refused.runFrom store = (.error fault, last) ∧ last.world = store.world

theorem Refuses.looks {refused : Work α} (refuses : Refuses refused) : Looks refused := by
  refine ⟨fun store => ?_, fun {store value after} ran => ?_⟩
  · obtain ⟨fault, last, failed, same⟩ := refuses store
    rw [failed]
    exact same
  · obtain ⟨fault, last, failed, same⟩ := refuses store
    rw [failed] at ran
    cases ran

/-- Showing a picture tends to the master when pictures that have to keep apart do. -/
theorem tends_confinedMethod_picture (render : Renderer) {around : Surroundings}
    (reports : around.occasion.master = master) {name : String}
    (shows : name = "add_image" ∨ name = "image") (given : Given) {refused : Work Value}
    (refuses : Refuses refused)
    (lasts : Leads lasting (confinedMethod apart render around name given refused)) :
    Tends master master apart (confinedMethod apart render around name given refused) := by
  have puts := PutsPicture.surroundingsMethod render reports shows given
  have checks (value : Value) (before : Letter) : Looks (do
      let after ← letter around.occasion.master
      if !apart || stay before.pictures after.pictures then return value else refused) :=
    (Looks.letter _).bind fun after => (Looks.pure _).ite refuses.looks
  have whole : PutsPicture master (confinedMethod apart render around name given refused) := by
    unfold confinedMethod
    exact .after_looking (.letter _) fun before => puts.then_looking fun value => checks value before
  refine ⟨lasts, fun {store} hosts _ => (whole.world store).spares, fun {store value after} hosts ran _ => ?_⟩
  have world := whole.world store
  rw [ran] at world
  have kept := whole.keeps ran
  have stays : apart = true → stay (store.world.letter master).pictures
      (after.world.letter master).pictures = true := by
    intro isApart
    unfold confinedMethod at ran
    rw [reports, isApart, M.runFrom_bind, runFrom_letter] at ran
    dsimp only at ran
    obtain ⟨found, middle, called, ran⟩ := M.runFrom_bind_eq_ok.mp ran
    rw [M.runFrom_bind, runFrom_letter] at ran
    dsimp only at ran
    split at ran
    · rename_i passes
      cases ran
      exact passes
    · obtain ⟨fault, last, failed, -⟩ := refuses middle
      rw [failed] at ran
      cases ran
  have size : after.world.letters.size = store.world.letters.size := by
    rcases world with same | ⟨path, isFile, same⟩
    · rw [same]
    · rw [same, size_modify]
  have layout : (after.world.letter master).layout = (store.world.letter master).layout := by
    rcases world with same | ⟨path, isFile, same⟩
    · rw [same]
    · rw [same, letter_modify_self hosts.inside]
  refine ⟨⟨?_, ?_, ?_, ?_⟩, world.gathers hosts.inside stays⟩
  · rw [kept]
    exact hosts.reports
  · exact Nat.lt_of_lt_of_eq hosts.inside size.symm
  · exact Nat.lt_of_lt_of_eq hosts.isBusy size.symm
  · exact layout.trans hosts.layout

/-! ## Rendering and closing a letter that was opened -/

/-- Closing a letter changes its package, the files and what was reported. -/
theorem close_leaves (k : Nat) (store : Store Workspace) :
    ∃ files package log, ((close k).runFrom store).2 = { store with
      log, world := ({ store.world with files }).modify k ({ · with package }) } := by
  unfold close
  rw [M.runFrom_bind, runFrom_letter]
  dsimp only
  rw [M.runFrom_bind, runFrom_changePackage]
  dsimp only
  rcases closePackage_cases k { store with world := store.world.modify k fun letter =>
      { letter with package := withoutSources (store.world.letter k).layout letter.package } } with
    ⟨fault, -, ran⟩ | ⟨package, files, log, -, ran⟩
  · rw [ran]
    let bared := withoutSources (store.world.letter k).layout (store.world.letter k).package
    have same : (store.world.modify k fun letter => { letter with
        package := withoutSources (store.world.letter k).layout letter.package })
        = store.world.modify k ({ · with package := bared }) := modify_congr rfl
    exact ⟨store.world.files, bared, store.log, congrArg (fun world => { store with world }) same⟩
  · rw [ran]
    have twice : (({ store.world with files }).modify k fun letter => { letter with
        package := withoutSources (store.world.letter k).layout letter.package }).modify k
          ({ · with package })
        = ({ store.world with files }).modify k ({ · with package }) := modify_modify _ _
    exact ⟨files, package, log, congrArg (fun world => { store with log, world }) twice⟩

/-- What is left when a letter that was only looked at is closed: its package holds the entries that
it was opened with, and everything else is as it was. -/
structure ClosesAway (k : Nat) (origin : Package) (before after : Store Workspace) : Prop where
  surroundings : after.surroundings = before.surroundings
  files : after.world.files = before.world.files
  size : after.world.letters.size = before.world.letters.size
  others : ∀ j ≠ k, after.world.letter j = before.world.letter j
  self : after.world.letter k
    = { before.world.letter k with package := (after.world.letter k).package }
  isClosed : (after.world.letter k).package.isClosed = true
  entries : (after.world.letter k).package.entries = origin.entries

theorem close_of_looked {k : Nat} {origin : Package} {store : Store Workspace}
    (isClean : origin.IsClean) (looked : Looked k origin store.world) :
    ∃ after, (close k).runFrom store = (.ok (), after) ∧ ClosesAway k origin store after := by
  obtain ⟨after, closes, files, size, entries, -, isClosed⟩ := looked.closes isClean store.toHeap
  have closes : (close k).runFrom store = (.ok (), after) := closes
  obtain ⟨found, package, log, leaves⟩ := close_leaves k store
  have leaves : after = { store with
      log, world := ({ store.world with files := found }).modify k ({ · with package }) } :=
    (congrArg Prod.snd closes).symm.trans leaves
  obtain ⟨_, -, inside, -⟩ := looked
  have self : after.world.letter k = { store.world.letter k with package } := by
    rw [leaves]
    exact letter_modify_self inside _
  refine ⟨after, closes, ?_, files, size, fun j differs => ?_, ?_, isClosed, entries⟩
  · rw [leaves]
    rfl
  · rw [leaves]
    exact letter_modify_of_ne differs _
  · rw [self]

section

variable {host : Host Workspace} {k : Nat}

/-- Filling a letter with which nothing is registered by then renders its parts, and no more. -/
theorem fill_of_unregistered {occasion : Occasion} {store : Store Workspace}
    (pictures : (((renderParts host k occasion).runFrom store).2.world.letter k).pictures = [])
    (enclosures : (((renderParts host k occasion).runFrom store).2.world.letter k).enclosures = []) :
    (fill host k occasion).runFrom store
      = (((renderParts host k occasion).runFrom store).1.map fun _ => (),
        ((renderParts host k occasion).runFrom store).2) := by
  unfold fill
  rw [M.runFrom_bind]
  rcases ran : (renderParts host k occasion).runFrom store with ⟨fault | parts, rendered⟩
  · rfl
  · rw [ran] at pictures enclosures
    have nothing : (addEnclosed k).runFrom rendered = (.ok (), rendered) := by
      unfold addEnclosed
      rw [M.runFrom_bind, runFrom_letter]
      dsimp only at enclosures ⊢
      rw [enclosures]
      rfl
    unfold addRegistered
    dsimp only
    rw [M.runFrom_bind, nothing]
    exact addPictures_none pictures

/-- What comes of rendering and closing a letter that was opened before a step, in which it is the
one that is rendered: it is put away, and it has styles when that succeeds. -/
structure Served (master : Nat) (apart : Bool) (k : Nat) (origin : Package) (before : Workspace)
    (outcome : Except Fault Unit) (after : Store Workspace) : Prop where
  spares : Spares master k before after.world
  grows : before.letters.size ≤ after.world.letters.size
  isClosed : (after.world.letter k).package.isClosed = true
  entries : (after.world.letter k).package.entries = origin.entries
  succeeds : outcome = .ok () → Hosts master k after ∧ Gathers master apart before after.world ∧
    ∃ text, (after.world.letter k).styles.bind (·.rendered) = some text

/-- A letter whose parts were rendered has the text of its styles. -/
theorem styles_of_renderParts (keeps : KeepsAll host) {occasion : Occasion}
    {store rendered : Store Workspace} {parts : Part × Part} (inside : k < store.world.letters.size)
    (ran : (renderParts host k occasion).runFrom store = (.ok parts, rendered)) :
    ∃ sheet, (rendered.world.letter k).styles.bind (·.rendered) = some sheet := by
  rcases renderParts_cases keeps inside with
    ⟨_, _, -, failed, -⟩ | ⟨_, _, _, _, -, -, failed, -⟩ |
      ⟨styles, content, last, done, -, held, ⟨sheet, isSheet⟩, -⟩
  · rw [ran] at failed
    cases failed
  · rw [ran] at failed
    cases failed
  · rw [ran] at done
    cases done
    refine ⟨sheet, ?_⟩
    rw [held]
    exact isSheet

/-- Letters last from where the parts of a letter were rendered to where it is closed. -/
theorem lasting_of_renderParts {occasion : Occasion} {store after : Store Workspace}
    {outcome : Except Fault Unit}
    (ran : (afterwards (processWith host k occasion) (close k)).runFrom store = (outcome, after)) :
    lasting.leads ((renderParts host k occasion).runFrom store).2.world after.world := by
  have filled : lasting.leads ((renderParts host k occasion).runFrom store).2.world
      ((fill host k occasion).runFrom store).2.world := by
    unfold fill
    rw [M.runFrom_bind]
    rcases (renderParts host k occasion).runFrom store with ⟨fault | parts, rendered⟩
    · exact lasting.refl _
    · exact leads_addRegistered (lasting_renders k).toFills (lasting_renders k).styles rendered
  have closed := leads_close lasting_admits (Nat.zero_le k)
    ((processWith host k occasion).runFrom store).2
  have last : after = ((close k).runFrom ((processWith host k occasion).runFrom store).2).2 := by
    rw [← M.snd_afterwards, ran]
  rw [last]
  refine lasting.trans filled (lasting.trans ?_ closed)
  rw [processWith_eq]
  exact lasting_modify _ _ k fun _ => rfl

/-- A letter that was just opened is spared by its own rendering what it is not to the master: it is
put away as it was opened, whether rendering it succeeds or fails. -/
theorem served_of_fresh (keeps : KeepsAll host)
    (hosted : ∀ subject name given, Tends master master apart (host subject name given))
    {origin : Package} {store after : Store Workspace} {occasion : Occasion}
    {outcome : Except Fault Unit} (reports : occasion.master = master) (other : k ≠ master)
    (hosts : Hosts master k store) (isClean : origin.IsClean)
    (shows : Shows k packed (origin, {}) store.world)
    (pictures : (store.world.letter k).pictures = [])
    (enclosures : (store.world.letter k).enclosures = [])
    (ran : (afterwards (processWith host k occasion) (close k)).runFrom store = (outcome, after))
    (clean : OpensClean store.world after.world) :
    Served master apart k origin store.world outcome after := by
  have tends : Tends master k apart (renderParts host k occasion) := .renderParts hosted reports
  have lasts := lasting_of_renderParts ran
  have early := clean.early lasts
  have spared := tends.spares hosts early
  have noPictures := (spared.pictures other).trans pictures
  have noEnclosures := (spared.enclosures other).trans enclosures
  have filled := fill_of_unregistered noPictures noEnclosures
  have grows := (tends.lasts store).1
  have readied := readying_renderParts keeps occasion store origin {} shows
  rcases rendering : (renderParts host k occasion).runFrom store with ⟨end_, rendered⟩
  rw [rendering] at filled spared lasts early grows readied noPictures noEnclosures
  dsimp only at spared lasts early grows readied noPictures noEnclosures
  have there : k < rendered.world.letters.size := Nat.lt_of_lt_of_le hosts.isBusy grows
  -- Once rendered, the letter is closed; nothing was registered with it that would be forgotten.
  let bared : Store Workspace := { rendered with world := rendered.world.modify k Letter.bare }
  have looked : Looked k origin bared.world := by
    obtain ⟨package, fills, inside, shown⟩ := Looked.of_readied (.refl origin) readied
    refine ⟨package, fills, Nat.lt_of_lt_of_eq inside (size_modify _ _ _).symm, ?_⟩
    rw [letter_modify_self there, packed_bare]
    exact shown
  have processed : (processWith host k occasion).runFrom store = (end_.map fun _ => (), bared) := by
    rw [processWith_eq, filled]
  obtain ⟨closed, closing, away⟩ := close_of_looked isClean looked
  have closes : (close k).runFrom ((processWith host k occasion).runFrom store).2
      = (.ok (), closed) := by
    rw [processed]
    exact closing
  rw [M.runFrom_afterwards_of_ok closes, processed] at ran
  cases ran
  have sameSize : after.world.letters.size = rendered.world.letters.size :=
    away.size.trans (size_modify _ _ _)
  have others {j : Nat} (differs : j ≠ k) : after.world.letter j = rendered.world.letter j :=
    (away.others j differs).trans (letter_modify_of_ne differs _)
  have self : after.world.letter k
      = { (rendered.world.letter k).bare with package := (after.world.letter k).package } := by
    rw [← letter_modify_self there Letter.bare]
    exact away.self
  have last : Spares master k rendered.world after.world :=
    { others := fun j _ _ differs => others differs
      pictures := fun _ => by rw [self, noPictures]; rfl
      enclosures := fun _ => by rw [self, noEnclosures]; rfl
      files := away.files
      away := fun j opened => absurd opened.2 (by
        rw [sameSize]
        exact Nat.not_lt_of_le opened.1) }
  refine ⟨spared.trans hosts.inside hosts.isBusy grows last, ?_, away.isClosed, away.entries,
    fun done => ?_⟩
  · exact Nat.le_trans grows (Nat.le_of_eq sameSize.symm)
  cases end_ with
  | error fault => cases done
  | ok parts =>
    obtain ⟨hosting, gathers⟩ := tends.gathers hosts rendering early
    have still : Gathers master apart rendered.world after.world :=
      .of_still sameSize (by rw [others other.symm]) (by rw [others other.symm])
    refine ⟨⟨?_, ?_, ?_, ?_⟩, ?_, ?_⟩
    · rw [away.surroundings]
      exact hosting.reports
    · exact Nat.lt_of_lt_of_eq hosting.inside sameSize.symm
    · exact Nat.lt_of_lt_of_eq there sameSize.symm
    · rw [others other.symm]
      exact hosting.layout
    · exact .trans hosts.inside hosts.isBusy grows lasts last gathers still
    · obtain ⟨sheet, isSheet⟩ := styles_of_renderParts keeps shows.1 rendering
      refine ⟨sheet, ?_⟩
      rw [self]
      exact isSheet

end

/-! ## Enclosing a letter -/

/-- A letter with which another one is registered. -/
def enclosing (key : String) (k : Nat) (letter : Letter) : Letter :=
  { letter with enclosures := Keyed.put key (.letter k) letter.enclosures }

/-- The store in which a letter that was opened and rendered is registered with its master. -/
def enclosedUnder (master : Nat) (key : String) (k : Nat) (store : Store Workspace) : Store Workspace :=
  { store with world := store.world.modify master (enclosing key k) }

/-- Only paths have the kind of paths. -/
theorem kind_ne_pathKind (letter : Letter) : (letter.kind == Letter.pathKind) = false := by
  unfold Letter.kind
  split
  · decide
  · refine beq_false_of_ne fun same => ?_
    have begins := congrArg (fun kind => kind.toList.head?) same
    simp [Letter.pathKind] at begins

theorem surroundings_of_openAt {layout : Layout} {path : Path} {k : Nat}
    {store after : Store Workspace} (opens : (openAt layout path).runFrom store = (.ok k, after)) :
    after.surroundings = store.surroundings := by
  rcases openAt_cases layout path store with ⟨fault, -, ran⟩ | ⟨package, log, -, ran⟩
  · rw [ran] at opens
    cases opens
  · rw [ran] at opens
    cases opens
    rfl

theorem snd_body (k : Nat) (store : Store Workspace) : ((body k).runFrom store).2 = store := by
  unfold body
  rw [M.runFrom_bind, runFrom_letter]
  dsimp only
  split
  · rfl
  · rename_i rendered _
    rw [M.runFrom_bind, M.runFrom_liftExcept]
    cases Part.readRendered rendered with
    | error fault => rfl
    | ok document => rfl

/-- A letter that was rendered is registered under its own number. -/
theorem runFrom_addEnclosure_value (master : Nat) (key : String) (k : Nat) (letter : Letter)
    (store : Store Workspace) :
    (addEnclosure master key (letter.value k)).runFrom store
      = (.ok (), enclosedUnder master key k store) := by
  unfold addEnclosure enclosureOf Letter.value
  dsimp only
  rw [kind_ne_pathKind, if_neg Bool.false_ne_true]
  rfl

/-- How enclosing a letter goes whose path is given as text: it cannot be opened, and nothing happens;
or it is opened, rendered and closed, and registered if that succeeds. -/
theorem enclose_cases {render : Renderer} {around : Surroundings} {content : List Char}
    {isMarkup : Bool} {data : Value} {store after : Store Workspace} {result : Except Fault Value}
    (ran : (enclose render around (.text content isMarkup) data).runFrom store = (result, after)) :
    (∃ fault, result = .error fault ∧ after.world = store.world) ∨
    ∃ package opened outcome served given,
      Package.openAt store.world.files (.ofString (String.ofList content)) = .ok package ∧
      opened.world = ⟨store.world.files, store.world.letters.push
        (.ofPackage (store.world.letter around.occasion.master).layout store.isLenient package)⟩ ∧
      opened.surroundings = store.surroundings ∧
      (afterwards (render store.world.letters.size { around.occasion with data := given })
        (close store.world.letters.size)).runFrom opened = (outcome, served) ∧
      ((∃ fault, outcome = .error fault ∧ result = .error fault ∧ after = served) ∨
        outcome = .ok () ∧ after = enclosedUnder around.occasion.master (String.ofList content)
          store.world.letters.size served) := by
  have named : pathArgument (.text content isMarkup)
      = pure (.ofString (String.ofList content)) := rfl
  have reads : (textOf (.text content isMarkup) : Local (List Char)) = pure content := rfl
  unfold enclose at ran
  dsimp only at ran
  rw [M.runFrom_bind, runFrom_letter, reads, named] at ran
  dsimp only at ran
  rw [pure_bind, M.runFrom_bind] at ran
  rcases opens : (openAt (store.world.letter around.occasion.master).layout
      (.ofString (String.ofList content))).runFrom store with ⟨fault | k, first⟩
  · rw [opens] at ran
    cases ran
    exact .inl ⟨fault, rfl, world_of_openAt_error opens⟩
  · rw [opens] at ran
    obtain ⟨rfl, package, isOpen, world⟩ := openAt_eq_ok opens
    have surroundings := surroundings_of_openAt opens
    let told (name masterName : String) : Store Workspace := { first with
      log := first.log ++
        [⟨.debug, .context, "Rendering partial " ++ name ++ " for " ++ masterName⟩] }
    have called (k : Nat) : (nameOf k).runFrom first = (.ok (first.world.letter k).path.name, first) :=
      rfl
    have tells (name masterName : String) :
        M.runFrom (liftM (report .debug .context
            ("Rendering partial " ++ name ++ " for " ++ masterName)) : Work Unit) first
          = (.ok (), told name masterName) := rfl
    dsimp only at ran
    rw [M.runFrom_bind, called] at ran
    dsimp only at ran
    rw [M.runFrom_bind, called] at ran
    dsimp only at ran
    rw [M.runFrom_bind, tells] at ran
    dsimp only at ran
    rw [M.runFrom_bind] at ran
    split at ran
    · rename_i served serves
      refine .inr ⟨package, _, _, served, _, isOpen, ?_, ?_, serves, .inr ⟨rfl, ?_⟩⟩
      · exact world
      · exact surroundings
      · have content_ : M.runFrom (liftM (pure content : Local (List Char)) : Work (List Char)) served
            = (.ok content, served) := rfl
        rw [M.runFrom_bind, content_] at ran
        dsimp only at ran
        rw [M.runFrom_bind, runFrom_letter] at ran
        dsimp only at ran
        rw [M.runFrom_bind, runFrom_addEnclosure_value] at ran
        dsimp only at ran
        rw [M.runFrom_bind] at ran
        have same := snd_body store.world.letters.size
          (enclosedUnder around.occasion.master (String.ofList content) store.world.letters.size served)
        split at ran
        · rename_i text last done
          rw [done] at same
          cases ran
          exact same
        · rename_i fault last failed
          rw [failed] at same
          cases ran
          exact same
    · rename_i fault served serves
      obtain ⟨rfl, rfl⟩ := Prod.mk.inj ran
      refine .inr ⟨package, _, _, served, _, isOpen, ?_, ?_, serves, .inl ⟨fault, rfl, rfl, rfl⟩⟩
      · exact world
      · exact surroundings

section

variable {before opened served : Workspace} {fresh : Letter}

/-- One more letter is there, which comes last. -/
structure AddsLast (fresh : Letter) (before opened : Workspace) : Prop where
  files : opened.files = before.files
  size : opened.letters.size = before.letters.size + 1
  old : ∀ j < before.letters.size, opened.letter j = before.letter j
  self : opened.letter before.letters.size = fresh

theorem AddsLast.push (fresh : Letter) (before : Workspace) :
    AddsLast fresh before ⟨before.files, before.letters.push fresh⟩ where
  files := rfl
  size := Array.size_push _
  old _ inside := letter_push_of_lt inside _
  self := letter_push_size _ _ _

/-- A letter that was opened last is no letter that was there before, and the others are those that
were opened later. -/
theorem AddsLast.opened_cases {j : Nat} (adds : AddsLast fresh before opened)
    (isOpened : Opened before served j) : j = before.letters.size ∨ Opened opened served j := by
  have size := adds.size
  have early := isOpened.1
  by_cases here : j = before.letters.size
  · exact .inl here
  · refine .inr ⟨?_, isOpened.2⟩
    omega

theorem AddsLast.isOpened {j : Nat} (adds : AddsLast fresh before opened)
    (isOpened : Opened opened served j) : Opened before served j := by
  refine ⟨Nat.le_trans ?_ isOpened.1, isOpened.2⟩
  rw [adds.size]
  exact Nat.le_succ _

/-- Only one letter differs between two workspaces. -/
structure Touches (k : Nat) (before after : Workspace) : Prop where
  files : after.files = before.files
  size : after.letters.size = before.letters.size
  others : ∀ j ≠ k, after.letter j = before.letter j

/-- Opening a letter, rendering it and registering it with the master spares all others. -/
theorem Spares.enclosed {after : Workspace} (adds : AddsLast fresh before opened)
    (spares : Spares master before.letters.size opened served)
    (away : (served.letter before.letters.size).IsPutAway before.files)
    (touches : Touches master served after) (inside : master < before.letters.size) :
    Spares master master before after where
  others j early notMaster _ := by
    have inside : j < opened.letters.size := by
      rw [adds.size]
      exact Nat.lt_succ_of_lt early
    have differs : j ≠ before.letters.size := Nat.ne_of_lt early
    rw [touches.others j notMaster, spares.others j inside notMaster differs, adds.old j early]
  pictures other := absurd rfl other
  enclosures other := absurd rfl other
  files := touches.files.trans (spares.files.trans adds.files)
  away j isOpened := by
    have differs : j ≠ master := (Nat.ne_of_lt (Nat.lt_of_lt_of_le inside isOpened.1)).symm
    rw [touches.others j differs]
    rcases adds.opened_cases ⟨isOpened.1, Nat.lt_of_lt_of_eq isOpened.2 touches.size⟩ with rfl | late
    · exact away
    · rw [← adds.files]
      exact spares.away j late

/-- What is opened after the first letter is clean if all that is opened is. -/
theorem clean_behind {after : Workspace} (adds : AddsLast fresh before opened)
    (clean : OpensClean before after) (touches : Touches master served after)
    (inside : master < before.letters.size) : OpensClean opened served := by
  intro j isOpened archive found
  have early := adds.isOpened isOpened
  have differs : j ≠ master := (Nat.ne_of_lt (Nat.lt_of_lt_of_le inside early.1)).symm
  refine clean j ⟨early.1, Nat.lt_of_lt_of_eq isOpened.2 touches.size.symm⟩ archive ?_
  rw [touches.others j differs, ← adds.files]
  exact found

/-- What the master gathers while a letter is opened, rendered and registered: what it gathers
meanwhile, and that letter. -/
theorem Gathers.enclosed {key : String} (inside : master < before.letters.size)
    (adds : AddsLast fresh before opened) (grows : opened.letters.size ≤ served.letters.size)
    (gathers : Gathers master apart opened served)
    (isPath : Path.ofString key = (served.letter before.letters.size).path)
    (styled : ∃ text, (served.letter before.letters.size).styles.bind (·.rendered) = some text) :
    Gathers master apart before (served.modify master (enclosing key before.letters.size)) := by
  let after := served.modify master (enclosing key before.letters.size)
  have size := adds.size
  have same := adds.old master inside
  have there : master < served.letters.size := by omega
  have now : after.letter master = enclosing key before.letters.size (served.letter master) :=
    letter_modify_self there _
  have others {j : Nat} (isOpened : Opened before after j) : after.letter j = served.letter j :=
    letter_modify_of_ne (Nat.ne_of_lt (Nat.lt_of_lt_of_le inside isOpened.1)).symm _
  have sameSize : after.letters.size = served.letters.size := size_modify _ _ _
  have isNew : Opened before after before.letters.size := by
    refine ⟨Nat.le_refl _, ?_⟩
    omega
  have cases {j : Nat} (isOpened : Opened before after j) :
      j = before.letters.size ∨ Opened opened served j :=
    adds.opened_cases ⟨isOpened.1, Nat.lt_of_lt_of_eq isOpened.2 sameSize⟩
  have later {j : Nat} (isOpened : Opened opened served j) : Opened before after j :=
    ⟨(adds.isOpened isOpened).1, Nat.lt_of_lt_of_eq isOpened.2 sameSize.symm⟩
  obtain ⟨paths, stages, holds⟩ := gathers.staged
  have begun : Stages master [] before opened := .still (by rw [same])
  have ended : Stages master [] served after := .still (by rw [now]; rfl)
  have whole := (begun.append stages).append ended
  rw [List.nil_append, List.append_nil] at whole
  have lookups (name : String) : (after.letter master).enclosures.lookup name
      = if name = key then some (.letter before.letters.size)
        else (served.letter master).enclosures.lookup name := by
    rw [now]
    exact Keyed.lookup_put _ _ _ _
  refine
    { staged := ⟨paths, whole, fun isApart path member => ?_⟩
      stays := fun isApart name path found => ?_
      registers := fun name => ?_
      encloses := fun differ j isOpened => ?_
      rendered := fun j isOpened => ?_ }
  · change (after.letter master).pictures.lookup path.name = _
    rw [now]
    exact holds isApart path member
  · change (after.letter master).pictures.lookup name = _
    rw [now]
    exact gathers.stays isApart name path (by rwa [same])
  · change (after.letter master).enclosures.lookup name = _ ∨ _
    rw [lookups]
    split
    · rename_i here
      subst here
      refine .inr ⟨_, isNew, ?_⟩
      rw [isPath]
      exact (congrArg Letter.path (others isNew)).symm
    · rcases gathers.registers name with still | ⟨j, isOpened, path⟩
      · exact .inl (still.trans (by rw [same]))
      · refine .inr ⟨j, later isOpened, ?_⟩
        rw [path]
        exact (congrArg Letter.path (others (later isOpened))).symm
  · have path := congrArg Letter.path (others isOpened)
    rcases cases isOpened with rfl | isLater
    · refine ⟨key, isPath.trans path.symm, ?_⟩
      exact (lookups key).trans (if_pos rfl)
    · have apart_ : PathsDiffer opened served := by
        intro first second isFirst isSecond clash
        refine differ first second (later isFirst) (later isSecond) ?_
        exact ((congrArg Letter.path (others (later isFirst))).trans clash).trans
          (congrArg Letter.path (others (later isSecond))).symm
      obtain ⟨name, isName, held⟩ := gathers.encloses apart_ j isLater
      refine ⟨name, isName.trans path.symm, ?_⟩
      change (after.letter master).enclosures.lookup name = _
      rw [lookups, if_neg]
      · exact held
      · rintro rfl
        have equal := differ _ _ isNew isOpened
          ((congrArg Letter.path (others isNew)).trans ((isPath.symm.trans isName).trans path.symm))
        have early := isLater.1
        omega
  · change ∃ text, (after.letter j).styles.bind _ = _
    rw [others isOpened]
    rcases cases isOpened with rfl | isLater
    · exact styled
    · exact gathers.rendered j isLater

end

/-- A path that is neither text nor a thing of the world outside is refused. -/
theorem pathArgument_refused {path : Value} (noText : ∀ content isMarkup, path ≠ .text content isMarkup)
    (plain : path.isThing = false) (store : Store Workspace) :
    ∃ fault, (pathArgument path).runFrom store = (.error fault, store) := by
  unfold pathArgument
  split
  · exact absurd rfl (noText _ _)
  · cases plain
  · exact ⟨_, rfl⟩

/-- With a letter that comes last, the master is at hand as before. -/
theorem Hosts.addsLast {store opened : Store Workspace} {fresh : Letter}
    (hosts : Hosts master master store) (adds : AddsLast fresh store.world opened.world)
    (surroundings : opened.surroundings = store.surroundings) :
    Hosts master store.world.letters.size opened where
  reports := by
    rw [surroundings]
    exact hosts.reports
  inside := by
    rw [adds.size]
    exact Nat.lt_succ_of_lt hosts.inside
  isBusy := by
    rw [adds.size]
    exact Nat.lt_succ_self _
  layout := by
    rw [adds.old master hosts.inside]
    exact hosts.layout

section

variable {host : Host Workspace} (keeps : KeepsAll host)
  (hosted : ∀ subject name given, Tends master master apart (host subject name given))

include hosted

/-- Letters last while one of them is rendered and closed. -/
theorem lasting_of_processWith {k : Nat} {occasion : Occasion} {store after : Store Workspace}
    {outcome : Except Fault Unit}
    (ran : (afterwards (processWith host k occasion) (close k)).runFrom store = (outcome, after)) :
    lasting.leads store.world after.world := by
  have renders := leads_processWith (fun subject name given => (hosted subject name given).lasts)
    (lasting_renders k) occasion
  have leads := Leads.afterwards renders (leads_close lasting_admits (Nat.zero_le k)) store
  rwa [ran] at leads

include keeps

/-- A letter that was just opened is rendered for the master, and put away at the path that it was
opened from. -/
theorem served_of_addsLast {file : Path} {archive : Archive} {isLenient : Bool}
    {store opened served : Store Workspace} {after : Workspace} {occasion : Occasion}
    {outcome : Except Fault Unit} (reports : occasion.master = master)
    (hosts : Hosts master master store)
    (found : Package.archiveAt? store.world.files file = some archive)
    (adds : AddsLast (.ofPackage {} isLenient (.ofArchive file archive)) store.world opened.world)
    (surroundings : opened.surroundings = store.surroundings)
    (serves : (afterwards (processWith host store.world.letters.size occasion)
      (close store.world.letters.size)).runFrom opened = (outcome, served))
    (touches : Touches master served.world after) (clean : OpensClean store.world after) :
    Served master apart store.world.letters.size (.ofArchive file archive) opened.world outcome
        served ∧
      (served.world.letter store.world.letters.size).path = file ∧
      (served.world.letter store.world.letters.size).IsPutAway store.world.files := by
  have hosting := hosts.addsLast adds surroundings
  have other : store.world.letters.size ≠ master := (Nat.ne_of_lt hosts.inside).symm
  obtain ⟨grows, paths⟩ := lasting_of_processWith hosted serves
  have isPath : (served.world.letter store.world.letters.size).path = file := by
    rw [paths _ hosting.isBusy, adds.self]
    exact Package.path_ofArchive file archive
  have isServed : Opened store.world after store.world.letters.size :=
    ⟨Nat.le_refl _, Nat.lt_of_lt_of_eq (Nat.lt_of_lt_of_le hosting.isBusy grows) touches.size.symm⟩
  have isClean : (Package.ofArchive file archive).IsClean := by
    refine Package.isClean_ofArchive file fun entry member => ?_
    refine clean store.world.letters.size isServed archive ?_ entry member
    rw [touches.others _ other, isPath]
    exact found
  have shows : Shows store.world.letters.size packed (Package.ofArchive file archive, {})
      opened.world := by
    refine ⟨hosting.isBusy, ?_⟩
    rw [adds.self]
    rfl
  have noPictures : (opened.world.letter store.world.letters.size).pictures = [] := by
    rw [adds.self]
    rfl
  have noEnclosures : (opened.world.letter store.world.letters.size).enclosures = [] := by
    rw [adds.self]
    rfl
  have serving : Served master apart store.world.letters.size (.ofArchive file archive) opened.world
      outcome served :=
    served_of_fresh keeps hosted reports other hosting isClean shows noPictures noEnclosures serves
      (clean_behind adds clean touches hosts.inside)
  refine ⟨serving, isPath, ?_⟩
  exact
    { pictures := (serving.spares.pictures other).trans noPictures
      enclosures := (serving.spares.enclosures other).trans noEnclosures
      isClosed := serving.isClosed
      entries := ⟨archive, by rw [isPath]; exact found, by rw [isPath]; exact serving.entries⟩ }

variable {around : Surroundings} (reports : around.occasion.master = master)

include reports

/-- What comes of enclosing a letter whose path is given as text. -/
theorem enclose_text {content : List Char} {isMarkup : Bool} {data : Value}
    {store after : Store Workspace} {result : Except Fault Value} (hosts : Hosts master master store)
    (ran : (enclose (processWith host) around (.text content isMarkup) data).runFrom store
      = (result, after)) (clean : OpensClean store.world after.world) :
    Spares master master store.world after.world ∧ ∀ value, result = .ok value →
      Hosts master master after ∧ Gathers master apart store.world after.world := by
  rcases enclose_cases ran with ⟨fault, rfl, same⟩ |
    ⟨package, opened, outcome, served, given, isOpen, world, surroundings, serves, ends⟩
  · rw [same]
    exact ⟨.refl _, nofun⟩
  obtain ⟨archive, found, rfl⟩ := Package.openAt_eq_ok_iff.mp isOpen
  rw [reports] at world ends
  rw [hosts.layout] at world
  have adds := AddsLast.push (.ofPackage {} store.isLenient
    (.ofArchive (.ofString (String.ofList content)) archive)) store.world
  rw [← world] at adds
  -- Whether it is registered or not, nothing but the master changes any more.
  have touches : Touches master served.world after.world := by
    rcases ends with ⟨fault, -, -, rfl⟩ | ⟨-, rfl⟩
    · exact ⟨rfl, rfl, fun _ _ => rfl⟩
    · exact ⟨rfl, size_modify _ _ _, fun j differs => letter_modify_of_ne differs _⟩
  have master_ : ({ around.occasion with data := given } : Occasion).master = master := reports
  obtain ⟨serving, isPath, away⟩ := served_of_addsLast keeps hosted master_ hosts found adds
    surroundings serves touches clean
  refine ⟨serving.spares.enclosed adds away touches hosts.inside, fun value succeeded => ?_⟩
  rcases ends with ⟨fault, -, failed, -⟩ | ⟨done, rfl⟩
  · rw [failed] at succeeded
    cases succeeded
  obtain ⟨hostsServed, gathers, styled⟩ := serving.succeeds done
  refine ⟨⟨hostsServed.reports, ?_, ?_, ?_⟩, ?_⟩
  · exact Nat.lt_of_lt_of_eq hostsServed.inside touches.size.symm
  · exact Nat.lt_of_lt_of_eq hostsServed.inside touches.size.symm
  · have now := letter_modify_self hostsServed.inside
      (enclosing (String.ofList content) store.world.letters.size)
    exact (congrArg Letter.layout now).trans hostsServed.layout
  · exact gathers.enclosed hosts.inside adds serving.grows isPath.symm styled

end

end Work

end FormLetter
