import FormLetter.Proofs.Letter.Breaking
import FormLetter.Proofs.Letter.Document

/-!
# Letters that are only looked at

A letter can be compiled, rendered, asked for its body and for the names that it needs, in any order,
and any of that may fail. As long as no picture is added, nothing but the compiled parts gets into
its package. Closing takes these out again, so that the very same entries are left, and writes
nothing.
-/

namespace FormLetter

open FormLetter.Script

/-- Where each name stands once, entries are told by their names and by what these lead to. -/
theorem Keyed.eq_of_lookup {α : Type} {first second : List (String × α)}
    (distinct : (Keyed.names first).Nodup) (sameNames : Keyed.names first = Keyed.names second)
    (same : ∀ name, first.lookup name = second.lookup name) : first = second := by
  induction first generalizing second with
  | nil =>
    cases second with
    | nil => rfl
    | cons entry rest => cases sameNames
  | cons entry rest ih =>
    cases second with
    | nil => cases sameNames
    | cons other others =>
      rw [names_cons, names_cons, List.cons.injEq] at sameNames
      obtain ⟨sameName, sameRest⟩ := sameNames
      rw [names_cons, List.nodup_cons] at distinct
      have sameValue := same entry.1
      rw [lookup_cons_eq, lookup_cons_eq, if_pos rfl, if_pos sameName] at sameValue
      have later (name : String) : rest.lookup name = others.lookup name := by
        have whole := same name
        rw [lookup_cons_eq, lookup_cons_eq, ← sameName] at whole
        by_cases here : name = entry.1
        · subst here
          rw [lookup_eq_none.mpr distinct.1, lookup_eq_none.mpr (sameRest ▸ distinct.1)]
        · rwa [if_neg here, if_neg here] at whole
      rw [ih distinct.2 sameRest later, Prod.ext sameName (Option.some.inj sameValue)]

namespace Package

/-- A package that remembers what it holds does not count as modified. -/
theorem not_isModified {package : Package} (distinct : (Keyed.names package.entries).Nodup)
    (same : package.committed = package.entries) : package.isModified = false := by
  unfold isModified
  rw [same, bne_self_eq_false, Bool.false_or, List.any_eq_false]
  rintro ⟨name, content⟩ member
  dsimp only
  rw [(Keyed.lookup_eq_some_iff distinct).mpr member]
  simp

/-- The names of the compiled parts and of their directory. -/
theorem isOwn_of_enters {operation : Operation} {name : String}
    (fills : Filling {} [] operation) (enters : operation.Enters name) :
    name ∈ ["documatic/master/", "documatic/master/content.jinja",
      "documatic/master/styles.jinja"] := by
  cases fills with
  | sourceDirectory =>
    change name = directoryName "documatic/master" at enters
    rw [enters, directoryName_sources]
    exact List.mem_cons_self
  | contentSource bytes =>
    cases enters
    decide
  | stylesSource bytes =>
    cases enters
    decide
  | pictureDirectory some_ => exact absurd rfl some_
  | picture member => cases member
  | manifest some_ bytes => exact absurd rfl some_

/-- A package whose names are none that letters keep for themselves, and that was just opened. -/
structure IsClean (package : Package) : Prop where
  distinct : (Keyed.names package.entries).Nodup
  present : ∀ name ∈ Keyed.names package.infos, name ∈ package.names
  clean : ∀ name ∈ package.names, ¬ IsOwn name
  committed : package.committed = package.entries
  isOpen : package.isClosed = false

/-- A package that was opened without own names. -/
theorem isClean_ofArchive {archive : Archive} (path : Path)
    (clean : ∀ entry ∈ archive, ¬ IsOwn entry.name) : IsClean (ofArchive path archive) where
  distinct := nodup_ofArchive path archive
  present := present_ofArchive path archive
  clean name member := by
    obtain ⟨entry, stands⟩ := Option.isSome_iff_exists.mp (mem_names_ofArchive.mp member)
    exact not_isOwn_of_named clean stands
  committed := rfl
  isOpen := isClosed_ofArchive path archive

section

variable {operations : List Operation} {taken : List String}
  (filling : ∀ operation ∈ operations, Filling {} [] operation) (own : ∀ name ∈ taken, IsOwn name)

include filling

/-- What is entered before names are taken out is what is entered at all. -/
theorem mem_own_of_enters {operation : Operation} {name : String}
    (member : operation ∈ operations ++ taken.map Operation.discard)
    (enters : operation.Enters name) :
    name ∈ ["documatic/master/", "documatic/master/content.jinja",
      "documatic/master/styles.jinja"] := by
  rcases List.mem_append.mp member with early | late
  · exact isOwn_of_enters (filling operation early) enters
  · obtain ⟨_, -, rfl⟩ := List.mem_map.mp late
    cases enters

include own

/-- Only own names are taken out. -/
theorem isOwn_of_mem_outs {name : String}
    (isOut : name ∈ outs (operations ++ taken.map Operation.discard)) : IsOwn name := by
  obtain ⟨operation, member, takes⟩ := List.mem_filterMap.mp isOut
  rcases List.mem_append.mp member with early | late
  · have fill := filling operation early
    cases fill <;> cases takes
  · obtain ⟨_, isTaken, rfl⟩ := List.mem_map.mp late
    cases takes
    exact own name isTaken

/-- Other names are neither entered nor taken out. -/
theorem not_touches_of_not_isOwn {name : String} (other : ¬ IsOwn name) :
    ∀ operation ∈ operations ++ taken.map Operation.discard, ¬ operation.Touches name := by
  rintro operation member (enters | takes)
  · exact other (isOwn_of_mem_sources (mem_own_of_enters filling member enters))
  · exact other (isOwn_of_mem_outs filling own (List.mem_filterMap.mpr ⟨operation, member, takes⟩))

end

/-- Taking out the compiled parts leaves the entries that were there before, where nothing else was
entered. -/
theorem IsClean.withoutSources {origin package : Package} (isClean : IsClean origin)
    (fills : Fills {} [] origin package) :
    (Work.withoutSources {} package).entries = origin.entries ∧
      (Work.withoutSources {} package).committed = origin.committed ∧
      (Work.withoutSources {} package).isClosed = false := by
  obtain ⟨operations, filling, develops⟩ := fills
  obtain ⟨taken, same, own, content, styles, directory⟩ := Work.withoutSources_eq package
  have evolves : Evolves origin (operations ++ taken.map Operation.discard)
      (Work.withoutSources {} package) := by
    have whole := develops.trans (develops_discardAll taken package)
    rw [same]
    exact whole origin [] (.refl isClean.distinct isClean.present)
  have gone {name : String} (isTaken : name ∈ taken) :
      name ∉ (Work.withoutSources {} package).names := by
    rw [same]
    exact fun member => (mem_names_discardAll.mp member).2 isTaken
  obtain ⟨added, names, entered⟩ := evolves.order
  have kept : origin.names.filter (· ∉ outs (operations ++ taken.map Operation.discard))
      = origin.names :=
    List.filter_eq_self.mpr fun name member => by
      simpa using fun isOut => isClean.clean name member (isOwn_of_mem_outs filling own isOut)
  rw [kept] at names
  have there {name : String} (member : name ∈ added) :
      name ∈ (Work.withoutSources {} package).names := by
    rw [names]
    exact List.mem_append_right _ member
  -- The compiled parts are taken out, so nothing but their directory can be left.
  have ownAdded {name : String} (member : name ∈ added) : name = "documatic/master/" := by
    obtain ⟨operation, isDone, enters⟩ := entered name member
    have one := mem_own_of_enters filling isDone enters
    simp only [List.mem_cons, List.not_mem_nil, or_false] at one
    rcases one with isDirectory | rfl | rfl
    · exact isDirectory
    · exact absurd (there member) (gone content)
    · exact absurd (there member) (gone styles)
  -- Their directory is left only with something in it, which would be another own name.
  have nothing : added = [] := by
    refine List.eq_nil_iff_forall_not_mem.mpr fun name member => ?_
    obtain rfl := ownAdded member
    rcases directory with isTaken | ⟨inner, isThere, isInside⟩
    · exact gone isTaken (there member)
    · rw [names, List.mem_append] at isThere
      rcases isThere with old | new
      · exact isClean.clean inner old isInside.isOwn
      · refine isInside.2 ?_
        rw [ownAdded new]
        decide
  rw [nothing, List.append_nil] at names
  refine ⟨Keyed.eq_of_lookup evolves.distinct names fun name => ?_, evolves.committed,
    evolves.isClosed.trans isClean.isOpen⟩
  by_cases isOwn : IsOwn name
  · have absent : name ∉ origin.names := fun member => isClean.clean name member isOwn
    rw [Keyed.lookup_eq_none.mpr absent, Keyed.lookup_eq_none]
    change name ∉ (Work.withoutSources {} package).names
    rwa [names]
  · exact evolves.untouched name (not_touches_of_not_isOwn filling own isOwn)

end Package

namespace Work

variable {id : Nat}

/-! ## Looking at a letter -/

/-- What can be asked of a letter without saving it. -/
inductive Look where
  | compile
  | process (occasion : Occasion)
  | undeclared
  | body

/-- Does what is asked of a letter. -/
def Look.perform (id : Nat) : Look → Work Unit
  | compile => discard (Work.compile id)
  | process occasion => Work.process id occasion
  | undeclared => discard (Work.undeclared id)
  | body => discard (Work.body id)

/-- A look, and the heap that it begins with, which holds its data. -/
structure Visit where
  heap : Heap
  look : Look

namespace Visit

/-- What a visit leads to, whether it succeeds or fails. -/
def after (id : Nat) (workspace : Workspace) (visit : Visit) : Workspace :=
  (M.runFrom (visit.look.perform id) ⟨visit.heap, workspace⟩).2.world

/-- A visit does not add pictures: there are none with the letter once its parts are rendered. -/
def StagesNothing (id : Nat) (workspace : Workspace) (visit : Visit) : Prop :=
  ∀ occasion pictures, visit.look = .process occasion →
    Registers (hostWithin enclosureLimit) id occasion ⟨visit.heap, workspace⟩ pictures →
    pictures = []

/-- None of these visits, made one after the other, adds pictures. -/
def AllStageNothing (id : Nat) (workspace : Workspace) : List Visit → Prop
  | [] => True
  | visit :: rest => visit.StagesNothing id workspace ∧
    AllStageNothing id (visit.after id workspace) rest

end Visit

theorem readying_undeclared (id : Nat) : Readying id (undeclared id) := by
  have once : Readying id (compileOnce id) := by
    intro store package layout shows
    unfold compileOnce
    rw [M.runFrom_bind, runFrom_letter]
    dsimp only
    split
    · exact (readying_compile id).bind (fun _ => Leads.pure _) store package layout shows
    · exact ⟨package, Or.inl rfl, shows⟩
  unfold undeclared
  refine once.bind fun _ => (leads_letter id).bind fun found => ?_
  refine (Leads.mapM fun name => ?_).bind fun names => Leads.pure _
  unfold source
  refine Leads.bind ?_ fun text => Leads.liftExcept _
  exact (leads_letter id).bind fun held => (Leads.liftExcept _).bind fun text => Leads.pure _

/-- A letter of the usual layout whose package was filled with compiled parts only. -/
def Looked (id : Nat) (origin : Package) (workspace : Workspace) : Prop :=
  ∃ package, Package.Fills {} [] origin package ∧ Shows id packed (package, {}) workspace

theorem Looked.of_readied {origin package : Package} {workspace : Workspace}
    (fills : Package.Fills {} [] origin package) (readied : Readied id package {} workspace) :
    Looked id origin workspace := by
  obtain ⟨after, rfl | ⟨sources, rfl⟩, shows⟩ := readied
  · exact ⟨after, fills, shows⟩
  · exact ⟨_, fills.trans (sources.fills_keep {} [] package), shows⟩

theorem addPictures_none {store : Store Workspace} (none_ : (store.world.letter id).pictures = []) :
    (addPictures id).runFrom store = (.ok (), store) := by
  unfold addPictures
  rw [M.runFrom_bind, runFrom_letter]
  dsimp only
  rw [none_]
  rfl

/-- A rendering with which no pictures are registered does no more than compiling does, wherever it
fails. -/
theorem process_readies {occasion : Occasion} {store : Store Workspace} {package : Package}
    {layout : Layout} (shows : Shows id packed (package, layout) store.world)
    (nothing : ∀ pictures, Registers (hostWithin enclosureLimit) id occasion store pictures →
      pictures = []) :
    Readied id package layout ((process id occasion).runFrom store).2.world := by
  have hosted := keepsAll_hostWithin enclosureLimit
  -- Where the parts are rendered and arranged, no pictures are left to be added.
  have bare {arranged : Store Workspace}
      (arranges : Arranges (hostWithin enclosureLimit) id occasion store arranged) :
      (addPictures id).runFrom arranged = (.ok (), arranged) := by
    obtain ⟨parts, rendered, isRendered, isArranged⟩ := arranges
    have none_ := nothing _ ⟨parts, rendered, isRendered, rfl⟩
    have readied := readying_renderParts hosted occasion store package layout shows
    rw [isRendered] at readied
    obtain ⟨ready, -, there, -⟩ := readied
    have kept := shown_after Letter.pictures
      (leads_addEnclosed fun part => shows_change fun _ => rfl) there isArranged
    exact addPictures_none (kept.2.trans none_)
  have filled : Readied id package layout
      ((fill (hostWithin enclosureLimit) id occasion).runFrom store).2.world := by
    rcases ran : (fill (hostWithin enclosureLimit) id occasion).runFrom store
      with ⟨fault | _, last⟩
    · rcases fill_eq_error hosted shows ran with readied | ⟨arranged, arranges, broke⟩
      · exact readied
      · rw [bare arranges] at broke
        cases broke
    · unfold fill addRegistered at ran
      obtain ⟨parts, rendered, isRendered, ran⟩ := M.runFrom_bind_eq_ok.mp ran
      obtain ⟨_, arranged, isArranged, ran⟩ := M.runFrom_bind_eq_ok.mp ran
      have arranges : Arranges (hostWithin enclosureLimit) id occasion store arranged :=
        ⟨parts, rendered, isRendered, isArranged⟩
      rw [bare arranges] at ran
      cases ran
      exact arranges.readied hosted shows
  obtain ⟨ready, readies, shows⟩ := filled
  unfold process
  rw [processWith_eq]
  refine ⟨ready, readies, Nat.lt_of_lt_of_eq shows.1 (Workspace.size_modify _ _ _).symm, ?_⟩
  dsimp only
  rw [Workspace.letter_modify_self shows.1, packed_bare]
  exact shows.2

/-- After a visit that adds no pictures there are only compiled parts in the package besides. -/
theorem Looked.after {origin : Package} {workspace : Workspace} {visit : Visit}
    (looked : Looked id origin workspace) (nothing : visit.StagesNothing id workspace) :
    Looked id origin (visit.after id workspace) := by
  obtain ⟨package, fills, shows⟩ := looked
  obtain ⟨heap, look⟩ := visit
  let store : Store Workspace := ⟨heap, workspace⟩
  refine .of_readied fills (?_ : Readied id package {} ((look.perform id).runFrom store).2.world)
  cases look with
  | compile =>
    exact (readying_compile id).bind (fun _ => Leads.pure _) store package {} shows
  | process occasion =>
    exact @process_readies _ _ store _ _ shows fun pictures => nothing occasion pictures rfl
  | undeclared =>
    exact (readying_undeclared id).bind (fun _ => Leads.pure _) store package {} shows
  | body =>
    have kept : Shows id packed (package, {}) store.world := shows
    exact ⟨package, Or.inl rfl, kept.after_leads (leads_body id).discard⟩

theorem Looked.afterAll {origin : Package} {workspace : Workspace} {visits : List Visit}
    (looked : Looked id origin workspace)
    (nothing : Visit.AllStageNothing id workspace visits) :
    Looked id origin (visits.foldl (Visit.after id) workspace) := by
  induction visits generalizing workspace with
  | nil => exact looked
  | cons visit rest ih => exact ih (looked.after nothing.1) nothing.2

/-! ## Closing it -/

/-- No visit writes to a file, as long as the code of the letter opens no other letter. -/
theorem alone_look (id count : Nat) (look : Look) :
    Leads (Workspace.alone count) (look.perform id) := by
  have renders : Renders (Workspace.alone count) id := alone_renders id
  have fills := renders.toFills
  cases look with
  | compile => exact (leads_compile fills).discard
  | process occasion =>
    refine leads_processWith (fun subject name given => ?_) (alone_renders _) _
    exact Workspace.alone_of_keeping (keepsAll_hostWithin enclosureLimit _ subject name given)
  | undeclared =>
    refine Leads.discard ?_
    unfold undeclared compileOnce source
    refine Leads.seq ((leads_letter id).bind fun found => ?_) ((leads_letter id).bind fun found => ?_)
    · exact Leads.ite (leads_compile fills).discard (Leads.pure _)
    · refine (Leads.mapM fun name => Leads.bind ?_ fun text => Leads.liftExcept _).bind
        fun names => Leads.pure _
      exact (leads_letter id).bind fun held => (Leads.liftExcept _).bind fun text => Leads.pure _
  | body => exact (leads_body id).discard

theorem alone_visits {count : Nat} {workspace : Workspace} {visits : List Visit}
    (enough : count ≤ workspace.letters.size) :
    (Workspace.alone count).leads workspace (visits.foldl (Visit.after id) workspace) := by
  induction visits generalizing workspace with
  | nil => exact (Workspace.alone count).refl workspace
  | cons visit rest ih =>
    have first := alone_look id count visit.look ⟨visit.heap, workspace⟩
    exact (Workspace.alone count).trans first (ih (Nat.le_trans enough (first enough).1))

/-- Closing a letter that was only looked at writes nothing: the package holds the very entries that
were read, in their order, and does not count as modified. -/
theorem Looked.closes {origin : Package} {workspace : Workspace} (isClean : origin.IsClean)
    (looked : Looked id origin workspace) (heap : Heap) :
    ∃ closed, (close id).runFrom ⟨heap, workspace⟩ = (.ok (), closed) ∧
      closed.world.files = workspace.files ∧
      closed.world.letters.size = workspace.letters.size ∧
      (closed.world.letter id).package.entries = origin.entries ∧
      (closed.world.letter id).package.isModified = false ∧
      (closed.world.letter id).package.isClosed = true := by
  obtain ⟨package, fills, inside, shown⟩ := looked
  obtain ⟨samePackage, sameLayout⟩ := Prod.mk.inj shown
  obtain ⟨entries, committed, isOpen⟩ := isClean.withoutSources fills
  let bared := withoutSources {} package
  have distinct : (Keyed.names bared.entries).Nodup := by
    change (Keyed.names (withoutSources {} package).entries).Nodup
    rw [entries]
    exact isClean.distinct
  have unmodified : bared.isModified = false := by
    refine Package.not_isModified distinct ?_
    exact committed.trans (isClean.committed.trans entries.symm)
  have closes (files : Files) : bared.close files = .ok ({ bared with isClosed := true }, files) := by
    unfold Package.close Package.commit
    have stillOpen : bared.isClosed = false := isOpen
    rw [stillOpen, unmodified]
    rfl
  let store : Store Workspace := ⟨heap, workspace⟩
  let taken : Store Workspace := { store with world := workspace.modify id fun letter =>
    { letter with package := withoutSources {} letter.package } }
  have there : id < taken.world.letters.size :=
    Nat.lt_of_lt_of_eq inside (Workspace.size_modify _ _ _).symm
  have held : (taken.world.letter id).package = bared := by
    change ((workspace.modify id _).letter id).package = _
    rw [Workspace.letter_modify_self inside]
    exact congrArg (withoutSources {}) samePackage
  have ran : (close id).runFrom store = (closePackage id).runFrom taken := by
    unfold close
    rw [M.runFrom_bind, runFrom_letter]
    dsimp only
    rw [M.runFrom_bind, runFrom_changePackage]
    have layout : (store.world.letter id).layout = {} := sameLayout
    rw [layout]
  rcases closePackage_cases id taken with ⟨fault, failed, -⟩ | ⟨after, files, log, closed, done⟩
  · rw [held, closes] at failed
    cases failed
  · rw [held, closes] at closed
    cases closed
    refine ⟨_, ran.trans done, rfl, ?_, ?_, ?_, ?_⟩
    all_goals dsimp only
    · rw [Workspace.size_modify]
      exact Workspace.size_modify _ _ _
    all_goals rw [Workspace.letter_modify_self there]
    · exact entries
    · exact unmodified

/-- A rendering that leaves no pictures with the letter adds none. -/
theorem Visit.stagesNothing_of_pictures {workspace : Workspace} {heap : Heap} {occasion : Occasion}
    (none_ : (((renderParts (hostWithin enclosureLimit) id occasion).runFrom
      ⟨heap, workspace⟩).2.world.letter id).pictures = []) :
    Visit.StagesNothing id workspace ⟨heap, .process occasion⟩ := by
  rintro other pictures isOther ⟨parts, after, rendered, rfl⟩
  cases isOther
  rw [rendered] at none_
  exact none_

/-- A store with a letter of two empty parts. -/
def emptyStart : Store Workspace := .start false ⟨[(["t.odt"], .archive emptyArchive)], #[]⟩

/-- The letter, just opened. -/
def emptyOpened : Store Workspace := (M.runFrom (openAt {} ⟨"", ["t.odt"]⟩) emptyStart).2

/-- A letter is compiled and rendered, and asked for its body and for names. -/
def emptyVisits : List Visit :=
  let heap := emptyStart.toHeap
  [⟨heap, .compile⟩, ⟨heap, .process ⟨0, .none, .none⟩⟩, ⟨heap, .body⟩, ⟨heap, .undeclared⟩]

end Work

end FormLetter
