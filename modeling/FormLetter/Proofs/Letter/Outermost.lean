import FormLetter.Proofs.Letter.Enclosing
import FormLetter.Proofs.Letter.Sharing
import FormLetter.Proofs.Style.Arriving

/-!
# The outermost letter

Letters that enclose each other report to the outermost one, however deep they are: its code shows
pictures and encloses letters, and so does the code of these.
-/

namespace FormLetter

open FormLetter.Script

/-! ## Plain arguments -/

namespace Script

/-- What parameters are bound to is plain where the arguments and the defaults are. -/
theorem bindParameters_plain {callee : String} {given : Given} {parameters : List Parameter}
    {own : Nat} {outlook : Outlook} {heap after : Heap} {values : List Value}
    (plain : given.isPlain = true)
    (defaults : ∀ parameter ∈ parameters, ∀ value ∈ parameter.default, value.isThing = false)
    (bound : (bindParameters callee given parameters own).runFrom outlook heap
      = (.ok values, after)) : ∀ value ∈ values, value.isThing = false := by
  have plain : ∀ value ∈ given.positional ++ given.named.map (·.2), value.isThing = false := by
    intro value member
    have holds := List.all_eq_true.mp plain value member
    rwa [Bool.not_eq_true'] at holds
  unfold bindParameters at bound
  obtain ⟨_, middle, -, bound⟩ := Local.runFrom_bind_eq_ok.mp bound
  split at bound
  · cases bound
  · dsimp only at bound
    split at bound
    · cases bound
      intro value member
      rcases List.mem_append.mp member with isPositional | isLeft
      · exact plain value (List.mem_append_left _ isPositional)
      · obtain ⟨parameter, isLeft, isValue⟩ := List.mem_filterMap.mp isLeft
        cases isNamed : given.named.lookup parameter.name with
        | some found =>
          rw [isNamed] at isValue
          cases isValue
          refine plain value (List.mem_append_right _ ?_)
          exact List.mem_map.mpr ⟨_, Keyed.mem_of_lookup isNamed, rfl⟩
        | none =>
          rw [isNamed] at isValue
          exact defaults parameter (List.mem_of_mem_drop isLeft) value isValue
    · cases bound

end Script

namespace Work

open Workspace

variable {α β : Type} {master busy : Nat} {apart : Bool}

/-! ## What calls do -/

/-- What only looks leaves the letters that host. -/
theorem Looks.hosts {action : Work α} (looks : Looks action) {store after : Store Workspace}
    {value : α} (hosts : Hosts master busy store)
    (ran : action.runFrom store = (.ok value, after)) :
    after.world = store.world ∧ Hosts master busy after := by
  have world : after.world = store.world := by
    have held := looks.world store
    rwa [ran] at held
  refine ⟨world, ⟨?_, ?_, ?_, ?_⟩⟩
  · rw [looks.keeps ran]
    exact hosts.reports
  · rw [world]
    exact hosts.inside
  · rw [world]
    exact hosts.isBusy
  · rw [world]
    exact hosts.layout

namespace Tends

/-- What follows a look tends to the master if it does for whatever was seen. -/
theorem after_looking {action : Work α} {next : α → Work β} (looks : Looks action)
    (lasts : Leads lasting (action >>= next))
    (ended : ∀ {store value after}, Hosts master busy store →
      action.runFrom store = (.ok value, after) → Tends master busy apart (next value)) :
    Tends master busy apart (action >>= next) where
  lasts := lasts
  spares {store} hosts clean := by
    rw [M.runFrom_bind] at clean ⊢
    have same := looks.world store
    rcases ran : action.runFrom store with ⟨fault | value, middle⟩
    · rw [ran] at same
      dsimp only at same ⊢
      rw [same]
      exact .refl _
    · obtain ⟨world, hosting⟩ := looks.hosts hosts ran
      rw [ran] at clean
      dsimp only at clean ⊢
      rw [← world] at clean ⊢
      exact (ended hosts ran).spares hosting clean
  gathers {store value after} hosts ran clean := by
    obtain ⟨found, middle, ran, done⟩ := M.runFrom_bind_eq_ok.mp ran
    obtain ⟨world, hosting⟩ := looks.hosts hosts ran
    rw [← world] at clean ⊢
    exact (ended hosts ran).gathers hosting done clean

end Tends

theorem refuses_hostNone (subject : Value) (name : String) (given : Given) :
    Refuses (Host.none subject name given : Work Value) :=
  fun store => ⟨_, store, rfl, rfl⟩

/-- No letter is enclosed whose path is neither text nor a thing. -/
theorem refuses_enclose {path : Value} (noText : ∀ content isMarkup, path ≠ .text content isMarkup)
    (plain : path.isThing = false) (render : Renderer) (around : Surroundings) (data : Value) :
    Refuses (enclose render around path data) := by
  intro store
  obtain ⟨fault, refused⟩ := pathArgument_refused noText plain store
  unfold enclose
  rw [M.runFrom_bind, runFrom_letter]
  dsimp only
  rw [M.runFrom_bind, refused]
  exact ⟨fault, store, rfl, rfl⟩

theorem bindMethod_plain {kind name : String} {given : Given} {parameters : List Parameter}
    {store after : Store Workspace} {values : List Value} (plain : given.isPlain = true)
    (defaults : ∀ parameter ∈ parameters, ∀ value ∈ parameter.default, value.isThing = false)
    (bound : (bindMethod kind name given parameters).runFrom store = (.ok values, after)) :
    ∀ value ∈ values, value.isThing = false := by
  unfold bindMethod at bound
  rw [M.runFrom_lift] at bound
  exact bindParameters_plain plain defaults (Prod.ext (Prod.mk.inj bound).1 rfl)

section

variable {host : Host Workspace} (keeps : KeepsAll host)
  (hosted : ∀ subject name given, Tends master master apart (host subject name given))
  {around : Surroundings} (reports : around.occasion.master = master)

include keeps hosted reports

/-- Enclosing a letter tends to the master where the letter is named. -/
theorem tends_enclose {path data : Value} (plain : path.isThing = false) :
    Tends master master apart (enclose (processWith host) around path data) := by
  have renders (k : Nat) (occasion : Occasion) (_ : 0 ≤ k) :
      Leads lasting (processWith host k occasion) :=
    leads_processWith (fun subject name given => (hosted subject name given).lasts)
      (lasting_renders k) occasion
  have lasts : Leads lasting (enclose (processWith host) around path data) :=
    leads_enclose lasting_admits renders around path data
  cases path with
  | text content isMarkup =>
    refine ⟨lasts, fun {store} hosts clean => ?_, fun {store value after} hosts ran clean => ?_⟩
    · rcases ran : (enclose (processWith host) around (.text content isMarkup) data).runFrom store
        with ⟨outcome, after⟩
      rw [ran] at clean
      exact (enclose_text keeps hosted reports hosts ran clean).1
    · exact (enclose_text keeps hosted reports hosts ran clean).2 value rfl
  | object => cases plain
  | _ => exact .of_looks (refuses_enclose (fun _ _ same => by cases same) plain _ around data).looks

/-- The method that encloses a letter tends to the master. -/
theorem tends_surroundingsMethod_partial {given : Given} (plain : given.isPlain = true) :
    Tends master master apart
      (surroundingsMethod (processWith host) around "partial" given) := by
  have renders (k : Nat) (occasion : Occasion) (_ : 0 ≤ k) :
      Leads lasting (processWith host k occasion) :=
    leads_processWith (fun subject name given => (hosted subject name given).lasts)
      (lasting_renders k) occasion
  have lasts := leads_surroundingsMethod lasting_admits renders around "partial" given
  unfold surroundingsMethod at lasts ⊢
  refine .after_looking (.bindMethod _ _ _ _) lasts fun {store values after} hosts bound => ?_
  have each : ∀ value ∈ values, value.isThing = false := by
    have defaults : ∀ parameter ∈ [required "path", optional "data"],
        ∀ value ∈ parameter.default, value.isThing = false := by decide
    exact bindMethod_plain plain defaults bound
  split
  · rw [List.forall_mem_cons] at each
    exact tends_enclose keeps hosted reports each.1
  · exact .pure _

/-- The method tends to the master where it is confined, too. -/
theorem tends_confinedMethod_partial {given : Given} (plain : given.isPlain = true)
    {refused : Work Value} (refuses : Refuses refused) :
    Tends master master apart
      (confinedMethod apart (processWith host) around "partial" given refused) := by
  unfold confinedMethod
  refine (Tends.letter _).bind fun before => ?_
  refine (tends_surroundingsMethod_partial keeps hosted reports plain).bind fun value => ?_
  exact (Tends.letter _).bind fun after => .ite (.pure _) (.of_looks refuses.looks)

end

/-- Whatever confined code calls tends to the master, however deep letters enclose each other. -/
theorem tends_confinedWithin (apart : Bool) (depth : Nat) (subject : Value) (name : String)
    (given : Given) :
    Tends master master apart (confinedWithin apart depth subject name given) := by
  induction depth generalizing subject name given with
  | zero => exact .lift _
  | succ depth ih =>
    have refuses := refuses_hostNone subject name given
    have lasts := leads_confinedWithin lasting_admits apart (depth + 1) subject name given
    have renders (k : Nat) (occasion : Occasion) (_ : 0 ≤ k) :
        Leads lasting (processWith (confinedWithin apart depth) k occasion) :=
      leads_processWith (fun subject name given => (ih subject name given).lasts)
        (lasting_renders k) occasion
    unfold confinedWithin at lasts ⊢
    dsimp only at lasts ⊢
    split
    · rename_i place
      refine .after_looking (.lift _) lasts fun {store found after} hosts ran => ?_
      cases found with
      | none => exact .of_looks refuses.looks
      | some fields =>
        rw [M.runFrom_lift] at ran
        have isThere := mem_surroundings (Prod.ext (Prod.mk.inj ran).1 rfl)
        have reports := hosts.reports fields isThere.2
        have refusing :
            Leads lasting (Host.none (.record .context place) name given : Work Value) :=
          Leads.lift _
        dsimp only
        split
        · rename_i isOffered
          rw [Bool.and_eq_true] at isOffered
          have leads := leads_confinedMethod lasting_admits renders apart (.ofFields fields) name
            given refusing
          rcases List.mem_cons.mp (List.contains_iff_mem.mp isOffered.1) with rfl | others
          · exact tends_confinedMethod_picture _ reports (.inl rfl) given refuses leads
          · rcases List.mem_cons.mp others with rfl | last
            · exact tends_confinedMethod_picture _ reports (.inr rfl) given refuses leads
            · cases List.mem_singleton.mp last
              exact tends_confinedMethod_partial (keepsAll_confinedWithin apart depth) ih reports
                isOffered.2 refuses
        · exact .of_looks refuses.looks
    · exact .of_looks refuses.looks

/-! ## Only one letter changes -/

/-- The course of a workspace in which one letter changes, and no other. -/
def touching (k : Nat) : Course Workspace where
  leads := Touches k
  refl _ := ⟨rfl, rfl, fun _ _ => rfl⟩
  trans begun ended := ⟨ended.files.trans begun.files, ended.size.trans begun.size,
    fun j differs => (ended.others j differs).trans (begun.others j differs)⟩

theorem touching_change (k : Nat) (change : Letter → Letter) :
    Leads (touching k) (Work.change k change) := by
  intro store
  rw [runFrom_change]
  exact ⟨rfl, size_modify _ _ _, fun j differs => letter_modify_of_ne differs _⟩

/-- Adding to a letter what was registered, and forgetting it, changes no other letter. -/
theorem touches_of_process {id : Nat} {occasion : Occasion} {store : Store Workspace} :
    Touches id ((renderParts (hostWithin enclosureLimit) id occasion).runFrom store).2.world
      ((process id occasion).runFrom store).2.world := by
  have fills : Fills (touching id) id :=
    ⟨fun _ => touching_change id _, fun _ => touching_change id _, fun _ => touching_change id _⟩
  have filled : Touches id
      ((renderParts (hostWithin enclosureLimit) id occasion).runFrom store).2.world
      ((fill (hostWithin enclosureLimit) id occasion).runFrom store).2.world := by
    unfold fill
    rw [M.runFrom_bind]
    rcases (renderParts (hostWithin enclosureLimit) id occasion).runFrom store with
      ⟨fault | parts, rendered⟩
    · exact (touching id).refl _
    · exact leads_addRegistered fills (fun _ => touching_change id _) rendered
  unfold process
  rw [processWith_eq]
  refine (touching id).trans filled ?_
  exact ⟨rfl, size_modify _ _ _, fun j differs => letter_modify_of_ne differs _⟩

/-! ## The outermost letter -/

/-- A letter that is the outermost one of those that are rendered, with itself as the master. -/
structure IsOutermost (id : Nat) (occasion : Occasion) (store : Store Workspace) : Prop where
  master : occasion.master = id
  inside : id < store.world.letters.size
  layout : (store.world.letter id).layout = {}
  reports : ∀ fields ∈ store.surroundings, (Surroundings.ofFields fields).occasion.master = id
  distinct : (Keyed.names (store.world.letter id).pictures).Nodup

theorem IsOutermost.hosts {id : Nat} {occasion : Occasion} {store : Store Workspace}
    (outermost : IsOutermost id occasion store) : Hosts id id store :=
  ⟨outermost.reports, outermost.inside, outermost.inside, outermost.layout⟩

/-- What rendering the outermost letter leaves, whether it succeeds or fails: no file changes,
nothing is registered any more, and of all letters only this one has changed; those that were opened
are put away. -/
structure LeavesOthers (id : Nat) (before after : Workspace) : Prop where
  files : after.files = before.files
  pictures : (after.letter id).pictures = []
  enclosures : (after.letter id).enclosures = []
  others : ∀ k < before.letters.size, k ≠ id → after.letter k = before.letter k
  away : ∀ k, Opened before after k → (after.letter k).IsPutAway before.files

section

variable {id : Nat} {occasion : Occasion} {store : Store Workspace}

/-- Where the outermost letter keeps to its surroundings, what it may call tends to it. -/
theorem IsOutermost.renders (outermost : IsOutermost id occasion store)
    (keeps : KeepsToSurroundings apart id occasion store)
    (clean : OpensClean store.world
      ((renderParts (hostWithin enclosureLimit) id occasion).runFrom store).2.world) :
    Spares id id store.world
        ((renderParts (hostWithin enclosureLimit) id occasion).runFrom store).2.world ∧
      ∀ parts rendered,
        (renderParts (hostWithin enclosureLimit) id occasion).runFrom store
          = (.ok parts, rendered) →
        Gathers id apart store.world rendered.world := by
  have tends : Tends id id apart (renderParts (confinedWithin apart enclosureLimit) id occasion) :=
    .renderParts (tends_confinedWithin apart enclosureLimit) outermost.master
  obtain ⟨succeeds, world⟩ := keeps
  have spares := tends.spares outermost.hosts
  rw [world] at clean ⊢
  refine ⟨spares clean, fun parts rendered ran => ?_⟩
  rw [ran] at succeeds world
  obtain ⟨others, last, isLast⟩ := M.runFrom_eq_ok_of_isSome succeeds.symm
  rw [isLast] at world clean
  have gathers := (tends.gathers outermost.hosts isLast clean).2
  rwa [← world] at gathers

/-- Of the letters that rendering the outermost letter opens, nothing changes any more once its
parts are rendered. -/
theorem IsOutermost.ends (outermost : IsOutermost id occasion store) :
    let rendered := ((renderParts (hostWithin enclosureLimit) id occasion).runFrom store).2.world
    let after := ((process id occasion).runFrom store).2.world
    (∀ k, Opened store.world after k → Opened store.world rendered k ∧
      after.letter k = rendered.letter k) ∧
    (OpensClean store.world after → OpensClean store.world rendered) ∧
    (PathsDiffer store.world after → PathsDiffer store.world rendered) := by
  intro rendered after
  have touches : Touches id rendered after := touches_of_process
  have same {k : Nat} (opened : Opened store.world rendered k) :
      Opened store.world after k ∧ after.letter k = rendered.letter k := by
    refine ⟨⟨opened.1, Nat.lt_of_lt_of_eq opened.2 touches.size.symm⟩, touches.others k ?_⟩
    exact (Nat.ne_of_lt (Nat.lt_of_lt_of_le outermost.inside opened.1)).symm
  refine ⟨fun k opened => ?_, fun clean k opened archive found => ?_,
    fun differ j k first second clash => ?_⟩
  · have early : Opened store.world rendered k :=
      ⟨opened.1, Nat.lt_of_lt_of_eq opened.2 touches.size⟩
    exact ⟨early, (same early).2⟩
  · rw [← (same opened).2] at found
    exact clean k (same opened).1 archive found
  · rw [← (same first).2, ← (same second).2] at clash
    exact differ j k (same first).1 (same second).1 clash

/-- Rendering the outermost letter leaves all others, whether it succeeds or fails. -/
theorem IsOutermost.leavesOthers (outermost : IsOutermost id occasion store)
    (keeps : KeepsToSurroundings apart id occasion store)
    (clean : OpensClean store.world ((process id occasion).runFrom store).2.world) :
    LeavesOthers id store.world ((process id occasion).runFrom store).2.world := by
  have touches : Touches id
      ((renderParts (hostWithin enclosureLimit) id occasion).runFrom store).2.world
      ((process id occasion).runFrom store).2.world := touches_of_process
  obtain ⟨opens, isClean, -⟩ := outermost.ends
  have spares := (outermost.renders keeps (isClean clean)).1
  have lasts : lasting.leads _ _ := leads_renderParts
    (leads_hostWithin lasting_admits enclosureLimit) (lasting_renders id) occasion store
  have bared : (((process id occasion).runFrom store).2.world.letter id).pictures = [] ∧
      (((process id occasion).runFrom store).2.world.letter id).enclosures = [] := by
    have inside := Nat.lt_of_lt_of_eq (Nat.lt_of_lt_of_le outermost.inside lasts.1)
      touches.size.symm
    unfold process at inside ⊢
    rw [processWith_eq] at inside ⊢
    dsimp only at inside ⊢
    rw [size_modify] at inside
    rw [letter_modify_self inside]
    exact ⟨rfl, rfl⟩
  exact
    { files := touches.files.trans spares.files
      pictures := bared.1
      enclosures := bared.2
      others := fun k old differs =>
        (touches.others k differs).trans (spares.others k old differs differs)
      away := fun k opened => by
        rw [(opens k opened).2]
        exact spares.away k (opens k opened).1 }

/-- The pictures that are staged while the parts of the outermost letter are rendered are in its
package in the end, if they keep apart. -/
theorem IsOutermost.holdsStaged (outermost : IsOutermost id occasion store) {parts : Part × Part}
    {rendered after : Store Workspace}
    (renders : (renderParts (hostWithin enclosureLimit) id occasion).runFrom store
      = (.ok parts, rendered))
    (gathers : Gathers id apart store.world rendered.world)
    (done : (process id occasion).runFrom store = (.ok (), after)) :
    ∃ paths, Stages id paths store.world rendered.world ∧ (apart = true → ∀ path ∈ paths,
      Package.HoldsFile after.world.files (after.world.letter id).package ("Pictures/" ++ path.name)
        path) := by
  obtain ⟨last, ready, pictured, finishes⟩ :=
    process_finishes outermost.inside outermost.layout done
  obtain ⟨others, isRendered⟩ := finishes.renders
  rw [renders] at isRendered
  cases isRendered
  obtain ⟨paths, stages, holds⟩ := gathers.staged
  have distinct : (Keyed.names (rendered.world.letter id).pictures).Nodup := by
    rw [stages.pictures]
    exact nodup_staged outermost.distinct _
  have now : (after.world.letter id).package = pictured := (Prod.mk.inj finishes.shows.2).1
  refine ⟨paths, stages, fun isApart path member => ?_⟩
  rw [now]
  exact (finishes.adds.holds distinct).1 path.name path (holds isApart path member)

end

/-! ## Styles of enclosed letters -/

/-- Where the parts of a letter were rendered, the styles have a text. -/
theorem rendered_of_renderParts {host : Host Workspace} (keeps : KeepsAll host) {id : Nat}
    {occasion : Occasion} {store rendered : Store Workspace} {parts : Part × Part}
    (inside : id < store.world.letters.size)
    (ran : (renderParts host id occasion).runFrom store = (.ok parts, rendered)) :
    ∃ text, parts.1.rendered = some text := by
  rcases renderParts_cases keeps inside with
    ⟨_, _, -, failed, -⟩ | ⟨_, _, _, _, -, -, failed, -⟩ | ⟨_, _, _, done, -, -, isRendered, -⟩
  · rw [ran] at failed
    cases failed
  · rw [ran] at failed
    cases failed
  · rw [ran] at done
    cases done
    exact isRendered

/-- What rendered styles become when others are added to them, which were all read. -/
theorem merged_of_mergeStyles {part merged : Part} {sources : List Part.StyleSource}
    {text : List Char} {outlook : Outlook} {heap last : Heap}
    (isRendered : part.rendered = some text)
    (merges : (part.mergeStyles sources).runFrom outlook heap = (.ok merged, last)) :
    ∃ own documents, Part.readRendered text = .ok own ∧
      (Part.textsOf sources).mapM Part.readRendered = .ok documents ∧
      merged.rendered = some (Style.merge own documents).1.print := by
  have outcome := Part.fst_mergeStyles isRendered sources outlook heap
  rw [merges] at outcome
  cases isOwn : Part.readRendered text with
  | error fault =>
    rw [isOwn] at outcome
    cases outcome
  | ok own =>
    cases others : (Part.textsOf sources).mapM Part.readRendered with
    | error fault =>
      rw [isOwn, others] at outcome
      cases outcome
    | ok documents =>
      rw [isOwn, others] at outcome
      cases outcome
      exact ⟨own, documents, rfl, rfl, rfl⟩

/-- Each of several texts that were all read is one of the documents. -/
theorem mem_of_mapM_readRendered {texts : List (List Char)} {documents : List Xml.Document}
    (read : texts.mapM Part.readRendered = .ok documents) {text : List Char}
    (member : text ∈ texts) :
    ∃ document ∈ documents, Part.readRendered text = .ok document := by
  induction texts generalizing documents with
  | nil => cases member
  | cons first rest ih =>
    rw [Part.mapM_readRendered_cons] at read
    cases isFirst : Part.readRendered first with
    | error fault =>
      rw [isFirst] at read
      cases read
    | ok found =>
      cases others : rest.mapM Part.readRendered with
      | error fault =>
        rw [isFirst, others] at read
        cases read
      | ok more =>
        rw [isFirst, others] at read
        cases read
        rcases List.mem_cons.mp member with rfl | later
        · exact ⟨found, List.mem_cons_self, isFirst⟩
        · obtain ⟨document, isThere, isRead⟩ := ih others later
          exact ⟨document, List.mem_cons_of_mem _ isThere, isRead⟩

/-- The styles of a letter that is registered are shared. -/
theorem mem_textsOf_sharedStyles {workspace : Workspace} {id k : Nat} {key : String}
    {text : List Char} (registered : (workspace.letter id).enclosures.lookup key = some (.letter k))
    (isText : (workspace.letter k).styles.bind (·.rendered) = some text) :
    text ∈ Part.textsOf (sharedStyles workspace id) := by
  have member := Keyed.mem_of_lookup registered
  exact List.mem_filterMap.mpr ⟨_, List.mem_map.mpr ⟨_, member, rfl⟩, isText⟩

/-- The styles of one letter hold those of another one, each unless one of its family and name was
there when its turn came. `own` is what they were before, `documents` are those that were added to
them, and `merged` is what came of it. That can be read if the documents are in harmony. -/
structure Shares (workspace : Workspace) (id k : Nat) (own : Xml.Document)
    (documents : List Xml.Document) (merged : Xml.Document) : Prop where
  print : (workspace.letter id).styles.bind (·.rendered) = some merged.print
  read : Style.Harmonious (own :: documents) → Part.readRendered merged.print = .ok merged.joined
  shared : ∃ text source, (workspace.letter k).styles.bind (·.rendered) = some text ∧
    Part.readRendered text = .ok source ∧ source ∈ documents ∧
    ∀ base ∈ Style.mergedSections,
      ∀ style ∈ Style.withTails (Style.sectionOf base source.content),
        style.IsIn (Style.sectionOf base merged.joined.content) ∨
          style.IsKnown (Style.namedKeys (Style.sectionOf base own.content))
            ((Style.givenByAll documents base).flatMap Style.withTails)

section

variable {id : Nat} {occasion : Occasion} {store : Store Workspace}

/-- The styles of each letter that rendering the outermost letter opens are shared with it, if their
paths differ. -/
theorem IsOutermost.shares (outermost : IsOutermost id occasion store) {parts : Part × Part}
    {rendered after : Store Workspace}
    (renders : (renderParts (hostWithin enclosureLimit) id occasion).runFrom store
      = (.ok parts, rendered))
    (gathers : Gathers id apart store.world rendered.world)
    (done : (process id occasion).runFrom store = (.ok (), after))
    (differ : PathsDiffer store.world after.world) {k : Nat}
    (opened : Opened store.world after.world k) :
    ∃ own documents merged, parts.1.rendered.map Part.readRendered = some (.ok own) ∧
      (Part.textsOf (sharedStyles rendered.world id)).mapM Part.readRendered = .ok documents ∧
      Shares after.world id k own documents merged := by
  obtain ⟨opens, -, differs⟩ := outermost.ends
  rw [renders, done] at opens differs
  dsimp only at opens differs
  obtain ⟨early, same⟩ := opens k opened
  obtain ⟨key, -, registered⟩ := gathers.encloses (differs differ) k early
  obtain ⟨text, isText⟩ := gathers.rendered k early
  unfold process at done
  obtain ⟨-, content, styles, made, held⟩ :=
    processWith_eq_ok (keepsAll_hostWithin enclosureLimit) outermost.inside done
  obtain ⟨stylesPart, contentPart, last, ran, -, merges⟩ := made
  rw [renders] at ran
  cases ran
  -- The own styles are rendered, and those of others are added, since a letter is registered.
  obtain ⟨ownText, isOwn⟩ :=
    rendered_of_renderParts (keepsAll_hostWithin enclosureLimit) outermost.inside renders
  rcases merges with ⟨alone, -⟩ | ⟨-, heap, merged, after, merges, isMerged⟩
  · rw [List.isEmpty_iff.mp alone] at registered
    cases registered
  obtain ⟨own, documents, isRead, areRead, isPrinted⟩ := merged_of_mergeStyles isOwn merges
  rw [isPrinted] at isMerged
  obtain rfl := Option.some.inj isMerged
  obtain ⟨source, member, isSource⟩ :=
    mem_of_mapM_readRendered areRead (mem_textsOf_sharedStyles registered isText)
  refine ⟨own, documents, (Style.merge own documents).1, ?_, areRead, ?_⟩
  · rw [isOwn, Option.map_some, isRead]
  · refine ⟨held.2, fun harmonious => ?_, text, source, ?_, isSource, member, ?_⟩
    · refine Part.readRendered_print (Style.sound_merge harmonious ?_)
      exact List.forall_mem_cons.mpr
        ⟨Part.sound_of_readRendered isRead, Part.sound_of_mapM_readRendered areRead⟩
    · rw [same]
      exact isText
    · exact fun base isSection style isStyle =>
        Style.isIn_or_isKnown_of_merge member isSection isStyle

/-- All letters that are rendered report to the outermost one. Whether that succeeds or fails, the
others are left alone. Where it succeeds, the outermost letter has the pictures and the styles. -/
theorem process_reports_to_outermost (outermost : IsOutermost id occasion store)
    (keeps : KeepsToSurroundings apart id occasion store)
    (clean : OpensClean store.world ((process id occasion).runFrom store).2.world) :
    LeavesOthers id store.world ((process id occasion).runFrom store).2.world ∧
    ∀ after, (process id occasion).runFrom store = (.ok (), after) →
      ∃ parts rendered paths,
        (renderParts (hostWithin enclosureLimit) id occasion).runFrom store
          = (.ok parts, rendered) ∧
        Stages id paths store.world rendered.world ∧
        (apart = true → ∀ path ∈ paths, Package.HoldsFile after.world.files
          (after.world.letter id).package ("Pictures/" ++ path.name) path) ∧
        (PathsDiffer store.world after.world → ∀ k, Opened store.world after.world k →
          ∃ own documents merged, parts.1.rendered.map Part.readRendered = some (.ok own) ∧
            (Part.textsOf (sharedStyles rendered.world id)).mapM Part.readRendered
              = .ok documents ∧
            Shares after.world id k own documents merged) := by
  refine ⟨outermost.leavesOthers keeps clean, fun after done => ?_⟩
  obtain ⟨-, isClean, -⟩ := outermost.ends
  obtain ⟨-, gathers⟩ := outermost.renders keeps (isClean clean)
  obtain ⟨last, ready, pictured, finishes⟩ :=
    process_finishes outermost.inside outermost.layout done
  obtain ⟨parts, renders⟩ := finishes.renders
  have gathered := gathers parts last renders
  obtain ⟨paths, stages, holds⟩ := outermost.holdsStaged renders gathered done
  exact ⟨parts, last, paths, renders, stages, holds, fun differ k opened =>
    outermost.shares renders gathered done differ opened⟩

end

/-! ### A letter in a letter in a letter -/

/-- The archive that a path leads to stands somewhere. -/
theorem mem_of_archiveAt? {files : Files} {path : Path} {archive : Archive}
    (found : Package.archiveAt? files path = some archive) :
    ∃ entry ∈ files, entry.2.archive? = some archive := by
  unfold Package.archiveAt? Files.look at found
  cases isPlace : files.place path with
  | error problem =>
    rw [isPlace] at found
    cases found
  | ok place =>
    rw [isPlace] at found
    dsimp only [bind, Except.bind] at found
    cases stands : files.at? place with
    | none =>
      rw [stands] at found
      cases found
    | some item =>
      rw [stands] at found
      unfold Files.at? at stands
      split at stands
      · cases stands
        cases found
      · exact ⟨_, Keyed.mem_of_lookup stands, found⟩

/-- Where no archive has names that letters keep for themselves, none is opened. -/
theorem opensClean_of_files {before after : Workspace}
    (clean : ∀ entry ∈ before.files, ∀ archive, entry.2.archive? = some archive →
      ∀ kept ∈ archive, ¬ IsOwn kept.name) : OpensClean before after := by
  intro k opened archive found
  obtain ⟨entry, member, isArchive⟩ := mem_of_archiveAt? found
  exact clean entry member archive isArchive

/-- An archive of these two parts. -/
def archiveOf (content styles : String) : Archive :=
  [⟨"content.xml", ⟨.deflated, 1, .earliest⟩, content.toUTF8⟩,
    ⟨"styles.xml", ⟨.deflated, 1, .earliest⟩, styles.toUTF8⟩]

/-- A store in which the letter at `t` is opened. -/
def openedIn (files : Files) : Store Workspace :=
  (M.runFrom (openAt {} ⟨"", ["t"]⟩) (.start false ⟨files, #[]⟩)).2

/-- A letter that encloses another one, which encloses a third one, which shows a picture. -/
def nestedFiles : Files :=
  [(["t"], .archive (archiveOf "<a><!--<%= ctx.partial('p') %>--></a>" "<a/>")),
    (["p"], .archive (archiveOf "<a><!--<%= ctx.partial('q') %>--></a>" "<a/>")),
    (["q"], .archive (archiveOf "<a><!--<%= ctx.add_image('x') %>--></a>" "<a/>")),
    (["x"], .bytes "x".toUTF8)]

/-- What comes of rendering the parts of the letter at `t`. -/
def renderedIn (host : Host Workspace) (store : Store Workspace) :
    Except Fault (Part × Part) × Store Workspace :=
  (renderParts host 0 ⟨0, .none, .none⟩).runFrom store

deriving instance DecidableEq for Package
deriving instance DecidableEq for Part
deriving instance DecidableEq for Layout
deriving instance DecidableEq for Letter
deriving instance DecidableEq for Workspace

/-- True where rendering the parts succeeds, and goes the same way where the code is confined. -/
def goesConfined (store : Store Workspace) : Bool :=
  let free := renderedIn (hostWithin enclosureLimit) store
  let confined := renderedIn (confinedWithin true enclosureLimit) store
  free.1.toOption.isSome && confined.1.toOption.isSome && decide (free.2.world = confined.2.world)

/-- True where rendering the parts opens two letters of different paths and stages the picture at
`x`, and what is registered then can be added. -/
def gathersNested (store : Store Workspace) : Bool :=
  let rendered := (renderedIn (hostWithin enclosureLimit) store).2
  rendered.world.letters.size == 3
    && (rendered.world.letter 1).path != (rendered.world.letter 2).path
    && decide ((rendered.world.letter 0).pictures.lookup "x" = some ⟨"", ["x"]⟩)
    && ((addRegistered 0).runFrom rendered).1.toOption.isSome

/-- Rendering a letter succeeds where its parts are rendered and what is registered then can be
added. -/
theorem process_succeeds {id : Nat} {occasion : Occasion} {store rendered : Store Workspace}
    {parts : Part × Part}
    (renders : (renderParts (hostWithin enclosureLimit) id occasion).runFrom store
      = (.ok parts, rendered))
    (adds : ((addRegistered id).runFrom rendered).1.toOption.isSome = true) :
    ∃ after, (process id occasion).runFrom store = (.ok (), after) := by
  obtain ⟨_, added, isAdded⟩ := M.runFrom_eq_ok_of_isSome adds
  have filled : (fill (hostWithin enclosureLimit) id occasion).runFrom store = (.ok (), added) := by
    unfold fill
    rw [M.runFrom_bind, renders]
    exact isAdded
  unfold process
  rw [processWith_eq, filled]
  exact ⟨_, rfl⟩

/-- The third letter reports to the first one, which gets its styles and its picture. -/
theorem process_reports_to_outermost_nested :
    ∃ after, (process 0 ⟨0, .none, .none⟩).runFrom (openedIn nestedFiles) = (.ok (), after) ∧
      LeavesOthers 0 (openedIn nestedFiles).world after.world ∧
      Opened (openedIn nestedFiles).world after.world 2 ∧
      (∃ own documents merged, Shares after.world 0 2 own documents merged) ∧
      Package.HoldsFile after.world.files (after.world.letter 0).package "Pictures/x"
        ⟨"", ["x"]⟩ := by
  let letter := (openedIn nestedFiles).world.letter 0
  obtain ⟨one, layout, alone, distinct⟩ : (openedIn nestedFiles).world.letters.size = 1 ∧
      letter.layout = {} ∧ (openedIn nestedFiles).surroundings.isEmpty = true ∧
      (Keyed.names letter.pictures).Nodup := by decide +kernel
  have outermost : IsOutermost 0 ⟨0, .none, .none⟩ (openedIn nestedFiles) := by
    refine ⟨rfl, by omega, layout, fun fields member => ?_, distinct⟩
    rw [List.isEmpty_iff.mp alone] at member
    cases member
  have files : (openedIn nestedFiles).world.files = nestedFiles := by decide +kernel
  have clean : ∀ entry ∈ (openedIn nestedFiles).world.files, ∀ archive,
      entry.2.archive? = some archive → ∀ kept ∈ archive, ¬ IsOwn kept.name := by
    have each : ∀ entry ∈ nestedFiles, ∀ archive ∈ entry.2.archive?, ∀ kept ∈ archive,
        ¬ IsOwn kept.name := by decide +kernel
    rw [files]
    exact each
  -- Both are evaluated at once, since they render the same parts.
  have runs : goesConfined (openedIn nestedFiles) && gathersNested (openedIn nestedFiles) := by
    decide +kernel
  unfold goesConfined gathersNested renderedIn at runs
  simp only [Bool.and_eq_true, decide_eq_true_iff, beq_iff_eq, bne_iff_ne] at runs
  obtain ⟨⟨⟨free, confined⟩, same⟩, ⟨⟨three, differ⟩, picture⟩, adds⟩ := runs
  have keeps : KeepsToSurroundings true 0 ⟨0, .none, .none⟩ (openedIn nestedFiles) :=
    ⟨free.trans confined.symm, same⟩
  obtain ⟨parts, rendered, renders⟩ := M.runFrom_eq_ok_of_isSome free
  rw [renders] at three differ picture adds
  obtain ⟨after, done⟩ := process_succeeds renders adds
  obtain ⟨leaves, succeeds⟩ :=
    process_reports_to_outermost outermost keeps (opensClean_of_files clean)
  obtain ⟨others, last, paths, isRendered, stages, holds, shares⟩ := succeeds after done
  rw [renders] at isRendered
  cases isRendered
  rw [done] at leaves
  have touches : Touches 0 rendered.world after.world := by
    have held := @touches_of_process 0 ⟨0, .none, .none⟩ (openedIn nestedFiles)
    rwa [renders, done] at held
  have size : after.world.letters.size = 3 := touches.size.trans three
  have opened : Opened (openedIn nestedFiles).world after.world 2 := ⟨by omega, by omega⟩
  have pathsDiffer : PathsDiffer (openedIn nestedFiles).world after.world := by
    rintro j k ⟨fromJ, toJ⟩ ⟨fromK, toK⟩ clash
    obtain rfl | rfl : j = 1 ∨ j = 2 := by omega
    · obtain rfl | rfl : k = 1 ∨ k = 2 := by omega
      · rfl
      · rw [touches.others 1 (by decide), touches.others 2 (by decide)] at clash
        exact absurd clash differ
    · obtain rfl | rfl : k = 1 ∨ k = 2 := by omega
      · rw [touches.others 1 (by decide), touches.others 2 (by decide)] at clash
        exact absurd clash.symm differ
      · rfl
  have isStaged : (⟨"", ["x"]⟩ : Path) ∈ paths := by
    dsimp only at picture
    rw [stages.pictures, lookup_staged] at picture
    cases last : lastNamed "x" paths with
    | none =>
      rw [last] at picture
      cases picture
    | some path =>
      rw [last] at picture
      cases picture
      exact List.mem_reverse.mp (List.mem_of_find?_eq_some last)
  obtain ⟨own, documents, merged, -, -, isShared⟩ := shares pathsDiffer 2 opened
  exact ⟨after, done, leaves, opened, ⟨own, documents, merged, isShared⟩,
    holds rfl ⟨"", ["x"]⟩ isStaged⟩

/-! ### A style that loses its name -/

/-- A letter that encloses others, and that no picture waits for, gets their styles. -/
theorem addRegistered_of_ok {id : Nat} {store : Store Workspace} {part merged : Part} {last : Heap}
    (inside : id < store.world.letters.size)
    (held : (store.world.letter id).styles = some part)
    (encloses : (store.world.letter id).enclosures.isEmpty = false)
    (unpictured : (store.world.letter id).pictures.isEmpty = true)
    (merges : (part.mergeStyles (sharedStyles store.world id)).runFrom
      (World.outlook store.world) store.toHeap = (.ok merged, last)) :
    ∃ after, (addRegistered id).runFrom store = (.ok (), after) ∧
      after.world.letter id = (store.world.letter id).withStyles merged := by
  have added : (addEnclosed id).runFrom store
      = (.ok (), ⟨last, store.world.modify id (Letter.withStyles merged)⟩) := by
    unfold addEnclosed mergeEnclosures
    rw [M.runFrom_bind, runFrom_letter]
    dsimp only
    rw [encloses, if_neg Bool.false_ne_true, M.runFrom_bind, runFrom_workspace]
    dsimp only
    rw [held]
    dsimp only
    rw [M.runFrom_bind, M.runFrom_lift, merges]
    rfl
  have now := letter_modify_self inside (Letter.withStyles merged)
  refine ⟨⟨last, store.world.modify id (Letter.withStyles merged)⟩, ?_, now⟩
  unfold addRegistered addPictures
  rw [M.runFrom_bind, added]
  dsimp only
  rw [M.runFrom_bind, runFrom_letter, now]
  dsimp only [Letter.withStyles]
  rw [unpictured, if_pos rfl]
  rfl

/-- A letter with these rendered styles that encloses these letters. -/
def styledWith (styles : Xml.Document) (enclosures : List (String × Enclosure)) : Letter :=
  { Letter.ofPackage {} false default with
    styles := some ⟨[], "styles.xml", some styles.print⟩, enclosures }

/-- A letter that has no styles and encloses one that has a style. -/
def hidingLetters : Workspace :=
  ⟨[], #[styledWith Part.noStyles [("p", .letter 1)], styledWith Part.hidingStyles []]⟩

/-- The style that an enclosed letter shares with the outermost one loses its name there when it
declares the qualifier of the name anew. Such styles are not in harmony. -/
theorem addRegistered_loses_name :
    ∃ after, (addRegistered 0).runFrom (.start false hidingLetters) = (.ok (), after) ∧
      (after.world.letter 0).styles.bind (·.rendered) = some (Part.hiddenStyles 1).print ∧
      Part.readRendered (Part.hiddenStyles 1).print = .ok (Part.hiddenStyles 1).joined ∧
      Part.readRendered Part.hidingStyles.print = .ok Part.hidingStyles.joined ∧
      Style.namedKeys (Style.sectionOf "styles" Part.hidingStyles.joined.content)
        = [⟨none, some "A"⟩] ∧
      Style.namedKeys (Style.sectionOf "styles" Part.noStyles.joined.content) = [] ∧
      Style.namedKeys (Style.sectionOf "styles" (Part.hiddenStyles 1).joined.content) = [] := by
  let store : Store Workspace := .start false hidingLetters
  have shared : (Part.textsOf (sharedStyles store.world 0)).mapM Part.readRendered
      = .ok [Part.hidingStyles.joined] := by
    change [Part.hidingStyles.print].mapM Part.readRendered = _
    rw [Part.mapM_readRendered_cons, Part.readRendered_hidingStyles]
    rfl
  have outcome : ((Part.mergeStyles ⟨[], "styles.xml", some Part.noStyles.print⟩
      (sharedStyles store.world 0)).runFrom (World.outlook store.world) store.toHeap).1
      = .ok ⟨[], "styles.xml", some (Part.hiddenStyles 1).print⟩ := by
    rw [Part.fst_mergeStyles rfl, Part.readRendered_noStyles, shared, ← Part.merge_hidingStyles]
    rfl
  rcases ran : (Part.mergeStyles ⟨[], "styles.xml", some Part.noStyles.print⟩
    (sharedStyles store.world 0)).runFrom (World.outlook store.world) store.toHeap with
    ⟨_ | merged, last⟩
  · rw [ran] at outcome
    cases outcome
  · rw [ran] at outcome
    obtain rfl : merged = ⟨[], "styles.xml", some (Part.hiddenStyles 1).print⟩ := by
      cases outcome
      rfl
    obtain ⟨after, done, now⟩ := addRegistered_of_ok (by decide) rfl rfl rfl ran
    refine ⟨after, done, ?_, Part.readRendered_hiddenStyles, Part.readRendered_hidingStyles,
      by decide, by decide, by decide⟩
    rw [now]
    rfl

end Work

end FormLetter
