import FormLetter.Proofs.Letter.Keeping

/-!
# What rendering leaves in a letter

While a part is rendered, the letter holds it unrendered; so a rendering that fails there leaves no
rendered text behind. The content comes after the styles. A rendering that fails before it comes to
the content leaves the content that was there, and one that succeeds leaves exactly the parts that
it rendered, the styles with those of the enclosed letters added.
-/

namespace FormLetter

open FormLetter.Script

/-- A part that was rendered has a text, and is the same part otherwise. -/
theorem Part.process_eq_ok {host : Host Workspace} {bound : List (String × Value)}
    {part rendered : Part} {store after : Store Workspace}
    (done : (part.process host bound).runFrom store = (.ok rendered, after)) :
    ∃ text, rendered = { part with rendered := some text } := by
  obtain ⟨text, -, -, same, -⟩ := process_eq_ok_iff.mp done
  exact ⟨text, same⟩

/-- A part that styles were added to has a text. -/
theorem Part.mergeStyles_eq_ok {part merged : Part} {sources : List Part.StyleSource}
    {outlook : Outlook} {heap last : Heap}
    (done : (part.mergeStyles sources).runFrom outlook heap = (.ok merged, last)) :
    ∃ text, merged.rendered = some text := by
  unfold Part.mergeStyles at done
  split at done
  · cases done
  · obtain ⟨root, _, -, done⟩ := Local.runFrom_bind_eq_ok.mp done
    obtain ⟨documents, _, -, done⟩ := Local.runFrom_bind_eq_ok.mp done
    obtain ⟨_, _, -, done⟩ := Local.runFrom_bind_eq_ok.mp done
    cases done
    exact ⟨_, rfl⟩

/-- The path and the layout of a letter. -/
def Letter.setting (letter : Letter) : Path × Layout := (letter.path, letter.layout)

namespace Work

/-! ## Views of a letter -/

/-- The course of a workspace that keeps what a view shows of a letter, if the letter is there. -/
def showing {α : Type} (id : Nat) (view : Letter → α) : Course Workspace where
  leads before after := id < before.letters.size →
    id < after.letters.size ∧ view (after.letter id) = view (before.letter id)
  refl _ inside := ⟨inside, rfl⟩
  trans begun ended inside :=
    have early := begun inside
    have late := ended early.1
    ⟨late.1, late.2.trans early.2⟩

variable {α β : Type} {id : Nat} {view : Letter → α}

/-- A change of a letter that a view does not show. -/
theorem shows_change {change : Letter → Letter}
    (same : ∀ letter, view (change letter) = view letter) :
    Leads (showing id view) (Work.change id change) := by
  intro store inside
  rw [runFrom_change]
  refine ⟨Nat.lt_of_lt_of_eq inside (Workspace.size_modify _ _ _).symm, ?_⟩
  rw [Workspace.letter_modify_self inside, same]

/-- What keeps letters keeps what a view shows, unless the view shows what is registered. -/
theorem shows_of_keeps {action : Work β} (keeps : Leads (Workspace.keeping (id + 1)) action)
    (bare : ∀ letter, view letter.bare = view letter) : Leads (showing id view) action := by
  intro store inside
  have kept := keeps store inside
  refine ⟨Nat.lt_of_lt_of_le inside kept.grows, ?_⟩
  rw [← bare, kept.bare id (Nat.lt_succ_self id), bare]

/-- A view of what stays while a letter is compiled and its package is filled. -/
structure ShowsParts (view : Letter → α) : Prop where
  bare : ∀ letter, view letter.bare = view letter
  package : ∀ letter package, view { letter with package } = view letter
  rawStyles : ∀ letter rawStyles, view { letter with rawStyles } = view letter
  rawContent : ∀ letter rawContent, view { letter with rawContent } = view letter

theorem showing_fills (shows : ShowsParts view) : Fills (showing id view) id where
  package _ := shows_change fun letter => shows.package letter _
  rawStyles _ := shows_change fun letter => shows.rawStyles letter _
  rawContent _ := shows_change fun letter => shows.rawContent letter _

/-- Rendering leaves the path and the layout of a letter. -/
theorem setting_renders : Renders (showing id Letter.setting) id where
  package _ := shows_change fun _ => rfl
  rawStyles _ := shows_change fun _ => rfl
  rawContent _ := shows_change fun _ => rfl
  styles _ := shows_change fun _ => rfl
  content _ := shows_change fun _ => rfl
  bare := shows_change fun _ => rfl

/-! ## Rendering parts -/

/-- A part that was compiled is not rendered, and looking it up changes nothing. -/
theorem partOf_eq_ok {source name : String} {part : Part} {store after : Store Workspace}
    (found : (partOf id source name).runFrom store = (.ok part, after)) :
    after = store ∧ part.rendered = none := by
  unfold partOf Work.source at found
  obtain ⟨text, middle, looked, found⟩ := M.runFrom_bind_eq_ok.mp found
  obtain ⟨letter, _, held, looked⟩ := M.runFrom_bind_eq_ok.mp looked
  rw [runFrom_letter] at held
  cases held
  rw [M.runFrom_bind, M.runFrom_liftExcept] at looked
  cases read : (store.world.letter id).package.readText source with
  | error fault =>
    rw [read] at looked
    cases looked
  | ok content =>
    rw [read] at looked
    cases looked
    cases found
    exact ⟨rfl, rfl⟩

section

variable {host : Host Workspace} (hosted : KeepsAll host)

include hosted

/-- While a part is rendered, the letter holds it unrendered, and it stays so when that fails. -/
theorem renderPart_cases {bound : List (String × Value)} {keep : Part → Letter → Letter}
    {part : Part} {store : Store Workspace} (inside : id < store.world.letters.size) :
    (∃ fault after, (renderPart host bound keep id part).runFrom store = (.error fault, after) ∧
      id < after.world.letters.size ∧
      (after.world.letter id).bare = (keep part (store.world.letter id)).bare) ∨
    ∃ text after before, (renderPart host bound keep id part).runFrom store
        = (.ok { part with rendered := some text }, after) ∧
      id < after.world.letters.size ∧
      before.bare = (keep part (store.world.letter id)).bare ∧
      after.world.letter id = keep { part with rendered := some text } before := by
  unfold renderPart
  rw [M.runFrom_bind, runFrom_change]
  dsimp only
  have there : id < (store.world.modify id (keep part)).letters.size :=
    Nat.lt_of_lt_of_eq inside (Workspace.size_modify _ _ _).symm
  have kept := Leads.process (hosted (id + 1)) bound part
    { store with world := store.world.modify id (keep part) } there
  have still := Nat.lt_of_lt_of_le there kept.grows
  have held := kept.bare id (Nat.lt_succ_self id)
  rw [Workspace.letter_modify_self inside] at held
  rw [M.runFrom_bind]
  rcases ran : (part.process host bound).runFrom
    { store with world := store.world.modify id (keep part) } with ⟨fault | rendered, after⟩
  · rw [ran] at still held
    exact Or.inl ⟨fault, after, rfl, still, held⟩
  · rw [ran] at still held
    obtain ⟨text, rfl⟩ := Part.process_eq_ok ran
    refine Or.inr ⟨text, _, after.world.letter id, rfl, ?_, held, ?_⟩
    · exact Nat.lt_of_lt_of_eq still (Workspace.size_modify _ _ _).symm
    · exact Workspace.letter_modify_self still _

/-- Until the content is rendered, it is the one that was there before. -/
theorem shows_renderStyles (occasion : Occasion) :
    Leads (showing id Letter.content) (renderStyles host id occasion) := by
  have bare (letter : Letter) : letter.bare.content = letter.content := rfl
  have kept (part : Part) (letter : Letter) :
      (letter.withStyles part).content = letter.content := rfl
  have shows : ShowsParts Letter.content := ⟨bare, fun _ _ => rfl, fun _ _ => rfl, fun _ _ => rfl⟩
  exact leads_renderStyles
    (fun subject name given => shows_of_keeps (hosted _ subject name given) bare)
    (showing_fills shows) (fun part => shows_change (kept part)) occasion

/-- The letter holds the styles that were rendered, and the content is not rendered yet. -/
theorem renderStyles_eq_ok {occasion : Occasion} {store after : Store Workspace} {begun : Begun}
    (inside : id < store.world.letters.size)
    (done : (renderStyles host id occasion).runFrom store = (.ok begun, after)) :
    id < after.world.letters.size ∧ (after.world.letter id).styles = some begun.styles ∧
      (∃ sheet, begun.styles.rendered = some sheet) ∧ begun.content.rendered = none := by
  unfold renderStyles at done
  obtain ⟨⟨bound, part⟩, first, prepared, done⟩ := M.runFrom_bind_eq_ok.mp done
  have there : id < first.world.letters.size := by
    have kept := leads_prepare (keeping_renders (Nat.le_refl id)).toFills occasion store
      (Nat.le_of_lt inside)
    rw [prepared] at kept
    exact Nat.lt_of_lt_of_le inside kept.grows
  obtain ⟨styles, second, rendered, done⟩ := M.runFrom_bind_eq_ok.mp done
  obtain ⟨found, third, looked, done⟩ := M.runFrom_bind_eq_ok.mp done
  rw [runFrom_letter] at looked
  cases looked
  obtain ⟨content, fourth, compiled, done⟩ := M.runFrom_bind_eq_ok.mp done
  cases done
  obtain ⟨rfl, unrendered⟩ := partOf_eq_ok compiled
  rcases renderPart_cases hosted there with
    ⟨fault, failed, ran, -⟩ | ⟨text, last, before, ran, still, -, holds⟩
  · rw [ran] at rendered
    cases rendered
  · rw [ran] at rendered
    cases rendered
    refine ⟨still, ?_, ⟨text, rfl⟩, unrendered⟩
    rw [holds]
    rfl

/-- How rendering both parts ends: before the content is begun, and then it is as it was before; in
the content, and then it is not rendered; or with both parts in the letter. -/
theorem renderParts_cases {occasion : Occasion} {store : Store Workspace}
    (inside : id < store.world.letters.size) :
    (∃ fault after, (renderStyles host id occasion).runFrom store = (.error fault, after) ∧
      (renderParts host id occasion).runFrom store = (.error fault, after) ∧
      id < after.world.letters.size ∧
      (after.world.letter id).content = (store.world.letter id).content) ∨
    (∃ begun middle fault after,
      (renderStyles host id occasion).runFrom store = (.ok begun, middle) ∧
      (renderPart host begun.bound Letter.withContent id begun.content).runFrom middle
        = (.error fault, after) ∧
      (renderParts host id occasion).runFrom store = (.error fault, after) ∧
      id < after.world.letters.size ∧
      (after.world.letter id).content.bind (·.rendered) = none) ∨
    ∃ styles content after, (renderParts host id occasion).runFrom store
        = (.ok (styles, content), after) ∧
      id < after.world.letters.size ∧
      (after.world.letter id).styles = some styles ∧ (∃ sheet, styles.rendered = some sheet) ∧
      (after.world.letter id).content = some content ∧ ∃ text, content.rendered = some text := by
  unfold renderParts
  rw [M.runFrom_bind]
  rcases began : (renderStyles host id occasion).runFrom store with ⟨fault | begun, middle⟩
  · have shown := shows_renderStyles hosted occasion store inside
    rw [began] at shown
    exact Or.inl ⟨fault, middle, rfl, rfl, shown.1, shown.2⟩
  · obtain ⟨there, styled, ⟨sheet, isSheet⟩, unrendered⟩ := renderStyles_eq_ok hosted inside began
    dsimp only
    rw [M.runFrom_bind]
    rcases renderPart_cases hosted there with
      ⟨fault, after, ran, still, held⟩ | ⟨text, after, before, ran, still, held, holds⟩
    · refine Or.inr (Or.inl ⟨begun, middle, fault, after, rfl, ran, ?_, still, ?_⟩)
      · rw [ran]
      · have same := congrArg Letter.content held
        change (after.world.letter id).content = some begun.content at same
        rw [same]
        exact unrendered
    · refine Or.inr (Or.inr ⟨begun.styles, { begun.content with rendered := some text }, after, ?_,
        still, ?_, ⟨sheet, isSheet⟩, ?_, text, rfl⟩)
      · rw [ran]
        rfl
      · have same := congrArg Letter.styles held
        change before.styles = (middle.world.letter id).styles at same
        rw [holds]
        exact same.trans styled
      · rw [holds]
        rfl

end

/-! ## What was registered -/

/-- What becomes of rendered styles: the text that they are, unless letters are enclosed whose
styles are added. -/
def MergesTo (workspace : Workspace) (id : Nat) (styles : Part) (text : List Char) : Prop :=
  ((workspace.letter id).enclosures.isEmpty = true ∧ styles.rendered = some text) ∨
    ((workspace.letter id).enclosures.isEmpty = false ∧ ∃ heap merged last,
      (styles.mergeStyles (sharedStyles workspace id)).runFrom (World.outlook workspace) heap
        = (.ok merged, last) ∧ merged.rendered = some text)

/-- Adding the styles of the enclosed letters replaces the styles, and nothing else. -/
theorem mergeEnclosures_eq_ok {store after : Store Workspace} {styles : Part}
    (inside : id < store.world.letters.size)
    (held : (store.world.letter id).styles = some styles)
    (done : (mergeEnclosures id).runFrom store = (.ok (), after)) :
    id < after.world.letters.size ∧
      (after.world.letter id).content = (store.world.letter id).content ∧
      ∃ heap merged last,
        (styles.mergeStyles (sharedStyles store.world id)).runFrom (World.outlook store.world) heap
          = (.ok merged, last) ∧
        (after.world.letter id).styles = some merged := by
  unfold mergeEnclosures at done
  rw [M.runFrom_bind, runFrom_workspace] at done
  dsimp only at done
  rw [held] at done
  dsimp only at done
  rw [M.runFrom_bind, M.runFrom_lift] at done
  rcases ran : (styles.mergeStyles (sharedStyles store.world id)).runFrom
    (World.outlook store.world) store.toHeap with ⟨fault | merged, last⟩
  · rw [ran] at done
    cases done
  · rw [ran] at done
    cases done
    have now := Workspace.letter_modify_self inside (Letter.withStyles merged)
    have sameContent := congrArg Letter.content now
    have newStyles := congrArg Letter.styles now
    exact ⟨Nat.lt_of_lt_of_eq inside (Workspace.size_modify _ _ _).symm, sameContent, _, merged,
      last, ran, newStyles⟩

/-- What adding the enclosed letters leaves of the parts of a letter. -/
theorem addEnclosed_eq_ok {store after : Store Workspace} {styles : Part}
    (inside : id < store.world.letters.size)
    (held : (store.world.letter id).styles = some styles)
    (isRendered : ∃ sheet, styles.rendered = some sheet)
    (done : (addEnclosed id).runFrom store = (.ok (), after)) :
    id < after.world.letters.size ∧
      (after.world.letter id).content = (store.world.letter id).content ∧
      ∃ text, MergesTo store.world id styles text ∧
        (after.world.letter id).styles.bind (·.rendered) = some text := by
  unfold addEnclosed at done
  rw [M.runFrom_bind, runFrom_letter] at done
  dsimp only at done
  split at done
  · rename_i alone
    cases done
    obtain ⟨sheet, isSheet⟩ := isRendered
    refine ⟨inside, rfl, sheet, Or.inl ⟨alone, isSheet⟩, ?_⟩
    rw [held]
    exact isSheet
  · rename_i enclosed
    obtain ⟨there, same, heap, merged, last, ran, now⟩ := mergeEnclosures_eq_ok inside held done
    obtain ⟨text, isText⟩ := Part.mergeStyles_eq_ok ran
    rw [Bool.not_eq_true] at enclosed
    refine ⟨there, same, text, Or.inr ⟨enclosed, heap, merged, last, ran, isText⟩, ?_⟩
    rw [now]
    exact isText

/-- Adding what was registered leaves the content, also when it fails. -/
theorem shows_addRegistered : Leads (showing id Letter.content) (addRegistered id) := by
  have shows : ShowsParts Letter.content :=
    ⟨fun _ => rfl, fun _ _ => rfl, fun _ _ => rfl, fun _ _ => rfl⟩
  have kept (part : Part) (letter : Letter) : (letter.withStyles part).content = letter.content :=
    rfl
  exact leads_addRegistered (showing_fills shows) fun part => shows_change (kept part)

/-- What adding what was registered leaves of the parts of a letter. -/
theorem addRegistered_eq_ok {store after : Store Workspace} {styles : Part}
    (inside : id < store.world.letters.size)
    (held : (store.world.letter id).styles = some styles)
    (isRendered : ∃ sheet, styles.rendered = some sheet)
    (done : (addRegistered id).runFrom store = (.ok (), after)) :
    id < after.world.letters.size ∧
      (after.world.letter id).content = (store.world.letter id).content ∧
      ∃ text, MergesTo store.world id styles text ∧
        (after.world.letter id).styles.bind (·.rendered) = some text := by
  have both : ShowsParts fun letter : Letter => (letter.content, letter.styles) :=
    ⟨fun _ => rfl, fun _ _ => rfl, fun _ _ => rfl, fun _ _ => rfl⟩
  obtain ⟨_, middle, enclosed, done⟩ := M.runFrom_bind_eq_ok.mp done
  obtain ⟨there, same, text, merges, now⟩ := addEnclosed_eq_ok inside held isRendered enclosed
  have shown := leads_addPictures (showing_fills both) middle there
  rw [done] at shown
  obtain ⟨still, kept⟩ := shown
  obtain ⟨contentKept, stylesKept⟩ := Prod.mk.inj kept
  refine ⟨still, contentKept.trans same, text, merges, ?_⟩
  rw [stylesKept]
  exact now

/-! ## Whole renderings -/

section

variable {host : Host Workspace}

/-- A rendering fails before it begins the content. -/
def FailsEarly (host : Host Workspace) (id : Nat) (occasion : Occasion)
    (store : Store Workspace) : Prop :=
  ∃ fault after, (renderStyles host id occasion).runFrom store = (.error fault, after)

/-- A rendering fails while it renders the content. -/
def FailsInContent (host : Host Workspace) (id : Nat) (occasion : Occasion)
    (store : Store Workspace) : Prop :=
  ∃ begun middle, (renderStyles host id occasion).runFrom store = (.ok begun, middle) ∧
    ∃ fault after, (renderPart host begun.bound Letter.withContent id begun.content).runFrom middle
      = (.error fault, after)

/-- The texts that a rendering makes: that of the content, and that of the styles, to which those of
enclosed letters are added. -/
def Makes (host : Host Workspace) (id : Nat) (occasion : Occasion) (store : Store Workspace)
    (content styles : List Char) : Prop :=
  ∃ stylesPart contentPart after,
    (renderParts host id occasion).runFrom store = (.ok (stylesPart, contentPart), after) ∧
      contentPart.rendered = some content ∧ MergesTo after.world id stylesPart styles

/-- The letter holds these texts. -/
def Holds (workspace : Workspace) (id : Nat) (content styles : List Char) : Prop :=
  (workspace.letter id).content.bind (·.rendered) = some content ∧
    (workspace.letter id).styles.bind (·.rendered) = some styles

/-- A rendering ends where filling the letter ends, but that what was registered is forgotten. -/
theorem processWith_eq (id : Nat) (occasion : Occasion) (store : Store Workspace) :
    (processWith host id occasion).runFrom store
      = (((fill host id occasion).runFrom store).1,
        { ((fill host id occasion).runFrom store).2 with
          world := ((fill host id occasion).runFrom store).2.world.modify id Letter.bare }) := by
  unfold processWith
  rw [M.runFrom_afterwards, runFrom_change]

/-- Forgetting what is registered leaves the parts of a letter. -/
theorem parts_modify_bare {workspace : Workspace} (inside : id < workspace.letters.size) :
    id < (workspace.modify id Letter.bare).letters.size ∧
      ((workspace.modify id Letter.bare).letter id).content = (workspace.letter id).content ∧
      ((workspace.modify id Letter.bare).letter id).styles = (workspace.letter id).styles := by
  rw [Workspace.letter_modify_self inside]
  exact ⟨Nat.lt_of_lt_of_eq inside (Workspace.size_modify _ _ _).symm, rfl, rfl⟩

variable (hosted : KeepsAll host)

include hosted

/-- A rendering that succeeds leaves the texts that it made. -/
theorem processWith_eq_ok {occasion : Occasion} {store after : Store Workspace}
    (inside : id < store.world.letters.size)
    (done : (processWith host id occasion).runFrom store = (.ok (), after)) :
    id < after.world.letters.size ∧ ∃ content styles,
      Makes host id occasion store content styles ∧ Holds after.world id content styles := by
  rw [processWith_eq] at done
  rcases filled : (fill host id occasion).runFrom store with ⟨fault | _, last⟩
  · rw [filled] at done
    cases done
  · rw [filled] at done
    cases done
    unfold fill at filled
    obtain ⟨⟨stylesPart, contentPart⟩, middle, rendered, added⟩ := M.runFrom_bind_eq_ok.mp filled
    rcases renderParts_cases hosted inside with
      ⟨_, _, -, failed, -⟩ | ⟨_, _, _, _, -, -, failed, -⟩ |
        ⟨styles, content, after, ran, there, held, isRendered, contentHeld, text, isText⟩
    · rw [failed] at rendered
      cases rendered
    · rw [failed] at rendered
      cases rendered
    · rw [ran] at rendered
      cases rendered
      obtain ⟨still, same, sheet, merges, now⟩ := addRegistered_eq_ok there held isRendered added
      obtain ⟨stays, contentKept, stylesKept⟩ := parts_modify_bare still
      refine ⟨stays, text, sheet, ⟨_, _, _, ran, isText, merges⟩, ?_, ?_⟩
      · rw [contentKept, same, contentHeld]
        exact isText
      · rw [stylesKept]
        exact now

/-- A rendering that fails before it begins the content leaves the content that was there. -/
theorem content_of_failsEarly {occasion : Occasion} {store : Store Workspace}
    (inside : id < store.world.letters.size) (fails : FailsEarly host id occasion store) :
    (((processWith host id occasion).runFrom store).2.world.letter id).content
      = (store.world.letter id).content := by
  obtain ⟨fault, after, began⟩ := fails
  have shown := shows_renderStyles hosted occasion store inside
  rw [began] at shown
  have ended : (fill host id occasion).runFrom store = (.error fault, after) := by
    unfold fill renderParts
    rw [M.runFrom_bind, M.runFrom_bind, began]
  rw [processWith_eq, ended, (parts_modify_bare shown.1).2.1]
  exact shown.2

/-- A rendering that fails neither before nor in the content leaves a rendered content. -/
theorem content_of_failsLate {occasion : Occasion} {store : Store Workspace}
    (inside : id < store.world.letters.size) (notEarly : ¬ FailsEarly host id occasion store)
    (notInContent : ¬ FailsInContent host id occasion store) :
    ∃ text, (((processWith host id occasion).runFrom store).2.world.letter id).content.bind
      (·.rendered) = some text := by
  rcases renderParts_cases hosted inside with
    ⟨fault, after, failed, -⟩ | ⟨begun, middle, fault, after, began, failed, -⟩ |
      ⟨styles, content, after, ran, there, -, -, held, text, isText⟩
  · exact absurd ⟨fault, after, failed⟩ notEarly
  · exact absurd ⟨begun, middle, began, fault, after, failed⟩ notInContent
  · have ended : (fill host id occasion).runFrom store = (addRegistered id).runFrom after := by
      unfold fill
      rw [M.runFrom_bind, ran]
    obtain ⟨still, same⟩ := shows_addRegistered after there
    refine ⟨text, ?_⟩
    rw [processWith_eq, ended, (parts_modify_bare still).2.1, same, held]
    exact isText

/-- A rendering that fails while it renders the content leaves no rendered content. -/
theorem content_of_failsInContent {occasion : Occasion} {store : Store Workspace}
    (inside : id < store.world.letters.size) (fails : FailsInContent host id occasion store) :
    (((processWith host id occasion).runFrom store).2.world.letter id).content.bind (·.rendered)
      = none := by
  obtain ⟨begun, middle, began, fault, after, failed⟩ := fails
  rcases renderParts_cases hosted inside with
    ⟨_, _, failedEarly, -⟩ | ⟨_, _, fault, after, -, -, failed, there, unrendered⟩ |
      ⟨_, _, _, ran, -⟩
  · rw [failedEarly] at began
    cases began
  · have ended : (fill host id occasion).runFrom store = (.error fault, after) := by
      unfold fill
      rw [M.runFrom_bind, failed]
    rw [processWith_eq, ended, (parts_modify_bare there).2.1]
    exact unrendered
  · unfold renderParts at ran
    rw [M.runFrom_bind, began] at ran
    dsimp only at ran
    rw [M.runFrom_bind, failed] at ran
    cases ran

end

end Work

end FormLetter
