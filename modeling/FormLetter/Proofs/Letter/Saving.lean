import FormLetter.Letter.Deliver
import FormLetter.Proofs.Letter.Rendering

/-!
# What is saved

A letter can be compiled, rendered, saved and given enclosures in any order, and any of that may
fail. Saving looks only at what the letter holds. So what is saved belongs to the rendering that was
last asked for just when one that is interrupted leaves no rendered content: when it fails in the
content, or before it while there was none. An earlier rendering is left in place by one that fails
in the styles, and a rendering that fails when the enclosed letters or the pictures are added leaves
its own; both can be saved then.
-/

namespace FormLetter

open FormLetter.Script

/-- A letter in which texts stand in the place of its parts. -/
def Letter.saved (content styles : List Char) (letter : Letter) : Letter :=
  let package := letter.package.writeText letter.layout.contentPart (String.ofList content)
  { letter with package := package.writeText letter.layout.stylesPart (String.ofList styles) }

/-- A letter into whose package a content is written, and the styles that it holds, if any are
rendered. -/
def Letter.written (content : List Char) (letter : Letter) : Letter :=
  let package := letter.package.writeText letter.layout.contentPart (String.ofList content)
  { letter with package :=
      match letter.styles.bind (·.rendered) with
      | none => package
      | some styles => package.writeText letter.layout.stylesPart (String.ofList styles) }

namespace Work

/-! ## Sessions -/

/-- What is asked of a letter. -/
inductive Call where
  | compile
  | process (occasion : Occasion)
  | save
  | enclose (key : String) (enclosed : Value)

/-- Does what is asked of a letter. -/
def Call.perform (id : Nat) : Call → Work Unit
  | .compile => discard (Work.compile id)
  | .process occasion => Work.process id occasion
  | .save => Work.save id
  | .enclose key enclosed => addEnclosure id key enclosed

/-- A call, and the heap that it begins with, which holds its data. -/
structure Request where
  heap : Heap
  call : Call

/-- A rendering that was asked for: where it began, and what came of it. -/
structure Attempt where
  before : Store Workspace
  occasion : Occasion
  outcome : Except Fault Unit

/-- A workspace, and the rendering that was last asked for. -/
structure Session where
  world : Workspace
  last : Option Attempt

namespace Session

/-- The store in which a call begins. -/
def store (session : Session) (heap : Heap) : Store Workspace := ⟨heap, session.world⟩

/-- What a request leads to, whether it succeeds or fails. -/
def after (id : Nat) (session : Session) (request : Request) : Session :=
  let done := M.runFrom (request.call.perform id) (session.store request.heap)
  { world := done.2.world
    last := match request.call with
      | .process occasion => some ⟨session.store request.heap, occasion, done.1⟩
      | _ => session.last }

/-- What requests lead to, one after the other. -/
def afterAll (id : Nat) (session : Session) (requests : List Request) : Session :=
  requests.foldl (after id) session

/-- The rendering that was last asked for succeeded. -/
def IsRendered (session : Session) : Prop :=
  ∃ attempt, session.last = some attempt ∧ attempt.outcome = .ok ()

/-- A rendering that is interrupted leaves no rendered content: it fails in the content, or before
it when the last rendering did not succeed. -/
def BreaksCleanly (id : Nat) (session : Session) (request : Request) : Prop :=
  ∀ occasion fault, request.call = .process occasion →
    (M.runFrom (process id occasion) (session.store request.heap)).1 = .error fault →
    FailsInContent (hostWithin enclosureLimit) id occasion (session.store request.heap) ∨
      FailsEarly (hostWithin enclosureLimit) id occasion (session.store request.heap) ∧
        ¬ session.IsRendered

/-- Of requests that are made one after the other, each rendering that is interrupted leaves no
rendered content. -/
def AllBreakCleanly (id : Nat) (session : Session) : List Request → Prop
  | [] => True
  | request :: rest =>
    session.BreaksCleanly id request ∧ (session.after id request).AllBreakCleanly id rest

/-- What is saved belongs together. A save that succeeds writes what the rendering that was last
asked for made of the content and of the styles, and that rendering succeeded; and when it failed,
saving is refused and changes nothing. -/
structure SavesLast (id : Nat) (session : Session) : Prop where
  writes : ∀ heap stored, M.runFrom (save id) (session.store heap) = (.ok (), stored) →
    ∃ attempt content styles, session.last = some attempt ∧ attempt.outcome = .ok () ∧
      Makes (hostWithin enclosureLimit) id attempt.occasion attempt.before content styles ∧
      stored = ⟨heap, session.world.modify id (Letter.saved content styles)⟩
  refuses : ∀ heap attempt fault, session.last = some attempt → attempt.outcome = .error fault →
    M.runFrom (save id) (session.store heap)
      = (.error (.notProcessedForSave (session.world.letter id).path.name), session.store heap)

end Session

/-! ## Saving -/

variable {id : Nat}

/-- Saving looks only at what the letter holds: without rendered content it is refused, and with it
both parts are written. -/
theorem runFrom_save (store : Store Workspace) :
    M.runFrom (save id) store =
      match (store.world.letter id).content.bind (·.rendered) with
      | none => (.error (.notProcessedForSave (store.world.letter id).path.name), store)
      | some content =>
        (.ok (), { store with world := store.world.modify id (Letter.written content) }) := by
  unfold save
  rw [M.runFrom_bind, runFrom_letter]
  dsimp only
  cases (store.world.letter id).content.bind (·.rendered) with
  | none => rfl
  | some content =>
    dsimp only
    rw [M.runFrom_bind, runFrom_changePackage]
    dsimp only
    -- The layout and the styles are read once, before anything is written.
    cases isStyles : (store.world.letter id).styles.bind (·.rendered) with
    | none =>
      refine congrArg (fun world : Workspace => (Except.ok (), Store.mk store.toHeap world))
        (Workspace.modify_congr ?_)
      unfold Letter.written
      rw [isStyles]
    | some styles =>
      rw [runFrom_changePackage, Workspace.modify_modify]
      refine congrArg (fun world : Workspace => (Except.ok (), Store.mk store.toHeap world))
        (Workspace.modify_congr ?_)
      unfold Letter.written
      rw [isStyles]

/-- Saving is refused when no content is rendered. -/
theorem save_of_unrendered (store : Store Workspace)
    (none_ : (store.world.letter id).content.bind (·.rendered) = none) :
    M.runFrom (save id) store
      = (.error (.notProcessedForSave (store.world.letter id).path.name), store) := by
  rw [runFrom_save, none_]

/-- Saving writes the content and the styles that the letter holds. -/
theorem save_of_holds (store : Store Workspace) {content styles : List Char}
    (holds : Holds store.world id content styles) :
    M.runFrom (save id) store
      = (.ok (), { store with world := store.world.modify id (Letter.saved content styles) }) := by
  rw [runFrom_save, holds.1]
  refine congrArg (fun world : Workspace => (Except.ok (), Store.mk store.toHeap world))
    (Workspace.modify_congr ?_)
  unfold Letter.written
  rw [holds.2]
  rfl

/-- Saving succeeds where content is rendered, whenever that was. -/
theorem save_of_rendered (store : Store Workspace) {content : List Char}
    (rendered : (store.world.letter id).content.bind (·.rendered) = some content) :
    ∃ stored, M.runFrom (save id) store = (.ok (), stored) := by
  rw [runFrom_save, rendered]
  exact ⟨_, rfl⟩

/-! ## The invariant -/

namespace Session

/-- What a letter holds is in line with the rendering that was last asked for. -/
structure Consistent (id : Nat) (session : Session) : Prop where
  inside : id < session.world.letters.size
  unrendered : ¬ session.IsRendered →
    (session.world.letter id).content.bind (·.rendered) = none
  rendered : ∀ attempt, session.last = some attempt → attempt.outcome = .ok () →
    ∃ content styles,
      Makes (hostWithin enclosureLimit) id attempt.occasion attempt.before content styles ∧
        Holds session.world id content styles

/-- A consistent session saves the last rendering. -/
theorem Consistent.savesLast {session : Session} (consistent : Consistent id session) :
    SavesLast id session where
  writes := by
    intro heap stored done
    by_cases isRendered : session.IsRendered
    · obtain ⟨attempt, last, succeeded⟩ := isRendered
      obtain ⟨content, styles, makes, holds⟩ := consistent.rendered attempt last succeeded
      refine ⟨attempt, content, styles, last, succeeded, makes, ?_⟩
      rw [save_of_holds (session.store heap) holds] at done
      cases done
      rfl
    · rw [save_of_unrendered (session.store heap) (consistent.unrendered isRendered)] at done
      cases done
  refuses := by
    intro heap attempt fault last failed
    refine save_of_unrendered (session.store heap) (consistent.unrendered ?_)
    rintro ⟨other, isLast, succeeded⟩
    rw [last] at isLast
    cases isLast
    rw [failed] at succeeded
    cases succeeded

/-- Calls that render nothing keep what the letter holds. -/
theorem Consistent.of_shown {session next : Session} (consistent : Consistent id session)
    (last : next.last = session.last) (inside : id < next.world.letters.size)
    (content : (next.world.letter id).content = (session.world.letter id).content)
    (styles : (next.world.letter id).styles = (session.world.letter id).styles) :
    Consistent id next := by
  refine ⟨inside, fun never => ?_, fun attempt isLast succeeded => ?_⟩
  · rw [content]
    refine consistent.unrendered fun isRendered => never ?_
    obtain ⟨attempt, isLast, succeeded⟩ := isRendered
    exact ⟨attempt, last.trans isLast, succeeded⟩
  · obtain ⟨text, sheet, makes, holds⟩ :=
      consistent.rendered attempt (last.symm.trans isLast) succeeded
    refine ⟨text, sheet, makes, ?_, ?_⟩
    · rw [content]
      exact holds.1
    · rw [styles]
      exact holds.2

/-- A call that keeps what the letter holds leads on consistently. -/
theorem Consistent.of_leads {session : Session} (consistent : Consistent id session)
    {request : Request}
    (leads : Leads (showing id fun letter : Letter => (letter.content, letter.styles))
      (request.call.perform id))
    (last : (session.after id request).last = session.last) :
    Consistent id (session.after id request) := by
  obtain ⟨inside, kept⟩ := leads (session.store request.heap) consistent.inside
  obtain ⟨content, styles⟩ := Prod.mk.inj kept
  exact consistent.of_shown last inside content styles

/-- A rendering leads on consistently, unless it is interrupted and leaves rendered content. -/
theorem Consistent.process {session : Session} (consistent : Consistent id session)
    {heap : Heap} {occasion : Occasion}
    (breaks : session.BreaksCleanly id ⟨heap, .process occasion⟩) :
    Consistent id (session.after id ⟨heap, .process occasion⟩) := by
  have hosted := keepsAll_hostWithin enclosureLimit
  have kept := leads_processWith (hosted id) (keeping_renders (Nat.le_refl id)) occasion
    (session.store heap) (Nat.le_of_lt consistent.inside)
  have inside : id < (session.after id ⟨heap, .process occasion⟩).world.letters.size :=
    Nat.lt_of_lt_of_le consistent.inside kept.grows
  have last : (session.after id ⟨heap, .process occasion⟩).last = some
      ⟨session.store heap, occasion,
        (M.runFrom (Work.process id occasion) (session.store heap)).1⟩ := rfl
  cases outcome : (M.runFrom (Work.process id occasion) (session.store heap)).1 with
  | ok done =>
    rw [outcome] at last
    refine ⟨inside, fun never => absurd ⟨_, last, rfl⟩ never, fun attempt isLast _ => ?_⟩
    rw [last] at isLast
    cases isLast
    have done : (processWith (hostWithin enclosureLimit) id occasion).runFrom (session.store heap)
        = (.ok (), (M.runFrom (Work.process id occasion) (session.store heap)).2) :=
      Prod.ext outcome rfl
    exact (processWith_eq_ok hosted consistent.inside done).2
  | error fault =>
    rw [outcome] at last
    have failed : ¬ (session.after id ⟨heap, .process occasion⟩).IsRendered := by
      rintro ⟨attempt, isLast, succeeded⟩
      rw [last] at isLast
      cases isLast
      cases succeeded
    refine ⟨inside, fun _ => ?_, fun attempt isLast succeeded =>
      absurd ⟨attempt, isLast, succeeded⟩ failed⟩
    rcases breaks occasion fault rfl outcome with inContent | ⟨early, unrendered⟩
    · exact content_of_failsInContent hosted consistent.inside inContent
    · have same := content_of_failsEarly hosted consistent.inside early
      change ((session.after id ⟨heap, .process occasion⟩).world.letter id).content
        = (session.world.letter id).content at same
      rw [same]
      exact consistent.unrendered unrendered

/-- Whatever is asked of a letter leads on consistently. -/
theorem Consistent.after {session : Session} (consistent : Consistent id session)
    {request : Request} (breaks : session.BreaksCleanly id request) :
    Consistent id (session.after id request) := by
  have both : ShowsParts fun letter : Letter => (letter.content, letter.styles) :=
    ⟨fun _ => rfl, fun _ _ => rfl, fun _ _ => rfl, fun _ _ => rfl⟩
  obtain ⟨heap, call⟩ := request
  cases call with
  | process occasion => exact consistent.process breaks
  | compile => exact consistent.of_leads (leads_compile (showing_fills both)).discard rfl
  | save => exact consistent.of_leads (leads_save (showing_fills both)) rfl
  | enclose key enclosed =>
    exact consistent.of_leads (shows_of_keeps (keeps_addEnclosure id key enclosed) both.bare) rfl

/-- Whatever is asked of a letter, one after the other, it stays consistent. -/
theorem Consistent.afterAll {session : Session} (consistent : Consistent id session)
    {requests : List Request} (breaks : session.AllBreakCleanly id requests) :
    Consistent id (session.afterAll id requests) := by
  induction requests generalizing session with
  | nil => exact consistent
  | cons request rest ih =>
    obtain ⟨first, others⟩ := breaks
    exact ih (consistent.after first) others

end Session

/-- The condition on interrupted renderings is exact: after any other one, the rendering that was
last asked for has failed, and a save succeeds all the same. -/
theorem save_after_other_break {session : Session} (consistent : session.Consistent id)
    {heap : Heap} {occasion : Occasion}
    (other : ¬ session.BreaksCleanly id ⟨heap, .process occasion⟩) (later : Heap) :
    ¬ (session.after id ⟨heap, .process occasion⟩).IsRendered ∧
      ∃ stored, M.runFrom (save id) ((session.after id ⟨heap, .process occasion⟩).store later)
        = (.ok (), stored) := by
  have hosted := keepsAll_hostWithin enclosureLimit
  have last : (session.after id ⟨heap, .process occasion⟩).last = some
      ⟨session.store heap, occasion,
        (M.runFrom (Work.process id occasion) (session.store heap)).1⟩ := rfl
  -- Whatever would break cleanly is excluded.
  have cleanly (breaks : ∀ fault,
      (M.runFrom (Work.process id occasion) (session.store heap)).1 = .error fault →
        FailsInContent (hostWithin enclosureLimit) id occasion (session.store heap) ∨
          FailsEarly (hostWithin enclosureLimit) id occasion (session.store heap) ∧
            ¬ session.IsRendered) : False := by
    refine other fun occasion fault isProcess failed => ?_
    cases isProcess
    exact breaks fault failed
  have notInContent : ¬ FailsInContent (hostWithin enclosureLimit) id occasion
      (session.store heap) := fun inContent => cleanly fun _ _ => Or.inl inContent
  refine ⟨?_, ?_⟩
  · rintro ⟨attempt, isLast, succeeded⟩
    rw [last] at isLast
    cases isLast
    refine cleanly fun fault failed => ?_
    rw [failed] at succeeded
    cases succeeded
  · have rendered : ∃ content,
        ((session.after id ⟨heap, .process occasion⟩).world.letter id).content.bind (·.rendered)
          = some content := by
      by_cases early : FailsEarly (hostWithin enclosureLimit) id occasion (session.store heap)
      · by_cases isRendered : session.IsRendered
        · obtain ⟨attempt, isLast, succeeded⟩ := isRendered
          obtain ⟨content, styles, -, holds⟩ := consistent.rendered attempt isLast succeeded
          have same := content_of_failsEarly hosted consistent.inside early
          change ((session.after id ⟨heap, .process occasion⟩).world.letter id).content
            = (session.world.letter id).content at same
          rw [same]
          exact ⟨content, holds.1⟩
        · exact absurd (fun _ _ => Or.inr ⟨early, isRendered⟩) cleanly
      · exact content_of_failsLate hosted consistent.inside early notInContent
    obtain ⟨content, isContent⟩ := rendered
    exact save_of_rendered ((session.after id ⟨heap, .process occasion⟩).store later) isContent

/-! ## Interrupted renderings -/

namespace Session

variable {session : Session} {request : Request} {occasion : Occasion}

theorem last_after (isProcess : request.call = .process occasion) :
    (session.after id request).last = some ⟨session.store request.heap, occasion,
      (M.runFrom (Work.process id occasion) (session.store request.heap)).1⟩ := by
  obtain ⟨heap, call⟩ := request
  cases isProcess
  rfl

/-- A session is rendered after a rendering that succeeds. -/
theorem isRendered_after (isProcess : request.call = .process occasion)
    (succeeds : (M.runFrom (Work.process id occasion)
      (session.store request.heap)).1.toOption.isSome = true) :
    (session.after id request).IsRendered := by
  refine ⟨_, last_after isProcess, ?_⟩
  dsimp only
  cases outcome : (M.runFrom (Work.process id occasion) (session.store request.heap)).1 with
  | ok done => rfl
  | error fault =>
    rw [outcome] at succeeds
    contradiction

/-- A rendering that succeeds is not interrupted. -/
theorem breaksCleanly_of_succeeds (isProcess : request.call = .process occasion)
    (succeeds : (M.runFrom (Work.process id occasion)
      (session.store request.heap)).1.toOption.isSome = true) :
    session.BreaksCleanly id request := by
  intro other fault isOther failed
  rw [isProcess] at isOther
  cases isOther
  rw [failed] at succeeds
  contradiction

/-- A rendering that fails in the content breaks cleanly. -/
theorem breaksCleanly_of_failsInContent (isProcess : request.call = .process occasion)
    (fails : FailsInContent (hostWithin enclosureLimit) id occasion
      (session.store request.heap)) : session.BreaksCleanly id request := by
  intro other fault isOther _
  rw [isProcess] at isOther
  cases isOther
  exact Or.inl fails

/-- Saving is refused after a rendering that failed, where what is saved belongs together. -/
theorem SavesLast.refuses_after (saves : (session.after id request).SavesLast id)
    (isProcess : request.call = .process occasion)
    (fails : (M.runFrom (Work.process id occasion)
      (session.store request.heap)).1.toOption.isSome = false) (heap : Heap) :
    ∃ fault, M.runFrom (save id) ((session.after id request).store heap)
      = (.error fault, (session.after id request).store heap) := by
  have last : (session.after id request).last = some ⟨session.store request.heap, occasion,
      (M.runFrom (Work.process id occasion) (session.store request.heap)).1⟩ :=
    last_after isProcess
  cases outcome : (M.runFrom (Work.process id occasion) (session.store request.heap)).1 with
  | ok done =>
    rw [outcome] at fails
    contradiction
  | error fault =>
    rw [outcome] at last
    exact ⟨_, saves.refuses heap _ fault last rfl⟩

end Session

/-- A rendering that gets past the styles and fails to render both parts fails in the content. -/
theorem failsInContent_of_outcomes {host : Host Workspace} {occasion : Occasion}
    {store : Store Workspace}
    (begins : ((renderStyles host id occasion).runFrom store).1.toOption.isSome = true)
    (fails : ((renderParts host id occasion).runFrom store).1.toOption.isSome = false) :
    FailsInContent host id occasion store := by
  unfold renderParts at fails
  rw [M.runFrom_bind] at fails
  rcases began : (renderStyles host id occasion).runFrom store with ⟨fault | begun, middle⟩
  · rw [began] at begins
    contradiction
  · rw [began] at fails
    dsimp only at fails
    rw [M.runFrom_bind] at fails
    rcases ran : (renderPart host begun.bound Letter.withContent id begun.content).runFrom middle
      with ⟨fault | rendered, after⟩
    · exact ⟨begun, middle, began, fault, after, ran⟩
    · rw [ran] at fails
      contradiction

/-- A letter that was compiled, and nothing else. -/
def compiledLetter (content styles : String) : Archive :=
  [⟨"documatic/master/content.jinja", ⟨.deflated, 1, .earliest⟩, content.toUTF8⟩,
    ⟨"documatic/master/styles.jinja", ⟨.deflated, 1, .earliest⟩, styles.toUTF8⟩]

/-- The store in which that letter is opened. -/
def beforeOpening (content styles : String) : Store Workspace :=
  .start false ⟨[(["t.odt"], .archive (compiledLetter content styles))], #[]⟩

/-- The letter, just opened. -/
def justOpened (content styles : String) : Session :=
  ⟨(M.runFrom (openAt {} ⟨"", ["t.odt"]⟩) (beforeOpening content styles)).2.world, none⟩

/-- A rendering with a number. -/
def renderWith (number : Int) : Request :=
  ⟨(beforeOpening "" "").toHeap, .process ⟨0, .int number, .none⟩⟩

/-- A letter with a number in the denominator of its content. -/
def fragileContent : Session := justOpened "<%= 1 // data %>" "s"

/-- A letter with a number in the denominator of its styles. -/
def fragileStyles : Session := justOpened "c" "<%= 1 // data %>"

end Work

end FormLetter
