import FormLetter.Proofs.Package.Commit

/-!
# Commits that fail

A commit makes a draft beside the file, enters one entry after the other into it, and then moves
the draft over the file. Here it is taken step by step, and a disturbance may stop any of the steps:
it may keep the draft from being made, stop the writing at any entry and leave whatever it likes of
the draft, or prevent the replacement. A step may also fail by itself, when the directory is gone or
a directory stands where the file was.

The invariant is that all files but the draft are as they were. So taking the draft away, which
every failure ends with, gives back the files as they were. A commit that nothing stops does what
`Package.commit` does at once.
-/

namespace FormLetter

namespace Files

/-! ## Drafts -/

/-- Makes an empty file in a directory. -/
def makeDraft (files : Files) (draft : Path) : Except Fault Files :=
  if files.isDirectory draft.parent then files.write draft (.bytes .empty)
  else refuse draft.parent .missing

/-- Takes away a file, if there is one. -/
def unlink (files : Files) (path : Path) : Files :=
  match files.place path with
  | .ok place => files.filter (·.1 != place)
  | .error _ => files

/-- Moves a file over another one. It is moved over no directory. -/
def replace (files : Files) (draft path : Path) : Except Fault Files :=
  match files.look draft with
  | .error problem => .error (.file problem draft.toString (some path.toString))
  | .ok item =>
    if files.isDirectory path then
      .error (.file .isDirectory draft.toString (some path.toString))
    else (files.unlink draft).write path item

/-- A draft may be made at a place: it is in a directory, and nothing stands there yet. -/
structure MayDraft (files : Files) (draft : Path) (place : Place) : Prop where
  leads : files.place draft = .ok place
  free : files.at? place = none
  around : files.at? place.dropLast = some .directory

theorem follow_concat (files : Files) (place : Place) (names : List String) (name : String) :
    files.follow place (names ++ [name]) = (files.follow place names).bind fun around =>
      files.follow around [name] := by
  induction names generalizing place with
  | nil => rfl
  | cons first rest ih =>
    rw [List.cons_append, follow, follow]
    split
    · exact ih _
    · rfl
    · rfl

/-- A path that leads to nothing, though its directory is there, is free for a draft. -/
theorem mayDraft_of_isDirectory {files : Files} {around : Path} {name : String}
    (here : name ≠ "..") (isDirectory : files.isDirectory around = true)
    (absent : files.isPresent { around with parts := around.parts ++ [name] } = false) :
    ∃ place, files.MayDraft { around with parts := around.parts ++ [name] } place := by
  unfold Files.isDirectory at isDirectory
  split at isDirectory
  · rename_i found
    obtain ⟨place, leads, stands⟩ := look_eq_ok_iff.mp found
    have step : files.follow place [name] = .ok (place ++ [name]) := by
      rw [follow, stands]
      unfold Files.step
      rw [beq_false_of_ne here]
      rfl
    have onward : files.place { around with parts := around.parts ++ [name] }
        = .ok (place ++ [name]) := by
      refine (follow_concat files _ around.parts name).trans ?_
      have leadsThere : files.follow (start around) around.parts = .ok place := leads
      change (files.follow (start around) around.parts).bind _ = _
      rw [leadsThere]
      exact step
    refine ⟨place ++ [name], onward, ?_, by rwa [List.dropLast_concat]⟩
    cases free : files.at? (place ++ [name]) with
    | none => rfl
    | some item =>
      unfold isPresent at absent
      rw [look_eq_ok_iff.mpr ⟨_, onward, free⟩] at absent
      contradiction
  · contradiction

theorem filter_ne_eq_self {files : Files} {place : Place} (free : files.at? place = none) :
    files.filter (·.1 != place) = files := by
  unfold at? at free
  split at free
  · contradiction
  · rw [List.lookup_eq_none_iff] at free
    refine List.filter_eq_self.mpr fun entry member => bne_iff_ne.mpr fun same => ?_
    exact absurd same.symm (by simpa using free entry member)

theorem put_put (files : Files) (place : Place) (first second : Item) :
    (files.put place first).put place second = files.put place second := by
  unfold put
  rw [List.filter_append, List.filter_filter]
  simp

namespace MayDraft

variable {files : Files} {draft : Path} {place : Place} (may : files.MayDraft draft place)

include may

theorem inside : isOutside place = false := by
  rw [Bool.eq_false_iff]
  intro outside
  have free := may.free
  unfold at? at free
  rw [if_pos outside] at free
  contradiction

theorem noDirectory : files.at? place ≠ some .directory := by
  rw [may.free]
  exact nofun

theorem leads_put (item : Item) : (files.put place item).place draft = .ok place :=
  place_put may.noDirectory item may.leads

/-- Without its draft, the files are what they were before. -/
theorem unlink_put (item : Item) : (files.put place item).unlink draft = files := by
  unfold unlink
  rw [may.leads_put item]
  change (files.filter (·.1 != place) ++ [(place, item)]).filter (·.1 != place) = files
  rw [List.filter_append, filter_ne_eq_self may.free, filter_ne_eq_self may.free]
  simp

theorem unlink_self : files.unlink draft = files := by
  unfold unlink
  rw [may.leads]
  exact filter_ne_eq_self may.free

theorem look_put (item : Item) : (files.put place item).look draft = .ok item :=
  look_eq_ok_iff.mpr ⟨place, may.leads_put item, at?_put_self files may.inside item⟩

theorem write_new (item : Item) : files.write draft item = .ok (files.put place item) := by
  unfold write
  simp only [may.leads, may.free, may.around]

theorem write_put (before : Item) (isFile : before ≠ .directory) (item : Item) :
    (files.put place before).write draft item = .ok (files.put place item) := by
  have stands : (files.put place before).at? place = some before :=
    at?_put_self files may.inside before
  unfold write
  rw [may.leads_put before]
  simp only [stands]
  cases before with
  | directory => contradiction
  | bytes | archive => exact congrArg Except.ok (put_put files place _ item)

/-- No way leads through a file, so a draft leads to no directory that was not there before. -/
theorem follow_put_iff (item : Item) (isFile : item ≠ .directory) {from_ goal : Place}
    {names : List String} :
    (files.put place item).follow from_ names = .ok goal ↔
      files.follow from_ names = .ok goal := by
  refine ⟨fun leads => ?_, follow_put may.noDirectory item⟩
  induction names generalizing from_ with
  | nil => exact leads
  | cons name rest ih =>
    unfold follow at leads ⊢
    by_cases here : from_ = place
    · rw [here, at?_put_self files may.inside] at leads
      split at leads
      · rename_i isDirectory
        exact absurd (Option.some.inj isDirectory) isFile
      · contradiction
      · contradiction
    · rw [at?_put_of_ne files here] at leads
      split at leads
      · rename_i isDirectory
        exact ih leads
      · contradiction
      · contradiction

theorem isDirectory_put (item : Item) (isFile : item ≠ .directory) (path : Path) :
    (files.put place item).isDirectory path = files.isDirectory path := by
  have same : (files.put place item).look path = .ok .directory ↔
      files.look path = .ok .directory := by
    rw [look_eq_ok_iff, look_eq_ok_iff]
    refine exists_congr fun goal => and_congr (may.follow_put_iff item isFile) ?_
    by_cases here : goal = place
    · rw [here, at?_put_self files may.inside, may.free]
      simp [isFile]
    · rw [at?_put_of_ne files here]
  unfold Files.isDirectory
  rw [Bool.eq_iff_iff]
  split <;> split <;> simp_all

/-- Moving the draft over a file writes the file, unless a directory stands there. -/
theorem replace_put (item : Item) (isFile : item ≠ .directory) (path : Path) :
    (files.put place item).replace draft path
      = if files.isDirectory path then
          .error (.file .isDirectory draft.toString (some path.toString))
        else files.write path item := by
  unfold replace
  rw [may.look_put item]
  dsimp only
  rw [may.isDirectory_put item isFile, may.unlink_put]

end MayDraft

end Files

namespace Package

/-! ## Commits step by step -/

/-- What happens to a step that is stopped: what is reported, and what is left of the draft. -/
structure Mishap where
  fault : Fault
  left : Option Item

/-- The files after a mishap with a draft. -/
def Mishap.leave (mishap : Mishap) (files : Files) (draft : Path) : Files :=
  match mishap.left with
  | none => files.unlink draft
  | some item => (files.write draft item).toOption.getD files

/-- One step in writing a draft. -/
inductive Step where
  | start
  | enter (entry : Archive.Entry)
  /-- Writes the list of all entries behind them. An archive has one as soon as it is read. -/
  | finish

/-- Takes one step in writing a draft. -/
def Step.perform (draft : Path) (files : Files) : Step → Except Fault Files
  | start => files.write draft (.archive [])
  | enter entry => do
    let item ← files.read draft
    files.write draft (.archive (item.archive?.getD [] ++ [entry]))
  | finish => .ok files

/-- Takes steps, numbered from a number on, until one is stopped or fails. -/
def takeSteps (stopped : Nat → Option Mishap) (draft : Path) :
    Nat → List Step → Files → Except Fault Unit × Files
  | _, [], files => (.ok (), files)
  | number, step :: rest, files =>
    match stopped number with
    | some mishap => (.error mishap.fault, mishap.leave files draft)
    | none =>
      match step.perform draft files with
      | .error fault => (.error fault, files)
      | .ok next => takeSteps stopped draft (number + 1) rest next

/-- The steps in which the draft of a package is written. -/
def steps (package : Package) : List Step :=
  .start :: (package.toArchive.map .enter ++ [.finish])

/-- What stops a commit, and where. -/
structure Disturbance where
  /-- Keeps the draft from being made. -/
  making : Option Fault
  /-- Stops a step in writing the draft. -/
  writing : Nat → Option Mishap
  /-- Keeps the draft from taking the place of the file. -/
  replacing : Option Mishap

/-- Nothing is stopped. -/
def Disturbance.calm : Disturbance := ⟨none, fun _ => none, none⟩

/-- Where the draft of a package is written under a name. -/
def draftAt (package : Package) (name : String) : Path :=
  { package.path with parts := package.path.parts.dropLast ++ [name] }

/-- Puts a draft that was written in the place of the file. -/
def replaceThrough (package : Package) (name : String) (stopped : Option Mishap) (files : Files) :
    Except Fault Unit × Files :=
  match stopped with
  | some mishap => (.error mishap.fault, mishap.leave files (package.draftAt name))
  | none =>
    match files.replace (package.draftAt name) package.path with
    | .error fault => (.error fault, files)
    | .ok written => (.ok (), written)

/-- Writes a package back under a disturbance. A draft that was made is taken away on failure. -/
def writeThrough (package : Package) (name : String) (disturbance : Disturbance) (files : Files) :
    Except Fault Unit × Files :=
  match disturbance.making, files.makeDraft (package.draftAt name) with
  | some fault, _ | none, .error fault => (.error fault, files)
  | none, .ok made =>
    match takeSteps disturbance.writing (package.draftAt name) 0 package.steps made with
    | (.error fault, left) => (.error fault, left.unlink (package.draftAt name))
    | (.ok (), drafted) =>
      match package.replaceThrough name disturbance.replacing drafted with
      | (.error fault, left) => (.error fault, left.unlink (package.draftAt name))
      | (.ok (), written) => (.ok (), written)

/-- Commits a package under a disturbance. -/
def commitThrough (name : String) (disturbance : Disturbance) (standing : Standing) :
    Except Fault Unit × Standing :=
  if standing.package.isModified then
    match standing.package.writeThrough name disturbance standing.files with
    | (.error fault, left) => (.error fault, ⟨standing.package, left⟩)
    | (.ok (), written) =>
      (.ok (), ⟨{ standing.package with committed := standing.package.entries }, written⟩)
  else (.ok (), standing)

/-- Closes a package under a disturbance. -/
def closeThrough (name : String) (disturbance : Disturbance) (standing : Standing) :
    Except Fault Unit × Standing :=
  if standing.package.isClosed then (.ok (), standing)
  else
    match commitThrough name disturbance standing with
    | (.error fault, left) => (.error fault, left)
    | (.ok (), after) => (.ok (), ⟨{ after.package with isClosed := true }, after.files⟩)

/-- A name that a draft of a package may have: nothing bears it yet. -/
def IsFresh (package : Package) (files : Files) (name : String) : Prop :=
  name ≠ ".." ∧ files.isPresent (package.draftAt name) = false

/-! ## What the steps leave -/

/-- How the writing of a draft ends: it was stopped and left nothing but the draft behind, or the
draft is an archive. -/
inductive Ends (files : Files) (stopped : Nat → Option Mishap) (draft : Path) (place : Place)
    (archive : Archive) : Except Fault Unit × Files → Prop where
  | stopped {number : Nat} {mishap : Mishap} {left : Files} (by_ : stopped number = some mishap)
      (clean : left.unlink draft = files) :
      Ends files stopped draft place archive (.error mishap.fault, left)
  | done : Ends files stopped draft place archive (.ok (), files.put place (.archive archive))

section

variable {files : Files} {draft : Path} {place : Place} (may : files.MayDraft draft place)

include may

/-- Whatever a mishap leaves of the draft, nothing is left without the draft. -/
theorem unlink_leave (item : Item) (isFile : item ≠ .directory) (mishap : Mishap) :
    (mishap.leave (files.put place item) draft).unlink draft = files := by
  unfold Mishap.leave
  cases mishap.left with
  | none =>
    dsimp only
    rw [may.unlink_put, may.unlink_self]
  | some left =>
    dsimp only
    rw [may.write_put item isFile]
    exact may.unlink_put left

theorem perform_enter (entries : Archive) (entry : Archive.Entry) :
    (Step.enter entry).perform draft (files.put place (.archive entries))
      = .ok (files.put place (.archive (entries ++ [entry]))) := by
  have found : (files.put place (.archive entries)).read draft = .ok (.archive entries) := by
    unfold Files.read
    rw [may.look_put]
  unfold Step.perform
  rw [found]
  exact may.write_put (.archive entries) nofun _

theorem ends_enter (stopped : Nat → Option Mishap) (new : List Archive.Entry) (number : Nat)
    (entries : Archive) :
    Ends files stopped draft place (entries ++ new)
      (takeSteps stopped draft number (new.map .enter ++ [.finish])
        (files.put place (.archive entries))) := by
  induction new generalizing number entries with
  | nil =>
    rw [List.append_nil, List.map_nil, List.nil_append, takeSteps]
    cases disturbed : stopped number with
    | some mishap => exact .stopped disturbed (unlink_leave may _ (by nofun) mishap)
    | none => exact .done
  | cons entry rest ih =>
    rw [List.map_cons, List.cons_append, takeSteps]
    cases disturbed : stopped number with
    | some mishap => exact .stopped disturbed (unlink_leave may _ (by nofun) mishap)
    | none =>
      dsimp only
      rw [perform_enter may entries entry]
      have others := ih (number + 1) (entries ++ [entry])
      rw [List.append_assoc, List.singleton_append] at others
      exact others

theorem ends_steps (stopped : Nat → Option Mishap) (package : Package) :
    Ends files stopped draft place package.toArchive
      (takeSteps stopped draft 0 package.steps (files.put place (.bytes .empty))) := by
  rw [steps, takeSteps]
  cases disturbed : stopped 0 with
  | some mishap => exact .stopped disturbed (unlink_leave may _ (by nofun) mishap)
  | none =>
    have started : Step.start.perform draft (files.put place (.bytes .empty))
        = .ok (files.put place (.archive [])) := may.write_put _ (by nofun) _
    dsimp only
    rw [started]
    exact ends_enter may stopped package.toArchive 1 []

end

/-! ## Writing back -/

section

variable {package : Package} {files : Files} {name : String}

/-- A draft is made where the directory of the file is still there. -/
theorem makeDraft_cases (fresh : package.IsFresh files name) :
    (files.isDirectory package.path.parent = false ∧
      files.makeDraft (package.draftAt name) = Files.refuse package.path.parent .missing) ∨
    (files.isDirectory package.path.parent = true ∧ ∃ place,
      files.MayDraft (package.draftAt name) place ∧
      files.makeDraft (package.draftAt name) = .ok (files.put place (.bytes .empty))) := by
  have beside : (package.draftAt name).parent = package.path.parent := by
    simp [draftAt, Path.parent]
  cases around : files.isDirectory package.path.parent with
  | false =>
    refine Or.inl ⟨rfl, ?_⟩
    unfold Files.makeDraft
    rw [beside, around, if_neg (by decide)]
  | true =>
    obtain ⟨place, may⟩ := Files.mayDraft_of_isDirectory fresh.1 around fresh.2
    refine Or.inr ⟨rfl, place, may, ?_⟩
    unfold Files.makeDraft
    rw [beside, around, if_pos rfl]
    exact may.write_new _

theorem writeBack_of_gone (gone : files.isDirectory package.path.parent = false) :
    package.writeBack files = Files.refuse package.path.parent .missing := by
  unfold writeBack
  simp only [gone, Bool.not_false, if_true]

theorem writeBack_of_around (around : files.isDirectory package.path.parent = true) :
    package.writeBack files
      = if files.isDirectory package.path then
          .error (.file .isDirectory (package.draftAt draftName).toString
            (some package.path.toString))
        else files.write package.path (.archive package.toArchive) := by
  unfold writeBack
  simp only [around, Bool.not_true, Bool.false_eq_true, if_false]
  rfl

/-- How a disturbed writing ends: it failed and left the files as they were, or it did what a
writing does that nothing can disturb. It does not fail without a reason. -/
inductive Settles (package : Package) (files : Files) (disturbed : Prop) :
    Except Fault Unit × Files → Prop where
  | failed (fault : Fault)
      (reason : disturbed ∨ ∀ written, package.writeBack files ≠ .ok written) :
      Settles package files disturbed (.error fault, files)
  | done {written : Files} (back : package.writeBack files = .ok written) :
      Settles package files disturbed (.ok (), written)

/-- Once the draft is an archive, it takes the place of the file or leaves nothing but the draft
behind. -/
theorem replaceThrough_cases {place : Place}
    (may : files.MayDraft (package.draftAt name) place)
    (around : files.isDirectory package.path.parent = true) (stopped : Option Mishap) :
    (∃ fault left, package.replaceThrough name stopped
        (files.put place (.archive package.toArchive)) = (.error fault, left) ∧
      left.unlink (package.draftAt name) = files ∧
      (stopped ≠ none ∨ ∀ written, package.writeBack files ≠ .ok written)) ∨
    ∃ written, package.replaceThrough name stopped
        (files.put place (.archive package.toArchive)) = (.ok (), written) ∧
      package.writeBack files = .ok written := by
  unfold replaceThrough
  cases stopped with
  | some mishap => exact Or.inl ⟨_, _, rfl, unlink_leave may _ (by nofun) mishap, Or.inl nofun⟩
  | none =>
    rw [writeBack_of_around around]
    dsimp only
    rw [may.replace_put (.archive _) nofun]
    by_cases inTheWay : files.isDirectory package.path = true
    · rw [if_pos inTheWay, if_pos inTheWay]
      exact Or.inl ⟨_, _, rfl, may.unlink_put _, Or.inr fun _ => nofun⟩
    · rw [if_neg inTheWay, if_neg inTheWay]
      cases wrote : files.write package.path (.archive package.toArchive) with
      | error fault => exact Or.inl ⟨fault, _, rfl, may.unlink_put _, Or.inr fun _ => nofun⟩
      | ok written => exact Or.inr ⟨written, rfl, rfl⟩

theorem settles_writeThrough (fresh : package.IsFresh files name) (disturbance : Disturbance) :
    Settles package files (disturbance ≠ .calm)
      (package.writeThrough name disturbance files) := by
  unfold writeThrough
  cases making : disturbance.making with
  | some fault =>
    refine .failed fault (Or.inl fun calm => ?_)
    simp [calm, Disturbance.calm] at making
  | none =>
    rcases makeDraft_cases fresh with ⟨gone, refused⟩ | ⟨around, place, may, made⟩
    · rw [refused]
      refine .failed _ (Or.inr fun written back => ?_)
      rw [writeBack_of_gone gone] at back
      contradiction
    · rw [made]
      dsimp only
      have ends := ends_steps may disturbance.writing package
      generalize takeSteps disturbance.writing (package.draftAt name) 0 package.steps
        (files.put place (.bytes .empty)) = outcome at ends
      cases ends with
      | stopped by_ clean =>
        dsimp only
        rw [clean]
        refine .failed _ (Or.inl fun calm => ?_)
        simp [calm, Disturbance.calm] at by_
      | done =>
        dsimp only
        rcases replaceThrough_cases may around disturbance.replacing with
          ⟨fault, left, failed, clean, reason⟩ | ⟨written, done, back⟩
        · rw [failed]
          dsimp only
          rw [clean]
          refine .failed fault (reason.imp_left fun stopped calm => stopped ?_)
          rw [calm, Disturbance.calm]
        · rw [done]
          exact .done back

end

/-! ## Committing -/

section

variable {standing after : Standing} {name : String} {disturbance : Disturbance}

/-- A commit that fails leaves everything as it was. -/
theorem commitThrough_eq_error (fresh : standing.package.IsFresh standing.files name)
    {fault : Fault} (failed : commitThrough name disturbance standing = (.error fault, after)) :
    after = standing ∧ standing.package.isModified = true := by
  unfold commitThrough at failed
  split at failed
  · rename_i modified
    have settles := settles_writeThrough fresh disturbance
    generalize standing.package.writeThrough name disturbance standing.files = outcome
      at settles failed
    cases settles with
    | failed cause reason =>
      cases failed
      exact ⟨rfl, modified⟩
    | done back => cases failed
  · cases failed

/-- A commit that nothing stopped is the one that is done at once. -/
theorem commit_of_commitThrough (fresh : standing.package.IsFresh standing.files name)
    (done : commitThrough name disturbance standing = (.ok (), after)) :
    standing.package.commit standing.files = .ok (after.package, after.files) := by
  unfold commitThrough at done
  unfold commit
  split at done
  · rename_i modified
    rw [if_pos modified]
    have settles := settles_writeThrough fresh disturbance
    generalize standing.package.writeThrough name disturbance standing.files = outcome
      at settles done
    cases settles with
    | failed cause reason => cases done
    | done back =>
      cases done
      rw [back]
      rfl
  · rename_i unmodified
    cases done
    rw [if_neg unmodified]

/-- A commit that can be done at once is done step by step if nothing stops it. -/
theorem commitThrough_calm (fresh : standing.package.IsFresh standing.files name) :
    commitThrough name .calm standing = (.ok (), after) ↔
      standing.package.commit standing.files = .ok (after.package, after.files) := by
  refine ⟨commit_of_commitThrough fresh, fun done => ?_⟩
  obtain ⟨package, files⟩ := after
  unfold commit at done
  unfold commitThrough
  split at done
  · rename_i modified
    rw [if_pos modified]
    have settles := settles_writeThrough fresh .calm
    generalize standing.package.writeThrough name .calm standing.files = outcome at settles
    cases settles with
    | failed cause reason =>
      cases back : standing.package.writeBack standing.files with
      | error fault =>
        rw [back] at done
        contradiction
      | ok written => exact absurd back (reason.resolve_left (fun calm => calm rfl) written)
    | done back =>
      rw [back] at done
      obtain ⟨rfl, rfl⟩ := Prod.ext_iff.mp (Except.ok.inj done)
      rfl
  · rename_i unmodified
    rw [if_neg unmodified]
    obtain ⟨rfl, rfl⟩ := Prod.ext_iff.mp (Except.ok.inj done)
    rfl

end

/-! ## Whatever was done before -/

/-- What operations make of a package. Between them, anything may happen to the files. -/
inductive Becomes (origin : Package) : Package → Prop where
  | same : Becomes origin origin
  | operated {package : Package} (files : Files) (operation : Operation)
      (before : Becomes origin package) :
      Becomes origin (Standing.after ⟨package, files⟩ operation).package
  | closed {package after : Package} {files written : Files}
      (done : package.close files = .ok (after, written)) (before : Becomes origin package) :
      Becomes origin after

theorem Becomes.trans {origin between package : Package} (first : Becomes origin between)
    (then_ : Becomes between package) : Becomes origin package := by
  induction then_ with
  | same => exact first
  | operated files operation _ ih => exact .operated files operation ih
  | closed done _ ih => exact .closed done ih

/-- What is kept whatever is done: where the package belongs, and that no name stands twice. -/
structure Keeps (origin package : Package) : Prop where
  path : package.path = origin.path
  distinct : package.names.Nodup

theorem Keeps.commit {origin before after : Package} {files written : Files}
    (keeps : Keeps origin before) (done : before.commit files = .ok (after, written)) :
    Keeps origin after := by
  rcases commit_eq_ok done with ⟨-, rfl, -⟩ | ⟨-, rfl, -⟩
  · exact keeps
  · exact ⟨keeps.path, keeps.distinct⟩

theorem Keeps.after {origin package : Package} (keeps : Keeps origin package) (files : Files)
    (operation : Operation) :
    Keeps origin (Standing.after ⟨package, files⟩ operation).package := by
  rcases Standing.after_cases ⟨package, files⟩ operation with
    ⟨-, next⟩ | ⟨-, name, content, made, -, -, next⟩ | ⟨-, after, written, done, next⟩ |
      ⟨name, -, next⟩
  · rw [next]
    exact keeps
  · rw [next]
    exact ⟨keeps.path, Keyed.nodup_names_put keeps.distinct⟩
  · rw [next]
    exact keeps.commit done
  · rw [next]
    exact ⟨(path_discard package name).trans keeps.path, distinct_discard keeps.distinct name⟩

theorem Keeps.close {origin before after : Package} {files written : Files}
    (keeps : Keeps origin before) (done : before.close files = .ok (after, written)) :
    Keeps origin after := by
  unfold Package.close at done
  split at done
  · cases done
    exact keeps
  · cases inner : before.commit files with
    | error fault =>
      rw [inner] at done
      contradiction
    | ok next =>
      rw [inner] at done
      cases done
      exact ⟨(keeps.commit inner).path, (keeps.commit inner).distinct⟩

theorem Becomes.keeps {origin package : Package} (becomes : Becomes origin package)
    (distinct : origin.names.Nodup) : Keeps origin package := by
  induction becomes with
  | same => exact ⟨rfl, distinct⟩
  | operated files operation _ ih => exact ih.after files operation
  | closed done _ ih => exact ih.close done

/-- An archive holds exactly the entries of a package: each once, as archives keep it. -/
structure Records (archive : Archive) (package : Package) : Prop where
  order : package.writtenNames.Perm package.names
  entries : archive = package.writtenNames.map package.writtenEntry
  contents : (∀ name ∈ package.names, '\x00' ∉ name.toList) →
    ∀ name, (archive.named? name).map (·.content) = package.bytes? name

theorem records_toArchive (package : Package) : Records package.toArchive package where
  order := by
    unfold writtenNames
    split
    · rename_i present
      exact (List.perm_cons_erase (List.contains_iff_mem.mp present)).symm
    · exact .refl _
  entries := toArchive_eq package
  contents := content_toArchive

/-- A commit that fails changes nothing. Whatever was done to a package and whatever became of the
files meanwhile, a commit that is stopped at any of its steps, or that fails by itself, leaves the
files and the package as they were, and the package is not closed when closing it fails so. After
any further operations a commit that does not fail is the one that `commit` does at once, and it
writes exactly the entries of the package; if it writes nothing, they are those of the last
commit. -/
theorem commit_fails_cleanly {opened package : Package} {first files : Files} {path : Path}
    (began : openAt first path = .ok opened) (becomes : Becomes opened package)
    {name : String} (fresh : package.IsFresh files name) {disturbance : Disturbance}
    {fault : Fault} {after : Standing}
    (failed : commitThrough name disturbance ⟨package, files⟩ = (.error fault, after)) :
    after = ⟨package, files⟩ ∧ package.isModified = true ∧
    (package.isClosed = false →
      closeThrough name disturbance ⟨package, files⟩ = (.error fault, ⟨package, files⟩)) ∧
    ∀ {later written : Standing} {other : String} {milder : Disturbance},
      Becomes after.package later.package → later.package.IsFresh later.files other →
      commitThrough other milder later = (.ok (), written) →
      later.package.commit later.files = .ok (written.package, written.files) ∧
      (later.package.isModified = true →
        ∃ archive, archiveAt? written.files path = some archive ∧
          Records archive later.package) ∧
      (later.package.isModified = false → written = later ∧
        ∀ name, later.package.entries.lookup name = later.package.committed.lookup name) := by
  obtain ⟨source, -, rfl⟩ := openAt_eq_ok_iff.mp began
  obtain ⟨rfl, modified⟩ := commitThrough_eq_error fresh failed
  refine ⟨rfl, modified, fun isOpen => ?_,
    fun {later written other milder} further free done => ?_⟩
  · unfold closeThrough
    rw [if_neg (by simp [isOpen]), failed]
  · have atOnce := commit_of_commitThrough free done
    have keeps : Keeps (ofArchive path source) later.package :=
      (becomes.trans further).keeps (nodup_ofArchive path source)
    refine ⟨atOnce, fun isModified => ?_, fun unmodified => ⟨?_, ?_⟩⟩
    · rcases commit_eq_ok atOnce with ⟨unmodified, -, -⟩ | ⟨-, -, wrote⟩
      · rw [isModified] at unmodified
        contradiction
      · refine ⟨later.package.toArchive, ?_, records_toArchive _⟩
        have here : later.package.path = path := keeps.path.trans (path_ofArchive path source)
        rw [← here]
        unfold archiveAt?
        rw [Files.look_write wrote]
        rfl
    · unfold commitThrough at done
      rw [if_neg (by simp [unmodified])] at done
      cases done
      rfl
    · exact lookup_eq_of_not_modified keeps.distinct unmodified

/-- The package of `twiceNamed` with one entry written anew. -/
def edited : Package := untouched.package.write "b.xml" "again".toUTF8

/-- The writing stops at the second entry, and leaves a broken draft. -/
def halfway : Disturbance where
  making := none
  writing number :=
    if number = 2 then some ⟨.file .missing "t.tmp" none, some (.bytes "PK".toUTF8)⟩ else none
  replacing := none

/-- The package cannot be committed while a directory stands in its place, nor when the writing
stops halfway. The commit after that writes the new entry. -/
theorem commit_fails_cleanly_halfway :
    (∃ fault, commitThrough "t.tmp" .calm ⟨edited, [(["t.odt"], .directory)]⟩
      = (.error fault, ⟨edited, [(["t.odt"], .directory)]⟩)) ∧
    ∃ fault written archive,
      commitThrough "t.tmp" halfway ⟨edited, untouched.files⟩
        = (.error fault, ⟨edited, untouched.files⟩) ∧
      commitThrough "t.tmp" .calm ⟨edited, untouched.files⟩ = (.ok (), written) ∧
      archiveAt? written.files ⟨"", ["t.odt"]⟩ = some archive ∧
      (archive.named? "b.xml").map (·.content) = some "again".toUTF8 := by
  have opened : openAt untouched.files ⟨"", ["t.odt"]⟩ = .ok untouched.package := rfl
  have becomes : Becomes untouched.package edited :=
    .operated untouched.files (.write "b.xml" "again".toUTF8) .same
  have inTheWay : edited.IsFresh [(["t.odt"], .directory)] "t.tmp" :=
    ⟨by decide, by decide⟩
  have fresh : edited.IsFresh untouched.files "t.tmp" := ⟨by decide, by decide⟩
  have blocked : (commitThrough "t.tmp" .calm
      ⟨edited, [(["t.odt"], .directory)]⟩).1.toOption.isSome = false := by decide
  have stops : (commitThrough "t.tmp" halfway
      ⟨edited, untouched.files⟩).1.toOption.isSome = false := by decide
  have succeeds : (commitThrough "t.tmp" .calm
      ⟨edited, untouched.files⟩).1.toOption.isSome = true := by decide
  refine ⟨?_, ?_⟩
  · cases failed : commitThrough "t.tmp" .calm ⟨edited, [(["t.odt"], .directory)]⟩ with
    | mk outcome after =>
      rw [failed] at blocked
      cases outcome with
      | ok => cases blocked
      | error fault =>
        obtain ⟨rfl, -⟩ := commit_fails_cleanly opened becomes inTheWay failed
        exact ⟨fault, rfl⟩
  · cases failed : commitThrough "t.tmp" halfway ⟨edited, untouched.files⟩ with
    | mk outcome after =>
      rw [failed] at stops
      cases outcome with
      | ok => cases stops
      | error fault =>
        cases done : commitThrough "t.tmp" .calm ⟨edited, untouched.files⟩ with
        | mk again written =>
          rw [done] at succeeds
          cases again with
          | error _ => cases succeeds
          | ok =>
            obtain ⟨rfl, modified, -, later⟩ := commit_fails_cleanly opened becomes fresh failed
            obtain ⟨-, writes, -⟩ := later .same fresh done
            obtain ⟨archive, found, records⟩ := writes modified
            refine ⟨fault, written, archive, rfl, rfl, found, ?_⟩
            rw [records.contents (by decide)]
            decide

end Package

end FormLetter
