import FormLetter.Proofs.Package.Entries

/-!
# Operations on packages

An open package is changed by operations, some of which may fail and change nothing. Each of them
enters one content, takes one name out, or commits the package. So what a row of operations leaves
of a package that it does not commit can be told from the names that they enter and take out: where
nothing was entered or taken out, everything is as it was, and the names that were there before and
never taken out come first, in their order.
-/

namespace FormLetter.Package

/-! ## Operations -/

/-- What can be done to an open package. -/
inductive Operation where
  | write (name : String) (bytes : ByteArray)
  /-- Gives an entry a content that is there already, as the very same one. -/
  | rewrite (name : String) (content : Content)
  | makeDirectory (name : String)
  | addFile (name : String) (source : Path)
  | remove (name : String)
  | discard (name : String)
  | commit

namespace Operation

/-- The name that an operation may enter. -/
def entered? : Operation → Option String
  | write name _ | rewrite name _ | makeDirectory name | addFile name _ => some name
  | remove _ | discard _ | commit => none

/-- The operation takes out whatever stands under a name. -/
def TakesOut (name : String) (operation : Operation) : Prop :=
  operation = remove name ∨ operation = discard name

/-- The name that an operation takes out. -/
def out? : Operation → Option String
  | remove name | discard name => some name
  | write .. | rewrite .. | makeDirectory _ | addFile .. | commit => none

theorem takesOut_iff {name : String} {operation : Operation} :
    operation.TakesOut name ↔ operation.out? = some name := by
  cases operation <;> simp [TakesOut, out?]

/-- An operation enters a content under a name, unless it fails or finds a directory there. -/
def Enters (name : String) : Operation → Prop
  | write other _ | rewrite other _ | addFile other _ => name = other
  | makeDirectory other => name = directoryName other
  | remove _ | discard _ | commit => False

/-- An operation changes what stands under a name. -/
def Touches (name : String) (operation : Operation) : Prop :=
  operation.Enters name ∨ operation.out? = some name

/-- Does an operation to a package among files. -/
def perform (package : Package) (files : Files) : Operation → Except Fault (Package × Files)
  | write name bytes => .ok (package.write name bytes, files)
  | rewrite name content => .ok (package.writeContent name content, files)
  | makeDirectory name => .ok (package.makeDirectory name, files)
  | addFile name source => (package.addFile files name source).map (·, files)
  | remove name => (package.remove name).map (·, files)
  | discard name => .ok (package.discard name, files)
  | commit => package.commit files

end Operation

/-- A package and the files around it. -/
structure Standing where
  package : Package
  files : Files

/-- What an operation leads to. One that fails changes nothing. -/
def Standing.after (standing : Standing) (operation : Operation) : Standing :=
  match operation.perform standing.package standing.files with
  | .ok (package, files) => ⟨package, files⟩
  | .error _ => standing

/-- What operations lead to, one after the other. -/
def Standing.afterAll (standing : Standing) (operations : List Operation) : Standing :=
  operations.foldl Standing.after standing

/-- What an operation leads to: nothing new, a content entered under a name, a commit, or a name
taken out. A name that could not be taken out was not there, so taking it out changes nothing
either. -/
theorem Standing.after_cases (standing : Standing) (operation : Operation) :
    (operation.out? = none ∧ standing.after operation = standing) ∨
    (operation.out? = none ∧ ∃ name content made, operation.Enters name ∧
      standing.package.made ≤ made ∧ standing.after operation
        = ⟨{ standing.package.writeContent name content with made }, standing.files⟩) ∨
    (operation = .commit ∧ ∃ after written, standing.package.commit standing.files
        = .ok (after, written) ∧ standing.after operation = ⟨after, written⟩) ∨
    ∃ name, operation.out? = some name ∧
      standing.after operation = ⟨standing.package.discard name, standing.files⟩ := by
  cases operation with
  | write name bytes =>
    exact Or.inr (Or.inl ⟨rfl, name, _, standing.package.made + 1, rfl, Nat.le_succ _, rfl⟩)
  | rewrite name content =>
    exact Or.inr (Or.inl ⟨rfl, name, content, standing.package.made, rfl, Nat.le_refl _, rfl⟩)
  | makeDirectory name =>
    by_cases present : Keyed.has (directoryName name) standing.package.entries = true
    · exact Or.inl ⟨rfl, by
        simp [Standing.after, Operation.perform, Package.makeDirectory, present]⟩
    · refine Or.inr (Or.inl ⟨rfl, directoryName name,
        contentOf true standing.package.made .empty, standing.package.made + 1, rfl,
        Nat.le_succ _, ?_⟩)
      simp only [Standing.after, Operation.perform, Package.makeDirectory, if_neg present]
      rfl
  | addFile name source =>
    cases found : standing.files.read source with
    | error fault =>
      refine Or.inl ⟨rfl, ?_⟩
      simp only [Standing.after, Operation.perform, Package.addFile, found]
      rfl
    | ok item =>
      refine Or.inr (Or.inl ⟨rfl, name, ?_⟩)
      cases item with
      | bytes content =>
        refine ⟨contentOf false standing.package.made content, standing.package.made + 1, rfl,
          Nat.le_succ _, ?_⟩
        simp only [Standing.after, Operation.perform, Package.addFile, found]
        rfl
      | directory | archive =>
        refine ⟨⟨.empty, some standing.package.made⟩, standing.package.made + 1, rfl,
          Nat.le_succ _, ?_⟩
        simp only [Standing.after, Operation.perform, Package.addFile, found]
        rfl
  | remove name =>
    refine Or.inr (Or.inr (Or.inr ⟨name, rfl, ?_⟩))
    by_cases present : Keyed.has name standing.package.entries = true
    · simp only [Standing.after, Operation.perform, Package.remove, if_pos present, Except.map]
    · simp only [Standing.after, Operation.perform, Package.remove, Package.discard,
        if_neg present, Except.map]
  | discard name => exact Or.inr (Or.inr (Or.inr ⟨name, rfl, rfl⟩))
  | commit =>
    cases done : standing.package.commit standing.files with
    | error fault => exact Or.inl ⟨rfl, by simp only [Standing.after, Operation.perform, done]⟩
    | ok next =>
      refine Or.inr (Or.inr (Or.inl ⟨rfl, next.1, next.2, rfl, ?_⟩))
      simp only [Standing.after, Operation.perform, done]

/-! ## Taking out -/

theorem names_discard (package : Package) (name : String) :
    (package.discard name).names = package.names.filter (· != name) := by
  unfold Package.discard
  split
  · exact Keyed.names_drop name package.entries
  · rename_i absent
    rw [Keyed.has_iff] at absent
    refine (List.filter_eq_self.mpr fun other member => ?_).symm
    exact bne_iff_ne.mpr fun same => absent (same ▸ member)

theorem lookup_discard (package : Package) (name other : String) :
    (package.discard name).entries.lookup other
      = if other = name then none else package.entries.lookup other := by
  unfold Package.discard
  split
  · exact Keyed.lookup_drop name other package.entries
  · rename_i absent
    rw [Keyed.has_iff] at absent
    split
    · rename_i same
      rw [same, Keyed.lookup_eq_none]
      exact absent
    · rfl

/-- Nothing is known about a name that was taken out, if things are known only about entries. -/
theorem infos_discard {package : Package}
    (present : ∀ name ∈ Keyed.names package.infos, name ∈ package.names) (name other : String) :
    (package.discard name).infos.lookup other
      = if other = name then none else package.infos.lookup other := by
  unfold Package.discard
  split
  · exact Keyed.lookup_drop name other package.infos
  · rename_i absent
    rw [Keyed.has_iff] at absent
    split
    · rename_i same
      rw [same, Keyed.lookup_eq_none]
      exact fun member => absent (present name member)
    · rfl

theorem present_discard {package : Package}
    (present : ∀ name ∈ Keyed.names package.infos, name ∈ package.names) (name : String) :
    ∀ other ∈ Keyed.names (package.discard name).infos, other ∈ (package.discard name).names := by
  intro other member
  rw [← Keyed.lookup_isSome_iff, infos_discard present] at member
  split at member
  · contradiction
  · rename_i differs
    rw [names_discard, List.mem_filter]
    exact ⟨present other (Keyed.lookup_isSome_iff.mp member), bne_iff_ne.mpr differs⟩

theorem distinct_discard {package : Package} (distinct : (Keyed.names package.entries).Nodup)
    (name : String) : (Keyed.names (package.discard name).entries).Nodup := by
  change (package.discard name).names.Nodup
  rw [names_discard]
  exact distinct.filter _

theorem lookup_discardAll (package : Package) (names : List String) (name : String) :
    (names.foldl Package.discard package).entries.lookup name
      = if name ∈ names then none else package.entries.lookup name := by
  induction names generalizing package with
  | nil => simp
  | cons first rest ih =>
    rw [List.foldl_cons, ih, lookup_discard]
    by_cases here : name = first <;> simp [here]

theorem mem_names_discardAll {package : Package} {names : List String} {name : String} :
    name ∈ (names.foldl Package.discard package).names ↔
      name ∈ package.names ∧ name ∉ names := by
  induction names generalizing package with
  | nil => simp
  | cons first rest ih =>
    rw [List.foldl_cons, ih, names_discard, List.mem_filter, bne_iff_ne, List.mem_cons]
    tauto

@[simp]
theorem path_discard (package : Package) (name : String) :
    (package.discard name).path = package.path := by
  unfold Package.discard
  split
  · rfl
  · rfl

@[simp]
theorem isClosed_discard (package : Package) (name : String) :
    (package.discard name).isClosed = package.isClosed := by
  unfold Package.discard
  split
  · rfl
  · rfl

@[simp]
theorem committed_discard (package : Package) (name : String) :
    (package.discard name).committed = package.committed := by
  unfold Package.discard
  split
  · rfl
  · rfl

@[simp]
theorem made_discard (package : Package) (name : String) :
    (package.discard name).made = package.made := by
  unfold Package.discard
  split
  · rfl
  · rfl

/-! ## Operations that commit nothing -/

/-- The names that operations take out. -/
def outs (operations : List Operation) : List String := operations.filterMap Operation.out?

/-- What operations that commit nothing leave of a package. -/
structure Evolves (origin : Package) (operations : List Operation) (package : Package) : Prop where
  path : package.path = origin.path
  isClosed : package.isClosed = origin.isClosed
  committed : package.committed = origin.committed
  made : origin.made ≤ package.made
  distinct : (Keyed.names package.entries).Nodup
  present : ∀ name ∈ Keyed.names package.infos, name ∈ package.names
  infos : ∀ name, package.infos.lookup name
    = if name ∈ outs operations then none else origin.infos.lookup name
  untouched : ∀ name, (∀ operation ∈ operations, ¬ operation.Touches name) →
    package.entries.lookup name = origin.entries.lookup name
  order : ∃ added, package.names = origin.names.filter (· ∉ outs operations) ++ added ∧
    ∀ name ∈ added, ∃ operation ∈ operations, operation.Enters name

namespace Evolves

variable {origin package : Package} {operations : List Operation}

theorem refl (distinct : (Keyed.names origin.entries).Nodup)
    (present : ∀ name ∈ Keyed.names origin.infos, name ∈ origin.names) :
    Evolves origin [] origin where
  path := rfl
  isClosed := rfl
  committed := rfl
  made := Nat.le_refl _
  distinct := distinct
  present := present
  infos _ := rfl
  untouched _ _ := rfl
  order := ⟨[], by simp [outs], nofun⟩

theorem outs_concat (operations : List Operation) (operation : Operation) :
    outs (operations ++ [operation]) = outs operations ++ operation.out?.toList := by
  unfold outs
  rw [List.filterMap_append]
  cases out : operation.out? <;> simp [out]

/-- An operation that changes nothing may be added. -/
theorem keep (evolves : Evolves origin operations package) {operation : Operation}
    (keeps : operation.out? = none) : Evolves origin (operations ++ [operation]) package := by
  have sameOuts : outs (operations ++ [operation]) = outs operations := by
    rw [outs_concat, keeps, Option.toList_none, List.append_nil]
  obtain ⟨added, names, entered⟩ := evolves.order
  refine { evolves with infos := ?_, untouched := ?_, order := ⟨added, ?_, ?_⟩ }
  · rw [sameOuts]
    exact evolves.infos
  · exact fun name free => evolves.untouched name fun earlier member =>
      free earlier (List.mem_append_left _ member)
  · rw [sameOuts]
    exact names
  · intro name member
    obtain ⟨earlier, inside, enters⟩ := entered name member
    exact ⟨earlier, List.mem_append_left _ inside, enters⟩

theorem enter (evolves : Evolves origin operations package) {operation : Operation}
    (keeps : operation.out? = none) {name : String} (enters : operation.Enters name)
    (content : Content) {made : Nat} (more : package.made ≤ made) :
    Evolves origin (operations ++ [operation])
      { package.writeContent name content with made } := by
  obtain ⟨path, isClosed, committed, made_, distinct, present, infos, untouched, added, names_,
    entered⟩ := evolves.keep keeps
  have last : operation ∈ operations ++ [operation] :=
    List.mem_append_right _ List.mem_cons_self
  refine ⟨path, isClosed, committed, Nat.le_trans made_ more, Keyed.nodup_names_put distinct,
    fun other member => Keyed.mem_names_put.mpr (Or.inr (present other member)), infos,
    fun other free => ?_, ?_⟩
  · have differs : other ≠ name := fun same => free operation last (Or.inl (same ▸ enters))
    change (Keyed.put name content package.entries).lookup other = _
    rw [Keyed.lookup_put, if_neg differs]
    exact untouched other free
  · change ∃ added, Keyed.names (Keyed.put name content package.entries) = _ ++ added ∧ _
    rw [Keyed.names_put]
    split
    · exact ⟨added, names_, entered⟩
    · refine ⟨added ++ [name], ?_, fun other member => ?_⟩
      · change package.names ++ [name] = _
        rw [names_, List.append_assoc]
      · rcases List.mem_append.mp member with early | single
        · exact entered other early
        · rw [List.mem_singleton] at single
          exact ⟨operation, last, single ▸ enters⟩

theorem discard (evolves : Evolves origin operations package) {operation : Operation}
    {name : String} (out : operation.out? = some name) :
    Evolves origin (operations ++ [operation]) (package.discard name) := by
  have last : operation ∈ operations ++ [operation] :=
    List.mem_append_right _ List.mem_cons_self
  have more : outs (operations ++ [operation]) = outs operations ++ [name] := by
    rw [outs_concat, out, Option.toList_some]
  obtain ⟨added, names_, entered⟩ := evolves.order
  refine ⟨by simpa using evolves.path, by simpa using evolves.isClosed,
    by simpa using evolves.committed, by simpa using evolves.made,
    distinct_discard evolves.distinct name, present_discard evolves.present name,
    fun other => ?_, fun other free => ?_, added.filter (· != name), ?_, fun other member => ?_⟩
  · rw [infos_discard evolves.present, evolves.infos, more]
    by_cases here : other = name
    · simp [here]
    · simp [here]
  · have differs : other ≠ name := fun here => free operation last (Or.inr (here ▸ out))
    rw [lookup_discard, if_neg differs]
    exact evolves.untouched other fun earlier member => free earlier (List.mem_append_left _ member)
  · rw [names_discard, names_, List.filter_append, List.filter_filter, more]
    congr 1
    refine List.filter_congr fun other _ => ?_
    by_cases here : other = name
    · simp [here]
    · simp [here]
  · obtain ⟨earlier, inside, enters⟩ := entered other (List.mem_filter.mp member).1
    exact ⟨earlier, List.mem_append_left _ inside, enters⟩

/-- One operation more, unless it commits. -/
theorem after (evolves : Evolves origin operations package) {operation : Operation}
    (pending : operation ≠ .commit) (files : Files) :
    Evolves origin (operations ++ [operation]) (Standing.after ⟨package, files⟩ operation).package ∧
      (Standing.after ⟨package, files⟩ operation).files = files := by
  rcases Standing.after_cases ⟨package, files⟩ operation with
    ⟨keeps, next⟩ | ⟨keeps, name, content, made, enters, more, next⟩ |
      ⟨isCommit, -⟩ | ⟨name, out, next⟩
  · rw [next]
    exact ⟨evolves.keep keeps, rfl⟩
  · rw [next]
    exact ⟨evolves.enter keeps enters content more, rfl⟩
  · exact absurd isCommit pending
  · rw [next]
    exact ⟨evolves.discard out, rfl⟩

/-- Operations leave the files alone as long as none of them commits. -/
theorem afterAll {before : List Operation} (evolves : Evolves origin before package)
    (pending : ∀ operation ∈ operations, operation ≠ .commit) (files : Files) :
    Evolves origin (before ++ operations)
        (Standing.afterAll ⟨package, files⟩ operations).package ∧
      (Standing.afterAll ⟨package, files⟩ operations).files = files := by
  induction operations generalizing before package with
  | nil => simpa [Standing.afterAll] using evolves
  | cons operation rest ih =>
    obtain ⟨next, sameFiles⟩ := evolves.after (pending operation List.mem_cons_self) files
    have others := ih next fun later member => pending later (List.mem_cons_of_mem _ member)
    rw [List.append_assoc, List.singleton_append] at others
    have step : Standing.after ⟨package, files⟩ operation
        = ⟨(Standing.after ⟨package, files⟩ operation).package, files⟩ :=
      congrArg (Standing.mk (Standing.after ⟨package, files⟩ operation).package) sameFiles
    unfold Standing.afterAll at others ⊢
    rw [List.foldl_cons, step]
    exact others

end Evolves

/-- Operations of which none commits make one package of another. -/
def Develops (operations : List Operation) (before after : Package) : Prop :=
  ∀ origin earlier, Evolves origin earlier before → Evolves origin (earlier ++ operations) after

theorem Develops.refl (package : Package) : Develops [] package package := by
  intro origin earlier evolves
  rw [List.append_nil]
  exact evolves

theorem Develops.trans {first second : List Operation} {before between after : Package}
    (begun : Develops first before between) (ended : Develops second between after) :
    Develops (first ++ second) before after := by
  intro origin earlier evolves
  rw [← List.append_assoc]
  exact ended origin _ (begun origin earlier evolves)

theorem develops_after {operation : Operation} (pending : operation ≠ .commit) (package : Package)
    (files : Files) :
    Develops [operation] package (Standing.after ⟨package, files⟩ operation).package :=
  fun _ _ evolves => (evolves.after pending files).1

theorem develops_of_perform {operation : Operation} {package after : Package} (files : Files)
    (pending : operation ≠ .commit)
    (done : operation.perform package files = .ok (after, files)) :
    Develops [operation] package after := by
  have next := develops_after pending package files
  unfold Standing.after at next
  rw [done] at next
  exact next

theorem develops_write (package : Package) (name : String) (bytes : ByteArray) :
    Develops [.write name bytes] package (package.write name bytes) :=
  develops_of_perform [] nofun rfl

theorem develops_discardAll (names : List String) (package : Package) :
    Develops (names.map .discard) package (names.foldl Package.discard package) := by
  induction names generalizing package with
  | nil => exact .refl package
  | cons first rest ih =>
    have taken : Develops [.discard first] package (package.discard first) :=
      develops_of_perform [] nofun rfl
    exact taken.trans (ih (package.discard first))

end FormLetter.Package
