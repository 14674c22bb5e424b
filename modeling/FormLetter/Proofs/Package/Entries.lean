import FormLetter.Package
import Mathlib.Data.List.Basic
import Mathlib.Data.List.Nodup
import Mathlib.Data.List.TakeWhile
import Mathlib.Data.Option.Basic

/-!
# Packages and the archives that they are read from and written as

Of the entries that bear one name, the last one counts. A package holds for every name of its
archive what that entry holds, and the archive that it is written as holds for every name what the
package holds. So nothing gets lost on either way, as long as no name is cut: archives end a name
before a zero, and a package that was read has no such names.
-/

namespace FormLetter

namespace Archive

/-- The entry that a name stands for: the last one that bears it. -/
def named? : Archive → String → Option Entry
  | [], _ => none
  | entry :: rest, name =>
    (named? rest name).or (if name = entry.name then some entry else none)

/-- An archive as it can be read from a file: no name goes on behind a zero, and all seconds are
even. -/
def IsReadable (archive : Archive) : Prop :=
  ∀ entry ∈ archive, '\x00' ∉ entry.name.toList ∧ entry.info.moment.kept = entry.info.moment

theorem keptName_eq {name : String} (whole : '\x00' ∉ name.toList) : keptName name = name := by
  unfold keptName
  rw [List.takeWhile_eq_self_iff.mpr, String.ofList_toList]
  intro c member
  exact bne_iff_ne.mpr fun same => whole (same ▸ member)

theorem not_mem_keptName (name : String) : '\x00' ∉ (keptName name).toList := by
  unfold keptName
  rw [String.toList_ofList]
  intro member
  simpa using List.mem_takeWhile_imp member

theorem Moment.kept_kept (moment : Moment) : moment.kept.kept = moment.kept := by
  unfold Moment.kept
  congr 1
  exact congrArg (· * 2) (Nat.mul_div_cancel (moment.second / 2) (by decide))

/-- What is written can be read. -/
theorem isReadable_map_kept (archive : Archive) : IsReadable (archive.map Entry.kept) := by
  intro entry member
  obtain ⟨source, -, rfl⟩ := List.mem_map.mp member
  exact ⟨not_mem_keptName source.name, Moment.kept_kept source.info.moment⟩

theorem Moment.kept_ofNumbers (date time : Nat) :
    (Moment.ofNumbers date time).kept = Moment.ofNumbers date time := by
  unfold Moment.kept Moment.ofNumbers
  congr 1
  exact congrArg (· * 2) (Nat.mul_div_cancel (time % 32) (by decide))

/-- The name of an entry that was read ends before a zero. -/
theorem not_mem_readName {flags : Nat} {bytes : ByteArray} {name : String}
    (read : readName? flags bytes = some name) : '\x00' ∉ name.toList := by
  unfold readName? at read
  simp only [Option.map_eq_some_iff] at read
  obtain ⟨whole, -, rfl⟩ := read
  exact not_mem_keptName whole

theorem isReadable_entryAt? {bytes : ByteArray} {place head : Nat} {entry : Entry}
    (read : entryAt? bytes place head = some entry) :
    '\x00' ∉ entry.name.toList ∧ entry.info.moment.kept = entry.info.moment := by
  unfold entryAt? at read
  obtain ⟨_, -, read⟩ := Option.bind_eq_some_iff.mp read
  obtain ⟨_, -, read⟩ := Option.bind_eq_some_iff.mp read
  obtain ⟨method, -, read⟩ := Option.bind_eq_some_iff.mp read
  cases method <;>
    obtain ⟨_, -, read⟩ := Option.bind_eq_some_iff.mp read <;>
    obtain ⟨_, -, read⟩ := Option.bind_eq_some_iff.mp read <;>
    obtain ⟨_, -, read⟩ := Option.bind_eq_some_iff.mp read <;>
    obtain ⟨name, named, read⟩ := Option.bind_eq_some_iff.mp read <;>
    cases read <;>
    exact ⟨not_mem_readName named, Moment.kept_ofNumbers _ _⟩

theorem isReadable_entriesFrom? {bytes : ByteArray} {base lead stop fuel place : Nat}
    {archive : Archive} (read : entriesFrom? bytes base lead stop fuel place = some archive) :
    IsReadable archive := by
  induction fuel generalizing place archive with
  | zero => contradiction
  | succ fuel ih =>
    unfold entriesFrom? at read
    by_cases ended : stop ≤ place
    · rw [if_pos ended] at read
      cases read
      exact nofun
    · rw [if_neg ended] at read
      obtain ⟨_, -, read⟩ := Option.bind_eq_some_iff.mp read
      obtain ⟨_, -, read⟩ := Option.bind_eq_some_iff.mp read
      obtain ⟨entry, first, read⟩ := Option.bind_eq_some_iff.mp read
      obtain ⟨rest, others, read⟩ := Option.bind_eq_some_iff.mp read
      cases read
      exact List.forall_mem_cons.mpr ⟨isReadable_entryAt? first, ih others⟩

/-- An archive that was read from bytes is readable. -/
theorem isReadable_ofBytes? {bytes : ByteArray} {archive : Archive}
    (read : ofBytes? bytes = some archive) : IsReadable archive := by
  unfold ofBytes? at read
  obtain ⟨stop, -, read⟩ := Option.bind_eq_some_iff.mp read
  obtain ⟨_, -, read⟩ := Option.bind_eq_some_iff.mp read
  exact isReadable_entriesFrom? read

theorem mem_of_named? {archive : Archive} {name : String} {entry : Entry}
    (stands : archive.named? name = some entry) : entry ∈ archive ∧ entry.name = name := by
  induction archive with
  | nil => contradiction
  | cons first rest ih =>
    rw [named?] at stands
    cases later : named? rest name with
    | some other =>
      rw [later, Option.some_or] at stands
      exact (ih (later.trans stands)).imp_left (List.mem_cons_of_mem first)
    | none =>
      rw [later, Option.none_or] at stands
      split at stands
      · rename_i same
        cases stands
        exact ⟨List.mem_cons_self, same.symm⟩
      · contradiction

/-- What a name stands for where each name is given its entry. -/
theorem named?_map {names : List String} {make : String → Entry}
    (named : ∀ name ∈ names, (make name).name = name) (name : String) :
    named? (names.map make) name = if name ∈ names then some (make name) else none := by
  induction names with
  | nil => rfl
  | cons first rest ih =>
    have later := ih fun other member => named other (List.mem_cons_of_mem first member)
    rw [List.map_cons, named?, later, named first List.mem_cons_self]
    by_cases here : name = first
    · by_cases again : first ∈ rest <;> simp [here, again]
    · simp [here]

end Archive

namespace Package

open Archive

/-- The bytes that entries hold under a name. -/
def bytesOf (entries : List (String × Content)) (name : String) : Option ByteArray :=
  (entries.lookup name).map (·.bytes)

/-- The bytes that a package holds under a name. -/
def bytes? (package : Package) (name : String) : Option ByteArray := bytesOf package.entries name

theorem bytesOf_put (name other : String) (content : Content) (entries : List (String × Content)) :
    bytesOf (Keyed.put name content entries) other
      = if other = name then some content.bytes else bytesOf entries other := by
  unfold bytesOf
  rw [Keyed.lookup_put]
  split
  · rfl
  · rfl

theorem bytesOf_isSome_iff {name : String} {entries : List (String × Content)} :
    (bytesOf entries name).isSome ↔ name ∈ Keyed.names entries := by
  unfold bytesOf
  rw [Option.isSome_map, Keyed.lookup_isSome_iff]

theorem bytes?_isSome_iff {package : Package} {name : String} :
    (package.bytes? name).isSome ↔ name ∈ package.names := bytesOf_isSome_iff

/-! ## From an archive -/

theorem bytesOf_foldl_load (package : Package) (archive : Archive) (name : String) :
    (archive.foldl load package).bytes? name
      = ((archive.named? name).map (·.content)).or (package.bytes? name) := by
  induction archive generalizing package with
  | nil => rfl
  | cons entry rest ih =>
    rw [List.foldl_cons, ih, named?]
    have loaded : (package.load entry).bytes? name
        = if name = entry.name then some entry.content else package.bytes? name :=
      bytesOf_put _ _ _ _
    rw [loaded]
    cases named? rest name with
    | some later => rfl
    | none => by_cases here : name = entry.name <;> simp [here]

theorem infos_foldl_load (package : Package) (archive : Archive) (name : String) :
    (archive.foldl load package).infos.lookup name
      = ((archive.named? name).map (·.info)).or (package.infos.lookup name) := by
  induction archive generalizing package with
  | nil => rfl
  | cons entry rest ih =>
    rw [List.foldl_cons, ih, named?]
    have loaded : (package.load entry).infos.lookup name
        = if name = entry.name then some entry.info else package.infos.lookup name :=
      Keyed.lookup_put _ _ _ _
    rw [loaded]
    cases named? rest name with
    | some later => rfl
    | none => by_cases here : name = entry.name <;> simp [here]

theorem nodup_foldl_load (package : Package) (archive : Archive)
    (distinct : (Keyed.names package.entries).Nodup) :
    (Keyed.names (archive.foldl load package).entries).Nodup := by
  induction archive generalizing package with
  | nil => exact distinct
  | cons entry rest ih => exact ih (package.load entry) (Keyed.nodup_names_put distinct)

theorem path_foldl_load (package : Package) (archive : Archive) :
    (archive.foldl load package).path = package.path := by
  induction archive generalizing package with
  | nil => rfl
  | cons entry rest ih => exact ih (package.load entry)

theorem isClosed_foldl_load (package : Package) (archive : Archive) :
    (archive.foldl load package).isClosed = package.isClosed := by
  induction archive generalizing package with
  | nil => rfl
  | cons entry rest ih => exact ih (package.load entry)

/-- A package holds under each name what its archive holds there. -/
theorem bytes?_ofArchive (path : Path) (archive : Archive) (name : String) :
    (ofArchive path archive).bytes? name = (archive.named? name).map (·.content) := by
  have loaded := bytesOf_foldl_load ⟨path, [], [], [], false, 0⟩ archive name
  have empty : bytes? ⟨path, [], [], [], false, 0⟩ name = none := rfl
  rw [empty, Option.or_none] at loaded
  exact loaded

/-- A package knows of each entry what its archive tells. -/
theorem infos_ofArchive (path : Path) (archive : Archive) (name : String) :
    (ofArchive path archive).infos.lookup name = (archive.named? name).map (·.info) := by
  have loaded := infos_foldl_load ⟨path, [], [], [], false, 0⟩ archive name
  rw [List.lookup_nil, Option.or_none] at loaded
  exact loaded

theorem nodup_ofArchive (path : Path) (archive : Archive) :
    (Keyed.names (ofArchive path archive).entries).Nodup :=
  nodup_foldl_load _ archive List.nodup_nil

theorem path_ofArchive (path : Path) (archive : Archive) :
    (ofArchive path archive).path = path := path_foldl_load _ archive

theorem isClosed_ofArchive (path : Path) (archive : Archive) :
    (ofArchive path archive).isClosed = false := isClosed_foldl_load _ archive

theorem mem_names_ofArchive {path : Path} {archive : Archive} {name : String} :
    name ∈ (ofArchive path archive).names ↔ (archive.named? name).isSome := by
  have held : (bytesOf (ofArchive path archive).entries name).isSome ↔
      name ∈ Keyed.names (ofArchive path archive).entries := bytesOf_isSome_iff
  unfold names
  rw [← held, ← Option.isSome_map (f := fun entry : Entry => entry.content),
    ← bytes?_ofArchive path archive name]
  rfl

/-- Things are known about entries only. -/
theorem present_ofArchive (path : Path) (archive : Archive) :
    ∀ name ∈ Keyed.names (ofArchive path archive).infos, name ∈ (ofArchive path archive).names := by
  intro name member
  rw [← Keyed.lookup_isSome_iff, infos_ofArchive, Option.isSome_map] at member
  exact mem_names_ofArchive.mpr member

theorem names_foldl_load (package : Package) (archive : Archive) :
    (archive.foldl load package).names = package.names
      ++ ((archive.map (·.name)).filter (· ∉ package.names)).eraseDups := by
  induction archive generalizing package with
  | nil => simp
  | cons entry rest ih =>
    have loaded : (package.load entry).names
        = if entry.name ∈ package.names then package.names else package.names ++ [entry.name] :=
      Keyed.names_put _ _ _
    rw [List.foldl_cons, ih, loaded, List.map_cons, List.filter_cons]
    by_cases present : entry.name ∈ package.names
    · simp [present]
    · rw [if_neg present, if_pos (by simpa using present), List.eraseDups_cons, List.append_assoc,
        List.singleton_append, List.filter_filter]
      congr 3
      refine List.filter_congr fun name _ => ?_
      by_cases same : name = entry.name <;> simp [same]

/-- A package holds the names of its archive in their order, each where it stands first. -/
theorem names_ofArchive (path : Path) (archive : Archive) :
    (ofArchive path archive).names = (archive.map (·.name)).eraseDups := by
  refine (names_foldl_load ⟨path, [], [], [], false, 0⟩ archive).trans ?_
  simp [names]

/-- A content that was made before so many others. -/
def IsOld (content : Content) (made : Nat) : Prop :=
  ∃ isPlain number, number < made ∧ content = contentOf isPlain number content.bytes

/-- The contents of a package that is opened are made one after the other. -/
theorem isOld_foldl_load (package : Package) (archive : Archive)
    (old : ∀ name content, package.entries.lookup name = some content →
      IsOld content package.made) (name : String) (content : Content)
    (held : (archive.foldl load package).entries.lookup name = some content) :
    IsOld content (archive.foldl load package).made := by
  induction archive generalizing package with
  | nil => exact old name content held
  | cons entry rest ih =>
    refine ih (package.load entry) (fun other inner found => ?_) held
    change (Keyed.put _ _ package.entries).lookup other = some inner at found
    rw [Keyed.lookup_put] at found
    split at found
    · cases found
      exact ⟨_, package.made, Nat.lt_succ_self _, rfl⟩
    · obtain ⟨isPlain, number, before, is⟩ := old other inner found
      exact ⟨isPlain, number, Nat.lt_succ_of_lt before, is⟩

theorem isOld_ofArchive {path : Path} {archive : Archive} {name : String} {content : Content}
    (held : (ofArchive path archive).entries.lookup name = some content) :
    IsOld content (ofArchive path archive).made := by
  refine isOld_foldl_load _ archive (fun other inner found => ?_) name content held
  rw [List.lookup_nil] at found
  cases found

/-- A content that is made later is another one, unless it is so short that it may be the same. -/
theorem IsOld.ne_contentOf {content : Content} {made later : Nat} {bytes : ByteArray}
    {isPlain : Bool} (old : IsOld content made) (long : 1 < content.bytes.size)
    (after : made ≤ later) : contentOf isPlain later bytes ≠ content := by
  obtain ⟨wasPlain, number, before, is⟩ := old
  have told : content.stamp = some number := by
    rw [is]
    refine if_neg fun short => ?_
    unfold sharedSize at short
    split at short <;> omega
  intro same
  have stamps := congrArg Content.stamp same
  rw [told] at stamps
  unfold contentOf at stamps
  dsimp only at stamps
  split at stamps
  · cases stamps
  · cases stamps
    omega

/-! ## To an archive -/

theorem mem_writtenNames {package : Package} {name : String} :
    name ∈ package.writtenNames ↔ name ∈ package.names := by
  unfold writtenNames
  split
  · rename_i present
    rw [List.contains_iff_mem] at present
    by_cases isType : name = typeEntry
    · simp [isType, present]
    · simp [isType, List.mem_erase_of_ne isType]
  · rfl

/-- The entry for the type is written first, and all others in their order. -/
theorem writtenNames_eq {package : Package} (distinct : (Keyed.names package.entries).Nodup) :
    package.writtenNames
      = package.names.filter (· == typeEntry) ++ package.names.filter (· != typeEntry) := by
  have isDistinct : package.names.Nodup := distinct
  unfold writtenNames
  split
  · rename_i present
    rw [List.contains_iff_mem] at present
    rw [isDistinct.erase_eq_filter, List.filter_beq, List.count_eq_one_of_mem isDistinct present]
    rfl
  · rename_i absent
    rw [List.contains_iff_mem] at absent
    have none_ : package.names.filter (· == typeEntry) = [] :=
      List.filter_eq_nil_iff.mpr fun name member same => absent (beq_iff_eq.mp same ▸ member)
    have all : package.names.filter (· != typeEntry) = package.names :=
      List.filter_eq_self.mpr fun name member =>
        bne_iff_ne.mpr fun same => absent (same ▸ member)
    rw [none_, all, List.nil_append]

/-- The entry that is written under a name. -/
def writtenEntry (package : Package) (name : String) : Entry :=
  Entry.kept ⟨name, package.infoOf name, ((package.content? name).getD default).bytes⟩

theorem toArchive_eq (package : Package) :
    package.toArchive = package.writtenNames.map package.writtenEntry := rfl

section

variable {package : Package} (whole : ∀ name ∈ package.names, '\x00' ∉ name.toList)

include whole

theorem name_writtenEntry {name : String} (member : name ∈ package.writtenNames) :
    (package.writtenEntry name).name = name :=
  keptName_eq (whole name (mem_writtenNames.mp member))

/-- The names of the archive that a package is written as. -/
theorem names_toArchive : package.toArchive.map (·.name) = package.writtenNames := by
  rw [toArchive_eq, List.map_map]
  conv_rhs => rw [← List.map_id package.writtenNames]
  exact List.map_congr_left fun name member => name_writtenEntry whole member

theorem named?_toArchive (name : String) :
    package.toArchive.named? name
      = if name ∈ package.names then some (package.writtenEntry name) else none := by
  rw [toArchive_eq, named?_map fun name member => name_writtenEntry whole member]
  simp only [mem_writtenNames]

/-- The archive that a package is written as holds under each name what the package holds. -/
theorem content_toArchive (name : String) :
    (package.toArchive.named? name).map (·.content) = package.bytes? name := by
  rw [named?_toArchive whole]
  split
  · rename_i member
    obtain ⟨content, held⟩ := Option.isSome_iff_exists.mp (Keyed.lookup_isSome_iff.mpr member)
    simp only [writtenEntry, Entry.kept, bytes?, bytesOf, content?, held, Option.map_some,
      Option.getD_some]
  · rename_i absent
    rw [bytes?, bytesOf, Keyed.lookup_eq_none.mpr absent]
    rfl

end

end Package

end FormLetter
