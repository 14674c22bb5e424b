import FormLetter.Letter.Deliver
import FormLetter.Proofs.Letter.Filling
import FormLetter.Proofs.Package.Commit

/-!
# What a document holds

A document lists the entries of the letter that it was made from, in their order and as they were,
but for the rendered parts, for the pictures that were added, and for what was edited before it was
closed. The compiled parts are gone, and so is their directory, unless something else was put into
it. Names are those of the package; an archive cuts a name before a zero.
-/

namespace FormLetter

open FormLetter.Script

/-! ## Edits -/

/-- What may be done to a document before it is closed: a rendered text is replaced, or the entries
of the package are changed in memory. -/
inductive Edit where
  | content (text : List Char)
  | styles (text : List Char)
  | entries (operation : Package.Operation) (pending : operation ≠ .commit)

namespace Edit

/-- Edits a letter among files. -/
def perform (files : Files) (letter : Letter) : Edit → Letter
  | content text =>
    { letter with content := letter.content.map fun part => { part with rendered := some text } }
  | styles text =>
    { letter with styles := letter.styles.map fun part => { part with rendered := some text } }
  | entries operation _ =>
    { letter with package := (Package.Standing.after ⟨letter.package, files⟩ operation).package }

/-- The operation on the package that an edit is. -/
def operation? : Edit → Option Package.Operation
  | content _ | styles _ => none
  | entries operation _ => some operation

/-- The text of the content after an edit. -/
def contentAfter (text : List Char) : Edit → List Char
  | content other => other
  | styles _ | entries .. => text

/-- The text of the styles after an edit. -/
def stylesAfter (text : List Char) : Edit → List Char
  | styles other => other
  | content _ | entries .. => text

end Edit

/-! ## Documents -/

/-- What a document is made of besides its letter: the rendered texts, the pictures that were
registered, by name, and the edits. -/
structure Making where
  content : List Char
  styles : List Char
  pictures : List (String × Path)
  edits : List Edit

namespace Making

/-- The operations on the package that were done by edits. -/
def operations (making : Making) : List Package.Operation :=
  making.edits.filterMap Edit.operation?

/-- The text that the edits left of the content. -/
def contentLeft (making : Making) : List Char :=
  making.edits.foldl Edit.contentAfter making.content

/-- The text that the edits left of the styles. -/
def stylesLeft (making : Making) : List Char :=
  making.edits.foldl Edit.stylesAfter making.styles

/-- A name is touched when pictures are added: that of a picture, of their directory or of the
manifest. -/
def Pictures (making : Making) (layout : Layout) (name : String) : Prop :=
  making.pictures ≠ [] ∧ (name = Package.directoryName layout.pictureDirectory ∨
    name = layout.manifestPart ∨
    ∃ picture ∈ making.pictures, name = layout.pictureDirectory ++ "/" ++ picture.1)

/-- A name is touched by an edit. -/
def Edits (making : Making) (name : String) : Prop :=
  ∃ operation ∈ making.operations, operation.Touches name

end Making

/-- A name that is inside of a directory. -/
def IsInside (directory name : String) : Prop :=
  (Package.directoryName directory).toList <+: name.toList ∧ name ≠ Package.directoryName directory

/-- What is written under a name. It comes from the letter, with its method, its date and its
attributes, unless it was taken out; and with its content, unless something was put there. -/
structure Writes (layout : Layout) (source : Archive) (making : Making) (name : String)
    (entry : Archive.Entry) : Prop where
  named : entry.name = Archive.keptName name
  kept : ∀ old, source.named? name = some old → name ∉ Package.outs making.operations →
    entry.info.method = old.info.method ∧ entry.info.moment = old.info.moment ∧
      entry.info.attributes
        = if old.info.attributes = 0 then Archive.defaultAttributes else old.info.attributes
  new : source.named? name = none ∨ name ∈ Package.outs making.operations →
    entry.info.method = (Package.newInfo name).method ∧
      entry.info.attributes = (Package.newInfo name).attributes
  content : name = layout.contentPart →
    entry.content = (String.ofList making.contentLeft).toUTF8
  styles : name = layout.stylesPart → entry.content = (String.ofList making.stylesLeft).toUTF8
  same : name ≠ layout.contentPart → name ≠ layout.stylesPart → ¬ making.Pictures layout name →
    ¬ making.Edits name → ∀ old, source.named? name = some old → entry.content = old.content

/-- A document lists these names: the type first, then those of the letter that were not taken out,
and then those that were added. Besides pictures and edits, these can only be the directory of the
compiled parts, when an edit put something into it. -/
structure DocumentOf (layout : Layout) (source : Archive) (making : Making) (names : List String)
    (listed : Archive) : Prop where
  written : List.Forall₂ (Writes layout source making)
    (names.filter (· == Package.typeEntry) ++ names.filter (· != Package.typeEntry)) listed
  order : ∃ added, names = (source.map (·.name)).eraseDups.filter
      (· ∉ Package.outs making.operations) ++ added ∧
    ∀ name ∈ added, making.Pictures layout name ∨ making.Edits name ∨
      name = Package.directoryName layout.sourceDirectory ∧
        ∃ inner ∈ names, IsInside layout.sourceDirectory inner ∧ making.Edits inner
  distinct : names.Nodup
  parts : layout.contentPart ∈ names ∧ layout.stylesPart ∈ names
  sources : layout.contentSource ∉ names ∧ layout.stylesSource ∉ names

/-- A name of the directory that letters keep for themselves, or of something in it. -/
def IsOwn (name : String) : Prop := "documatic/".toList <+: name.toList

instance (name : String) : Decidable (IsOwn name) := inferInstanceAs (Decidable (_ <+: _))

theorem directoryName_sources :
    Package.directoryName "documatic/master" = "documatic/master/" := by decide

/-- The names of the compiled parts and of their directory are own names. -/
theorem isOwn_of_mem_sources {name : String}
    (member : name ∈ ["documatic/master/", "documatic/master/content.jinja",
      "documatic/master/styles.jinja"]) : IsOwn name := by
  have all : ∀ own ∈ ["documatic/master/", "documatic/master/content.jinja",
      "documatic/master/styles.jinja"], IsOwn own := by decide
  exact all name member

/-- The names of the parts of a document are not. -/
theorem not_isOwn_of_mem_parts {name : String} (member : name ∈ ["content.xml", "styles.xml"]) :
    ¬ IsOwn name := by
  have none_ : ∀ part ∈ ["content.xml", "styles.xml"], ¬ IsOwn part := by decide
  exact none_ name member

theorem IsInside.isOwn {name : String} (isInside : IsInside "documatic/master" name) :
    IsOwn name := by
  have around : IsOwn (Package.directoryName "documatic/master") := by
    rw [directoryName_sources]
    exact isOwn_of_mem_sources List.mem_cons_self
  exact around.trans isInside.1

/-! ## Closing -/

namespace Work

/-- Closing takes out own names only. The compiled parts are gone, and so is their directory, unless
there is something else in it. -/
theorem withoutSources_eq (package : Package) :
    ∃ taken : List String, withoutSources {} package = taken.foldl Package.discard package ∧
      (∀ name ∈ taken, IsOwn name) ∧ "documatic/master/content.jinja" ∈ taken ∧
      "documatic/master/styles.jinja" ∈ taken ∧ ("documatic/master/" ∈ taken ∨
        ∃ inner ∈ (withoutSources {} package).names, IsInside "documatic/master" inner) := by
  have parts : directoryParts ({} : Layout).sourceDirectory = ["master", "documatic"] := by
    decide
  have inner : "/".intercalate ["master", "documatic"].reverse ++ "/" = "documatic/master/" := by
    decide
  have outer : "/".intercalate ["documatic"].reverse ++ "/" = "documatic/" := by decide
  unfold withoutSources
  dsimp only
  rw [parts]
  unfold removeEmptyDirectories
  dsimp only
  rw [inner]
  split
  · rename_i occupied
    refine ⟨["documatic/master/content.jinja", "documatic/master/styles.jinja"], rfl,
      by decide, by simp, by simp, Or.inr ?_⟩
    obtain ⟨entry, member, isInside⟩ := List.any_eq_true.mp occupied
    rw [Bool.and_eq_true, List.isPrefixOf_iff_prefix, bne_iff_ne] at isInside
    refine ⟨entry, member, ?_⟩
    unfold IsInside
    rw [directoryName_sources]
    exact isInside
  · unfold removeEmptyDirectories
    dsimp only
    rw [outer]
    split
    · exact ⟨["documatic/master/content.jinja", "documatic/master/styles.jinja",
        "documatic/master/"], rfl, by decide, by simp, by simp, Or.inl (by simp)⟩
    · exact ⟨["documatic/master/content.jinja", "documatic/master/styles.jinja",
        "documatic/master/", "documatic/"], rfl, by decide, by simp, by simp,
        Or.inl (by simp)⟩

end Work

/-! ## What is done to the package of a document -/

namespace Making

variable {making : Making} {operation : Package.Operation} {name : String}

/-- An operation that is done while a document is made: by rendering it, by saving it or by an
edit. -/
def Does (making : Making) (operation : Package.Operation) : Prop :=
  Filling {} making.pictures operation ∨ (∃ bytes, operation = .write "content.xml" bytes) ∨
    (∃ bytes, operation = .write "styles.xml" bytes) ∨ operation ∈ making.operations

/-- Only edits take out names. -/
theorem Does.out (does : making.Does operation) (out : operation.out? = some name) :
    name ∈ Package.outs making.operations := by
  rcases does with filling | ⟨bytes, rfl⟩ | ⟨bytes, rfl⟩ | edited
  · cases filling <;> cases out
  · cases out
  · cases out
  · exact List.mem_filterMap.mpr ⟨operation, edited, out⟩

/-- Under which names contents are entered. -/
theorem Does.enters_cases (does : making.Does operation) (enters : operation.Enters name) :
    name ∈ ["documatic/master/", "documatic/master/content.jinja",
        "documatic/master/styles.jinja"] ∨
      name ∈ ["content.xml", "styles.xml"] ∨ making.Pictures {} name ∨ making.Edits name := by
  rcases does with filling | ⟨bytes, rfl⟩ | ⟨bytes, rfl⟩ | edited
  · cases filling with
    | sourceDirectory =>
      refine Or.inl ?_
      change name = Package.directoryName "documatic/master" at enters
      rw [enters, directoryName_sources]
      exact List.mem_cons_self
    | contentSource bytes =>
      cases enters
      exact Or.inl (by decide)
    | stylesSource bytes =>
      cases enters
      exact Or.inl (by decide)
    | pictureDirectory some_ => exact Or.inr (Or.inr (Or.inl ⟨some_, Or.inl enters⟩))
    | picture member =>
      refine Or.inr (Or.inr (Or.inl ⟨List.ne_nil_of_mem member, Or.inr (Or.inr ?_)⟩))
      exact ⟨_, member, enters⟩
    | manifest some_ bytes =>
      exact Or.inr (Or.inr (Or.inl ⟨some_, Or.inr (Or.inl enters)⟩))
  · cases enters
    exact Or.inr (Or.inl (by decide))
  · cases enters
    exact Or.inr (Or.inl (by decide))
  · exact Or.inr (Or.inr (Or.inr ⟨operation, edited, Or.inl enters⟩))

/-- No picture is put where letters keep what is their own. -/
theorem Pictures.not_isOwn (pictures : making.Pictures {} name) : ¬ IsOwn name := by
  obtain ⟨-, rfl | rfl | ⟨picture, -, rfl⟩⟩ := pictures
  · decide
  · decide
  · rintro ⟨rest, same⟩
    have first := congrArg List.head? same
    rw [String.toList_append, String.toList_append] at first
    exact absurd first (by simp)

end Making

/-- What is done to the package of a letter when texts are saved in the place of its parts. -/
def saving (content styles : List Char) : List Package.Operation :=
  [.write "content.xml" (String.ofList content).toUTF8,
    .write "styles.xml" (String.ofList styles).toUTF8]

theorem Making.does_saving (making : Making) (content styles : List Char) :
    ∀ operation ∈ saving content styles, making.Does operation := by
  simp [saving, Making.Does]

/-- A package that is ready to be written as a document: after what is done to it while the document
is made, the parts were saved, and own names were taken out. -/
structure Finished (source : Archive) (target : Path) (making : Making) (package : Package) :
    Prop where
  evolves : ∃ operations, ∃ taken : List String, (∀ operation ∈ operations, making.Does operation) ∧
    making.operations ⊆ operations ∧ (∀ name ∈ taken, IsOwn name) ∧
    Package.Evolves (Package.ofArchive target source)
      (operations ++ taken.map Package.Operation.discard) package
  content : ∃ made, (Package.ofArchive target source).made ≤ made ∧
    package.entries.lookup "content.xml"
      = some (Package.contentOf true made (String.ofList making.contentLeft).toUTF8)
  styles : ∃ made, package.entries.lookup "styles.xml"
    = some (Package.contentOf true made (String.ofList making.stylesLeft).toUTF8)
  gone : "documatic/master/content.jinja" ∉ package.names ∧
    "documatic/master/styles.jinja" ∉ package.names
  directory : "documatic/master/" ∈ package.names →
    ∃ inner ∈ package.names, IsInside "documatic/master" inner

section

variable {source : Archive} {target : Path} {making : Making}

/-- The names that were taken out, apart from own ones, are those that edits took out. -/
theorem mem_outs_iff {operations : List Package.Operation} {taken : List String} {name : String}
    (does : ∀ operation ∈ operations, making.Does operation)
    (edited : making.operations ⊆ operations) (own : ∀ name ∈ taken, IsOwn name)
    (other : ¬ IsOwn name) :
    name ∈ Package.outs (operations ++ taken.map Package.Operation.discard) ↔
      name ∈ Package.outs making.operations := by
  unfold Package.outs
  rw [List.filterMap_append, List.mem_append]
  constructor
  · rintro (early | late)
    · obtain ⟨operation, member, out⟩ := List.mem_filterMap.mp early
      exact (does operation member).out out
    · obtain ⟨operation, member, out⟩ := List.mem_filterMap.mp late
      obtain ⟨gone, isTaken, rfl⟩ := List.mem_map.mp member
      cases out
      exact absurd (own name isTaken) other
  · intro out
    obtain ⟨operation, member, out⟩ := List.mem_filterMap.mp out
    exact Or.inl (List.mem_filterMap.mpr ⟨operation, edited member, out⟩)

/-- Saving a package and taking out what is its own finishes it. -/
theorem finished_withoutSources {operations : List Package.Operation} {package : Package}
    (does : ∀ operation ∈ operations, making.Does operation)
    (edited : making.operations ⊆ operations)
    (develops : Package.Develops operations (Package.ofArchive target source) package) :
    Finished source target making (Work.withoutSources {}
      ((package.writeText "content.xml" (String.ofList making.contentLeft)).writeText "styles.xml"
        (String.ofList making.stylesLeft))) := by
  have evolves := develops _ [] (.refl (Package.nodup_ofArchive target source)
    (Package.present_ofArchive target source))
  let saved := (package.writeText "content.xml" (String.ofList making.contentLeft)).writeText
    "styles.xml" (String.ofList making.stylesLeft)
  let saves := saving making.contentLeft making.stylesLeft
  have develops_saved : Package.Develops saves package saved :=
    (Package.develops_write package _ _).trans (Package.develops_write _ _ _)
  obtain ⟨taken, same, own, content, styles, directory⟩ := Work.withoutSources_eq saved
  change Finished source target making (Work.withoutSources {} saved)
  have names (name : String) : name ∈ (Work.withoutSources {} saved).names ↔
      name ∈ saved.names ∧ name ∉ taken := by
    rw [same]
    exact Package.mem_names_discardAll
  have held (name : String) (other : ¬ IsOwn name) :
      (Work.withoutSources {} saved).entries.lookup name = saved.entries.lookup name := by
    rw [same, Package.lookup_discardAll, if_neg fun member => other (own name member)]
  refine ⟨⟨operations ++ saves, taken, ?_, ?_, own, ?_⟩,
    ⟨package.made, evolves.made, ?_⟩, ⟨package.made + 1, ?_⟩,
    ⟨fun member => ((names _).mp member).2 content, fun member => ((names _).mp member).2 styles⟩,
    fun member => directory.resolve_left ((names _).mp member).2⟩
  · exact List.forall_mem_append.mpr ⟨does, making.does_saving _ _⟩
  · exact fun operation member => List.mem_append_left _ (edited member)
  · have finished := (develops.trans develops_saved).trans
      (Package.develops_discardAll taken saved)
    rw [same]
    exact finished _ [] (.refl (Package.nodup_ofArchive target source)
      (Package.present_ofArchive target source))
  · rw [held _ (not_isOwn_of_mem_parts (by simp))]
    change (Keyed.put "styles.xml" _ (Keyed.put "content.xml" _ package.entries)).lookup _ = _
    rw [Keyed.lookup_put, if_neg (by decide), Keyed.lookup_put, if_pos rfl]
  · rw [held _ (not_isOwn_of_mem_parts (by simp))]
    change (Keyed.put "styles.xml" _ (Keyed.put "content.xml" _ package.entries)).lookup _ = _
    rw [Keyed.lookup_put, if_pos rfl]
    rfl

/-- A letter without own names stands for none. -/
theorem not_isOwn_of_named (clean : ∀ entry ∈ source, ¬ IsOwn entry.name) {name : String}
    {entry : Archive.Entry} (stands : source.named? name = some entry) : ¬ IsOwn name := by
  obtain ⟨member, rfl⟩ := Archive.mem_of_named? stands
  exact clean entry member

namespace Finished

variable {package : Package} (finished : Finished source target making package)

include finished

/-- A document counts as modified, since its content is never the one that was read. -/
theorem isModified {bytes : ByteArray} (long : 1 < bytes.size)
    (read : (Package.ofArchive target source).read "content.xml" = .ok bytes) :
    package.isModified = true := by
  obtain ⟨operations, taken, -, -, -, evolves⟩ := finished.evolves
  obtain ⟨made, later, held⟩ := finished.content
  refine Package.isModified_of_lookup_ne evolves.distinct held ?_
  rw [evolves.committed]
  change (Package.ofArchive target source).entries.lookup "content.xml" ≠ _
  unfold Package.read Package.content? at read
  split at read
  · rename_i old isOld
    cases read
    rw [isOld]
    intro same
    exact (Package.isOld_ofArchive isOld).ne_contentOf long later (Option.some.inj same).symm
  · cases read

/-- A document that counts as modified is written to its file when it is closed. -/
theorem wrote (modified : package.isModified = true) {closed : Package} {files written : Files}
    (done : package.close files = .ok (closed, written)) :
    files.write target (.archive package.toArchive) = .ok written := by
  obtain ⟨operations, taken, -, -, -, evolves⟩ := finished.evolves
  unfold Package.close at done
  rw [evolves.isClosed, Package.isClosed_ofArchive, if_neg Bool.false_ne_true] at done
  cases committed : package.commit files with
  | error fault =>
    rw [committed] at done
    cases done
  | ok next =>
    rw [committed] at done
    cases done
    rcases Package.commit_eq_ok committed with ⟨unmodified, -, -⟩ | ⟨-, -, wrote⟩
    · rw [modified] at unmodified
      cases unmodified
    · rw [evolves.path, Package.path_ofArchive] at wrote
      exact wrote

/-- What is known about the entries of a document: what the letter told, but for what edits took
out. -/
theorem infos (clean : ∀ entry ∈ source, ¬ IsOwn entry.name) (name : String) :
    package.infos.lookup name = if name ∈ Package.outs making.operations then none
      else (source.named? name).map (·.info) := by
  obtain ⟨operations, taken, does, edited, own, evolves⟩ := finished.evolves
  rw [evolves.infos, Package.infos_ofArchive]
  cases stands : source.named? name with
  | none => simp
  | some entry =>
    simp only [mem_outs_iff does edited own (not_isOwn_of_named clean stands)]

/-- What was neither added nor edited has the bytes that it had in the letter. -/
theorem bytes?_eq (clean : ∀ entry ∈ source, ¬ IsOwn entry.name) {name : String}
    {old : Archive.Entry} (stands : source.named? name = some old)
    (other : name ∉ ["content.xml", "styles.xml"]) (noPicture : ¬ making.Pictures {} name)
    (unedited : ¬ making.Edits name) : package.bytes? name = some old.content := by
  obtain ⟨operations, taken, does, edited, own, evolves⟩ := finished.evolves
  have notOwn := not_isOwn_of_named clean stands
  have same := evolves.untouched name fun operation member touches => by
    rcases List.mem_append.mp member with early | late
    · rcases touches with enters | out
      · rcases (does operation early).enters_cases enters with isOwn | isPart | picture | edits
        · exact notOwn (isOwn_of_mem_sources isOwn)
        · exact other isPart
        · exact noPicture picture
        · exact unedited edits
      · obtain ⟨edit, isEdit, outEdit⟩ :=
          List.mem_filterMap.mp ((does operation early).out out)
        exact unedited ⟨edit, isEdit, Or.inr outEdit⟩
    · obtain ⟨gone, isTaken, rfl⟩ := List.mem_map.mp late
      rcases touches with enters | out
      · exact enters
      · cases out
        exact notOwn (own name isTaken)
  unfold Package.bytes? Package.bytesOf
  rw [same]
  have held := Package.bytes?_ofArchive target source name
  rw [stands] at held
  exact held

/-- What a document is written as under each of its names. -/
theorem writes (clean : ∀ entry ∈ source, ¬ IsOwn entry.name) (readable : source.IsReadable)
    (name : String) : Writes {} source making name (package.writtenEntry name) where
  named := rfl
  kept old stands untouched := by
    have known : package.infos.lookup name = some old.info := by
      rw [finished.infos clean, if_neg untouched, stands]
      rfl
    have even := (readable old (Archive.mem_of_named? stands).1).2
    simp [Package.writtenEntry, Archive.Entry.kept, Archive.Info.kept, Package.infoOf, known, even]
  new fresh := by
    have unknown : package.infos.lookup name = none := by
      rw [finished.infos clean]
      split
      · rfl
      · rename_i untouched
        rw [fresh.resolve_right untouched]
        rfl
    simp [Package.writtenEntry, Archive.Entry.kept, Archive.Info.kept, Package.infoOf, unknown,
      Package.attributes_newInfo_ne_zero]
  content isContent := by
    obtain ⟨made, -, held⟩ := finished.content
    rw [isContent]
    simp [Package.writtenEntry, Archive.Entry.kept, Package.content?, held, Package.contentOf]
  styles isStyles := by
    obtain ⟨made, held⟩ := finished.styles
    rw [isStyles]
    simp [Package.writtenEntry, Archive.Entry.kept, Package.content?, held, Package.contentOf]
  same notContent notStyles noPicture unedited old stands := by
    have other : name ∉ ["content.xml", "styles.xml"] := by
      rw [List.mem_cons, List.mem_singleton]
      exact fun either => either.elim notContent notStyles
    have held := finished.bytes?_eq clean stands other noPicture unedited
    unfold Package.bytes? Package.bytesOf at held
    obtain ⟨content, found, bytes⟩ := Option.map_eq_some_iff.mp held
    simp [Package.writtenEntry, Archive.Entry.kept, Package.content?, found, bytes]

/-- The names of a document, as far as they were not in the letter, were added by pictures or by
edits, or belong to what is the document's own; then they are not those of its parts. -/
theorem added_cases (parts : ∀ name ∈ ["content.xml", "styles.xml"], (source.named? name).isSome)
    {operations : List Package.Operation} {taken added : List String}
    (does : ∀ operation ∈ operations, making.Does operation)
    (edited : making.operations ⊆ operations) (own : ∀ name ∈ taken, IsOwn name)
    (names : package.names = (Package.ofArchive target source).names.filter
      (· ∉ Package.outs (operations ++ taken.map Package.Operation.discard)) ++ added)
    (distinct : package.names.Nodup)
    (entered : ∀ name ∈ added, ∃ operation ∈ operations ++ taken.map Package.Operation.discard,
      operation.Enters name) {name : String} (member : name ∈ added) :
    name = "documatic/master/" ∨ making.Pictures {} name ∨ making.Edits name := by
  have inNames : name ∈ package.names := names ▸ List.mem_append_right _ member
  obtain ⟨operation, done, enters⟩ := entered name member
  rcases List.mem_append.mp done with early | late
  · rcases (does operation early).enters_cases enters with isOwn | isPart | picture | edits
    · rw [List.mem_cons, List.mem_cons, List.mem_singleton] at isOwn
      rcases isOwn with directory | content | styles
      · exact Or.inl directory
      · exact absurd (content ▸ inNames) finished.gone.1
      · exact absurd (styles ▸ inNames) finished.gone.2
    · -- A part was in the letter, so it is among what was added only when an edit took it out.
      refine Or.inr (Or.inr ?_)
      by_cases out : name ∈ Package.outs making.operations
      · obtain ⟨edit, isEdit, outEdit⟩ := List.mem_filterMap.mp out
        exact ⟨edit, isEdit, Or.inr outEdit⟩
      · have old : name ∈ (Package.ofArchive target source).names :=
          Package.mem_names_ofArchive.mpr (parts name isPart)
        rw [← mem_outs_iff does edited own (not_isOwn_of_mem_parts isPart)] at out
        rw [names, List.nodup_append] at distinct
        exact absurd rfl (distinct.2.2 name
          (List.mem_filter.mpr ⟨old, decide_eq_true out⟩) name member)
    · exact Or.inr (Or.inl picture)
    · exact Or.inr (Or.inr edits)
  · obtain ⟨gone, -, rfl⟩ := List.mem_map.mp late
    exact enters.elim

/-- A finished package is written as a document of its letter. -/
theorem document (clean : ∀ entry ∈ source, ¬ IsOwn entry.name) (readable : source.IsReadable)
    (parts : ∀ name ∈ ["content.xml", "styles.xml"], (source.named? name).isSome) :
    DocumentOf {} source making package.names package.toArchive where
  written := by
    obtain ⟨operations, taken, -, -, -, evolves⟩ := finished.evolves
    rw [Package.toArchive_eq, Package.writtenNames_eq evolves.distinct,
      List.forall₂_map_right_iff, List.forall₂_same]
    exact fun name _ => finished.writes clean readable name
  order := by
    obtain ⟨operations, taken, does, edited, own, evolves⟩ := finished.evolves
    obtain ⟨added, names, entered⟩ := evolves.order
    have cases_ {name : String} (member : name ∈ added) :=
      finished.added_cases parts does edited own names evolves.distinct entered member
    refine ⟨added, ?_, fun name member => ?_⟩
    · rw [names, Package.names_ofArchive]
      congr 1
      refine List.filter_congr fun name member => ?_
      rw [← Package.names_ofArchive target] at member
      obtain ⟨entry, stands⟩ :=
        Option.isSome_iff_exists.mp (Package.mem_names_ofArchive.mp member)
      rw [decide_eq_decide]
      exact not_congr (mem_outs_iff does edited own (not_isOwn_of_named clean stands))
    · rcases cases_ member with directory | picture | edits
      · have inNames : name ∈ package.names := names ▸ List.mem_append_right _ member
        obtain ⟨inner, isName, isInside⟩ := finished.directory (directory ▸ inNames)
        refine Or.inr (Or.inr ⟨directory.trans directoryName_sources.symm, inner, isName, isInside, ?_⟩)
        have isOwn := isInside.isOwn
        have isAdded : inner ∈ added := by
          rw [names, List.mem_append] at isName
          refine isName.resolve_left fun old => ?_
          obtain ⟨entry, stands⟩ := Option.isSome_iff_exists.mp
            (Package.mem_names_ofArchive.mp (List.mem_filter.mp old).1)
          exact not_isOwn_of_named clean stands isOwn
        rcases cases_ isAdded with itself | picture | edits
        · exact absurd (itself.trans directoryName_sources.symm) isInside.2
        · exact absurd isOwn picture.not_isOwn
        · exact edits
      · exact Or.inl picture
      · exact Or.inr (Or.inl edits)
  distinct := by
    obtain ⟨operations, taken, -, -, -, evolves⟩ := finished.evolves
    exact evolves.distinct
  parts := by
    obtain ⟨_, -, content⟩ := finished.content
    obtain ⟨_, styles⟩ := finished.styles
    exact ⟨Keyed.lookup_isSome_iff.mp (Option.isSome_iff_exists.mpr ⟨_, content⟩),
      Keyed.lookup_isSome_iff.mp (Option.isSome_iff_exists.mpr ⟨_, styles⟩)⟩
  sources := finished.gone

end Finished

end

end FormLetter
