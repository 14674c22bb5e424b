import FormLetter.Proofs.Letter.Repeating
import FormLetter.Proofs.Letter.Staging

/-!
# What a manifest lists in the end

Pictures and enclosures are registered with a letter, and it is rendered, in any order and any number
of times. Nothing is registered any more when a rendering has ended, however it ended. One that
succeeds lists each picture that is registered by then, and was not listed, once and behind the rest
of the manifest; one that fails, and whatever else is done, leaves the manifest alone. So no picture
is ever listed again. For this the manifest has to declare plain qualifiers at its root: otherwise it
may not be read again once files are listed in it.
-/

namespace FormLetter

open FormLetter.Script

namespace Manifest

open FormLetter.Xml

/-! ## The entries of a manifest -/

mutual

/-- The tags of a node that list files, in order. -/
def entriesIn : Node → List Tag
  | .element tag content =>
    (if tag.name.is manifestNamespace "file-entry" then [tag] else []) ++ entries content
  | _ => []

/-- The tags of a content that list files, in order. -/
def entries : List Node → List Tag
  | [] => []
  | first :: rest => entriesIn first ++ entries rest

end

/-- The tags of a manifest that list files, in order. -/
def entriesOf (manifest : Document) : List Tag :=
  entriesIn (.element manifest.root manifest.content)

/-- The file that a tag lists. -/
def file? (tag : Tag) : Option String := tag.attribute? manifestNamespace "full-path"

/-- The files that a manifest lists, in order. -/
def filesOf (manifest : Document) : List String := (entriesOf manifest).filterMap file?

/-- Tags that list these files list no others. -/
theorem filterMap_of_map {added : List Tag} {paths : List String}
    (are : added.map file? = paths.map some) : added.filterMap file? = paths := by
  have same : added.filterMap file? = (added.map file?).filterMap id := by
    rw [List.filterMap_map]
    rfl
  rw [same, are, List.filterMap_map]
  exact List.filterMap_some

theorem entries_append (first second : List Node) :
    entries (first ++ second) = entries first ++ entries second := by
  induction first with
  | nil => rfl
  | cons node rest ih =>
    rw [List.cons_append, entries, entries, ih, List.append_assoc]

theorem entries_reverse_cons (node : Node) (before : List Node) :
    entries (node :: before).reverse = entries before.reverse ++ entriesIn node := by
  rw [List.reverse_cons, entries_append, entries, entries, List.append_nil]

mutual

/-- What a node lists, its tags list. -/
theorem listedIn_eq : (node : Node) → listedIn node = (entriesIn node).filterMap file?
  | .element tag content => by
    unfold listedIn entriesIn
    rw [List.filterMap_append, listed_eq content]
    dsimp only
    split
    · cases isFile : tag.attribute? manifestNamespace "full-path" <;>
        simp [file?, isFile]
    · rfl
  | .text value => rfl
  | .comment value => rfl
  | .instruction target value => rfl

theorem listed_eq : (content : List Node) → listed content = (entries content).filterMap file?
  | [] => rfl
  | first :: rest => by
    rw [listed, entries, List.filterMap_append, listedIn_eq first, listed_eq rest]

end

/-! ### Texts are not counted -/

theorem entries_putNode (before : List Node) (node : Node) :
    entries (putNode before node).reverse = entries before.reverse ++ entriesIn node := by
  unfold putNode
  split
  · exact (List.append_nil _).symm
  · rw [entries_reverse_cons, entries_reverse_cons, List.append_assoc]
    rfl
  · exact entries_reverse_cons _ _

mutual

/-- Joining texts leaves the tags that list files. -/
theorem entriesIn_joined : (node : Node) → entriesIn node.joined = entriesIn node
  | .element tag content => by
    rw [Node.joined, entriesIn, entriesIn, entries_joinedOnto [] content]
    rfl
  | .text value => rfl
  | .comment value => rfl
  | .instruction target value => rfl

theorem entries_joinedOnto (before : List Node) : (content : List Node) →
    entries (joinedOnto before content).reverse = entries before.reverse ++ entries content
  | [] => (List.append_nil _).symm
  | first :: rest => by
    rw [joinedOnto, entries_joinedOnto _ rest, entries_putNode, entriesIn_joined first,
      List.append_assoc]
    rfl

end

theorem entriesOf_joined (manifest : Document) : entriesOf manifest.joined = entriesOf manifest := by
  unfold entriesOf Document.joined
  dsimp only
  rw [entriesIn, entriesIn, entries_joinedOnto]
  rfl

/-! ### New entries -/

/-- The element that is made for a file has one tag that lists files, and it lists that one. -/
theorem entriesIn_fileEntry {scope : List Declaration} {file : String} {made more : Nat} {node : Node}
    (ran : (fileEntry scope file).run made = (node, more)) :
    ∃ tag, entriesIn node = [tag] ∧ file? tag = some file := by
  obtain ⟨own, given, declared, last, isEntry, -⟩ := fileEntry_run scope file made
  obtain ⟨rfl, -⟩ := Prod.mk.inj (ran.symm.trans isEntry)
  refine ⟨entryTag own (some given) declared file, ?_, ?_⟩
  · simp [entriesIn, entries, entryTag, Name.is]
  · simp [file?, Tag.attribute?, entryTag, Name.is]

/-- For each file one tag is made that lists it. -/
theorem entries_mapM {scope : List Declaration} {files : List String} {made last : Nat}
    {nodes : List Node} (ran : (files.mapM (fileEntry scope)).run made = (nodes, last)) :
    (entries nodes).map file? = files.map some := by
  have pairs := forall₂_run_mapM ran
  clear ran
  induction pairs with
  | nil => rfl
  | cons makes _ ih =>
    obtain ⟨before, more, ranFirst⟩ := makes
    obtain ⟨tag, isTag, isFile⟩ := entriesIn_fileEntry ranFirst
    rw [entries, isTag, List.map_append, ih, List.map_cons, isFile]
    rfl

/-- New entries come behind those of a manifest, one for each file that it does not list. -/
theorem entriesOf_register (files : List String) (manifest : Document) :
    ∃ added, entriesOf (register files manifest) = entriesOf manifest ++ added ∧
      added.map file? = (unlisted (filesOf manifest) files).map some := by
  rcases ran : ((unlisted (filesOf manifest) files).mapM (fileEntry manifest.root.declarations)).run 0
    with ⟨nodes, last⟩
  have whole : register files manifest = { manifest with content := manifest.content ++ nodes } := by
    unfold register
    rw [listedIn_eq]
    exact congrArg (fun made : List Node × Nat =>
      { manifest with content := manifest.content ++ made.1 }) ran
  refine ⟨entries nodes, ?_, entries_mapM ran⟩
  rw [whole]
  unfold entriesOf
  rw [entriesIn, entriesIn, entries_append, List.append_assoc]

end Manifest

namespace Package

open Xml

/-! ## The manifest of a package -/

/-- The manifest of a package, if there is one that can be read. -/
def manifest? (package : Package) : Option Document :=
  match package.read ({} : Layout).manifestPart with
  | .ok bytes => (Document.read bytes).toOption
  | .error _ => none

theorem manifest?_eq_some {package : Package} {manifest : Document} :
    package.manifest? = some manifest ↔ ∃ bytes,
      package.read ({} : Layout).manifestPart = .ok bytes ∧ Document.read bytes = .ok manifest := by
  unfold manifest?
  cases package.read ({} : Layout).manifestPart with
  | error fault => simp
  | ok bytes =>
    cases found : Document.read bytes with
    | error malformed => simp [Except.toOption, found]
    | ok document => simp [Except.toOption, found]

theorem Agrees.manifest? {before after : Package}
    (agrees : Agrees ({} : Layout).manifestPart before after) :
    after.manifest? = before.manifest? := by
  unfold Package.manifest? read
  rw [agrees.content]

/-- A manifest that can be read is there. -/
theorem has_of_manifest? {package : Package} {manifest : Document}
    (found : package.manifest? = some manifest) :
    package.has ({} : Layout).manifestPart = true := by
  obtain ⟨bytes, isRead, -⟩ := manifest?_eq_some.mp found
  have there : ({} : Layout).manifestPart ∈ package.names := by
    refine Keyed.lookup_isSome_iff.mp (?_ : (package.content? _).isSome)
    unfold read at isRead
    cases held : package.content? ({} : Layout).manifestPart with
    | some content => rfl
    | none =>
      rw [held] at isRead
      cases isRead
  unfold has
  rw [List.contains_iff_mem.mpr there, Bool.true_or]

/-- These files are listed in a package, besides those that it lists: behind the entries of its
manifest, which stay as they are, there is one more for each of these files that has none. Where there
is no manifest, there is none afterwards. -/
structure Adds (files : List String) (before after : Package) : Prop where
  without : before.manifest? = none → after.manifest? = none
  within : ∀ manifest, before.manifest? = some manifest →
    ∃ (again : Document) (added : List Tag) (paths : List String), after.manifest? = some again ∧
      Manifest.entriesOf again = Manifest.entriesOf manifest ++ added ∧
      added.map Manifest.file? = paths.map some ∧ paths.Nodup ∧
      ∀ file, file ∈ paths ↔ file ∈ files ∧ file ∉ Manifest.filesOf manifest

namespace Adds

variable {first second : List String} {before between after : Package}

/-- Where the manifest is left alone, nothing is listed. -/
theorem of_agrees (agrees : Agrees ({} : Layout).manifestPart before after) : Adds [] before after where
  without none_ := agrees.manifest?.trans none_
  within manifest found := ⟨manifest, [], [], agrees.manifest?.trans found,
    (List.append_nil _).symm, rfl, List.nodup_nil, fun file => by simp⟩

/-- What is listed later comes behind what was listed earlier. -/
theorem trans (begun : Adds first before between) (ended : Adds second between after) :
    Adds (first ++ second) before after where
  without none_ := ended.without (begun.without none_)
  within manifest found := by
    obtain ⟨middle, early, earlyPaths, isMiddle, earlyEntries, areEarly, earlyOnce, isEarly⟩ :=
      begun.within manifest found
    obtain ⟨last, late, latePaths, isLast, lateEntries, areLate, lateOnce, isLate⟩ :=
      ended.within middle isMiddle
    have known : Manifest.filesOf middle = Manifest.filesOf manifest ++ earlyPaths := by
      unfold Manifest.filesOf
      rw [earlyEntries, List.filterMap_append, Manifest.filterMap_of_map areEarly]
    rw [known] at isLate
    refine ⟨last, early ++ late, earlyPaths ++ latePaths, isLast, ?_, ?_, ?_, fun file => ?_⟩
    · rw [lateEntries, earlyEntries, List.append_assoc]
    · rw [List.map_append, List.map_append, areEarly, areLate]
    · refine List.nodup_append.mpr ⟨earlyOnce, lateOnce, ?_⟩
      rintro file isFirst other isSecond rfl
      exact ((isLate file).mp isSecond).2 (List.mem_append_right _ isFirst)
    · rw [List.mem_append, isLate, List.mem_append, List.mem_append, isEarly]
      tauto

/-- Listing files in the manifest of a package adds them. -/
theorem of_lists (plain : before.ListsPlainly) (lists : Work.Lists first before after) :
    Adds first before after := by
  cases lists with
  | nothing unlisted =>
    refine ⟨id, fun manifest found => ?_⟩
    rw [has_of_manifest? found] at unlisted
    cases unlisted
  | @manifest bytes text listed isRead written =>
    obtain ⟨⟨manifest, isManifest⟩, -⟩ := Manifest.extended_eq_ok_iff.mp ⟨text, written⟩
    have found : before.manifest? = some manifest :=
      manifest?_eq_some.mpr ⟨bytes, isRead, isManifest⟩
    have isAgain := Manifest.read_extended isManifest (plain bytes manifest isRead isManifest) written
    refine ⟨fun none_ => ?_, fun other isOther => ?_⟩
    · rw [none_] at found
      cases found
    · cases found.symm.trans isOther
      obtain ⟨added, entries, areAdded⟩ := Manifest.entriesOf_register first manifest
      refine ⟨_, added, _, manifest?_eq_some.mpr ⟨_, read_writeText _ _ _, isAgain⟩, ?_, areAdded,
        Manifest.nodup_unlisted _ _, fun file => Manifest.mem_unlisted⟩
      rw [Manifest.entriesOf_joined, entries]

end Adds

end Package

namespace Work

variable {id : Nat} {store : Store Workspace} {package : Package}

/-! ## One rendering -/

theorem listsPlainly_of_lists {files : List String} {before after : Package}
    (plain : before.ListsPlainly) (lists : Lists files before after) : after.ListsPlainly := by
  cases lists with
  | nothing unlisted => exact plain
  | manifest listed isRead written => exact plain.list isRead written

/-- The entries of the pictures that are registered with a letter once its parts are rendered. -/
def picturedIn (id : Nat) (occasion : Occasion) (store : Store Workspace) : List String :=
  (((renderParts (hostWithin enclosureLimit) id occasion).runFrom store).2.world.letter
    id).pictures.map pictureEntry

theorem agrees_of_readies {before after : Package} (readies : Package.Readies {} before after) :
    Package.Agrees ({} : Layout).manifestPart before after := by
  rcases readies with rfl | ⟨sources, rfl⟩
  · exact .refl _
  · exact Package.agrees_keep sources before

/-- A rendering that succeeds lists the pictures that are registered once the parts are rendered. -/
theorem process_adds {after : Store Workspace} {occasion : Occasion}
    (shows : Shows id packed (package, {}) store.world)
    (plain : package.ListsPlainly) (done : (process id occasion).runFrom store = (.ok (), after)) :
    ∃ last, Shows id packed (last, {}) after.world ∧ last.ListsPlainly ∧
      package.Adds (picturedIn id occasion store) last := by
  obtain ⟨samePackage, sameLayout⟩ := Prod.mk.inj shows.2
  obtain ⟨rendered, ready, pictured, finishes⟩ := process_finishes shows.1 sameLayout done
  obtain ⟨parts, isRendered⟩ := finishes.renders
  have readied := agrees_of_readies finishes.readies
  rw [samePackage] at readied
  have now : picturedIn id occasion store
      = (rendered.world.letter id).pictures.map pictureEntry := by
    unfold picturedIn
    rw [isRendered]
  refine ⟨pictured, finishes.shows, ?_⟩
  rw [now]
  cases finishes.adds with
  | nothing none_ =>
    rw [none_]
    exact ⟨readied.listsPlainly plain, .of_agrees readied⟩
  | @pictures between _ some_ copied lists =>
    have agrees := (readied.trans (Package.agrees_withPictureDirectory List.mem_cons_self ready)).trans
      (Package.agrees_embedAll List.mem_cons_self copied)
    have plainBetween := agrees.listsPlainly plain
    refine ⟨listsPlainly_of_lists plainBetween lists, ?_⟩
    exact (Package.Adds.of_agrees agrees).trans (.of_lists plainBetween lists)

/-- A rendering that fails leaves the manifest alone. -/
theorem process_agrees {after : Store Workspace} {occasion : Occasion} {fault : Fault}
    (shows : Shows id packed (package, {}) store.world)
    (failed : (process id occasion).runFrom store = (.error fault, after)) :
    ∃ last, Shows id packed (last, {}) after.world ∧
      Package.Agrees ({} : Layout).manifestPart package last := by
  have forget {workspace : Workspace} {last : Package} (shown : Shows id packed (last, {}) workspace) :
      Shows id packed (last, {}) (workspace.modify id Letter.bare) := by
    refine ⟨Nat.lt_of_lt_of_eq shown.1 (Workspace.size_modify _ _ _).symm, ?_⟩
    rw [Workspace.letter_modify_self shown.1, packed_bare]
    exact shown.2
  have hosted := keepsAll_hostWithin enclosureLimit
  unfold process at failed
  rw [processWith_eq] at failed
  rcases filled : (fill (hostWithin enclosureLimit) id occasion).runFrom store with ⟨problem | _, last⟩
  · rw [filled] at failed
    cases failed
    rcases fill_eq_error hosted shows filled with
      ⟨ready, readies, shown⟩ | ⟨arranged, arranges, broke⟩
    · exact ⟨ready, forget shown, agrees_of_readies readies⟩
    · obtain ⟨ready, readies, shown⟩ := arranges.readied hosted shows
      obtain ⟨left, leaves, -, kept⟩ := addPictures_eq_error ⟨rfl, shown⟩ broke
      obtain ⟨copied, rest, -, all, -⟩ := leaves.copied
      refine ⟨left, forget kept, (agrees_of_readies readies).trans ?_⟩
      exact (Package.agrees_withPictureDirectory List.mem_cons_self ready).trans
        (Package.agrees_embedAll List.mem_cons_self all)
  · rw [filled] at failed
    cases failed

/-- Whether a rendering succeeds or fails, nothing is registered any more when it has ended. -/
theorem process_registers_nothing (inside : id < store.world.letters.size) (occasion : Occasion) :
    let ended := ((process id occasion).runFrom store).2.world.letter id
    ended.pictures = [] ∧ ended.enclosures = [] := by
  have framed := leads_processWith (fun subject name given =>
    shows_of_keeps (keepsAll_hostWithin enclosureLimit _ subject name given) fun _ => rfl)
    setting_renders occasion store inside
  have there := framed.1
  unfold process
  rw [processWith_eq] at there ⊢
  dsimp only
  rw [Workspace.letter_modify_self (Nat.lt_of_lt_of_eq there (Workspace.size_modify _ _ _))]
  exact ⟨rfl, rfl⟩

/-! ## Any number of deeds -/

/-- What can be done with a letter again and again. -/
inductive Deed where
  | addPicture (path : Path)
  | addEnclosure (key : String) (enclosed : Value)
  | process (occasion : Occasion)

/-- Does it with a letter. -/
def Deed.perform (id : Nat) : Deed → Work Unit
  | addPicture path => discard <| Work.addPicture id path
  | addEnclosure key enclosed => Work.addEnclosure id key enclosed
  | process occasion => Work.process id occasion

/-- A deed, the heap that holds its values, and the files that are around. -/
structure Episode where
  heap : Heap
  files : Files
  deed : Deed

namespace Episode

/-- The store in which a deed begins. -/
def start (workspace : Workspace) (episode : Episode) : Store Workspace :=
  ⟨episode.heap, { workspace with files := episode.files }⟩

/-- What a deed leads to, whether it succeeds or fails. -/
def leadsTo (id : Nat) (workspace : Workspace) (episode : Episode) : Workspace :=
  ((episode.deed.perform id).runFrom (episode.start workspace)).2.world

/-- The files that a deed lists: the pictures that are registered once the parts of the letter are
rendered, if it is a rendering that succeeds. -/
def lists (id : Nat) (workspace : Workspace) (episode : Episode) : List String :=
  match episode.deed with
  | .process occasion =>
    match ((Work.process id occasion).runFrom (episode.start workspace)).1 with
    | .ok _ => picturedIn id occasion (episode.start workspace)
    | .error _ => []
  | _ => []

end Episode

/-- The files that deeds list, one after the other. -/
def listedBy (id : Nat) (workspace : Workspace) : List Episode → List String
  | [] => []
  | episode :: rest =>
    episode.lists id workspace ++ listedBy id (episode.leadsTo id workspace) rest

/-- Whatever is done with a letter lists what it is to list, and nothing else. -/
theorem adds_after {workspace : Workspace} (shows : Shows id packed (package, {}) workspace)
    (plain : package.ListsPlainly) (episode : Episode) :
    ∃ last, Shows id packed (last, {}) (episode.leadsTo id workspace) ∧ last.ListsPlainly ∧
      package.Adds (episode.lists id workspace) last := by
  obtain ⟨heap, files, deed⟩ := episode
  -- What is registered does not show in the package.
  have aside {action : Work Unit} (leads : Leads (showing id packed) action) :
      ∃ last, Shows id packed (last, {}) (action.runFrom ⟨heap, { workspace with files }⟩).2.world ∧
        last.ListsPlainly ∧ package.Adds [] last :=
    ⟨package, Shows.after_leads shows leads, plain, .of_agrees (.refl _)⟩
  cases deed with
  | addPicture path =>
    refine aside (shows_of_keeps ?_ fun _ => rfl)
    exact (keeps_addPicture id path).discard
  | addEnclosure key enclosed =>
    refine aside (shows_of_keeps ?_ fun _ => rfl)
    exact keeps_addEnclosure id key enclosed
  | process occasion =>
    let store : Store Workspace := ⟨heap, { workspace with files }⟩
    change ∃ last, Shows id packed (last, {}) ((process id occasion).runFrom store).2.world ∧
      last.ListsPlainly ∧ package.Adds (match ((process id occasion).runFrom store).1 with
        | .ok _ => picturedIn id occasion store
        | .error _ => []) last
    rcases ran : (process id occasion).runFrom store with ⟨fault | _, ended⟩
    · obtain ⟨last, shown, agrees⟩ := process_agrees shows ran
      exact ⟨last, shown, agrees.listsPlainly plain, .of_agrees agrees⟩
    · exact process_adds shows plain ran

theorem adds_afterAll {workspace : Workspace} (shows : Shows id packed (package, {}) workspace)
    (plain : package.ListsPlainly) (episodes : List Episode) :
    ∃ last, Shows id packed (last, {}) (episodes.foldl (Episode.leadsTo id) workspace) ∧
      last.ListsPlainly ∧ package.Adds (listedBy id workspace episodes) last := by
  induction episodes generalizing package workspace with
  | nil => exact ⟨package, shows, plain, .of_agrees (.refl _)⟩
  | cons episode rest ih =>
    obtain ⟨middle, shown, plainToo, begun⟩ := adds_after shows plain episode
    obtain ⟨last, isLast, stillPlain, ended⟩ := ih shown plainToo
    exact ⟨last, isLast, stillPlain, begun.trans ended⟩

/-- A letter of two empty parts, with a manifest. -/
def manifestArchive (manifest : String) : Archive :=
  emptyArchive ++ [⟨"META-INF/manifest.xml", ⟨.deflated, 1, .earliest⟩, manifest.toUTF8⟩]

/-- The path of that letter, and that of a picture. -/
def manifestPath : Path := ⟨"", ["t.odt"]⟩

/-- The files: the letter and the picture. -/
def manifestFiles (manifest : String) : Files :=
  [(["t.odt"], .archive (manifestArchive manifest)), (["x.png"], .bytes "x".toUTF8)]

/-- The store in which the letter is opened. -/
def manifestStart (manifest : String) : Store Workspace :=
  .start false ⟨manifestFiles manifest, #[]⟩

/-- The letter, opened. -/
def manifestOpened (manifest : String) : Store Workspace :=
  (M.runFrom (openAt {} manifestPath) (manifestStart manifest)).2

/-- A deed in these surroundings. -/
def manifestEpisode (manifest : String) (deed : Deed) : Episode :=
  ⟨bareHeap, manifestFiles manifest, deed⟩

/-- A picture is registered, and the letter is rendered. -/
def rendersPicture (manifest : String) : List Episode :=
  [manifestEpisode manifest (.addPicture ⟨"", ["x.png"]⟩),
    manifestEpisode manifest (.process ⟨0, .none, .none⟩)]

/-- A manifest that lists nothing yet. -/
def plainManifest : String :=
  "<m:m xmlns:m=\"urn:oasis:names:tc:opendocument:xmlns:manifest:1.0\"/>"

/-- A manifest that declares a qualifier with a colon in it. A warning that follows lets it pass. -/
def dividedManifest : String :=
  "<m xmlns:a:b=\"urn:oasis:names:tc:opendocument:xmlns:manifest:1.0\"><x xmlns=\"rel\"/></m>"

end Work

end FormLetter
