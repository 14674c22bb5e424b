import FormLetter.Proofs.Letter.Twins

/-!
# Rendering a letter in two states

Once a letter is compiled in both states, its parts are rendered from the same sources with the same
values. While the styles are rendered, an earlier content may still be held in the second state, so
it has to be gone in the first one; from then on both states hold the same. Pictures can be added in
both or in none, for what it takes is the same: their files can be read, and so can the manifest. All
this holds as long as no other letter is opened.
-/

namespace FormLetter

open FormLetter.Script

namespace Work

open Workspace

variable {α : Type} {count : Nat} {mode : Bool} {id : Nat} {like later : Letter → Letter → Prop}

/-- The stores of a letter in two states. -/
abbrev Alongside (count : Nat) (mode : Bool) (id : Nat) (like : Letter → Letter → Prop) :
    Store Workspace → Store Workspace → Prop := (twins count mode id like).AlikeOut

/-- What comes of an action from the first store, comes of it from the second one, if no letter was
opened meanwhile. -/
abbrev CarriesFew (count : Nat) (related : Store Workspace → Store Workspace → Prop)
    (action : Work α) (first second : Store Workspace) : Prop :=
  Carries (AtMost count) related (action.runFrom first) (action.runFrom second)

section

variable {first second : Store Workspace}

theorem Alongside.symm (alike : Alongside count mode id like first second) :
    Alongside count mode id (fun a b => like b a) second first :=
  ⟨Accord.inStep.alike_symm alike.heaps, Twins.symm alike.worlds⟩

/-- The letters may be less alike. -/
theorem Alongside.mono (alike : Alongside count mode id like first second)
    (weaker : ∀ a b, like a b → later a b) : Alongside count mode id later first second :=
  have twin : Twins count id like first.world second.world := alike.worlds
  ⟨alike.heaps, { twin with like := weaker _ _ twin.like }⟩

/-- The letter is looked at for what is the same in both states, or for its layout. -/
theorem carries_letter {related : Store Workspace → Store Workspace → Prop}
    {next : Letter → Work α} (alike : Alongside count mode id like first second)
    (each : ∀ a b : Letter, a.layout = {} → b.layout = {} → a.face = b.face →
      Carries (AtMost count) related ((next a).runFrom first) ((next b).runFrom second)) :
    CarriesFew count related (letter id >>= next) first second := by
  have twin : Twins count id like first.world second.world := alike.worlds
  unfold CarriesFew
  rw [M.runFrom_bind, runFrom_letter, M.runFrom_bind, runFrom_letter]
  exact each _ _ twin.layout twin.layoutToo twin.face

end

/-! ## Rendering the parts -/

theorem abreast_nameOf (other : Nat) : (twins count mode id like).Abreast (nameOf other) := by
  unfold nameOf
  refine abreast_letter _ (fun a b face => ?_) fun found => .pure _
  have path : a.path = b.path := congrArg Letter.Face.path face
  rw [path]

/-- The compiled parts are the same in both states. -/
theorem abreast_partOf {source : String} (name : String)
    (isSource : source = ({} : Layout).contentSource ∨ source = ({} : Layout).stylesSource) :
    (twins count mode id like).Abreast (partOf id source name) := by
  unfold partOf Work.source
  refine .bind (abreast_letter _ (fun a b face => ?_) fun found => ?_) fun text => .pure _
  · have same : a.package.readText source = b.package.readText source := by
      rcases isSource with rfl | rfl
      · exact congrArg Letter.Face.contentSource face
      · exact congrArg Letter.Face.stylesSource face
    rw [same]
  · exact .bind (.liftExcept _) fun text => .pure _

/-- How a letter keeps a part: it has the same face then, and letters are alike in this way. -/
structure KeepsPart (keep : Part → Letter → Letter) (like later : Letter → Letter → Prop) :
    Prop where
  layout : ∀ part letter, (keep part letter).layout = letter.layout
  face : ∀ part letter, (keep part letter).face = letter.face
  becomes : ∀ part a b, like a b → later (keep part a) (keep part b)
  stays : ∀ part a b, later a b → later (keep part a) (keep part b)

section

variable {occasion : Occasion} {host : Host Workspace} {first second : Store Workspace}

/-- A part is rendered in step. -/
theorem carries_renderPart {keep : Part → Letter → Letter}
    (hosted : ∀ subject name given,
      (twins count mode id later).Abreast (host subject name given))
    (keeps : KeepsPart keep like later) (bound : List (String × Value)) (part : Part)
    (alike : Alongside count mode id like first second) :
    CarriesFew count (Alongside count mode id later) (renderPart host bound keep id part) first
      second := by
  have sameFace (part : Part) (a b : Letter) (same : a.face = b.face) :
      (keep part a).face = (keep part b).face := by
    rw [keeps.face, keeps.face, same]
  have twin : Twins count id like first.world second.world := alike.worlds
  unfold CarriesFew renderPart
  rw [M.runFrom_bind, runFrom_change, M.runFrom_bind, runFrom_change]
  refine Pairing.Abreast.carries ?_
    ⟨alike.heaps, twin.modify_self (keeps.layout part) (sameFace part) (keeps.becomes part)⟩
  refine (Pairing.Abreast.process hosted bound part).bind fun rendered => ?_
  exact (abreast_change id (keeps.layout _) (sameFace _) (keeps.stays _)).bind fun _ => .pure _

/-- When the letter gets ready in both states, what comes before the styles is the same. -/
theorem carries_prepare
    (ready : CarriesFew count (Alongside count mode id like) (makeReady id) first second) :
    CarriesFew count (Alongside count mode id like) (prepare id occasion) first second := by
  unfold prepare
  refine ready.bind (fun _ => begins_of_keeps ?_) fun _ after last alike =>
    carries_letter alike fun a b usual alsoUsual _ => ?_
  · refine (leads_letter id).bind fun found => (leads_bindings id occasion).bind fun bound => ?_
    refine (leads_nameOf id).bind fun name => (Leads.lift _).seq ?_
    exact (leads_partOf id _ _).bind fun part => Leads.pure _
  dsimp only
  rw [usual, alsoUsual]
  refine Pairing.Abreast.carries ?_ alike
  refine (abreast_bindings id occasion).bind fun bound => (abreast_nameOf id).bind fun name => ?_
  refine .bind (.lift (Accord.inStep.steady_report _ _ _)) fun _ => ?_
  exact (abreast_partOf _ (.inr rfl)).bind fun part => .pure _

/-- What a letter holds of a rendering. -/
def parts (letter : Letter) : Option Part × Option Part := (letter.styles, letter.content)

/-- The first letter has no rendered content. -/
def Bodiless (a _ : Letter) : Prop := a.content.bind (·.rendered) = none

/-- The styles are the same, and the first letter has no rendered content. -/
def Styled (a b : Letter) : Prop := a.styles = b.styles ∧ Bodiless a b

theorem bodied_styled : Bodied Styled where
  pictures _ _ _ _ like := like
  enclosures _ _ _ _ like := like
  content _ _ like := .inl like.2

/-- The letters hold the same parts. -/
def Parted (a b : Letter) : Prop := parts a = parts b

theorem bodied_parted : Bodied Parted where
  pictures _ _ _ _ same := same
  enclosures _ _ _ _ same := same
  content _ _ same := .inr (Prod.mk.inj same).2

/-- While a part is rendered, no letter is gone. -/
theorem keeps_renderPart {keep : Part → Letter → Letter} (bound : List (String × Value))
    (part : Part) :
    Leads (keeping 0) (renderPart (hostWithin enclosureLimit) bound keep id part) :=
  leads_renderPart (keepsAll_hostWithin enclosureLimit 0)
    (fun _ => keeps_change_later (Nat.zero_le _) _) bound part

/-- The styles are rendered in step when the first state has no content. -/
theorem carries_renderStyles
    (ready : CarriesFew count (Alongside count mode id Bodiless) (makeReady id) first second) :
    CarriesFew count (Alongside count mode id Styled)
      (renderStyles (hostWithin enclosureLimit) id occasion) first second := by
  have keeps : KeepsPart Letter.withStyles Bodiless Styled :=
    ⟨fun _ _ => rfl, fun _ _ => rfl, fun _ _ _ bodiless => ⟨rfl, bodiless⟩,
      fun _ _ _ both => ⟨rfl, both.2⟩⟩
  have compiles : Leads (keeping 0) (letter id >>= fun found =>
      partOf id found.layout.contentSource found.layout.contentPart) :=
    (leads_letter id).bind fun found => leads_partOf id _ _
  unfold renderStyles
  refine (carries_prepare ready).bind (fun prepared => begins_of_keeps ?_)
    fun prepared after last alike => ?_
  · refine (keeps_renderPart prepared.1 prepared.2).bind fun styles => ?_
    exact (leads_letter id).bind fun found => (leads_partOf id _ _).bind fun part => Leads.pure _
  have styled := carries_renderPart (abreast_hostWithin bodied_styled enclosureLimit) keeps
    prepared.1 prepared.2 alike
  refine Carries.bind styled (fun styles => begins_of_keeps ?_) fun styles after last alike => ?_
  · exact (leads_letter id).bind fun found => (leads_partOf id _ _).bind fun part => Leads.pure _
  refine carries_letter alike fun a b usual alsoUsual _ => ?_
  dsimp only
  rw [usual, alsoUsual]
  exact Pairing.Abreast.carries ((abreast_partOf _ (.inl rfl)).bind fun part => .pure _) alike

/-- The content is rendered in step. -/
theorem carries_renderContent (begun : Begun)
    (alike : Alongside count mode id (fun a b => a.styles = b.styles) first second) :
    CarriesFew count (Alongside count mode id Parted)
      (renderPart (hostWithin enclosureLimit) begun.bound Letter.withContent id begun.content)
      first second := by
  have becomes (part : Part) (a b : Letter) (styles : a.styles = b.styles) :
      Parted (a.withContent part) (b.withContent part) := by
    change (a.styles, some part) = (b.styles, some part)
    rw [styles]
  have keeps : KeepsPart Letter.withContent (fun a b => a.styles = b.styles) Parted :=
    ⟨fun _ _ => rfl, fun _ _ => rfl, becomes,
      fun part a b both => becomes part a b (Prod.mk.inj both).1⟩
  exact carries_renderPart (abreast_hostWithin bodied_parted enclosureLimit) keeps begun.bound
    begun.content alike

end

/-! ## Adding what was registered -/

/-- Styles are added in step. -/
theorem steady_mergeStyles (part : Part) (sources : List Part.StyleSource) :
    (Accord.inStep mode).Steady (part.mergeStyles sources) := by
  unfold Part.mergeStyles
  split
  · exact Accord.inStep.steady_of_fails (.throw _)
  · refine (Accord.inStep.steady_liftExcept _).bind fun root => ?_
    have lawful := Accord.inStep.lawful mode
    have steady {action : Local (List Xml.Document)}
        (obeys : Obeys lawful.discipline action) : (Accord.inStep mode).Steady action := obeys.obeyed
    refine .bind (steady (.of_filterMapM fun source => ?_)) fun documents => ?_
    · split
      · exact ⟨(Accord.inStep.steady_report _ _ _).bind fun _ => Accord.inStep.steady_pure _⟩
      · exact ⟨(Accord.inStep.steady_liftExcept _).bind fun _ => Accord.inStep.steady_pure _⟩
    · exact (Accord.inStep.steady_report _ _ _).bind fun _ => Accord.inStep.steady_pure _

/-- What letters have to share with the letter that they are enclosed in. -/
theorem sharedStyles_eq {first second : Workspace} (twin : Twins count id Parted first second) :
    sharedStyles first id = sharedStyles second id := by
  have enclosures : (first.letter id).enclosures = (second.letter id).enclosures :=
    congrArg Letter.Face.enclosures twin.face
  unfold sharedStyles
  rw [enclosures]
  refine List.map_congr_left fun enclosed _ => ?_
  obtain ⟨key, enclosure⟩ := enclosed
  cases enclosure with
  | other shown => rfl
  | letter other =>
    have shown := congrArg (fun face : Letter.Face => "<" ++ face.layout.label ++ " "
      ++ face.path.toString ++ ">") (twin.face_eq other)
    have styles : (first.letter other).styles = (second.letter other).styles := by
      by_cases here : other = id
      · rw [here]
        exact (Prod.mk.inj twin.like).1
      · rw [twin.others other here]
    change Part.StyleSource.mk _ _ = Part.StyleSource.mk _ _
    rw [styles]
    exact congrArg (Part.StyleSource.mk · _) shown

/-- The styles of what is enclosed are added in step. -/
theorem abreast_addEnclosed : (twins count mode id Parted).Abreast (addEnclosed id) := by
  have keeps (part : Part) : Leads (keeping 0) (Work.change id (Letter.withStyles part)) :=
    keeps_change_later (Nat.zero_le _) _
  have merged : (twins count mode id Parted).Abreast (mergeEnclosures id) := by
    refine .of_carries (begins_of_keeps (leads_mergeEnclosures keeps)) fun {first second} alike => ?_
    have twin : Twins count id Parted first.world second.world := alike.worlds
    have styles : (first.world.letter id).styles = (second.world.letter id).styles :=
      (Prod.mk.inj twin.like).1
    unfold mergeEnclosures
    rw [M.runFrom_bind, runFrom_workspace, M.runFrom_bind, runFrom_workspace]
    dsimp only
    rw [styles, sharedStyles_eq twin]
    refine Pairing.Abreast.carries ?_ alike
    split
    · exact .pure _
    · refine .bind (.lift (steady_mergeStyles _ _)) fun merged => ?_
      refine abreast_change id (fun _ => rfl) (fun _ _ face => face) fun a b both => ?_
      change (some merged, a.content) = (some merged, b.content)
      rw [(Prod.mk.inj both).2]
  unfold addEnclosed
  refine abreast_letter _ (fun a b face => ?_) fun found => abreast_ite (.pure _) merged
  have enclosures : a.enclosures = b.enclosures := congrArg Letter.Face.enclosures face
  rw [enclosures]

/-- The letter is there in both stores, and holds the same parts. -/
structure SameParts (id : Nat) (first second : Store Workspace) : Prop where
  inside : id < first.world.letters.size
  insideToo : id < second.world.letters.size
  parts : parts (first.world.letter id) = parts (second.world.letter id)

/-- Pictures are added in both states or in none. The parts stay as they are. -/
theorem carries_addPictures {first second : Store Workspace}
    (alike : Alongside count mode id Parted first second) :
    CarriesFew count (SameParts id) (addPictures id) first second := by
  have twin : Twins count id Parted first.world second.world := alike.worlds
  have still : ShowsParts parts := ⟨fun _ => rfl, fun _ _ => rfl, fun _ _ => rfl, fun _ _ => rfl⟩
  have shown : Leads (showing id parts) (addPictures id) := leads_addPictures (showing_fills still)
  have holding : Holding id first.world.files (first.world.letter id).package {} first.world :=
    ⟨rfl, twin.inside, congrArg (Prod.mk _) twin.layout⟩
  have holdingToo : Holding id first.world.files (second.world.letter id).package {}
      second.world :=
    ⟨twin.files.symm, twin.insideToo, congrArg (Prod.mk _) twin.layoutToo⟩
  have pictures : (first.world.letter id).pictures = (second.world.letter id).pictures :=
    congrArg Letter.Face.pictures twin.face
  have manifest : (first.world.letter id).package.has ({} : Layout).manifestPart
      = (second.world.letter id).package.has ({} : Layout).manifestPart :=
    congrArg Letter.Face.hasManifest twin.face
  have reads : (first.world.letter id).package.readsManifest
      = (second.world.letter id).package.readsManifest :=
    congrArg Letter.Face.readsManifest twin.face
  intro value after ran _
  have can := (addPictures_eq_ok_iff holding).mp ⟨after, ran⟩
  rw [pictures] at can
  obtain ⟨last, followed⟩ := (addPictures_eq_ok_iff holdingToo).mpr (can.imp_right fun can =>
    ⟨can.readable, fun has => reads ▸ can.lists (manifest.trans has)⟩)
  have kept := shown first twin.inside
  have keptToo := shown second twin.insideToo
  rw [ran] at kept
  rw [followed] at keptToo
  exact ⟨last, followed, kept.1, keptToo.1, kept.2.trans (twin.like.trans keptToo.2.symm)⟩

/-! ## Whole renderings -/

/-- What is done when the styles of a letter are rendered. -/
def afterStyles (id : Nat) (begun : Begun) : Work Unit := do
  let _ ← renderPart (hostWithin enclosureLimit) begun.bound Letter.withContent id begun.content
  addRegistered id

theorem runFrom_fill (occasion : Occasion) (store : Store Workspace) :
    (fill (hostWithin enclosureLimit) id occasion).runFrom store
      = (renderStyles (hostWithin enclosureLimit) id occasion >>= afterStyles id).runFrom store := by
  unfold fill renderParts
  rw [M.runFrom_bind, M.runFrom_bind, M.runFrom_bind]
  rcases (renderStyles (hostWithin enclosureLimit) id occasion).runFrom store
    with ⟨fault | begun, middle⟩
  · rfl
  · unfold afterStyles
    dsimp only
    rw [M.runFrom_bind, M.runFrom_bind]
    rcases (renderPart (hostWithin enclosureLimit) begun.bound Letter.withContent id
      begun.content).runFrom middle with ⟨fault | content, last⟩
    · rfl
    · rfl

theorem keeps_afterStyles (begun : Begun) : Leads (keeping 0) (afterStyles id begun) := by
  have renders : Renders (keeping 0) id := keeping_renders (Nat.zero_le _)
  exact (keeps_renderPart begun.bound begun.content).seq
    (leads_addRegistered renders.toFills renders.styles)

section

variable {occasion : Occasion} {store after : Store Workspace}

/-- A letter is rendered when its styles are, and all that comes after them is done. -/
theorem process_eq_ok_iff :
    (process id occasion).runFrom store = (.ok (), after) ↔
      ∃ begun middle last,
        (renderStyles (hostWithin enclosureLimit) id occasion).runFrom store
          = (.ok begun, middle) ∧
        (afterStyles id begun).runFrom middle = (.ok (), last) ∧
        after = { last with world := last.world.modify id Letter.bare } := by
  unfold process
  rw [processWith_eq]
  constructor
  · intro ran
    rcases filled : (fill (hostWithin enclosureLimit) id occasion).runFrom store
      with ⟨fault | _, last⟩
    · rw [filled] at ran
      cases ran
    · rw [filled] at ran
      cases ran
      rw [runFrom_fill] at filled
      obtain ⟨begun, middle, styled, filled⟩ := M.runFrom_bind_eq_ok.mp filled
      exact ⟨begun, middle, last, styled, filled, rfl⟩
  · rintro ⟨begun, middle, last, styled, filled, rfl⟩
    have ran := M.runFrom_bind_eq_ok.mpr ⟨begun, middle, styled, filled⟩
    rw [← runFrom_fill] at ran
    rw [ran]

/-- However a rendering ends, there are no fewer letters than when the styles were rendered. -/
theorem size_le_of_renderStyles {begun : Begun} {middle : Store Workspace}
    (styled : (renderStyles (hostWithin enclosureLimit) id occasion).runFrom store
      = (.ok begun, middle)) :
    middle.world.letters.size
      ≤ ((process id occasion).runFrom store).2.world.letters.size := by
  have keeps : Leads (keeping 0) (afterStyles id begun) := keeps_afterStyles begun
  have grown := (keeps middle (Nat.zero_le _)).grows
  unfold process
  rw [processWith_eq, runFrom_fill, M.runFrom_bind, styled]
  dsimp only
  rw [size_modify]
  exact grown

end

section

variable {occasion : Occasion} {first second : Store Workspace}

/-- What comes after the styles is done in step, whatever content there was. -/
theorem carries_afterStyles (begun : Begun)
    (alike : Alongside count mode id (fun a b => a.styles = b.styles) first second) :
    CarriesFew count (SameParts id) (afterStyles id begun) first second := by
  have adds : Leads (keeping 0) (addPictures id) :=
    leads_addPictures (keeping_renders (Nat.zero_le _)).toFills
  have keeps (part : Part) : Leads (keeping 0) (Work.change id (Letter.withStyles part)) :=
    keeps_change_later (Nat.zero_le _) _
  unfold CarriesFew afterStyles addRegistered
  refine (carries_renderContent begun alike).bind
    (fun _ => begins_of_keeps ((leads_addEnclosed keeps).seq adds)) fun _ after last alike => ?_
  refine Carries.bind (abreast_addEnclosed.carries alike) (fun _ => begins_of_keeps adds)
    fun _ after last alike => ?_
  exact carries_addPictures alike

/-- Forgetting what is registered leaves the parts. -/
theorem SameParts.bare (same : SameParts id first second) :
    SameParts id { first with world := first.world.modify id Letter.bare }
      { second with world := second.world.modify id Letter.bare } := by
  refine ⟨Nat.lt_of_lt_of_eq same.inside (size_modify _ _ _).symm,
    Nat.lt_of_lt_of_eq same.insideToo (size_modify _ _ _).symm, ?_⟩
  rw [letter_modify_self same.inside, letter_modify_self same.insideToo]
  exact same.parts

variable
  (ready : CarriesFew count (Alongside count mode id Bodiless) (makeReady id) first second)

include ready

/-- A letter without content that gets ready is rendered in step, to the same parts. -/
theorem carries_process :
    CarriesFew count (SameParts id) (process id occasion) first second := by
  intro value after ran few
  obtain ⟨begun, middle, early, styled, filled, rfl⟩ := process_eq_ok_iff.mp ran
  have fewEarly : early.world.letters.size ≤ count := Nat.le_trans
    (Nat.le_of_eq (size_modify _ _ _).symm) few
  have fewMiddle : middle.world.letters.size ≤ count :=
    begins_of_keeps (keeps_afterStyles begun) middle () early filled fewEarly
  obtain ⟨other, alsoStyled, alike⟩ := carries_renderStyles ready begun middle styled fewMiddle
  obtain ⟨last, alsoFilled, same⟩ :=
    carries_afterStyles begun (alike.mono fun _ _ both => both.1) () early filled fewEarly
  exact ⟨_, process_eq_ok_iff.mpr ⟨begun, other, last, alsoStyled, alsoFilled, rfl⟩, same.bare⟩

/-- Conversely, where the second letter is rendered, the first one is, if its styles are: from then on
both hold the same. -/
theorem carries_process_back {begun : Begun} {middle : Store Workspace}
    (styled : (renderStyles (hostWithin enclosureLimit) id occasion).runFrom first
      = (.ok begun, middle)) (few : AtMost count middle.world) :
    CarriesFew count (SameParts id) (process id occasion) second first := by
  obtain ⟨other, alsoStyled, alike⟩ := carries_renderStyles ready begun middle styled few
  intro value after ran few
  obtain ⟨again, _, early, started, filled, rfl⟩ := process_eq_ok_iff.mp ran
  cases alsoStyled.symm.trans started
  have fewEarly : early.world.letters.size ≤ count := Nat.le_trans
    (Nat.le_of_eq (size_modify _ _ _).symm) few
  have back : Alongside count mode id (fun a b => a.styles = b.styles) other middle :=
    alike.symm.mono fun _ _ both => both.1.symm
  obtain ⟨last, alsoFilled, same⟩ := carries_afterStyles begun back () early filled fewEarly
  exact ⟨_, process_eq_ok_iff.mpr ⟨begun, middle, last, styled, alsoFilled, rfl⟩, same.bare⟩

end

end Work

end FormLetter
