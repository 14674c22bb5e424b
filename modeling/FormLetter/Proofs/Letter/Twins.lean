import FormLetter.Proofs.Letter.Embedding
import FormLetter.Proofs.Script.InStep

/-!
# A letter in two states

A letter is rendered in two workspaces that differ in nothing but this letter, and there only in what
template code does not get to see: in its package, but for the compiled parts, and in what it holds
of an earlier rendering. The one who sees it all the same is who asks for the body; in the first
workspace there may be none. Whatever code calls keeps step in the two, as long as it opens no other
letter: where it succeeds in the first one, it does in the second one, and gives the same.
-/

namespace FormLetter

open FormLetter.Script

/-- What there is to see of a letter, and what its rendering goes by. -/
structure Letter.Face where
  path : Path
  layout : Layout
  pictures : List (String × Path)
  enclosures : List (String × Enclosure)
  isCompiled : Bool
  contentSource : Except Fault String
  stylesSource : Except Fault String
  hasManifest : Bool
  readsManifest : Bool

/-- The face of a letter, which has the usual layout. -/
def Letter.face (letter : Letter) : Letter.Face where
  path := letter.path
  layout := letter.layout
  pictures := letter.pictures
  enclosures := letter.enclosures
  isCompiled := letter.isCompiled
  contentSource := letter.package.readText ({} : Layout).contentSource
  stylesSource := letter.package.readText ({} : Layout).stylesSource
  hasManifest := letter.package.has ({} : Layout).manifestPart
  readsManifest := letter.package.readsManifest

namespace Workspace

/-- Two workspaces that differ in one letter only. -/
structure SameBut (id : Nat) (first second : Workspace) : Prop where
  files : first.files = second.files
  size : first.letters.size = second.letters.size
  others : ∀ other ≠ id, first.letter other = second.letter other

/-- Two workspaces of at least so many letters that differ in one letter of the usual layout. It has
the same face in both, and it is alike otherwise. -/
structure Twins (count id : Nat) (like : Letter → Letter → Prop) (first second : Workspace) : Prop
    extends SameBut id first second where
  enough : count ≤ first.letters.size
  inside : id < first.letters.size
  layout : (first.letter id).layout = {}
  face : (first.letter id).face = (second.letter id).face
  like : like (first.letter id) (second.letter id)

namespace SameBut

variable {id : Nat} {first second : Workspace}

theorem symm (same : SameBut id first second) : SameBut id second first :=
  ⟨same.files.symm, same.size.symm, fun other differs => (same.others other differs).symm⟩

/-- A change of the letter itself, in both workspaces or in one of them. -/
theorem modify_self (same : SameBut id first second) (change another : Letter → Letter) :
    SameBut id (first.modify id change) (second.modify id another) where
  files := same.files
  size := by rw [size_modify, size_modify, same.size]
  others other differs := by
    rw [letter_modify_of_ne differs, letter_modify_of_ne differs, same.others other differs]

/-- The same change of another letter. -/
theorem modify_of_ne (same : SameBut id first second) {other : Nat} (differs : other ≠ id)
    (change : Letter → Letter) :
    SameBut id (first.modify other change) (second.modify other change) where
  files := same.files
  size := by rw [size_modify, size_modify, same.size]
  others another different := by
    by_cases here : another = other
    · rw [here]
      by_cases inside : other < first.letters.size
      · rw [letter_modify_self inside,
          letter_modify_self (Nat.lt_of_lt_of_eq inside same.size), same.others other differs]
      · have outside : second.letters.size ≤ other := by
          rw [← same.size]
          exact Nat.le_of_not_lt inside
        rw [letter_of_size_le, letter_of_size_le]
        · rw [size_modify]
          exact outside
        · rw [size_modify]
          exact Nat.le_of_not_lt inside
    · rw [letter_modify_of_ne here, letter_modify_of_ne here, same.others another different]

end SameBut

namespace Twins

variable {count id : Nat} {like later : Letter → Letter → Prop} {first second : Workspace}

theorem insideToo (twins : Twins count id like first second) : id < second.letters.size :=
  Nat.lt_of_lt_of_eq twins.inside twins.size

theorem layoutToo (twins : Twins count id like first second) : (second.letter id).layout = {} :=
  (congrArg Letter.Face.layout twins.face).symm.trans twins.layout

theorem symm (twins : Twins count id like first second) :
    Twins count id (fun a b => like b a) second first where
  toSameBut := twins.toSameBut.symm
  enough := Nat.le_trans twins.enough (Nat.le_of_eq twins.size)
  inside := twins.insideToo
  layout := twins.layoutToo
  face := twins.face.symm
  like := twins.like

/-- Every letter has the same face in both workspaces. -/
theorem face_eq (twins : Twins count id like first second) (other : Nat) :
    (first.letter other).face = (second.letter other).face := by
  by_cases here : other = id
  · rw [here]
    exact twins.face
  · rw [twins.others other here]

/-- A change of the letter itself. It may be more alike afterwards. -/
theorem modify_self (twins : Twins count id like first second) {change : Letter → Letter}
    (layout : ∀ a, (change a).layout = a.layout)
    (face : ∀ a b, a.face = b.face → (change a).face = (change b).face)
    (likes : ∀ a b, like a b → later (change a) (change b)) :
    Twins count id later (first.modify id change) (second.modify id change) where
  toSameBut := twins.toSameBut.modify_self change change
  enough := Nat.le_trans twins.enough (Nat.le_of_eq (size_modify _ _ _).symm)
  inside := Nat.lt_of_lt_of_eq twins.inside (size_modify _ _ _).symm
  layout := by rw [letter_modify_self twins.inside, layout, twins.layout]
  face := by
    rw [letter_modify_self twins.inside, letter_modify_self twins.insideToo]
    exact face _ _ twins.face
  like := by
    rw [letter_modify_self twins.inside, letter_modify_self twins.insideToo]
    exact likes _ _ twins.like

/-- A change of any letter. -/
theorem modify (twins : Twins count id like first second) (other : Nat) {change : Letter → Letter}
    (layout : ∀ a, (change a).layout = a.layout)
    (face : ∀ a b, a.face = b.face → (change a).face = (change b).face)
    (likes : ∀ a b, like a b → like (change a) (change b)) :
    Twins count id like (first.modify other change) (second.modify other change) := by
  by_cases here : other = id
  · rw [here]
    exact twins.modify_self layout face likes
  · have still (workspace : Workspace) :
        (workspace.modify other change).letter id = workspace.letter id :=
      letter_modify_of_ne (Ne.symm here) change
    refine ⟨twins.toSameBut.modify_of_ne here change,
      Nat.le_trans twins.enough (Nat.le_of_eq (size_modify _ _ _).symm),
      Nat.lt_of_lt_of_eq twins.inside (size_modify _ _ _).symm, ?_, ?_, ?_⟩
    all_goals
      simp only [still]
    · exact twins.layout
    · exact twins.face
    · exact twins.like

/-! ## What template code sees -/

theorem value_eq (twins : Twins count id like first second) (other : Nat) :
    (first.letter other).value other = (second.letter other).value other := by
  have layout := congrArg Letter.Face.layout (twins.face_eq other)
  change (first.letter other).layout = (second.letter other).layout at layout
  unfold Letter.value Letter.kind
  rw [layout]

theorem enclosureValue_eq (twins : Twins count id like first second) (enclosure : Enclosure) :
    first.enclosureValue enclosure = second.enclosureValue enclosure := by
  cases enclosure with
  | letter other => exact twins.value_eq other
  | other shown => rfl

theorem letterMember?_eq (twins : Twins count id like first second) (other : Nat) (name : String) :
    first.letterMember? other name = second.letterMember? other name := by
  have face := twins.face_eq other
  have layout : (first.letter other).layout = (second.letter other).layout :=
    congrArg Letter.Face.layout face
  have compiled : (first.letter other).isCompiled = (second.letter other).isCompiled :=
    congrArg Letter.Face.isCompiled face
  have pictures : (first.letter other).pictures = (second.letter other).pictures :=
    congrArg Letter.Face.pictures face
  have enclosures : (first.letter other).enclosures = (second.letter other).enclosures :=
    congrArg Letter.Face.enclosures face
  have values : first.enclosureValue = second.enclosureValue := funext twins.enclosureValue_eq
  unfold letterMember?
  simp only [layout, compiled, pictures, enclosures, values, twins.value_eq other]

/-- The two workspaces look the same. -/
theorem outlook_eq (twins : Twins count id like first second) :
    World.outlook first = World.outlook second := by
  have path (other : Nat) : (first.letter other).path = (second.letter other).path :=
    congrArg Letter.Face.path (twins.face_eq other)
  have shown (other : Nat) : (first.letter other).shown = (second.letter other).shown := by
    have layout : (first.letter other).layout = (second.letter other).layout :=
      congrArg Letter.Face.layout (twins.face_eq other)
    unfold Letter.shown
    rw [layout, path]
  have members : first.letterMember? = second.letterMember? :=
    funext fun other => funext fun name => twins.letterMember?_eq other name
  change Outlook.mk _ _ = Outlook.mk _ _
  simp only [path, shown, members]

end Twins

/-- A workspace of at most so many letters. -/
abbrev AtMost (count : Nat) (workspace : Workspace) : Prop := workspace.letters.size ≤ count

/-- Two runs in the same mode, in workspaces that differ in one letter. In the first one no letter is
opened. -/
def twins (count : Nat) (mode : Bool) (id : Nat) (like : Letter → Letter → Prop) :
    Pairing Workspace :=
  .inStep mode (Twins count id like) (AtMost count) Twins.outlook_eq

end Workspace

namespace Work

open Workspace

variable {α : Type} {count : Nat} {mode : Bool} {id : Nat} {like : Letter → Letter → Prop}

/-- Where no letter was opened in the end, none was in the beginning. -/
theorem begins_of_keeps {action : Work α} (keeps : Leads (keeping 0) action) :
    Begins (AtMost count) action := by
  intro store value after ran few
  have kept := keeps store (Nat.zero_le _)
  rw [ran] at kept
  exact Nat.le_trans kept.grows few

/-! ## Steps -/

/-- A letter is looked at for what is the same in both workspaces. -/
theorem abreast_letter {next : Letter → Work α} (other : Nat)
    (same : ∀ a b : Letter, a.face = b.face → next a = next b)
    (each : ∀ found, (twins count mode id like).Abreast (next found)) :
    (twins count mode id like).Abreast (letter other >>= next) := by
  refine .of_carries (fun store value after ran few => ?_) fun {first second} alike => ?_
  · rw [M.runFrom_bind, runFrom_letter] at ran
    exact (each _).begins _ _ _ ran few
  · have twin : Twins count id like first.world second.world := alike.worlds
    rw [M.runFrom_bind, runFrom_letter, M.runFrom_bind, runFrom_letter]
    dsimp only
    rw [same _ _ (twin.face_eq other)]
    exact (each _).carries alike

theorem abreast_files {next : Files → Work α}
    (each : ∀ found, (twins count mode id like).Abreast (next found)) :
    (twins count mode id like).Abreast (files >>= next) := by
  refine .of_carries (fun store value after ran few => ?_) fun {first second} alike => ?_
  · rw [M.runFrom_bind, runFrom_files] at ran
    exact (each _).begins _ _ _ ran few
  · have twin : Twins count id like first.world second.world := alike.worlds
    rw [M.runFrom_bind, runFrom_files, M.runFrom_bind, runFrom_files]
    dsimp only
    rw [twin.files]
    exact (each _).carries alike

theorem abreast_change (other : Nat) {change : Letter → Letter}
    (layout : ∀ a, (change a).layout = a.layout)
    (face : ∀ a b, a.face = b.face → (change a).face = (change b).face)
    (likes : ∀ a b, like a b → like (change a) (change b)) :
    (twins count mode id like).Abreast (Work.change other change) := by
  refine .of_carries (begins_of_keeps (keeps_change_later (Nat.zero_le _) _))
    fun {first second} alike value after ran _ => ?_
  have twin : Twins count id like first.world second.world := alike.worlds
  rw [runFrom_change] at ran ⊢
  cases ran
  exact ⟨_, rfl, alike.heaps, twin.modify other layout face likes⟩

theorem abreast_lift (action : Local α)
    [obeys : Obeys (Accord.inStep.lawful mode).discipline action] :
    (twins count mode id like).Abreast (liftM action : Work α) :=
  .lift obeys.obeyed

theorem abreast_ite {condition : Prop} [Decidable condition] {first second : Work α}
    (holds : (twins count mode id like).Abreast first)
    (fails : (twins count mode id like).Abreast second) :
    (twins count mode id like).Abreast (if condition then first else second) := by
  split
  · exact holds
  · exact fails

/-! ## What template code can call -/

theorem abreast_pathArgument (value : Value) :
    (twins count mode id like).Abreast (pathArgument value) := by
  have refused (other : Value) : (twins count mode id like).Abreast
      (liftM (kindOf other) >>= fun kind => liftM (kindTrouble (.notPath kind)) : Work Path) := by
    have fails {store after : Store Workspace} {path : Path}
        (ran : M.runFrom (liftM (kindOf other) >>= fun kind =>
          liftM (kindTrouble (.notPath kind)) : Work Path) store = (.ok path, after)) : False := by
      obtain ⟨kind, middle, -, ran⟩ := M.runFrom_bind_eq_ok.mp ran
      cases ran
    exact .of_carries (fun _ _ _ ran => (fails ran).elim) fun _ _ _ ran => (fails ran).elim
  unfold pathArgument
  split
  · exact .pure _
  · refine abreast_ite (abreast_letter _ (fun a b face => ?_) fun found => .pure _) (refused _)
    have path : a.path = b.path := congrArg Letter.Face.path face
    rw [path]
  · exact refused _

theorem abreast_enclosureOf (value : Value) :
    (twins count mode id like).Abreast (enclosureOf value) := by
  unfold enclosureOf
  split
  · refine abreast_ite (abreast_letter _ (fun a b face => ?_) fun found => .pure _) (.pure _)
    have path : a.path = b.path := congrArg Letter.Face.path face
    rw [path]
  · exact (abreast_lift _).bind fun shown => .pure _

theorem abreast_bindings (other : Nat) (occasion : Occasion) :
    (twins count mode id like).Abreast (bindings other occasion) := by
  have value (number : Nat) (a b : Letter) (face : a.face = b.face) :
      a.value number = b.value number := by
    have layout : a.layout = b.layout := congrArg Letter.Face.layout face
    unfold Letter.value Letter.kind
    rw [layout]
  unfold bindings
  refine abreast_letter _ (fun a b face => by rw [value other a b face]) fun template => ?_
  refine abreast_letter _ (fun a b face => by rw [value _ a b face]) fun master => ?_
  exact (abreast_lift _).bind fun surroundings => .pure _

/-- What opens a letter does not end with as few letters as there were. -/
theorem abreast_openAt_bind {layout : Layout} {path : Path} {next : Nat → Work α}
    (follows : ∀ opened, Leads (keeping 0) (next opened)) :
    (twins count mode id like).Abreast (openAt layout path >>= next) := by
  refine .of_carries (begins_of_keeps (leads_openAt_bind (keeping_admits _) fun opened _ => follows opened))
    fun {first second} alike value after ran few => ?_
  have twin : Twins count id like first.world second.world := alike.worlds
  obtain ⟨opened, begun, opens, ran⟩ := M.runFrom_bind_eq_ok.mp ran
  have grown : first.world.letters.size < begun.world.letters.size := by
    obtain ⟨-, package, -, now⟩ := openAt_eq_ok opens
    rw [now, Array.size_push]
    exact Nat.lt_succ_self _
  have kept := follows opened begun (Nat.zero_le _)
  rw [ran] at kept
  have enough : count ≤ first.world.letters.size := twin.enough
  have still : begun.world.letters.size ≤ after.world.letters.size := kept.grows
  have ends : after.world.letters.size ≤ count := few
  omega

theorem abreast_enclose {render : Renderer}
    (renders : ∀ id occasion, Leads (keeping 0) (render id occasion)) (around : Surroundings)
    (path data : Value) : (twins count mode id like).Abreast (enclose render around path data) := by
  unfold enclose
  refine abreast_letter _ (fun a b face => ?_) fun master => ?_
  · have layout : a.layout = b.layout := congrArg Letter.Face.layout face
    rw [layout]
  · refine (abreast_pathArgument path).bind fun file => abreast_openAt_bind fun opened => ?_
    exact leads_enclosed (keeping_admits _) (Nat.zero_le _) (renders opened) around path data

/-- Letters that are alike whatever is registered with them. In the first workspace a letter has the
same body as in the second one, or none. -/
structure Bodied (like : Letter → Letter → Prop) : Prop where
  pictures : ∀ a b pictures others, like a b →
    like { a with pictures } { b with pictures := others }
  enclosures : ∀ a b enclosures others, like a b →
    like { a with enclosures } { b with enclosures := others }
  content : ∀ a b, like a b → a.content.bind (·.rendered) = none ∨ a.content = b.content

section

variable (bodied : Bodied like)

include bodied

theorem abreast_addPicture (other : Nat) (path : Path) :
    (twins count mode id like).Abreast (addPicture other path) := by
  unfold addPicture
  refine abreast_files fun files => abreast_ite (.bind ?_ fun _ => .pure _) (.throw _)
  refine abreast_change other (fun _ => rfl) (fun a b face => ?_) fun a b => bodied.pictures a b _ _
  exact congrArg (fun face : Letter.Face =>
    { face with pictures := Keyed.put path.name path face.pictures }) face

theorem abreast_addEnclosure (other : Nat) (key : String) (enclosed : Value) :
    (twins count mode id like).Abreast (addEnclosure other key enclosed) := by
  unfold addEnclosure
  refine (abreast_enclosureOf enclosed).bind fun enclosure => ?_
  refine abreast_change other (fun _ => rfl) (fun a b face => ?_)
    fun a b => bodied.enclosures a b _ _
  exact congrArg (fun face : Letter.Face =>
    { face with enclosures := Keyed.put key enclosure face.enclosures }) face

theorem abreast_showPicture (other : Nat) (path width height name : Value) :
    (twins count mode id like).Abreast (showPicture other path width height name) := by
  unfold showPicture
  refine (abreast_pathArgument path).bind fun file => ?_
  refine (abreast_addPicture bodied other file).bind fun name => ?_
  refine abreast_letter _ (fun a b face => ?_) fun found => ?_
  · have layout : a.layout = b.layout := congrArg Letter.Face.layout face
    rw [layout]
  · refine (abreast_lift _).bind fun isNamed => (abreast_lift _).bind fun name => ?_
    refine (abreast_lift _).bind fun width => (abreast_lift _).bind fun height => .pure _

/-- A body that there is in the first workspace is the same in the second one. -/
theorem abreast_body (other : Nat) : (twins count mode id like).Abreast (body other) := by
  refine .of_carries (begins_of_keeps (leads_body other)) fun {first second} alike => ?_
  have twin : Twins count id like first.world second.world := alike.worlds
  have path : (first.world.letter other).path = (second.world.letter other).path :=
    congrArg Letter.Face.path (twin.face_eq other)
  have bodies : (first.world.letter other).content.bind (·.rendered) = none ∨
      (first.world.letter other).content = (second.world.letter other).content := by
    by_cases here : other = id
    · rw [here]
      exact bodied.content _ _ twin.like
    · exact .inr (congrArg Letter.content (twin.others other here))
  unfold body
  rw [M.runFrom_bind, runFrom_letter, M.runFrom_bind, runFrom_letter]
  dsimp only
  rcases bodies with none_ | same
  · rw [none_]
    intro value after ran
    cases ran
  · rw [same, path]
    refine Pairing.Abreast.carries ?_ alike
    split
    · exact .throw _
    · exact .bind (.liftExcept _) fun document => .pure _

/-- A picture is registered through a letter as through the surroundings of its template. -/
theorem abreast_addsPicture (other : Nat) (path : Value) :
    (twins count mode id like).Abreast (do
      return Value.ofString (← addPicture other (← pathArgument path))) :=
  (abreast_pathArgument path).bind fun file => (abreast_addPicture bodied other file).bind
    fun _ => .pure _

/-- A letter is enclosed through a letter as through the surroundings of its template. -/
theorem abreast_addsEnclosure (other : Nat) (key enclosed : Value) :
    (twins count mode id like).Abreast (do
      addEnclosure other (String.ofList (← textOf key)) enclosed
      return Value.none) :=
  (abreast_lift _).bind fun _ => (abreast_addEnclosure bodied other _ enclosed).bind
    fun _ => .pure _

theorem abreast_surroundingsMethod {render : Renderer}
    (renders : ∀ id occasion, Leads (keeping 0) (render id occasion)) (around : Surroundings)
    (name : String) (given : Given) :
    (twins count mode id like).Abreast (surroundingsMethod render around name given) := by
  unfold surroundingsMethod
  split
  · refine (abreast_lift _).bind fun bound => ?_
    split
    · exact abreast_addsPicture bodied _ _
    · exact .pure _
  · refine (abreast_lift _).bind fun bound => ?_
    split
    · exact abreast_addsEnclosure bodied _ _ _
    · exact .pure _
  · refine (abreast_lift _).bind fun bound => ?_
    split
    · exact abreast_showPicture bodied _ _ _ _ _
    · exact .pure _
  · refine (abreast_lift _).bind fun bound => ?_
    split
    · exact abreast_enclose renders around _ _
    · exact .pure _
  · refine .bind ((abreast_lift _).bind fun bound => .pure _) fun _ => ?_
    exact (abreast_bindings _ _).bind fun bound => abreast_lift _

theorem abreast_letterMethod (other : Nat) (name : String) (given : Given) :
    (twins count mode id like).Abreast (letterMethod other name given) := by
  unfold letterMethod
  split
  · refine (abreast_lift _).bind fun bound => ?_
    split
    · exact abreast_addsPicture bodied _ _
    · exact .pure _
  · refine (abreast_lift _).bind fun bound => ?_
    split
    · exact abreast_addsEnclosure bodied _ _ _
    · exact .pure _
  · refine .bind ((abreast_lift _).bind fun bound => .pure _) fun _ => ?_
    exact (abreast_body bodied other).bind fun text => .pure _

/-- Whatever is called keeps step. -/
theorem abreast_hostWithin (depth : Nat) (subject : Value) (name : String) (given : Given) :
    (twins count mode id like).Abreast (hostWithin depth subject name given) := by
  cases depth with
  | zero => exact abreast_lift _
  | succ depth =>
    have renders (id : Nat) (occasion : Occasion) :
        Leads (keeping 0) (processWith (hostWithin depth) id occasion) :=
      leads_processWith (keepsAll_hostWithin depth 0) (keeping_renders (Nat.zero_le _)) occasion
    unfold hostWithin
    split
    · refine (abreast_lift _).bind fun found => ?_
      cases found with
      | none => exact abreast_lift _
      | some fields => exact abreast_surroundingsMethod bodied renders _ name given
    · exact abreast_letterMethod bodied _ name given
    · exact abreast_lift _

end

end Work

end FormLetter
