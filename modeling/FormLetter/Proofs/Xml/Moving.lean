import FormLetter.Xml.Graft

/-!
# Elements that are moved

An element that is moved into another document means there what it meant before: its names are in
the same namespaces, whatever qualifiers they have, and all else is as it was.
-/

namespace FormLetter.Xml

/-! ## Trees without qualifiers -/

/-- A name without its qualifier. -/
def Name.unqualified (name : Name) : Name := { name with qualifier := none }

/-- An attribute without the qualifier of its name. -/
def Attribute.unqualified (given : Attribute) : Attribute :=
  { given with name := given.name.unqualified }

/-- A tag without qualifiers, and without the declarations that bind them. -/
def Tag.unqualified (tag : Tag) : Tag :=
  ⟨tag.name.unqualified, [], tag.attributes.map Attribute.unqualified⟩

mutual

/-- What a node means: the node without qualifiers. -/
def Node.unqualified : Node → Node
  | .element tag content => .element tag.unqualified (unqualifiedAll content)
  | .text value => .text value
  | .comment value => .comment value
  | .instruction target value => .instruction target value

/-- What several nodes mean. -/
def unqualifiedAll : List Node → List Node
  | [] => []
  | first :: rest => first.unqualified :: unqualifiedAll rest

end

theorem unqualifiedAll_eq_map (content : List Node) :
    unqualifiedAll content = content.map Node.unqualified := by
  induction content with
  | nil => rfl
  | cons first rest ih => rw [unqualifiedAll, ih, List.map_cons]

theorem unqualifiedAll_append (left right : List Node) :
    unqualifiedAll (left ++ right) = unqualifiedAll left ++ unqualifiedAll right := by
  simp only [unqualifiedAll_eq_map, List.map_append]

@[simp]
theorem Name.is_unqualified (name : Name) (uri base : String) :
    name.unqualified.is uri base = name.is uri base := rfl

/-- Attributes are found by what their names mean. -/
theorem Tag.attribute?_unqualified (tag : Tag) (uri base : String) :
    tag.unqualified.attribute? uri base = tag.attribute? uri base := by
  unfold Tag.attribute? Tag.unqualified
  dsimp only
  rw [List.find?_map, Option.map_map]
  rfl

/-! ## Moves -/

/-- Where some declarations were added before, a move gives a value and adds others, and something
holds of both. -/
def Moves {α : Type} (move : Move α) (added : List Declaration)
    (holds : α → List Declaration → Prop) : Prop :=
  ∀ made, holds ((move.run added).run made).run.1.1 ((move.run added).run made).run.1.2

namespace Moves

variable {α β : Type} {move : Move α} {added : List Declaration}
  {holds : α → List Declaration → Prop}

theorem pure {value : α} (held : holds value added) : Moves (pure value) added holds :=
  fun _ => held

theorem bind {next : α → Move β} {later : β → List Declaration → Prop}
    (first : Moves move added holds)
    (others : ∀ value more, holds value more → Moves (next value) more later) :
    Moves (move >>= next) added later :=
  fun made => others _ _ (first made) _

theorem get : Moves get added fun found more => found = added ∧ more = added :=
  fun _ => ⟨rfl, rfl⟩

theorem modify (change : List Declaration → List Declaration) :
    Moves (modify change) added fun _ more => more = change added :=
  fun _ => rfl

/-- What is counted for a document adds no declaration. -/
theorem lift (action : StateM Nat α) :
    Moves (liftM action) added fun _ more => more = added :=
  fun _ => rfl

end Moves

/-- Whatever was added before, a move gives a value that is seen in a given way. -/
def Shows {α β : Type} (move : Move α) (view : α → β) (seen : β) : Prop :=
  ∀ added, Moves move added fun value _ => view value = seen

namespace Shows

variable {α β γ : Type} {move : Move α} {view : α → β} {seen : β}

theorem pure {value : α} (same : view value = seen) : Shows (pure value) view seen :=
  fun _ => .pure same

theorem bind {next : α → Move γ} {δ : Type} {later : γ → δ} {last : δ} (first : Shows move view seen)
    (others : ∀ value, view value = seen → Shows (next value) later last) :
    Shows (move >>= next) later last :=
  fun added => (first added).bind fun value more same => others value same more

theorem mapM {items : List α} {change : α → Move γ} {view : γ → β} {seen : α → β}
    (each : ∀ item, Shows (change item) view (seen item)) :
    Shows (items.mapM change) (List.map view) (items.map seen) := by
  induction items with
  | nil =>
    rw [List.mapM_nil]
    exact pure rfl
  | cons first rest ih =>
    rw [List.mapM_cons]
    refine (each first).bind fun value same => ih.bind fun values others => pure ?_
    rw [List.map_cons, List.map_cons, same, others]

end Shows

/-! ## What is moved -/

theorem unqualified_renameElement (renames : Renaming) (name : Name) :
    (renameElement renames name).unqualified = name.unqualified := by
  unfold renameElement
  split
  · rfl
  · rfl

theorem shows_renameAttribute (renames : Renaming) (outermost : List Declaration) (name : Name) :
    Shows (renameAttribute renames outermost name) Name.unqualified name.unqualified := by
  intro added
  unfold renameAttribute
  split
  · rename_i uri _ _
    refine Moves.get.bind fun found more _ => ?_
    dsimp only
    split
    · exact .pure rfl
    · have named (qualifier : String) (declared : List Declaration) : Moves (do
          modify (· ++ [⟨some qualifier, uri⟩])
          return { name with qualifier := some qualifier }) declared
          fun value _ => value.unqualified = name.unqualified :=
        (Moves.modify _).bind fun _ _ _ => .pure rfl
      split
      · exact named _ _
      · exact (Moves.lift _).bind fun qualifier declared _ => named qualifier declared
  · exact .pure rfl
  · exact .pure rfl

mutual

theorem shows_adoptNode (outermost scope : List Declaration) (renames : Renaming) (node : Node) :
    Shows (adoptNode outermost scope renames node) Node.unqualified node.unqualified := by
  cases node with
  | element tag content =>
    unfold adoptNode
    dsimp only
    have attributes : Shows (tag.attributes.mapM fun given => do
        return { given with
          name := ← renameAttribute ((settle scope tag).2 ++ renames) outermost given.name })
        (List.map Attribute.unqualified) (tag.attributes.map Attribute.unqualified) :=
      .mapM fun given => (shows_renameAttribute _ outermost given.name).bind fun name same =>
        .pure (congrArg (Attribute.mk · given.value) same)
    refine attributes.bind fun given isGiven => ?_
    refine (shows_adoptNodes outermost ((settle scope tag).1 ++ scope)
      ((settle scope tag).2 ++ renames) content).bind fun nodes same => .pure ?_
    rw [Node.unqualified, Node.unqualified, same]
    unfold Tag.unqualified
    rw [unqualified_renameElement, isGiven]
  | _ => exact .pure rfl

theorem shows_adoptNodes (outermost scope : List Declaration) (renames : Renaming)
    (content : List Node) :
    Shows (adoptNodes outermost scope renames content) unqualifiedAll (unqualifiedAll content) := by
  cases content with
  | nil => exact .pure rfl
  | cons first rest =>
    unfold adoptNodes
    refine (shows_adoptNode outermost scope renames first).bind fun node same => ?_
    refine (shows_adoptNodes outermost scope renames rest).bind fun nodes others => .pure ?_
    rw [unqualifiedAll, unqualifiedAll, same, others]

end

/-- An element that is adopted means what it meant before. -/
theorem unqualified_adopt (scope : List Declaration) (tag : Tag) (content : List Node) (made : Nat) :
    ((adopt scope (.element tag content)).run made).run.1.unqualified
      = (Node.element tag content).unqualified := by
  have moved := shows_adoptNode ((settle scope tag).1 ++ scope) scope [] (.element tag content) [] made
  unfold adopt
  dsimp only
  rw [StateT.run_bind]
  revert moved
  generalize ((adoptNode ((settle scope tag).1 ++ scope) scope [] (.element tag content)).run
    []).run made = found
  intro moved
  obtain ⟨⟨node, added⟩, made⟩ := found
  cases node with
  | element tag content => exact moved
  | _ => cases moved

/-- Making all declarations does not change what an element means. -/
theorem unqualified_selfContained (tag : Tag) (content : List Node) :
    (selfContained tag content).unqualified = (Node.element tag content).unqualified := by
  unfold selfContained Node.unqualified Tag.unqualified
  rfl

end FormLetter.Xml
