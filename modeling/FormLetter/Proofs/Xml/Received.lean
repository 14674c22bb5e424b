import FormLetter.Proofs.Xml.Characters

/-!
# What is read is sound

A document that was read can be read again. The elements that are open while it is read are sound as
far as they were read, each where the declarations of those around it hold; and what was noticed so
far is what would be noticed if they were read again, but for errors of declarations that are gone.
-/

namespace FormLetter.Xml

/-! ## Distinct names -/

theorem length_eraseDups_le {α : Type} [BEq α] [LawfulBEq α] (items : List α) :
    items.eraseDups.length ≤ items.length := by
  cases items with
  | nil => exact Nat.zero_le _
  | cons first rest =>
    have shorter := List.length_filter_le (fun item => !item == first) rest
    have later := length_eraseDups_le (rest.filter fun item => !item == first)
    rw [List.eraseDups_cons, List.length_cons, List.length_cons]
    omega
termination_by items.length
decreasing_by
  rw [List.length_cons]
  omega

/-- Items are distinct when none of them is erased as a duplicate. -/
theorem nodup_of_length_eraseDups {α : Type} [BEq α] [LawfulBEq α] {items : List α}
    (same : items.eraseDups.length = items.length) : items.Nodup := by
  induction items with
  | nil => exact List.nodup_nil
  | cons first rest ih =>
    rw [List.eraseDups_cons, List.length_cons, List.length_cons, Nat.add_right_cancel_iff] at same
    have short := length_eraseDups_le (rest.filter fun item => !item == first)
    have shorter := List.length_filter_le (fun item => !item == first) rest
    have whole : rest.filter (fun item => !item == first) = rest :=
      List.filter_eq_self.mpr (List.length_filter_eq_length_iff.mp (by omega))
    rw [whole] at same
    refine List.nodup_cons.mpr ⟨fun member => ?_, ih same⟩
    have differs := List.filter_eq_self.mp whole first member
    simp at differs

/-- Of distinct items, none is erased. -/
theorem length_eraseDups_of_nodup {α : Type} [BEq α] [LawfulBEq α] {items : List α}
    (distinct : items.Nodup) : items.eraseDups.length = items.length := by
  induction items with
  | nil => rfl
  | cons first rest ih =>
    rw [List.nodup_cons] at distinct
    have whole : rest.filter (fun item => !item == first) = rest := by
      refine List.filter_eq_self.mpr fun item member => ?_
      have differs : item ≠ first := fun same => distinct.1 (same ▸ member)
      simpa using differs
    rw [List.eraseDups_cons, whole, List.length_cons, List.length_cons, ih distinct.2]

/-! ## Open elements -/

/-- An open element that is sound as far as it was read, where the given declarations are around it
and so many elements may be nested in it; and what was noticed of it. -/
structure Level.Grown (around : List Declaration) (room : Nat) (noticed : List Notice)
    (level : Level) : Prop where
  tag : level.tag.Sound around
  written : level.written = level.tag.name.written
  scope : level.scope = level.tag.declarations.reverse ++ around
  content : ∀ node ∈ level.content, node.Sound room level.scope
  noticed : Thinned noticed ((resolveTag around level.tag.name.written level.tag.written).2
    ++ noticesOfAll level.scope level.content.reverse)

/-- The attributes of a tag have names of their own, which are names, and values that a document may
hold. -/
structure Opens (name : String) (attributes : List (String × String)) : Prop where
  named : isName name.toList = true
  attributesNamed : ∀ given ∈ attributes, isName given.1.toList = true
  valid : ∀ given ∈ attributes, IsValid given.2.toList
  distinct : (attributes.map (·.1)).Nodup

namespace Level.Grown

/-- An element that was just opened. -/
theorem opened {around : List Declaration} {name : String} {attributes : List (String × String)}
    {tag : Tag} {notices : List Notice} (room : Nat) (opens : Opens name attributes)
    (resolved : resolveTag around name attributes = (tag, notices)) :
    Level.Grown around room notices ⟨tag, name, [], tag.declarations.reverse ++ around⟩ := by
  have sound := sound_resolveTag around opens.named opens.attributesNamed opens.valid opens.distinct
  have named := written_name_resolveTag around name attributes
  have again := (resolveTag_again around name attributes).2
  rw [resolved] at sound named again
  refine ⟨sound, named.symm, rfl, fun _ member => absurd member List.not_mem_nil, ?_⟩
  dsimp only at again named ⊢
  rw [named, List.reverse_nil, noticesOfAll, List.append_nil]
  exact again

variable {around : List Declaration} {room : Nat} {noticed more : List Notice} {level : Level}

theorem add (grown : level.Grown around room noticed) {node : Node}
    (sound : node.Sound room level.scope) (noticedMore : Thinned more (noticesOf level.scope node)) :
    (level.add node).Grown around room (noticed ++ more) where
  tag := grown.tag
  written := grown.written
  scope := grown.scope
  content := List.forall_mem_cons.mpr ⟨sound, grown.content⟩
  noticed := by
    have whole := grown.noticed.append noticedMore
    have single : noticesOf level.scope node = noticesOfAll level.scope [node] :=
      (List.append_nil _).symm
    rw [single, List.append_assoc, ← noticesOfAll_append, ← List.reverse_cons] at whole
    exact whole

theorem addText (grown : level.Grown around room noticed) {text : List Char}
    (valid : IsValid text) : (level.addText text).Grown around room noticed := by
  unfold Level.addText
  split
  · rename_i before rest isContent
    have content := grown.content
    have noticed := grown.noticed
    rw [isContent, List.forall_mem_cons] at content
    rw [isContent, List.reverse_cons, noticesOfAll_append] at noticed
    refine ⟨grown.tag, grown.written, grown.scope, List.forall_mem_cons.mpr ⟨?_, content.2⟩, ?_⟩
    · obtain ⟨⟨first⟩, -⟩ := content
      exact .text (first.append valid)
    · rw [List.reverse_cons, noticesOfAll_append]
      exact noticed
  · have added := grown.add (.text valid) (.nil : Thinned [] (noticesOf level.scope (.text text)))
    rw [List.append_nil] at added
    exact added

theorem close (grown : level.Grown around room noticed) :
    level.close.Sound (room + 1) around ∧ Thinned noticed (noticesOf around level.close) := by
  have scope := grown.scope
  refine ⟨.element grown.tag fun node member => ?_, ?_⟩
  · rw [← scope]
    exact grown.content node (List.mem_reverse.mp member)
  · rw [Level.close, noticesOf, ← scope]
    exact grown.noticed

end Level.Grown

/-- A stack of open elements, each grown inside the one around it, and what was noticed of all. -/
inductive Stacked : List Notice → Level → List Level → Prop where
  | root {noticed : List Notice} {level : Level}
      (grown : level.Grown [] (depthLimit - 1) noticed) : Stacked noticed level []
  | inner {before noticed : List Notice} {level parent : Level} {outer : List Level} {room : Nat}
      (stacked : Stacked before parent outer) (grown : level.Grown parent.scope room noticed)
      (bound : outer.length + 2 + room = depthLimit) :
      Stacked (before ++ noticed) level (parent :: outer)

namespace Stacked

variable {noticed more : List Notice} {level next : Level} {outer : List Level}

/-- The element that is open last can grow where it is. -/
theorem extend (stacked : Stacked noticed level outer)
    (grows : ∀ around room noticed, room + outer.length + 1 = depthLimit →
      level.Grown around room noticed → next.Grown around room (noticed ++ more)) :
    Stacked (noticed ++ more) next outer := by
  cases stacked with
  | root grown => exact .root (grows _ _ _ (by decide) grown)
  | inner stacked grown bound =>
    rw [List.append_assoc]
    exact .inner stacked (grows _ _ _ (by simp only [List.length_cons]; omega) grown) bound

/-- The element that is open last can grow in a way that is not noticed. -/
theorem extend_silent (stacked : Stacked noticed level outer)
    (grows : ∀ around room noticed, room + outer.length + 1 = depthLimit →
      level.Grown around room noticed → next.Grown around room noticed) :
    Stacked noticed next outer := by
  have grown : Stacked (noticed ++ []) next outer := stacked.extend
    fun around room before enough grown => by
      rw [List.append_nil]
      exact grows around room before enough grown
  rw [List.append_nil] at grown
  exact grown

end Stacked

/-- The notices of a document that is accepted do not end with an error. -/
theorem accepted_of_readEpilog {remarks : Remarks} {root result : Level}
    {pending : List (Placed Event)} (read : readEpilog remarks root pending = .ok result) :
    (remarks.map (·.value)).getLast? ≠ some .error := by
  fun_induction readEpilog remarks root pending with
  | case2 =>
    rename_i accepted
    intro last
    rw [List.getLast?_map, Option.map_eq_some_iff] at last
    obtain ⟨⟨notice, unread⟩, isLast, rfl⟩ := last
    unfold verdict? at accepted
    rw [isLast] at accepted
    cases accepted
  | case3 | case4 | case5 =>
    rename_i inductionHypothesis
    exact inductionHypothesis read
  | case1 | case6 | case7 => cases read

theorem values_of_notices (notices : List Notice) (unread : Nat) :
    notices.map ((fun placed : Placed Notice => placed.value) ∘ fun notice => ⟨notice, unread⟩)
      = notices :=
  List.map_id notices

/-- What is checked when an element is opened. -/
theorem opens_of_fits {name : String} {attributes : List (String × String)} {isEmpty : Bool}
    {depth : Nat} (proper : (Event.opening name attributes isEmpty).Proper)
    (sound : (Event.opening name attributes isEmpty).Sound)
    (fits : ¬ ((attributes.map (·.1)).eraseDups.length != (attributes.map (·.1)).length
      || decide (depthLimit ≤ depth + 1)) = true) :
    Opens name attributes ∧ depth + 1 < depthLimit := by
  rw [Bool.or_eq_true, not_or, bne_iff_ne, not_not, decide_eq_true_eq, Nat.not_le] at fits
  exact ⟨⟨proper.1, proper.2, sound, nodup_of_length_eraseDups fits.1⟩, fits.2⟩

/-- A root element that was read is sound, and it is accepted. -/
theorem grown_of_readContent {remarks : Remarks} {level root : Level} {outer : List Level}
    {pending : List (Placed Event)} (read : readContent remarks level outer pending = .ok root)
    (proper : ∀ placed ∈ pending, placed.value.Proper)
    (sound : ∀ placed ∈ pending, placed.value.Sound)
    (stacked : Stacked (remarks.map (·.value)) level outer) :
    ∃ noticed, root.Grown [] (depthLimit - 1) noticed ∧ noticed.getLast? ≠ some .error := by
  fun_induction readContent remarks level outer pending with
  | case1 | case6 | case9 | case12 => cases read
  | case2 remarks level outer rest unread text inductionHypothesis
  | case3 remarks level outer rest unread text inductionHypothesis =>
    rw [List.forall_mem_cons] at proper sound
    refine inductionHypothesis read proper.2 sound.2 ?_
    exact stacked.extend_silent fun around room noticed _ grown => grown.addText sound.1
  | case4 remarks level outer rest unread text inductionHypothesis =>
    rw [List.forall_mem_cons] at proper sound
    refine inductionHypothesis read proper.2 sound.2 ?_
    refine stacked.extend_silent fun around room noticed _ grown => ?_
    have added := grown.add (.comment proper.1)
      (.nil : Thinned [] (noticesOf level.scope (.comment text)))
    rw [List.append_nil] at added
    exact added
  | case5 remarks level outer unread rest target text noted inductionHypothesis =>
    rw [List.forall_mem_cons] at proper sound
    refine inductionHypothesis read proper.2 sound.2 ?_
    have instructed (around : List Declaration) (room : Nat) (noticed : List Notice)
        (grown : level.Grown around room noticed) :
        (level.add (.instruction target text)).Grown around room
          (noticed ++ if target.contains ':' then [.error] else []) := by
      refine grown.add ?_ (.refl _)
      exact .instruction proper.1.1 sound.1.1 fun value isValue =>
        ⟨proper.1.2 value isValue, sound.1.2 value isValue⟩
    have grown := stacked.extend fun around room noticed _ => instructed around room noticed
    dsimp only [noted]
    split
    · rename_i hasColon
      rw [if_pos hasColon] at grown
      rw [List.map_append]
      exact grown
    · rename_i hasColon
      rw [if_neg hasColon, List.append_nil] at grown
      exact grown
  | case7 remarks level outer unread rest name attributes names fits tag notices resolved _
      inductionHypothesis =>
    rw [List.forall_mem_cons] at proper sound
    obtain ⟨opens, deep⟩ := opens_of_fits proper.1 sound.1 fits
    refine inductionHypothesis read proper.2 sound.2 ?_
    rw [List.map_append, List.map_map, values_of_notices]
    refine stacked.extend fun around room noticed enough grown => ?_
    obtain ⟨room, rfl⟩ : ∃ less, room = less + 1 := ⟨room - 1, by omega⟩
    have closed := (Level.Grown.opened room opens resolved).close
    exact grown.add closed.1 closed.2
  | case8 remarks level outer unread rest name attributes isEmpty names fits tag notices resolved _ _
      inductionHypothesis =>
    rw [List.forall_mem_cons] at proper sound
    obtain ⟨opens, deep⟩ := opens_of_fits proper.1 sound.1 fits
    refine inductionHypothesis read proper.2 sound.2 ?_
    rw [List.map_append, List.map_map, values_of_notices]
    exact .inner stacked (.opened (depthLimit - (outer.length + 2)) opens resolved) (by omega)
  | case10 remarks =>
    have accepted := accepted_of_readEpilog read
    rw [eq_of_readEpilog read]
    generalize remarks.map (·.value) = noticed at stacked accepted
    cases stacked with
    | root grown => exact ⟨_, grown, accepted⟩
  | case11 remarks level unread rest name _ parent outer inductionHypothesis =>
    rw [List.forall_mem_cons] at proper sound
    refine inductionHypothesis read proper.2 sound.2 ?_
    generalize remarks.map (·.value) = noticed at stacked ⊢
    cases stacked with
    | inner stacked grown bound =>
      refine stacked.extend fun around room noticed enough parentGrown => ?_
      have closed := grown.close
      exact parentGrown.add (by convert closed.1 using 2; omega) closed.2

/-- A root element is sound when its events are. -/
theorem grown_of_readRoot {pending : List (Placed Event)} {root : Level}
    (read : readRoot pending = .ok root) (proper : ∀ placed ∈ pending, placed.value.Proper)
    (sound : ∀ placed ∈ pending, placed.value.Sound) :
    ∃ noticed, root.Grown [] (depthLimit - 1) noticed ∧ noticed.getLast? ≠ some .error := by
  unfold readRoot at read
  split at read
  · rename_i name attributes isEmpty unread rest
    rw [List.forall_mem_cons] at proper sound
    dsimp only at read
    split at read
    · cases read
    · rename_i distinct
      rw [bne_iff_ne, not_not] at distinct
      have opens : Opens name attributes :=
        ⟨proper.1.1, proper.1.2, sound.1, nodup_of_length_eraseDups distinct⟩
      have grown := Level.Grown.opened (depthLimit - 1) opens
        (Prod.eta (resolveTag [] name attributes)).symm
      have values := values_of_notices (resolveTag [] name attributes).2 unread
      rw [← List.map_map] at values
      split at read
      · have accepted := accepted_of_readEpilog read
        rw [values] at accepted
        rw [eq_of_readEpilog read]
        rw [List.append_nil] at grown
        exact ⟨_, grown, accepted⟩
      · rw [List.append_nil] at grown
        refine grown_of_readContent read proper.2 sound.2 ?_
        rw [values]
        exact .root grown
  · cases read
  · cases read

/-- A document that was read can be read again. -/
theorem sound_of_read {bytes : ByteArray} {document : Document}
    (read : Document.read bytes = .ok document) : document.Sound := by
  obtain ⟨text, heading, rest, doctype, pending, root, decoded, isHeading, isProlog, isRoot, rfl⟩ :=
    Document.read_eq_ok_iff.mp read
  have inRest : '\r' ∉ rest := fun member =>
    not_mem_decodeDocument? decoded ((Heading.leaves_take text heading rest isHeading).mem member)
  have itemsSound := sound_of_mem_items rest
  have kept := subset_of_readProlog isProlog
  have doctypeValid := valid_of_readProlog isProlog itemsSound fun _ declared => by
    cases declared
  obtain ⟨noticed, grown, accepted⟩ := grown_of_readRoot isRoot
    (proper_of_mem_events doctype Doctype.nestingLimit pending fun placed member =>
      proper_of_mem_items inRest placed (kept member))
    (sound_of_mem_events doctypeValid Doctype.nestingLimit pending fun placed member =>
      itemsSound placed (kept member))
  have closed := grown.close
  exact ⟨isVersion_of_take isHeading, closed.1, closed.2.getLast? accepted⟩

end FormLetter.Xml
