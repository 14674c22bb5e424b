import FormLetter.Style.Derivation
import Mathlib.Logic.Relation

/-!
# The closure of style derivation

What a part declares is a relation between the names of styles, said of the tags that stand in the
document and not of the list that the rounds go through. The marks of a part are the closure of its
base under that relation: a name of the base keeps its mark, and any other name is marked exactly
when a finite chain of declarations leads from it to the base. A circle alone gives no mark, since
a chain has to arrive; and rounds that find a mark use up a declaration, so they come to an end on
circles, too.

A name may be declared more than once. Then one of its own declarations gives the mark, and which
one it is depends on their order. Where each name has one parent only, order does not count.
-/

namespace FormLetter.Style

open FormLetter.Xml

/-! ## What a document declares -/

/-- A tag stands in a content, at whatever depth. -/
inductive TagIn (tag : Tag) : List Node → Prop where
  | first (content rest : List Node) : TagIn tag (.element tag content :: rest)
  | inside (outer : Tag) (content rest : List Node) (found : TagIn tag content) :
      TagIn tag (.element outer content :: rest)
  | later (node : Node) (rest : List Node) (found : TagIn tag rest) : TagIn tag (node :: rest)

/-- A document holds a declaration of a style: a tag of a style that bears the name and names the
parent, neither of which is empty. -/
def Declares (document : Document) (name parent : String) : Prop :=
  ∃ tag, TagIn tag [.element document.root document.content] ∧
    tag.name.is styleNamespace "style" = true ∧
    tag.attribute? styleNamespace "name" = some name ∧
    tag.attribute? styleNamespace "parent-style-name" = some parent ∧ name ≠ "" ∧ parent ≠ ""

/-- The declarations that the rounds go through. -/
def declared (document : Document) : List Derivation :=
  derivationsOf (.element document.root document.content)

theorem tagIn_cons_iff {tag : Tag} {node : Node} {rest : List Node} :
    TagIn tag (node :: rest) ↔ TagIn tag [node] ∨ TagIn tag rest := by
  constructor
  · intro found
    cases found with
    | first content => exact Or.inl (.first content [])
    | inside outer content _ found => exact Or.inl (.inside outer content [] found)
    | later _ _ found => exact Or.inr found
  · rintro (found | found)
    · cases found with
      | first content => exact .first content rest
      | inside outer content _ found => exact .inside outer content rest found
      | later _ _ found => cases found
    · exact .later node rest found

theorem tagIn_element_iff {tag outer : Tag} {content : List Node} :
    TagIn tag [.element outer content] ↔ tag = outer ∨ TagIn tag content := by
  constructor
  · intro found
    cases found with
    | first => exact Or.inl rfl
    | inside _ _ _ found => exact Or.inr found
    | later _ _ found => cases found
  · rintro (rfl | found)
    · exact .first content []
    · exact .inside outer content [] found

theorem not_tagIn_nil {tag : Tag} : ¬ TagIn tag [] := nofun

mutual

/-- The declarations of a node are those of the tags in it. -/
theorem mem_derivationsOf_iff (derivation : Derivation) : (node : Node) →
    (derivation ∈ derivationsOf node ↔
      ∃ tag, TagIn tag [node] ∧ Derivation.ofTag? tag = some derivation)
  | .element outer content => by
    have within := mem_derivations_iff derivation content
    simp only [derivationsOf, List.mem_append, Option.mem_toList, within, tagIn_element_iff]
    constructor
    · rintro (own | ⟨tag, found, gives⟩)
      · exact ⟨outer, Or.inl rfl, own⟩
      · exact ⟨tag, Or.inr found, gives⟩
    · rintro ⟨tag, rfl | found, gives⟩
      · exact Or.inl gives
      · exact Or.inr ⟨tag, found, gives⟩
  | .text _ => by simpa [derivationsOf] using fun tag found _ => by cases found; contradiction
  | .comment _ => by simpa [derivationsOf] using fun tag found _ => by cases found; contradiction
  | .instruction _ _ => by
    simpa [derivationsOf] using fun tag found _ => by cases found; contradiction

/-- The declarations of a content are those of the tags in it. -/
theorem mem_derivations_iff (derivation : Derivation) : (content : List Node) →
    (derivation ∈ derivations content ↔
      ∃ tag, TagIn tag content ∧ Derivation.ofTag? tag = some derivation)
  | [] => by simp [derivations, not_tagIn_nil]
  | node :: rest => by
    have here := mem_derivationsOf_iff derivation node
    have after := mem_derivations_iff derivation rest
    simp only [derivations, List.mem_append, here, after]
    constructor
    · rintro (⟨tag, found, gives⟩ | ⟨tag, found, gives⟩)
      · exact ⟨tag, tagIn_cons_iff.mpr (Or.inl found), gives⟩
      · exact ⟨tag, tagIn_cons_iff.mpr (Or.inr found), gives⟩
    · rintro ⟨tag, found, gives⟩
      exact (tagIn_cons_iff.mp found).imp (⟨tag, ·, gives⟩) (⟨tag, ·, gives⟩)

end

theorem ofTag?_eq_some_iff {tag : Tag} {name parent : String} :
    Derivation.ofTag? tag = some ⟨name, parent⟩ ↔
      tag.name.is styleNamespace "style" = true ∧
        tag.attribute? styleNamespace "name" = some name ∧
        tag.attribute? styleNamespace "parent-style-name" = some parent ∧
        name ≠ "" ∧ parent ≠ "" := by
  unfold Derivation.ofTag?
  split
  · rename_i isStyle
    split
    · rename_i given givenParent named parented
      rw [named, parented]
      by_cases empty : given.isEmpty || givenParent.isEmpty
      · rw [if_pos empty]
        simp only [Bool.or_eq_true, String.isEmpty_iff] at empty
        constructor
        · nofun
        · rintro ⟨-, sameName, sameParent, nonempty⟩
          cases sameName
          cases sameParent
          exact absurd empty (not_or.mpr nonempty)
      · rw [if_neg empty]
        simp only [Bool.or_eq_true, String.isEmpty_iff, not_or] at empty
        constructor
        · intro same
          cases same
          exact ⟨isStyle, rfl, rfl, empty⟩
        · rintro ⟨-, sameName, sameParent, -⟩
          cases sameName
          cases sameParent
          rfl
    · rename_i missing
      refine ⟨nofun, ?_⟩
      rintro ⟨-, named, parented, -⟩
      exact absurd parented (missing name parent named)
  · rename_i isOther
    exact ⟨nofun, fun found => absurd found.1 isOther⟩

/-- The rounds go through all that a document declares, and nothing else. -/
theorem mem_declared_iff {document : Document} {name parent : String} :
    ⟨name, parent⟩ ∈ declared document ↔ Declares document name parent := by
  unfold declared Declares
  rw [mem_derivationsOf_iff]
  simp only [ofTag?_eq_some_iff]

/-! ## Tables -/

@[simp] theorem Table.find?_insert (table : Table) (name other : String) (mark : Mark) :
    (table.insert name mark).find? other = if other = name then some mark else table.find? other :=
  Keyed.lookup_put name other mark table

/-- The base of a part: the reserved marks, and over them those of the other part. -/
theorem Table.find?_base (reserved seed : Table) (distinct : (Keyed.names seed).Nodup)
    (name : String) :
    (Table.base reserved seed).find? name = (seed.find? name).or (reserved.find? name) := by
  unfold Table.base Table.update
  induction seed generalizing reserved with
  | nil => rfl
  | cons entry rest ih =>
    rw [Keyed.names_cons, List.nodup_cons] at distinct
    have first : Table.find? (entry :: rest) name
        = if name = entry.1 then some entry.2 else rest.lookup name :=
      Keyed.lookup_cons_eq name entry rest
    rw [List.foldl_cons, ih _ distinct.2, Table.find?_insert, first]
    by_cases same : name = entry.1
    · have unknown : Table.find? rest name = none := Keyed.lookup_eq_none.mpr (same ▸ distinct.1)
      rw [if_pos same, if_pos same, unknown]
      rfl
    · rw [if_neg same, if_neg same]
      rfl

/-- A table has all the marks of another one, and perhaps more. -/
def Table.Extends (larger smaller : Table) : Prop :=
  ∀ name mark, smaller.find? name = some mark → larger.find? name = some mark

theorem Table.Extends.trans {first second third : Table} (outer : third.Extends second)
    (inner : second.Extends first) : third.Extends first :=
  fun name mark known => outer name mark (inner name mark known)

theorem Table.Extends.isSome {larger smaller : Table} (extension : larger.Extends smaller)
    {name : String} (marked : (smaller.find? name).isSome) : (larger.find? name).isSome := by
  obtain ⟨mark, known⟩ := Option.isSome_iff_exists.mp marked
  exact Option.isSome_iff_exists.mpr ⟨mark, extension name mark known⟩

theorem Table.extends_insert {table : Table} {name : String} {mark : Mark}
    (unknown : table.find? name = none) : (table.insert name mark).Extends table := by
  intro other old known
  have differs : other ≠ name := by
    rintro rfl
    rw [unknown] at known
    contradiction
  rw [Table.find?_insert, if_neg differs]
  exact known

/-! ## One round -/

/-- What a round does with one declaration: it keeps it for later, passes it over, or marks its
style like its parent. -/
theorem deriveOnce_cons (table : Table) (derivation : Derivation) (rest : List Derivation) :
    (table.find? derivation.parent = none ∧
      deriveOnce table (derivation :: rest)
        = ((deriveOnce table rest).1, derivation :: (deriveOnce table rest).2.1,
            (deriveOnce table rest).2.2)) ∨
    ((table.find? derivation.parent).isSome ∧ (table.find? derivation.name).isSome ∧
      deriveOnce table (derivation :: rest) = deriveOnce table rest) ∨
    ∃ mark, table.find? derivation.parent = some mark ∧ table.find? derivation.name = none ∧
      deriveOnce table (derivation :: rest)
        = ((deriveOnce (table.insert derivation.name mark) rest).1,
            (deriveOnce (table.insert derivation.name mark) rest).2.1, true) := by
  cases marked : table.find? derivation.parent with
  | none => exact Or.inl ⟨rfl, by simp only [deriveOnce, marked]⟩
  | some mark =>
    cases known : table.find? derivation.name with
    | none =>
      exact Or.inr (Or.inr ⟨mark, rfl, rfl, by simp [deriveOnce, marked, known]⟩)
    | some old =>
      exact Or.inr (Or.inl ⟨rfl, rfl, by simp [deriveOnce, marked, known]⟩)

/-- A round never takes a mark back. -/
theorem deriveOnce_extends (table : Table) (pending : List Derivation) :
    (deriveOnce table pending).1.Extends table := by
  induction pending generalizing table with
  | nil => exact fun _ _ known => known
  | cons derivation rest ih =>
    rcases deriveOnce_cons table derivation rest with
      ⟨-, round⟩ | ⟨-, -, round⟩ | ⟨mark, -, new, round⟩
    · rw [round]
      exact ih table
    · rw [round]
      exact ih table
    · rw [round]
      exact (ih _).trans (Table.extends_insert new)

/-- A property of marked names that declarations hand on holds of all that is marked after a round,
if it did before. Only names that the base does not mark are handed anything. -/
theorem deriveOnce_induction {holds : String → Mark → Prop} {base table : Table}
    {pending : List Derivation} (extension : table.Extends base)
    (before : ∀ name mark, table.find? name = some mark → holds name mark)
    (handsOn : ∀ derivation ∈ pending, base.find? derivation.name = none →
      ∀ mark, holds derivation.parent mark → holds derivation.name mark) :
    ∀ name mark, (deriveOnce table pending).1.find? name = some mark → holds name mark := by
  induction pending generalizing table with
  | nil => exact before
  | cons derivation rest ih =>
    have handsOnLater : ∀ later ∈ rest, base.find? later.name = none →
        ∀ mark, holds later.parent mark → holds later.name mark :=
      fun later member => handsOn later (List.mem_cons_of_mem derivation member)
    rcases deriveOnce_cons table derivation rest with
      ⟨-, round⟩ | ⟨-, -, round⟩ | ⟨own, marked, new, round⟩
    · rw [round]
      exact ih extension before handsOnLater
    · rw [round]
      exact ih extension before handsOnLater
    · rw [round]
      refine ih ((Table.extends_insert new).trans extension) (fun name mark found => ?_)
        handsOnLater
      rw [Table.find?_insert] at found
      by_cases same : name = derivation.name
      · rw [if_pos same, Option.some.injEq] at found
        have unmarked : base.find? derivation.name = none := by
          cases known : base.find? derivation.name with
          | none => rfl
          | some old => exact absurd (extension _ _ known) (by rw [new]; exact nofun)
        have parent : holds derivation.parent mark := before _ _ (found ▸ marked)
        exact same ▸ handsOn derivation List.mem_cons_self unmarked mark parent
      · rw [if_neg same] at found
        exact before name mark found

/-- A mark that a round finds is that of a declared parent. -/
theorem deriveOnce_inherits {table : Table} {pending : List Derivation} {name : String}
    {mark : Mark} (found : (deriveOnce table pending).1.find? name = some mark) :
    table.find? name = some mark ∨
      ∃ parent, ⟨name, parent⟩ ∈ pending ∧
        (deriveOnce table pending).1.find? parent = some mark := by
  induction pending generalizing table with
  | nil => exact Or.inl found
  | cons derivation rest ih =>
    rcases deriveOnce_cons table derivation rest with
      ⟨-, round⟩ | ⟨-, -, round⟩ | ⟨own, marked, new, round⟩
    · rw [round] at found ⊢
      exact (ih found).imp_right fun ⟨parent, member, known⟩ =>
        ⟨parent, List.mem_cons_of_mem _ member, known⟩
    · rw [round] at found ⊢
      exact (ih found).imp_right fun ⟨parent, member, known⟩ =>
        ⟨parent, List.mem_cons_of_mem _ member, known⟩
    · rw [round] at found ⊢
      rcases ih found with known | ⟨parent, member, known⟩
      · rw [Table.find?_insert] at known
        by_cases same : name = derivation.name
        · rw [if_pos same, Option.some.injEq] at known
          subst known same
          refine Or.inr ⟨derivation.parent, List.mem_cons_self, ?_⟩
          exact deriveOnce_extends _ rest _ _ (Table.extends_insert new _ _ marked)
        · rw [if_neg same] at known
          exact Or.inl known
      · exact Or.inr ⟨parent, List.mem_cons_of_mem _ member, known⟩

/-- A round keeps a declaration for the next one unless its style is marked. -/
theorem deriveOnce_keeps (table : Table) {pending : List Derivation} {derivation : Derivation}
    (member : derivation ∈ pending) :
    derivation ∈ (deriveOnce table pending).2.1 ∨
      ((deriveOnce table pending).1.find? derivation.name).isSome := by
  induction pending generalizing table with
  | nil => cases member
  | cons first rest ih =>
    rcases deriveOnce_cons table first rest with
      ⟨-, round⟩ | ⟨-, known, round⟩ | ⟨mark, -, -, round⟩
    · rw [round]
      rcases List.mem_cons.mp member with rfl | later
      · exact Or.inl List.mem_cons_self
      · exact (ih table later).imp_left (List.mem_cons_of_mem first)
    · rw [round]
      rcases List.mem_cons.mp member with rfl | later
      · exact Or.inr ((deriveOnce_extends table rest).isSome known)
      · exact ih table later
    · rw [round]
      rcases List.mem_cons.mp member with rfl | later
      · refine Or.inr ((deriveOnce_extends _ rest).isSome ?_)
        rw [Table.find?_insert, if_pos rfl]
        rfl
      · exact ih _ later

theorem deriveOnce_subset (table : Table) (pending : List Derivation) :
    (deriveOnce table pending).2.1 ⊆ pending := by
  induction pending generalizing table with
  | nil => exact List.Subset.refl []
  | cons first rest ih =>
    rcases deriveOnce_cons table first rest with
      ⟨-, round⟩ | ⟨-, -, round⟩ | ⟨mark, -, -, round⟩
    · rw [round]
      exact List.cons_subset_cons first (ih table)
    · rw [round]
      exact List.subset_cons_of_subset first (ih table)
    · rw [round]
      exact List.subset_cons_of_subset first (ih _)

/-- A round that finds nothing leaves the table, and none of what it keeps has a marked parent. -/
theorem deriveOnce_of_not_found {table : Table} {pending : List Derivation}
    (nothing : (deriveOnce table pending).2.2 = false) :
    (deriveOnce table pending).1 = table ∧
      ∀ derivation ∈ (deriveOnce table pending).2.1, table.find? derivation.parent = none := by
  induction pending with
  | nil => exact ⟨rfl, nofun⟩
  | cons first rest ih =>
    rcases deriveOnce_cons table first rest with
      ⟨unmarked, round⟩ | ⟨-, -, round⟩ | ⟨mark, -, -, round⟩
    · rw [round] at nothing ⊢
      obtain ⟨same, kept⟩ := ih nothing
      refine ⟨same, fun derivation member => ?_⟩
      rcases List.mem_cons.mp member with rfl | later
      · exact unmarked
      · exact kept derivation later
    · rw [round] at nothing ⊢
      exact ih nothing
    · rw [round] at nothing
      contradiction

/-! ## All rounds -/

/-- The table and the declarations that are left after so many rounds. -/
def afterRounds (table : Table) (pending : List Derivation) : Nat → Table × List Derivation
  | 0 => (table, pending)
  | count + 1 =>
    let round := deriveOnce table pending
    afterRounds round.1 round.2.1 count

/-- The rounds come to an end: one of the first rounds, of which there are no more than there are
declarations and one, finds nothing, and its table is the result. -/
theorem exists_last_round (table : Table) (pending : List Derivation) :
    ∃ count ≤ pending.length,
      (deriveOnce (afterRounds table pending count).1 (afterRounds table pending count).2).2.2
          = false ∧
        derive table pending = (afterRounds table pending count).1 := by
  fun_induction derive table pending with
  | case1 table pending round found ih =>
    obtain ⟨count, bounded, nothing, result⟩ := ih
    have used : round.2.1.length < pending.length := deriveOnce_length_lt table pending found
    exact ⟨count + 1, by omega, nothing, result⟩
  | case2 table pending round nothing =>
    have nothing : round.2.2 = false := by simpa using nothing
    exact ⟨0, Nat.zero_le _, nothing, (deriveOnce_of_not_found nothing).1⟩

theorem derive_extends (table : Table) (pending : List Derivation) :
    (derive table pending).Extends table := by
  fun_induction derive table pending with
  | case1 table pending round _ ih => exact ih.trans (deriveOnce_extends table pending)
  | case2 table pending => exact deriveOnce_extends table pending

theorem derive_induction {holds : String → Mark → Prop} {base table : Table}
    {pending : List Derivation} (extension : table.Extends base)
    (before : ∀ name mark, table.find? name = some mark → holds name mark)
    (handsOn : ∀ derivation ∈ pending, base.find? derivation.name = none →
      ∀ mark, holds derivation.parent mark → holds derivation.name mark) :
    ∀ name mark, (derive table pending).find? name = some mark → holds name mark := by
  fun_induction derive table pending with
  | case1 table pending round _ ih =>
    refine ih ((deriveOnce_extends table pending).trans extension)
      (deriveOnce_induction extension before handsOn) fun derivation member => ?_
    exact handsOn derivation (deriveOnce_subset table pending member)
  | case2 table pending => exact deriveOnce_induction extension before handsOn

theorem derive_inherits {table : Table} {pending : List Derivation} {name : String} {mark : Mark}
    (found : (derive table pending).find? name = some mark) :
    table.find? name = some mark ∨
      ∃ parent, ⟨name, parent⟩ ∈ pending ∧ (derive table pending).find? parent = some mark := by
  fun_induction derive table pending with
  | case1 table pending round _ ih =>
    rcases ih found with known | ⟨parent, member, known⟩
    · refine (deriveOnce_inherits known).imp_right fun ⟨parent, member, known⟩ => ?_
      exact ⟨parent, member, derive_extends round.1 round.2.1 parent mark known⟩
    · exact Or.inr ⟨parent, deriveOnce_subset table pending member, known⟩
  | case2 table pending => exact deriveOnce_inherits found

/-- When the rounds are over, every style whose parent is marked is marked. -/
theorem derive_closed {table : Table} {pending : List Derivation} {derivation : Derivation}
    (member : derivation ∈ pending)
    (marked : ((derive table pending).find? derivation.parent).isSome) :
    ((derive table pending).find? derivation.name).isSome := by
  fun_induction derive table pending with
  | case1 table pending round _ ih =>
    rcases deriveOnce_keeps table member with kept | known
    · exact ih kept marked
    · exact (derive_extends round.1 round.2.1).isSome known
  | case2 table pending round nothing =>
    have nothing : round.2.2 = false := by simpa using nothing
    obtain ⟨same, unmarked⟩ := deriveOnce_of_not_found nothing
    rcases deriveOnce_keeps table member with kept | known
    · rw [same, unmarked derivation kept] at marked
      contradiction
    · exact known

/-! ## The closure -/

/-- A table is the closure of a base under declarations. -/
structure ClosureOf (declares : String → String → Prop) (base result : Table) : Prop where
  /-- A name of the base keeps its mark. -/
  base_kept : ∀ name mark, base.find? name = some mark → result.find? name = some mark
  /-- Any other name is marked exactly when a chain of declarations leads from it to the base. -/
  marked_iff : ∀ name, base.find? name = none →
    ((result.find? name).isSome ↔
      ∃ root, Relation.TransGen declares name root ∧ (base.find? root).isSome)
  /-- Such a name has the mark of the parent in one of its own declarations. -/
  inherited : ∀ name mark, base.find? name = none → result.find? name = some mark →
    ∃ parent, declares name parent ∧ result.find? parent = some mark

/-- Closures of one base under the same declarations agree where each name has one parent only. -/
theorem ClosureOf.unique {declares : String → String → Prop} {base first second : Table}
    (left : ClosureOf declares base first) (right : ClosureOf declares base second)
    (single : ∀ name parent other, declares name parent → declares name other → parent = other)
    (name : String) : first.find? name = second.find? name := by
  -- A chain is followed from the base outwards; each step goes through the only parent.
  have along (name root : String) (chain : Relation.ReflTransGen declares name root)
      (arrives : (base.find? root).isSome) : first.find? name = second.find? name := by
    induction chain using Relation.ReflTransGen.head_induction_on with
    | refl =>
      obtain ⟨mark, known⟩ := Option.isSome_iff_exists.mp arrives
      rw [left.base_kept root mark known, right.base_kept root mark known]
    | head step rest ih =>
      rename_i name parent
      cases known : base.find? name with
      | some mark => rw [left.base_kept name mark known, right.base_kept name mark known]
      | none =>
        have chain : ∃ root, Relation.TransGen declares name root ∧ (base.find? root).isSome :=
          ⟨root, Relation.TransGen.head' step rest, arrives⟩
        obtain ⟨mark, found⟩ := Option.isSome_iff_exists.mp ((left.marked_iff name known).mpr chain)
        obtain ⟨other, found'⟩ :=
          Option.isSome_iff_exists.mp ((right.marked_iff name known).mpr chain)
        obtain ⟨source, declaration, given⟩ := left.inherited name mark known found
        obtain ⟨source', declaration', given'⟩ := right.inherited name other known found'
        rw [single name source parent declaration step] at given
        rw [single name source' parent declaration' step] at given'
        rw [found, found', ← given, ← given', ih]
  cases known : base.find? name with
  | some mark => rw [left.base_kept name mark known, right.base_kept name mark known]
  | none =>
    by_cases reaches : ∃ root, Relation.TransGen declares name root ∧ (base.find? root).isSome
    · obtain ⟨root, chain, arrives⟩ := reaches
      exact along name root chain.to_reflTransGen arrives
    · have unmarked : ¬ (first.find? name).isSome :=
        fun marked => reaches ((left.marked_iff name known).mp marked)
      have unmarked' : ¬ (second.find? name).isSome :=
        fun marked => reaches ((right.marked_iff name known).mp marked)
      rw [Option.not_isSome_iff_eq_none] at unmarked unmarked'
      rw [unmarked, unmarked']

/-- The marks of a part are the closure of its base under what it declares. -/
theorem closureOf_classify (reserved seed : Table) (document : Document) :
    ClosureOf (Declares document) (Table.base reserved seed) (classify reserved seed document) := by
  have closed {name parent : String} (step : Declares document name parent)
      (marked : ((classify reserved seed document).find? parent).isSome) :
      ((classify reserved seed document).find? name).isSome :=
    derive_closed (mem_declared_iff.mpr step) marked
  let reaches (name : String) : Prop := ∃ root,
    Relation.ReflTransGen (Declares document) name root ∧
      ((Table.base reserved seed).find? root).isSome
  have reachesOfMarked : ∀ name, ((classify reserved seed document).find? name).isSome →
      reaches name := by
    have handsOn : ∀ derivation ∈ declared document,
        (Table.base reserved seed).find? derivation.name = none →
        ∀ _ : Mark, reaches derivation.parent → reaches derivation.name := by
      rintro ⟨name, parent⟩ member - - ⟨root, chain, known⟩
      exact ⟨root, .head (mem_declared_iff.mp member) chain, known⟩
    intro name marked
    obtain ⟨mark, found⟩ := Option.isSome_iff_exists.mp marked
    refine @derive_induction (fun name _ => reaches name) _ _ _ (fun _ _ known => known)
      (fun name mark known => ⟨name, .refl, ?_⟩) handsOn name mark found
    rw [known]
    rfl
  refine ⟨derive_extends _ _, fun name unknown => ⟨fun marked => ?_, ?_⟩, ?_⟩
  · obtain ⟨root, chain, known⟩ := reachesOfMarked name marked
    rcases Relation.reflTransGen_iff_eq_or_transGen.mp chain with rfl | chain
    · rw [unknown] at known
      contradiction
    · exact ⟨root, chain, known⟩
  · rintro ⟨root, chain, known⟩
    have arrives : ((classify reserved seed document).find? root).isSome :=
      (derive_extends _ _).isSome known
    clear unknown
    induction chain using Relation.TransGen.head_induction_on with
    | single step => exact closed step arrives
    | head step _ ih => exact closed step ih
  · intro name mark unknown found
    rcases derive_inherits found with known | ⟨parent, member, given⟩
    · rw [unknown] at known
      contradiction
    · exact ⟨parent, mem_declared_iff.mp member, given⟩

/-- The marks of a part are the closure of derivation. The base is made of the reserved marks, with
those of the other part over them; the result is its closure under what the document declares; it
is found in rounds that come to an end, whatever circles there are; and a document that declares
the same, in whatever order, has the same marks when no name has two parents. -/
theorem classify_is_closure (reserved seed : Table) (document : Document)
    (distinct : (Keyed.names seed).Nodup) :
    (∀ name, (Table.base reserved seed).find? name = (seed.find? name).or (reserved.find? name)) ∧
      ClosureOf (Declares document) (Table.base reserved seed) (classify reserved seed document) ∧
      (∃ count ≤ (declared document).length,
        let last := afterRounds (Table.base reserved seed) (declared document) count
        (deriveOnce last.1 last.2).2.2 = false ∧ classify reserved seed document = last.1) ∧
      ∀ other : Document,
        (∀ name parent, Declares other name parent ↔ Declares document name parent) →
        (∀ name first second,
          Declares document name first → Declares document name second → first = second) →
        ∀ name, (classify reserved seed other).find? name
          = (classify reserved seed document).find? name := by
  refine ⟨Table.find?_base reserved seed distinct, closureOf_classify reserved seed document,
    exists_last_round _ _, fun other same single name => ?_⟩
  have sameRelation : Declares other = Declares document :=
    funext fun name => funext fun parent => propext (same name parent)
  have closure := closureOf_classify reserved seed other
  rw [sameRelation] at closure
  exact closure.unique (closureOf_classify reserved seed document) single name

/-- A part whose styles are derived in a chain, the last one first, and in a circle. -/
def chainAndCircle : Document :=
  let style (name parent : String) : Node := .element
    ⟨⟨some "style", some styleNamespace, "style"⟩, [],
      [⟨⟨some "style", some styleNamespace, "name"⟩, name⟩,
        ⟨⟨some "style", some styleNamespace, "parent-style-name"⟩, parent⟩]⟩ []
  ⟨"1.0", ⟨⟨none, none, "styles"⟩, [], []⟩,
    [style "T2" "T1", style "X" "Y", style "T1" "Named", style "Y" "X"]⟩

theorem classify_is_closure_chainAndCircle :
    (Keyed.names [("Named", Mark.role .block)]).Nodup ∧
      (classify .reserved [("Named", .role .block)] chainAndCircle).find? "T2"
        = some (.role .block) ∧
      (classify .reserved [("Named", .role .block)] chainAndCircle).find? "X" = none := by
  have distinct : (Keyed.names [("Named", Mark.role .block)]).Nodup := by decide
  obtain ⟨-, closure, -, -⟩ :=
    classify_is_closure .reserved [("Named", .role .block)] chainAndCircle distinct
  have all : declared chainAndCircle
      = [⟨"T2", "T1"⟩, ⟨"X", "Y"⟩, ⟨"T1", "Named"⟩, ⟨"Y", "X"⟩] := by decide
  have declares {name parent : String} : Declares chainAndCircle name parent ↔
      ⟨name, parent⟩ ∈ [Derivation.mk "T2" "T1", ⟨"X", "Y"⟩, ⟨"T1", "Named"⟩, ⟨"Y", "X"⟩] := by
    rw [← all, mem_declared_iff]
  refine ⟨distinct, ?_, ?_⟩
  · have chain : Relation.TransGen (Declares chainAndCircle) "T2" "Named" :=
      .head (b := "T1") (declares.mpr (by decide)) (.single (declares.mpr (by decide)))
    obtain ⟨mark, found⟩ := Option.isSome_iff_exists.mp
      ((closure.marked_iff "T2" (by decide)).mpr ⟨"Named", chain, by decide⟩)
    obtain ⟨parent, declaration, given⟩ := closure.inherited "T2" mark (by decide) found
    obtain rfl : parent = "T1" := by simpa using declares.mp declaration
    obtain ⟨parent, declaration, named⟩ := closure.inherited "T1" mark (by decide) given
    obtain rfl : parent = "Named" := by simpa using declares.mp declaration
    rw [found, ← named]
    exact closure.base_kept "Named" (.role .block) (by decide)
  · rw [← Option.not_isSome_iff_eq_none, closure.marked_iff "X" (by decide)]
    rintro ⟨root, chain, known⟩
    -- Whoever starts in the circle stays in it.
    have inside : root = "X" ∨ root = "Y" := by
      clear known
      induction chain with
      | single step => exact Or.inr (by simpa using declares.mp step)
      | tail _ step ih =>
        rcases ih with rfl | rfl
        · exact Or.inr (by simpa using declares.mp step)
        · exact Or.inl (by simpa using declares.mp step)
    rcases inside with rfl | rfl <;> exact absurd known (by decide)

end FormLetter.Style
