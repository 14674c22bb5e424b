import FormLetter.Markup.Surroundings
import Mathlib.Data.List.TakeWhile

/-!
# What the groups around a run are

A group before a run is a row of tags with white space after each; a group after a run is a row of
tags with white space before each. These two shapes are stated without the functions that take the
groups, and each function is shown to take exactly its shape: what it takes has the shape, and where
the shape stands it is taken. The groups and what no group took are the tokens that were there, in
their order.
-/

namespace FormLetter.Markup

open FormLetter.Style (Table)

/-! ## Shapes -/

/-- Nothing but white space between tags. -/
def AllSpace (tokens : List Token) : Prop :=
  ∀ token ∈ tokens, token.kind = .space

/-- One token of each kind in order, with white space after each. -/
inductive SpacedAfter : List Kind → List Token → Prop where
  | nil : SpacedAfter [] []
  | cons {kinds : List Kind} {spaces rest : List Token} (token : Token)
      (spaced : AllSpace spaces) (more : SpacedAfter kinds rest) :
      SpacedAfter (token.kind :: kinds) (token :: (spaces ++ rest))

/-- One token of each kind in order, with white space before each. -/
inductive SpacedBefore : List Kind → List Token → Prop where
  | nil : SpacedBefore [] []
  | cons {kinds : List Kind} {spaces rest : List Token} (token : Token)
      (spaced : AllSpace spaces) (more : SpacedBefore kinds rest) :
      SpacedBefore (token.kind :: kinds) (spaces ++ token :: rest)

/-- One tag of a kind, without white space. -/
def SingleTag (kind : Kind) (tokens : List Token) : Prop :=
  ∃ token, tokens = [token] ∧ token.kind = kind

/-- The kinds of the tags at the end of a row: the cell, covered cells, the row. -/
def rowEndKinds (count : Nat) : List Kind :=
  .cellClose :: (List.replicate count .coveredCell ++ [.rowClose])

/-- The end of a cell, any covered cells and the end of the row. -/
def IsRowEnd (tokens : List Token) : Prop :=
  ∃ count, SpacedBefore (rowEndKinds count) tokens

theorem SpacedAfter.append {kinds more : List Kind} {tokens rest : List Token}
    (first : SpacedAfter kinds tokens) (second : SpacedAfter more rest) :
    SpacedAfter (kinds ++ more) (tokens ++ rest) := by
  induction first with
  | nil => exact second
  | cons token spaced _ inductionHypothesis =>
    rw [List.cons_append, List.cons_append, List.append_assoc]
    exact .cons token spaced inductionHypothesis

theorem SpacedBefore.append {kinds more : List Kind} {tokens rest : List Token}
    (first : SpacedBefore kinds tokens) (second : SpacedBefore more rest) :
    SpacedBefore (kinds ++ more) (tokens ++ rest) := by
  induction first with
  | nil => exact second
  | cons token spaced _ inductionHypothesis =>
    rw [List.cons_append, List.append_assoc, List.cons_append]
    exact .cons token spaced inductionHypothesis

/-- A shape of some kinds and more is the shape of the kinds and then that of the others. -/
theorem SpacedAfter.split (kinds : List Kind) {more : List Kind} {tokens : List Token}
    (shaped : SpacedAfter (kinds ++ more) tokens) :
    ∃ first second, tokens = first ++ second ∧ SpacedAfter kinds first ∧
      SpacedAfter more second := by
  induction kinds generalizing tokens with
  | nil => exact ⟨[], tokens, rfl, .nil, shaped⟩
  | cons kind kinds inductionHypothesis =>
    cases shaped with
    | @cons _ spaces rest token spaced shapedRest =>
      obtain ⟨first, second, rfl, isFirst, isSecond⟩ := inductionHypothesis shapedRest
      exact ⟨token :: (spaces ++ first), second, by simp, .cons token spaced isFirst, isSecond⟩

theorem SpacedBefore.split (kinds : List Kind) {more : List Kind} {tokens : List Token}
    (shaped : SpacedBefore (kinds ++ more) tokens) :
    ∃ first second, tokens = first ++ second ∧ SpacedBefore kinds first ∧
      SpacedBefore more second := by
  induction kinds generalizing tokens with
  | nil => exact ⟨[], tokens, rfl, .nil, shaped⟩
  | cons kind kinds inductionHypothesis =>
    cases shaped with
    | @cons _ spaces rest token spaced shapedRest =>
      obtain ⟨first, second, rfl, isFirst, isSecond⟩ := inductionHypothesis shapedRest
      exact ⟨spaces ++ token :: first, second, by simp, .cons token spaced isFirst, isSecond⟩

/-- The shape of one kind is a tag and white space after it. -/
theorem spacedAfter_singleton_iff {kind : Kind} {tokens : List Token} :
    SpacedAfter [kind] tokens ↔
      ∃ token spaces, tokens = token :: spaces ∧ token.kind = kind ∧ AllSpace spaces := by
  constructor
  · intro shaped
    cases shaped with
    | @cons _ spaces _ token spaced more =>
      cases more
      exact ⟨token, spaces, by simp, rfl, spaced⟩
  · rintro ⟨token, spaces, rfl, rfl, spaced⟩
    simpa using SpacedAfter.cons token spaced .nil

/-- The shape of one kind is white space and a tag after it. -/
theorem spacedBefore_singleton_iff {kind : Kind} {tokens : List Token} :
    SpacedBefore [kind] tokens ↔
      ∃ spaces token, tokens = spaces ++ [token] ∧ token.kind = kind ∧ AllSpace spaces := by
  constructor
  · intro shaped
    cases shaped with
    | @cons _ spaces _ token spaced more =>
      cases more
      exact ⟨spaces, token, rfl, rfl, spaced⟩
  · rintro ⟨spaces, token, rfl, rfl, spaced⟩
    exact SpacedBefore.cons token spaced .nil

/-- A token of a shape is white space or of one of its kinds. -/
theorem SpacedAfter.kind_mem {kinds : List Kind} {tokens : List Token}
    (shaped : SpacedAfter kinds tokens) :
    ∀ token ∈ tokens, token.kind ∈ Kind.space :: kinds := by
  induction shaped with
  | nil => simp
  | @cons kinds _ _ tag spaced _ inductionHypothesis =>
    have wider : Kind.space :: kinds ⊆ Kind.space :: tag.kind :: kinds :=
      List.cons_subset_cons _ (List.subset_cons_self _ _)
    intro token member
    rcases List.mem_cons.mp member with rfl | later
    · exact List.mem_cons_of_mem _ List.mem_cons_self
    · rcases List.mem_append.mp later with white | inRest
      · exact spaced token white ▸ List.mem_cons_self
      · exact wider (inductionHypothesis token inRest)

theorem SpacedBefore.kind_mem {kinds : List Kind} {tokens : List Token}
    (shaped : SpacedBefore kinds tokens) :
    ∀ token ∈ tokens, token.kind ∈ Kind.space :: kinds := by
  induction shaped with
  | nil => simp
  | @cons kinds _ _ tag spaced _ inductionHypothesis =>
    have wider : Kind.space :: kinds ⊆ Kind.space :: tag.kind :: kinds :=
      List.cons_subset_cons _ (List.subset_cons_self _ _)
    intro token member
    rcases List.mem_append.mp member with white | later
    · exact spaced token white ▸ List.mem_cons_self
    · rcases List.mem_cons.mp later with rfl | inRest
      · exact List.mem_cons_of_mem _ List.mem_cons_self
      · exact wider (inductionHypothesis token inRest)

/-- A token at the end of a row is white space or closes the cell, the row or nothing. -/
theorem IsRowEnd.kind_mem {tokens : List Token} (ended : IsRowEnd tokens) :
    ∀ token ∈ tokens, token.kind ∈ [Kind.space, .cellClose, .coveredCell, .rowClose] := by
  intro token member
  obtain ⟨count, shaped⟩ := ended
  have kind := shaped.kind_mem token member
  simp only [rowEndKinds, List.mem_cons, List.mem_append, List.mem_replicate, List.not_mem_nil,
    or_false] at kind ⊢
  exact kind.imp_right fun tag => tag.imp_right fun inner => inner.imp_left And.right

/-! ## Kinds of a shape -/

/-- The kinds of the tokens that are not white space. -/
def darkKinds (tokens : List Token) : List Kind :=
  (tokens.map Token.kind).filter (· != .space)

@[simp] theorem darkKinds_append (left right : List Token) :
    darkKinds (left ++ right) = darkKinds left ++ darkKinds right := by
  simp [darkKinds]

theorem darkKinds_of_allSpace {spaces : List Token} (spaced : AllSpace spaces) :
    darkKinds spaces = [] := by
  simpa [darkKinds, AllSpace] using spaced

theorem darkKinds_cons {token : Token} (dark : token.kind ≠ .space) (rest : List Token) :
    darkKinds (token :: rest) = token.kind :: darkKinds rest := by
  simp [darkKinds, dark]

theorem exists_of_mem_darkKinds {tokens : List Token} {kind : Kind}
    (member : kind ∈ darkKinds tokens) : ∃ token ∈ tokens, token.kind = kind :=
  List.mem_map.mp (List.mem_filter.mp member).1

/-- The kinds of a shape are those of its tags. -/
theorem SpacedAfter.darkKinds_eq {kinds : List Kind} {tokens : List Token}
    (shaped : SpacedAfter kinds tokens) (dark : .space ∉ kinds) : darkKinds tokens = kinds := by
  induction shaped with
  | nil => rfl
  | cons token spaced _ inductionHypothesis =>
    rw [List.mem_cons, not_or] at dark
    rw [darkKinds_cons (Ne.symm dark.1), darkKinds_append, darkKinds_of_allSpace spaced,
      inductionHypothesis dark.2, List.nil_append]

theorem SpacedBefore.darkKinds_eq {kinds : List Kind} {tokens : List Token}
    (shaped : SpacedBefore kinds tokens) (dark : .space ∉ kinds) : darkKinds tokens = kinds := by
  induction shaped with
  | nil => rfl
  | cons token spaced _ inductionHypothesis =>
    rw [List.mem_cons, not_or] at dark
    rw [darkKinds_append, darkKinds_of_allSpace spaced, darkKinds_cons (Ne.symm dark.1),
      inductionHypothesis dark.2, List.nil_append]

theorem SingleTag.darkKinds_eq {kind : Kind} {tokens : List Token} (single : SingleTag kind tokens)
    (dark : kind ≠ .space) : darkKinds tokens = [kind] := by
  obtain ⟨token, rfl, rfl⟩ := single
  exact darkKinds_cons dark []

theorem space_not_mem_rowEndKinds (count : Nat) : .space ∉ rowEndKinds count := by
  simp [rowEndKinds]

/-! ## White space at the front -/

theorem isSpace_iff {token : Token} : isSpace token = true ↔ token.kind = .space := by
  simp [isSpace]

theorem allSpace_takeWhile (tokens : List Token) : AllSpace (tokens.takeWhile isSpace) :=
  fun _ member => isSpace_iff.mp (List.mem_takeWhile_imp member)

/-- White space before something else is exactly what is taken off the front. -/
theorem takeWhile_isSpace {spaces : List Token} {token : Token} (spaced : AllSpace spaces)
    (dark : token.kind ≠ .space) (rest : List Token) :
    (spaces ++ token :: rest).takeWhile isSpace = spaces ∧
      (spaces ++ token :: rest).dropWhile isSpace = token :: rest := by
  have white : ∀ space ∈ spaces, isSpace space = true := fun space member =>
    isSpace_iff.mpr (spaced space member)
  have notWhite : ¬isSpace token = true := fun isWhite => dark (isSpace_iff.mp isWhite)
  rw [List.takeWhile_append_of_pos white, List.dropWhile_append_of_pos white]
  simp [notWhite]

/-! ## Taking groups before a run -/

/-- What is taken before a run has the shape of its kinds, and nothing else of the tokens is
touched. The tokens before a run are given nearest first. -/
theorem takeBefore?_spec {kinds : List Kind} {before : List Token} {split : Split}
    (taken : takeBefore? kinds before = some split) :
    SpacedAfter kinds.reverse split.taken ∧ split.left.reverse ++ split.taken = before.reverse := by
  induction kinds generalizing before split with
  | nil =>
    simp only [takeBefore?, Option.some.injEq] at taken
    subst taken
    exact ⟨.nil, by simp⟩
  | cons kind kinds inductionHypothesis =>
    have parts := List.takeWhile_append_dropWhile (p := isSpace) (l := before)
    simp only [takeBefore?] at taken
    split at taken
    · simp at taken
    · rename_i token farther dropped
      simp only [beq_iff_eq, Option.ite_none_right_eq_some, Option.map_eq_some_iff] at taken
      obtain ⟨rfl, inner, takenInner, rfl⟩ := taken
      obtain ⟨shaped, same⟩ := inductionHypothesis takenInner
      have spaced : AllSpace (before.takeWhile isSpace).reverse := fun space member =>
        allSpace_takeWhile before space (List.mem_reverse.mp member)
      constructor
      · rw [List.reverse_cons]
        exact shaped.append (by simpa using SpacedAfter.cons token spaced .nil)
      · rw [dropped] at parts
        have reversed : before.reverse =
            farther.reverse ++ token :: (before.takeWhile isSpace).reverse := by
          simpa using (congrArg List.reverse parts).symm
        rw [← List.append_assoc, same, reversed]

/-- Where tags of the given kinds stand before a run, they are taken. -/
theorem takeBefore?_of_spacedAfter (kinds : List Kind) {tokens : List Token}
    (shaped : SpacedAfter kinds.reverse tokens) (dark : .space ∉ kinds) (farther : List Token) :
    takeBefore? kinds (tokens.reverse ++ farther) = some ⟨tokens, farther⟩ := by
  induction kinds generalizing tokens farther with
  | nil =>
    cases shaped
    rfl
  | cons kind kinds inductionHypothesis =>
    rw [List.reverse_cons] at shaped
    obtain ⟨outer, nearest, rfl, isOuter, isNearest⟩ := shaped.split kinds.reverse
    obtain ⟨token, spaces, rfl, rfl, spaced⟩ := spacedAfter_singleton_iff.mp isNearest
    rw [List.mem_cons, not_or] at dark
    have reversed : AllSpace spaces.reverse := fun space member =>
      spaced space (List.mem_reverse.mp member)
    have shape : (outer ++ token :: spaces).reverse ++ farther =
        spaces.reverse ++ token :: (outer.reverse ++ farther) := by simp
    obtain ⟨spacesTaken, restLeft⟩ :=
      takeWhile_isSpace reversed (fun white => dark.1 white.symm) (outer.reverse ++ farther)
    rw [shape]
    simp only [takeBefore?, spacesTaken, restLeft]
    rw [inductionHypothesis isOuter dark.2]
    simp

/-- Where another tag stands before a run, nothing is taken. -/
theorem takeBefore?_eq_none {kind stands : Kind} {kinds : List Kind} {tokens : List Token}
    (shaped : SpacedAfter [stands] tokens) (dark : stands ≠ .space) (apart : stands ≠ kind)
    (farther : List Token) : takeBefore? (kind :: kinds) (tokens.reverse ++ farther) = none := by
  obtain ⟨token, spaces, rfl, rfl, spaced⟩ := spacedAfter_singleton_iff.mp shaped
  have reversed : AllSpace spaces.reverse := fun space member =>
    spaced space (List.mem_reverse.mp member)
  have shape : (token :: spaces).reverse ++ farther = spaces.reverse ++ token :: farther := by simp
  obtain ⟨spacesTaken, restLeft⟩ := takeWhile_isSpace reversed dark farther
  rw [shape]
  simp [takeBefore?, restLeft, apart]

/-! ## Taking groups after a run -/

theorem takeAfter?_spec {kind : Kind} {after : List Token} {split : Split}
    (taken : takeAfter? kind after = some split) :
    SpacedBefore [kind] split.taken ∧ split.taken ++ split.left = after := by
  have parts := List.takeWhile_append_dropWhile (p := isSpace) (l := after)
  unfold takeAfter? at taken
  split at taken
  · simp at taken
  · rename_i token farther dropped
    simp only [beq_iff_eq, Option.ite_none_right_eq_some, Option.some.injEq] at taken
    obtain ⟨rfl, rfl⟩ := taken
    refine ⟨.cons token (allSpace_takeWhile after) .nil, ?_⟩
    rw [dropped] at parts
    simpa using parts

/-- Where a tag of the given kind stands after a run, it is taken. -/
theorem takeAfter?_of_spacedBefore {kind : Kind} {tokens : List Token}
    (shaped : SpacedBefore [kind] tokens) (dark : kind ≠ .space) (farther : List Token) :
    takeAfter? kind (tokens ++ farther) = some ⟨tokens, farther⟩ := by
  obtain ⟨spaces, token, rfl, rfl, spaced⟩ := spacedBefore_singleton_iff.mp shaped
  obtain ⟨spacesTaken, restLeft⟩ := takeWhile_isSpace spaced dark farther
  rw [List.append_assoc, List.singleton_append]
  simp [takeAfter?, spacesTaken, restLeft]

/-- Where another tag stands after a run, nothing is taken. -/
theorem takeAfter?_eq_none {kind stands : Kind} {tokens : List Token}
    (shaped : SpacedBefore [stands] tokens) (dark : stands ≠ .space) (apart : stands ≠ kind)
    (farther : List Token) : takeAfter? kind (tokens ++ farther) = none := by
  obtain ⟨spaces, token, rfl, rfl, spaced⟩ := spacedBefore_singleton_iff.mp shaped
  have restLeft := (takeWhile_isSpace spaced dark farther).2
  rw [List.append_assoc, List.singleton_append]
  simp [takeAfter?, restLeft, apart]

/-- Covered cells are taken as many as there are. -/
theorem takeCovered_spec (after : List Token) :
    (∃ count, SpacedBefore (List.replicate count .coveredCell) (takeCovered after).taken) ∧
      (takeCovered after).taken ++ (takeCovered after).left = after := by
  fun_induction takeCovered after with
  | case1 after none => exact ⟨⟨0, .nil⟩, rfl⟩
  | case2 after cell found more inductionHypothesis =>
    obtain ⟨shaped, same⟩ := takeAfter?_spec found
    obtain ⟨⟨count, shapedMore⟩, sameMore⟩ := inductionHypothesis
    refine ⟨⟨count + 1, ?_⟩, ?_⟩
    · rw [List.replicate_succ]
      exact shaped.append shapedMore
    · rw [List.append_assoc, sameMore, same]

theorem takeCovered_of_spacedBefore {count : Nat} {tokens farther : List Token}
    (shaped : SpacedBefore (List.replicate count .coveredCell) tokens)
    (ended : takeAfter? .coveredCell farther = none) :
    takeCovered (tokens ++ farther) = ⟨tokens, farther⟩ := by
  induction count generalizing tokens with
  | zero =>
    cases shaped
    rw [takeCovered]
    split
    · rfl
    · rename_i cell found
      rw [List.nil_append, ended] at found
      simp at found
  | succ count inductionHypothesis =>
    rw [List.replicate_succ] at shaped
    obtain ⟨cell, rest, rfl, isCell, isRest⟩ := shaped.split [.coveredCell]
    have cellTaken := takeAfter?_of_spacedBefore isCell (by decide) (rest ++ farther)
    rw [List.append_assoc, takeCovered]
    split
    · rename_i none
      rw [cellTaken] at none
      simp at none
    · rename_i split found
      rw [cellTaken, Option.some.injEq] at found
      subst found
      simp only [inductionHypothesis isRest]

theorem takeRowEnd?_spec {after : List Token} {split : Split}
    (taken : takeRowEnd? after = some split) :
    IsRowEnd split.taken ∧ split.taken ++ split.left = after := by
  unfold takeRowEnd? at taken
  split at taken
  · simp at taken
  · rename_i cell found
    obtain ⟨row, rowFound, rfl⟩ := Option.map_eq_some_iff.mp taken
    obtain ⟨isCell, cellParts⟩ := takeAfter?_spec found
    obtain ⟨isRow, rowParts⟩ := takeAfter?_spec rowFound
    obtain ⟨⟨count, isCovered⟩, coveredParts⟩ := takeCovered_spec cell.left
    refine ⟨⟨count, ?_⟩, ?_⟩
    · rw [List.append_assoc]
      exact isCell.append (isCovered.append isRow)
    · simp only [List.append_assoc]
      rw [rowParts, coveredParts, cellParts]

/-- Where the end of a row stands after a run, it is taken. -/
theorem takeRowEnd?_of_isRowEnd {tokens : List Token} (ended : IsRowEnd tokens)
    (farther : List Token) : takeRowEnd? (tokens ++ farther) = some ⟨tokens, farther⟩ := by
  obtain ⟨count, shaped⟩ := ended
  obtain ⟨cell, rest, rfl, isCell, isRest⟩ := shaped.split [.cellClose]
  obtain ⟨covered, row, rfl, isCovered, isRow⟩ :=
    isRest.split (List.replicate count .coveredCell)
  have cellTaken := takeAfter?_of_spacedBefore isCell (by decide) (covered ++ (row ++ farther))
  have rowTaken := takeAfter?_of_spacedBefore isRow (by decide) farther
  have noCell : takeAfter? .coveredCell (row ++ farther) = none :=
    takeAfter?_eq_none isRow (by decide) (by decide) farther
  have coveredTaken := takeCovered_of_spacedBefore isCovered noCell
  simp only [List.append_assoc, takeRowEnd?, cellTaken, coveredTaken, rowTaken, Option.map_some]

/-! ## The groups together -/

/-- The tokens that the groups of a match can hold. -/
structure Taken.Shaped (taken : Taken) : Prop where
  rowStart : taken.rowStart = [] ∨ SpacedAfter [.rowOpen, .cellOpen] taken.rowStart
  itemStart : taken.itemStart = [] ∨ SpacedAfter [.itemOpen] taken.itemStart
  paragraphStart : taken.paragraphStart = [] ∨ SpacedAfter [.paragraphOpen] taken.paragraphStart
  spanEnd : taken.spanEnd = [] ∨ SingleTag .spanClose taken.spanEnd
  spanStart : taken.spanStart = [] ∨ SingleTag .spanOpen taken.spanStart
  paragraphEnd : taken.paragraphEnd = [] ∨ SpacedBefore [.paragraphClose] taken.paragraphEnd
  itemEnd : taken.itemEnd = [] ∨ SpacedBefore [.itemClose] taken.itemEnd
  rowEnd : taken.rowEnd = [] ∨ IsRowEnd taken.rowEnd

/-- A group that may not have been found is empty or has the shape of what was found. -/
theorem takenBy_shaped {shape : List Token → Prop} {split : Option Split}
    (shaped : ∀ found, split = some found → shape found.taken) :
    takenBy split = [] ∨ shape (takenBy split) := by
  cases split with
  | none => exact Or.inl rfl
  | some found => exact Or.inr (shaped found rfl)

theorem leftBy_append_takenBy {split : Option Split} {before : List Token}
    (parts : ∀ found, split = some found → found.left.reverse ++ found.taken = before.reverse) :
    (leftBy split before).reverse ++ takenBy split = before.reverse := by
  cases split with
  | none => exact List.append_nil _
  | some found => exact parts found rfl

theorem takenBy_append_leftBy {split : Option Split} {after : List Token}
    (parts : ∀ found, split = some found → found.taken ++ found.left = after) :
    takenBy split ++ leftBy split after = after := by
  cases split with
  | none => rfl
  | some found => exact parts found rfl

/-- What touches a run is one token that was asked for. -/
theorem takeTouching?_spec {accept : List Token → Bool} {tokens : List Token} {split : Split}
    (taken : takeTouching? accept tokens = some split) :
    ∃ token, split.taken = [token] ∧ tokens = token :: split.left ∧ accept tokens = true := by
  cases tokens with
  | nil => simp [takeTouching?] at taken
  | cons token rest =>
    simp only [takeTouching?, Option.ite_none_right_eq_some, Option.some.injEq] at taken
    obtain ⟨accepted, rfl⟩ := taken
    exact ⟨token, rfl, rfl, accepted⟩

/-- The groups before a run and what is left before them are what stood there. -/
theorem surround_lead (styles : Option Table) (before after : List Token) :
    (surround styles before after).before.reverse ++ (surround styles before after).taken.lead =
      before.reverse := by
  simp only [surround, Taken.lead]
  rw [← List.append_assoc, ← List.append_assoc, ← List.append_assoc,
    leftBy_append_takenBy fun _ found => (takeBefore?_spec found).2,
    leftBy_append_takenBy fun _ found => (takeBefore?_spec found).2,
    leftBy_append_takenBy fun _ found => (takeBefore?_spec found).2,
    leftBy_append_takenBy]
  intro split found
  obtain ⟨token, taken, same, _⟩ := takeTouching?_spec found
  rw [taken, same, List.reverse_cons]

/-- The groups after a run and what is left after them are what stood there. -/
theorem surround_trail (styles : Option Table) (before after : List Token) :
    (surround styles before after).taken.trail ++ (surround styles before after).after = after := by
  simp only [surround, Taken.trail, List.append_assoc]
  rw [takenBy_append_leftBy fun _ found => (takeRowEnd?_spec found).2,
    takenBy_append_leftBy fun _ found => (takeAfter?_spec found).2,
    takenBy_append_leftBy fun _ found => (takeAfter?_spec found).2,
    takenBy_append_leftBy]
  intro split found
  obtain ⟨token, taken, same, _⟩ := takeTouching?_spec found
  rw [taken, same, List.singleton_append]

theorem takeTouching?_spanClose {before : List Token} {split : Split}
    (taken : takeTouching? beginsWithSpanClose before = some split) :
    SingleTag .spanClose split.taken := by
  obtain ⟨token, isToken, rfl, accepted⟩ := takeTouching?_spec taken
  exact ⟨token, isToken, by simpa [beginsWithSpanClose] using accepted⟩

theorem takeTouching?_spanOpen {styles : Option Table} {after : List Token} {split : Split}
    (taken : takeTouching? (beginsWithNeighbour styles) after = some split) :
    SingleTag .spanOpen split.taken := by
  obtain ⟨token, isToken, rfl, accepted⟩ := takeTouching?_spec taken
  simp only [beginsWithNeighbour, Bool.and_eq_true, beq_iff_eq] at accepted
  exact ⟨token, isToken, accepted.1⟩

/-- The groups around a run have their shapes. -/
theorem surround_shaped (styles : Option Table) (before after : List Token) :
    (surround styles before after).taken.Shaped where
  rowStart := takenBy_shaped fun _ found => (takeBefore?_spec found).1
  itemStart := takenBy_shaped fun _ found => (takeBefore?_spec found).1
  paragraphStart := takenBy_shaped fun _ found => (takeBefore?_spec found).1
  spanEnd := takenBy_shaped fun _ found => takeTouching?_spanClose found
  spanStart := takenBy_shaped fun _ found => takeTouching?_spanOpen found
  paragraphEnd := takenBy_shaped fun _ found => (takeAfter?_spec found).1
  itemEnd := takenBy_shaped fun _ found => (takeAfter?_spec found).1
  rowEnd := takenBy_shaped fun _ found => (takeRowEnd?_spec found).1

end FormLetter.Markup
