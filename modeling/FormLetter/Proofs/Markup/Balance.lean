import FormLetter.Proofs.Markup.Groups

/-!
# A match keeps the nesting

A walk over a match says which names its groups have in common, and these are the names that may be
removed: a paragraph that is opened and closed around the run leaves no place for neighbouring
spans, an item or a row that is removed with it is closed by the tags that opened it, and a span
that is joined is closed where a span is opened.
-/

namespace FormLetter.Markup

open FormLetter.Style

/-! ## Structures that are removed -/

/-- True when both tags of the paragraph were found around a run. -/
def Taken.hasParagraph (taken : Taken) : Bool :=
  !taken.paragraphStart.isEmpty && !taken.paragraphEnd.isEmpty

theorem Taken.hasParagraph_iff {taken : Taken} :
    taken.hasParagraph = true ↔ taken.paragraphStart ≠ [] ∧ taken.paragraphEnd ≠ [] := by
  simp [hasParagraph]

/-- True when both tags of the list item were found around a run. -/
def Taken.hasItem (taken : Taken) : Bool :=
  !taken.itemStart.isEmpty && !taken.itemEnd.isEmpty

theorem Taken.hasItem_iff {taken : Taken} :
    taken.hasItem = true ↔ taken.itemStart ≠ [] ∧ taken.itemEnd ≠ [] := by
  simp [hasItem]

/-- True when both ends of the row were found around a run. -/
def Taken.hasRow (taken : Taken) : Bool :=
  !taken.rowStart.isEmpty && !taken.rowEnd.isEmpty

theorem Taken.hasRow_iff {taken : Taken} :
    taken.hasRow = true ↔ taken.rowStart ≠ [] ∧ taken.rowEnd ≠ [] := by
  simp [hasRow]

namespace Match

/-- What is removed around a match: a statement takes its paragraph and with it the item and the
row, a block only its paragraph, each when both its ends were found. -/
theorem Regular.collapse_eq {styles : Table} {found : Match} (regular : found.Regular styles) :
    found.collapse =
      { paragraph := (found.mark == .role .code || found.mark == .role .block) &&
          found.taken.hasParagraph
        item := found.mark == .role .code && found.taken.hasParagraph && found.taken.hasItem
        row := found.mark == .role .code && found.taken.hasParagraph && found.taken.hasRow } := by
  have present (group : List Token) (inside : ∀ token ∈ group, token ∈ found.tokens) :
      isPresent (Taken.text? group) = !group.isEmpty :=
    isPresent_text? fun token member => (regular.genuine token (inside token member)).text_ne_nil
  have paragraphStart := present found.taken.paragraphStart fun token member => by
    simp [Match.tokens, Taken.lead, member]
  have paragraphEnd := present found.taken.paragraphEnd fun token member => by
    simp [Match.tokens, Taken.trail, member]
  have itemStart := present found.taken.itemStart fun token member => by
    simp [Match.tokens, Taken.lead, member]
  have itemEnd := present found.taken.itemEnd fun token member => by
    simp [Match.tokens, Taken.trail, member]
  have rowStart := present found.taken.rowStart fun token member => by
    simp [Match.tokens, Taken.lead, member]
  have rowEnd := present found.taken.rowEnd fun token member => by
    simp [Match.tokens, Taken.trail, member]
  unfold Match.collapse
  split
  · rename_i role isRole
    rw [isRole]
    simp only [Groups.collapse, Taken.groups, paragraphStart, paragraphEnd, itemStart, itemEnd,
      rowStart, rowEnd, Taken.hasParagraph, Taken.hasItem, Taken.hasRow]
    cases role <;> simp [Bool.and_assoc]
  · rename_i label isUnknown
    rw [isUnknown]
    rfl

end Match

/-- The names of the item and of the row around a paragraph fit together. -/
def Taken.OuterNamesFit (taken : Taken) (opened closed : List (List Char)) : Prop :=
  namesOf taken.itemStart [itemName] ++ (namesOf taken.rowStart [cellName, rowName] ++ opened) =
    namesOf taken.itemEnd [itemName] ++ (namesOf taken.rowEnd [cellName, rowName] ++ closed)

/-- A paragraph that is opened and closed around a run leaves no place for neighbouring spans. -/
theorem Taken.NamesFit.of_hasParagraph {taken : Taken} {opened closed : List (List Char)}
    (fit : taken.NamesFit opened closed) (both : taken.hasParagraph = true) :
    taken.spanEnd = [] ∧ taken.spanStart = [] ∧ taken.OuterNamesFit opened closed := by
  obtain ⟨between, front, back⟩ := fit
  rw [hasParagraph_iff] at both
  simp only [groupNames, namesOf_of_ne_nil both.1, List.cons_append, List.nil_append,
    List.append_assoc] at front
  simp only [groupNames, namesOf_of_ne_nil both.2, List.cons_append, List.nil_append,
    List.append_assoc] at back
  have noEnd : taken.spanEnd = [] := by
    by_contra isFound
    rw [namesOf_of_ne_nil isFound, List.singleton_append, List.cons.injEq] at front
    exact absurd front.1 (by decide)
  rw [noEnd, namesOf_nil, List.nil_append] at front
  subst front
  have noStart : taken.spanStart = [] := by
    by_contra isFound
    rw [namesOf_of_ne_nil isFound, List.singleton_append, List.cons.injEq] at back
    exact absurd back.1 (by decide)
  rw [noStart, namesOf_nil, List.nil_append, List.cons.injEq] at back
  exact ⟨noEnd, noStart, back.2⟩

/-- Around a paragraph without neighbouring spans, names fit when those outside of it do. -/
theorem Taken.NamesFit.of_outer {taken : Taken} {opened closed : List (List Char)}
    (both : taken.hasParagraph = true) (noEnd : taken.spanEnd = []) (noStart : taken.spanStart = [])
    (fit : taken.OuterNamesFit opened closed) : taken.NamesFit opened closed := by
  rw [hasParagraph_iff] at both
  refine ⟨groupNames taken.paragraphStart taken.itemStart taken.rowStart ++ opened, ?_, ?_⟩
  · rw [noEnd]
    rfl
  · rw [noStart, namesOf_nil, List.nil_append, groupNames, groupNames, namesOf_of_ne_nil both.1,
      namesOf_of_ne_nil both.2]
    simpa [OuterNamesFit] using fit

/-- The names that are left of the item and of the row fit together, when each is removed of which
both ends were found. -/
def Taken.OuterNamesLeft (taken : Taken) (removing : Bool) (opened closed : List (List Char)) :
    Prop :=
  namesOf (kept taken.itemStart (removing && taken.hasItem)) [itemName] ++
      (namesOf (kept taken.rowStart (removing && taken.hasRow)) [cellName, rowName] ++ opened) =
    namesOf (kept taken.itemEnd (removing && taken.hasItem)) [itemName] ++
      (namesOf (kept taken.rowEnd (removing && taken.hasRow)) [cellName, rowName] ++ closed)

/-- Removing an item and a row leaves names that fit. An item with one end keeps the row from having
two, since a cell is no item. -/
theorem Taken.OuterNamesFit.left {taken : Taken} {opened closed : List (List Char)}
    (fit : taken.OuterNamesFit opened closed) (removing : Bool) :
    taken.OuterNamesLeft removing opened closed := by
  have apart : cellName ≠ itemName := by decide
  cases removing with
  | false => exact fit
  | true =>
    simp only [OuterNamesFit, OuterNamesLeft, Bool.true_and, hasItem, hasRow] at fit ⊢
    by_cases noItemStart : taken.itemStart = [] <;> by_cases noItemEnd : taken.itemEnd = [] <;>
      by_cases noRowStart : taken.rowStart = [] <;> by_cases noRowEnd : taken.rowEnd = [] <;>
      simp_all [namesOf, kept]

/-- Names that are left of an item and a row fit only if the names did, when these fit around
something else. -/
theorem Taken.OuterNamesLeft.fit {taken : Taken} {removing : Bool}
    {opened closed others ends : List (List Char)}
    (left : taken.OuterNamesLeft removing opened closed) (fit : taken.OuterNamesFit others ends) :
    taken.OuterNamesFit opened closed := by
  have apart : cellName ≠ itemName := by decide
  cases removing with
  | false => exact left
  | true =>
    simp only [OuterNamesFit, OuterNamesLeft, Bool.true_and, hasItem, hasRow] at fit left ⊢
    by_cases noItemStart : taken.itemStart = [] <;> by_cases noItemEnd : taken.itemEnd = [] <;>
      by_cases noRowStart : taken.rowStart = [] <;> by_cases noRowEnd : taken.rowEnd = [] <;>
      simp_all [namesOf, kept]

/-- Between both ends of a row no end of an item stands alone. -/
theorem Taken.OuterNamesFit.no_item {taken : Taken} {opened closed : List (List Char)}
    (fit : taken.OuterNamesFit opened closed) (hasRow : taken.hasRow = true)
    (noItem : taken.hasItem = false) : taken.itemStart = [] ∧ taken.itemEnd = [] := by
  have apart : cellName ≠ itemName := by decide
  simp only [Taken.hasRow, Taken.hasItem, Bool.and_eq_true, Bool.not_eq_true',
    List.isEmpty_eq_false_iff, Bool.and_eq_false_iff, Bool.not_eq_false',
    List.isEmpty_iff] at hasRow noItem
  simp only [OuterNamesFit, namesOf_of_ne_nil hasRow.1, namesOf_of_ne_nil hasRow.2] at fit
  by_cases noStart : taken.itemStart = [] <;> by_cases noEnd : taken.itemEnd = []
  · exact ⟨noStart, noEnd⟩
  · simp [noStart, namesOf_of_ne_nil noEnd, apart] at fit
  · simp [noEnd, namesOf_of_ne_nil noStart, Ne.symm apart] at fit
  · exact absurd noItem (by simp [noStart, noEnd])

/-! ## Nesting of a match -/

/-- Tokens that a walk comes out of as it went in can be left out. -/
theorem walk_without {inner : List Token} (closedInside : ∀ opened, walk opened inner = some opened)
    (opened : List (List Char)) (left right : List Token) :
    walk opened (left ++ inner ++ right) = walk opened (left ++ right) := by
  rw [walk_append, walk_append, walk_append, Option.bind_assoc]
  simp only [closedInside, Option.bind_some]

/-- A run leaves the open elements as they are. -/
theorem Run.Fits.walk_tokens {styles : Table} {run : Run} (fits : run.Fits styles)
    (genuine : ∀ token ∈ run.tokens, token.Genuine) (opened : List (List Char)) :
    walk opened run.tokens = some opened := by
  have opening : bracketOf run.opening.text = .opens spanName :=
    (genuine run.opening (by simp [Run.tokens])).bracket (by rw [fits.opening]; rfl)
  have closing : bracketOf run.closing.text = .closes spanName :=
    (genuine run.closing (by simp [Run.tokens])).bracket (by rw [fits.closing]; rfl)
  have inner : walk (spanName :: opened) run.inner = some (spanName :: opened) := by
    apply walk_of_neither
    intro token member
    have content := fits.inner token member
    have isGenuine := genuine token (by simp [Run.tokens, member])
    simp only [Run.isContent, Bool.or_eq_true, beq_iff_eq] at content
    rcases content with (isText | isSpace) | isTyped
    · exact isGenuine.bracket (by rw [isText]; rfl)
    · exact isGenuine.bracket (by rw [isSpace]; rfl)
    · exact isGenuine.bracket (by rw [isTyped]; rfl)
  rw [Run.tokens, walk_cons, opening]
  change walk (spanName :: opened) (run.inner ++ [run.closing]) = some opened
  refine walk_append_of inner ?_
  rw [walk_cons, closing]
  simp [Bracket.step]

namespace Match

theorem Regular.bracketed {styles : Table} {found : Match} (regular : found.Regular styles) :
    found.taken.Bracketed := by
  apply regular.shaped.bracketed
  intro token member
  apply regular.genuine token
  simp only [Match.tokens, List.mem_append] at member ⊢
  rcases member with inLead | inTrail
  · exact Or.inl (Or.inl inLead)
  · exact Or.inr inTrail

/-- A match can be walked over exactly when the names of its groups fit together. -/
theorem Regular.walk_tokens_iff {styles : Table} {found : Match} (regular : found.Regular styles)
    {opened closed : List (List Char)} :
    walk opened found.tokens = some closed ↔ found.taken.NamesFit opened closed := by
  have run (opened : List (List Char)) : walk opened found.run.tokens = some opened :=
    regular.fits.walk_tokens (fun token member => regular.genuine token (by
      simp [Match.tokens, member])) opened
  rw [Match.tokens, walk_without run]
  exact regular.bracketed.walk_iff

theorem joins_iff (found : Match) :
    found.joins = true ↔
      found.mark = .role .code ∧ found.taken.spanEnd ≠ [] ∧ found.taken.spanStart ≠ [] := by
  simp [joins, and_assoc]

/-- A paragraph that is removed has both its tags around the run. -/
theorem Regular.hasParagraph_of_collapse {styles : Table} {found : Match}
    (regular : found.Regular styles) (removed : found.collapse.paragraph = true) :
    found.taken.hasParagraph = true := by
  rw [regular.collapse_eq, Bool.and_eq_true] at removed
  exact removed.2

/-- Where the paragraph stays, the item and the row stay. -/
theorem Regular.collapse_of_paragraph {styles : Table} {found : Match}
    (regular : found.Regular styles) (stays : found.collapse.paragraph = false) :
    found.collapse.item = false ∧ found.collapse.row = false := by
  rw [regular.collapse_eq] at stays ⊢
  simp only [Bool.and_eq_false_iff, Bool.or_eq_false_iff] at stays ⊢
  rcases stays with ⟨notCode, _⟩ | missing
  · exact ⟨Or.inl (Or.inl notCode), Or.inl (Or.inl notCode)⟩
  · exact ⟨Or.inl (Or.inr missing), Or.inl (Or.inr missing)⟩

/-- The tags of neighbouring spans that are written around a directive. -/
theorem spans_eq (found : Match) :
    found.spansBefore ++ found.spansAfter =
      kept found.taken.spanEnd found.joins ++ kept found.taken.spanStart found.joins := by
  unfold spansBefore spansAfter
  split
  · rfl
  · rename_i role notCode isRole
    have apart : found.joins = false := by
      simpa [joins, isRole] using fun isCode => absurd isCode notCode
    rw [apart]
    by_cases empty : found.taken.spanEnd.isEmpty
    · simp [kept, List.isEmpty_iff.mp empty]
    · simp [kept, empty]
  · rename_i label isUnknown
    simp [joins, isUnknown, kept]

/-- The groups of a match without what is removed. -/
def remaining (found : Match) : Taken where
  rowStart := kept found.taken.rowStart found.collapse.row
  itemStart := kept found.taken.itemStart found.collapse.item
  paragraphStart := kept found.taken.paragraphStart found.collapse.paragraph
  spanEnd := kept found.taken.spanEnd found.joins
  spanStart := kept found.taken.spanStart found.joins
  paragraphEnd := kept found.taken.paragraphEnd found.collapse.paragraph
  itemEnd := kept found.taken.itemEnd found.collapse.item
  rowEnd := kept found.taken.rowEnd found.collapse.row

/-- What is written around a directive is what remains of the groups. -/
theorem written_eq (found : Match) :
    found.writtenBefore ++ found.writtenAfter = found.remaining.lead ++ found.remaining.trail := by
  calc found.writtenBefore ++ found.writtenAfter
      = found.openings ++ (found.spansBefore ++ found.spansAfter) ++ found.closings := by
        simp [writtenBefore, writtenAfter]
    _ = found.remaining.lead ++ found.remaining.trail := by
        rw [spans_eq]
        simp [openings, closings, remaining, Taken.lead, Taken.trail]

theorem Regular.bracketed_remaining {styles : Table} {found : Match}
    (regular : found.Regular styles) : found.remaining.Bracketed where
  rowStart := opensAll_kept regular.bracketed.rowStart
  itemStart := opensAll_kept regular.bracketed.itemStart
  paragraphStart := opensAll_kept regular.bracketed.paragraphStart
  spanEnd := closesAll_kept regular.bracketed.spanEnd
  spanStart := opensAll_kept regular.bracketed.spanStart
  paragraphEnd := closesAll_kept regular.bracketed.paragraphEnd
  itemEnd := closesAll_kept regular.bracketed.itemEnd
  rowEnd := closesAll_kept regular.bracketed.rowEnd

/-- Where neither the paragraph nor the spans are removed, all of the groups remain. -/
theorem Regular.remaining_eq {styles : Table} {found : Match} (regular : found.Regular styles)
    (stays : found.collapse.paragraph = false) (apart : found.joins = false) :
    found.remaining = found.taken := by
  obtain ⟨noItem, noRow⟩ := regular.collapse_of_paragraph stays
  simp [remaining, stays, noItem, noRow, apart, kept]

/-- Where spans are joined, all groups but these spans remain. -/
theorem Regular.namesFit_remaining_joined {styles : Table} {found : Match}
    (regular : found.Regular styles) (stays : found.collapse.paragraph = false)
    (joined : found.joins = true) {opened closed : List (List Char)} :
    found.remaining.NamesFit opened closed ↔
      groupNames found.taken.paragraphStart found.taken.itemStart found.taken.rowStart ++ opened =
        groupNames found.taken.paragraphEnd found.taken.itemEnd found.taken.rowEnd ++ closed := by
  obtain ⟨noItem, noRow⟩ := regular.collapse_of_paragraph stays
  simp [Taken.NamesFit, remaining, stays, noItem, noRow, joined, kept]

/-- Where the paragraph is removed, what is left of the item and of the row remains. -/
theorem Regular.namesFit_remaining_removed {styles : Table} {found : Match}
    (regular : found.Regular styles) (removed : found.collapse.paragraph = true)
    (noEnd : found.taken.spanEnd = []) (noStart : found.taken.spanStart = [])
    {opened closed : List (List Char)} :
    found.remaining.NamesFit opened closed ↔
      found.taken.OuterNamesLeft (found.mark == .role .code) opened closed := by
  have both := regular.hasParagraph_of_collapse removed
  have item : found.collapse.item = (found.mark == .role .code && found.taken.hasItem) := by
    rw [regular.collapse_eq]
    simp [both]
  have row : found.collapse.row = (found.mark == .role .code && found.taken.hasRow) := by
    rw [regular.collapse_eq]
    simp [both]
  simp [Taken.NamesFit, Taken.OuterNamesLeft, groupNames, remaining, removed, noEnd, noStart, item,
    row, kept]

/-- Removing keeps names that fit together fitting. A paragraph that is opened and closed around the
run leaves no place for neighbouring spans; then an item or a row that is removed is closed by the
tags that opened it. Where the paragraph stays, only two spans can be removed, and the one that is
closed is replaced by the one that is opened. -/
theorem Regular.namesFit_remaining {styles : Table} {found : Match} (regular : found.Regular styles)
    {opened closed : List (List Char)} (fit : found.taken.NamesFit opened closed) :
    found.remaining.NamesFit opened closed := by
  cases removed : found.collapse.paragraph with
  | true =>
    obtain ⟨noEnd, noStart, outer⟩ := fit.of_hasParagraph (regular.hasParagraph_of_collapse removed)
    exact (regular.namesFit_remaining_removed removed noEnd noStart).mpr (outer.left _)
  | false =>
    cases joined : found.joins with
    | false =>
      rw [regular.remaining_eq removed joined]
      exact fit
    | true =>
      obtain ⟨between, front, back⟩ := fit
      have spans := found.joins_iff.mp joined
      rw [namesOf_of_ne_nil spans.2.1] at front
      rw [namesOf_of_ne_nil spans.2.2] at back
      exact (regular.namesFit_remaining_joined removed joined).mpr (front.trans back)

end Match

/-! ## Nesting of a part -/

/-- The tokens that are written for a piece, without its directive. -/
def Piece.erased (piece : Piece) : List Token :=
  piece.layout.flatMap Place.erased

theorem flatMap_erased_plain (tokens : List Token) :
    (tokens.map Place.plain).flatMap Place.erased = tokens := by
  simp [List.flatMap_map, Place.erased]

/-- A match with a role leaves what is written around its directive. -/
theorem Match.erased_of_role {found : Match} {role : Role} (isRole : found.mark = .role role) :
    (Piece.matched found).erased = found.writtenBefore ++ found.writtenAfter := by
  simp only [Piece.erased, Piece.layout, List.flatMap_append, List.flatMap_cons,
    flatMap_erased_plain, isRole, Place.erased, List.nil_append]

/-- A match without a role leaves everything. -/
theorem Match.erased_of_unknown {found : Match} {label : String}
    (isUnknown : found.mark = .unknown label) : (Piece.matched found).erased = found.tokens := by
  simp [Piece.erased, Piece.layout, flatMap_erased_plain, isUnknown, Place.erased,
    writtenBefore, writtenAfter, openings, closings, spansBefore, spansAfter, collapse, kept,
    Match.tokens, Taken.lead, Taken.trail]

/-- What a match leaves opens and closes what the match did. -/
theorem Match.Regular.walk_erased {styles : Table} {found : Match} (regular : found.Regular styles)
    {opened closed : List (List Char)} (walked : walk opened found.tokens = some closed) :
    walk opened (Piece.matched found).erased = some closed := by
  cases isMark : found.mark with
  | unknown label =>
    rw [found.erased_of_unknown isMark]
    exact walked
  | role role =>
    rw [found.erased_of_role isMark, written_eq]
    exact regular.bracketed_remaining.walk_iff.mpr
      (regular.namesFit_remaining (regular.walk_tokens_iff.mp walked))

/-- What pieces leave opens and closes what they did: by induction on the pieces, whatever is open
before each. -/
theorem walk_erased {styles : Table} {between : List Piece}
    (regular : ∀ found, .matched found ∈ between → found.Regular styles)
    {opened closed : List (List Char)}
    (walked : walk opened (between.flatMap Piece.tokens) = some closed) :
    walk opened (between.flatMap Piece.erased) = some closed := by
  induction between generalizing opened with
  | nil => exact walked
  | cons piece rest inductionHypothesis =>
    rw [List.flatMap_cons] at walked ⊢
    obtain ⟨after, walkedPiece, walkedRest⟩ := walk_append_some walked
    have pieceLeft : walk opened piece.erased = some after := by
      cases piece with
      | copied tokens =>
        rw [Piece.erased, Piece.layout, flatMap_erased_plain]
        exact walkedPiece
      | matched found => exact (regular found List.mem_cons_self).walk_erased walkedPiece
    exact walk_append_of pieceLeft
      (inductionHypothesis (fun found member => regular found (List.mem_cons_of_mem piece member))
        walkedRest)

/-- The layout without its directives is what the pieces leave. -/
theorem layout_erased (styles : Table) (part : List Char) :
    (layout styles part).flatMap Place.erased = (pieces styles part).flatMap Piece.erased := by
  rw [layout, List.flatMap_assoc]
  rfl

/-- A part whose tags are well nested has a layout whose tags are well nested. -/
theorem wellNested_layout (styles : Table) {part : List Char}
    (nested : WellNested (tokenize part)) :
    WellNested ((layout styles part).flatMap Place.erased) := by
  have regular : ∀ found, .matched found ∈ pieces styles part → found.Regular styles :=
    fun _ member => pieces_regular member
  rw [layout_erased]
  apply walk_erased regular
  rw [pieces_tokens]
  exact nested

/-- In a part that is well nested, a walk gets over every match. -/
theorem walk_of_mem_pieces {styles : Table} {part : List Char} {found : Match}
    (nested : WellNested (tokenize part)) (member : .matched found ∈ pieces styles part) :
    ∃ opened closed, walk opened found.tokens = some closed := by
  obtain ⟨earlier, later, isCut⟩ := List.append_of_mem member
  rw [← pieces_tokens styles part, isCut, List.flatMap_append, List.flatMap_cons] at nested
  obtain ⟨opened, _, fromHere⟩ := walk_append_some nested
  obtain ⟨closed, walked, _⟩ := walk_append_some fromHere
  exact ⟨opened, closed, walked⟩

end FormLetter.Markup
