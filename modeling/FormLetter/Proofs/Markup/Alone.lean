import FormLetter.Proofs.Markup.Dropping
import FormLetter.Proofs.Markup.Floor

/-!
# Structures that hold one run

A structure is removed with a run exactly when the run is alone in it. Being alone is said of the
tokens before and after the run, without looking at groups: directly around the run, apart from
white space, stand the tags of its paragraph, around these those of the item, and around these those
of the only cell and of the row. Where such tags stand they are seen and taken, and where both ends
of a group were taken, nesting leaves nothing else between them.
-/

namespace FormLetter.Markup

open FormLetter.Style

/-! ## Being alone -/

/-- What stands before and after a place is the opening tag and the closing tag of an element that
holds, apart from white space, only this place, and then what stands around the element. -/
def OnlyIn (opens closes : Kind) (before after outerBefore outerAfter : List Token) : Prop :=
  ∃ start finish, before = outerBefore ++ start ∧ after = finish ++ outerAfter ∧
    SpacedAfter [opens] start ∧ SpacedBefore [closes] finish

/-- The paragraph around a run holds only the run. -/
def AloneInParagraph (before after : List Token) : Prop :=
  ∃ outerBefore outerAfter,
    OnlyIn .paragraphOpen .paragraphClose before after outerBefore outerAfter

/-- The paragraph around a run holds only the run, and the item around it only the paragraph. -/
def AloneInItem (before after : List Token) : Prop :=
  ∃ paragraphBefore paragraphAfter outerBefore outerAfter,
    OnlyIn .paragraphOpen .paragraphClose before after paragraphBefore paragraphAfter ∧
      OnlyIn .itemOpen .itemClose paragraphBefore paragraphAfter outerBefore outerAfter

/-- What stands before and after a place is the beginning of a row with one cell, and the end of
the cell, any covered cells and the end of the row. -/
def OnlyInRow (before after : List Token) : Prop :=
  ∃ outerBefore outerAfter start finish, before = outerBefore ++ start ∧
    after = finish ++ outerAfter ∧ SpacedAfter [.rowOpen, .cellOpen] start ∧ IsRowEnd finish

/-- The paragraph around a run holds only the run, and the row around it only the paragraph, in its
cell or in an item in its cell. -/
def AloneInRow (before after : List Token) : Prop :=
  ∃ paragraphBefore paragraphAfter,
    OnlyIn .paragraphOpen .paragraphClose before after paragraphBefore paragraphAfter ∧
      (OnlyInRow paragraphBefore paragraphAfter ∨
        ∃ itemBefore itemAfter,
          OnlyIn .itemOpen .itemClose paragraphBefore paragraphAfter itemBefore itemAfter ∧
            OnlyInRow itemBefore itemAfter)

theorem AloneInItem.inParagraph {before after : List Token} (alone : AloneInItem before after) :
    AloneInParagraph before after := by
  obtain ⟨paragraphBefore, paragraphAfter, _, _, inParagraph, _⟩ := alone
  exact ⟨paragraphBefore, paragraphAfter, inParagraph⟩

theorem AloneInRow.inParagraph {before after : List Token} (alone : AloneInRow before after) :
    AloneInParagraph before after := by
  obtain ⟨paragraphBefore, paragraphAfter, inParagraph, _⟩ := alone
  exact ⟨paragraphBefore, paragraphAfter, inParagraph⟩

/-! ## Where structures are seen -/

/-- Tokens that do not close a span begin with none that does. -/
theorem beginsWithSpanClose_eq_false {tokens rest : List Token} (some : tokens ≠ [])
    (noSpan : ∀ token ∈ tokens, token.kind ≠ .spanClose) :
    beginsWithSpanClose (tokens ++ rest) = false := by
  cases tokens with
  | nil => exact absurd rfl some
  | cons token more => simpa [beginsWithSpanClose] using noSpan token List.mem_cons_self

/-- Tokens that do not open a span begin with no neighbour. -/
theorem beginsWithNeighbour_eq_false {styles : Option Table} {tokens rest : List Token}
    (some : tokens ≠ []) (noSpan : ∀ token ∈ tokens, token.kind ≠ .spanOpen) :
    beginsWithNeighbour styles (tokens ++ rest) = false := by
  cases tokens with
  | nil => exact absurd rfl some
  | cons token more =>
    have apart := noSpan token List.mem_cons_self
    simp [beginsWithNeighbour, apart]

theorem takeTouching?_eq_none {accept : List Token → Bool} {tokens : List Token}
    (rejected : accept tokens = false) : takeTouching? accept tokens = none := by
  cases tokens with
  | nil => rfl
  | cons token rest => simp [takeTouching?, rejected]

/-- The groups outside of a paragraph that is taken. The tokens before it are given nearest
first. -/
def takenOutside (before after : List Token) : Taken where
  itemStart := takenBy (takeBefore? [.itemOpen] before)
  rowStart := takenBy
    (takeBefore? [.cellOpen, .rowOpen] (leftBy (takeBefore? [.itemOpen] before) before))
  itemEnd := takenBy (takeAfter? .itemClose after)
  rowEnd := takenBy (takeRowEnd? (leftBy (takeAfter? .itemClose after) after))

/-- Where the paragraph around a run holds only the run, it is taken, and no span is. -/
theorem surround_paragraph {styles : Option Table} {start finish : List Token}
    (isStart : SpacedAfter [.paragraphOpen] start)
    (isFinish : SpacedBefore [.paragraphClose] finish) (before after : List Token) :
    (surround styles (start.reverse ++ before) (finish ++ after)).taken =
      { takenOutside before after with paragraphStart := start, paragraphEnd := finish } := by
  have noSpanEnd : takeTouching? beginsWithSpanClose (start.reverse ++ before) = none := by
    obtain ⟨tag, member, _⟩ := isStart.exists_kind (by decide) List.mem_cons_self
    refine takeTouching?_eq_none (beginsWithSpanClose_eq_false
      (List.ne_nil_of_mem (List.mem_reverse.mpr member)) fun token inStart isSpan => ?_)
    have kind := isStart.kind_mem token (List.mem_reverse.mp inStart)
    rw [isSpan] at kind
    exact absurd kind (by decide)
  have noSpanStart : takeTouching? (beginsWithNeighbour styles) (finish ++ after) = none := by
    obtain ⟨tag, member, _⟩ := isFinish.exists_kind (by decide) List.mem_cons_self
    refine takeTouching?_eq_none (beginsWithNeighbour_eq_false
      (List.ne_nil_of_mem member) fun token inFinish isSpan => ?_)
    have kind := isFinish.kind_mem token inFinish
    rw [isSpan] at kind
    exact absurd kind (by decide)
  have startTaken : takeBefore? [.paragraphOpen] (start.reverse ++ before) = some ⟨start, before⟩ :=
    takeBefore?_of_spacedAfter [.paragraphOpen] isStart (by decide) before
  have finishTaken : takeAfter? .paragraphClose (finish ++ after) = some ⟨finish, after⟩ :=
    takeAfter?_of_spacedBefore isFinish (by decide) after
  simp only [surround, noSpanEnd, noSpanStart, startTaken, finishTaken, leftBy, takenBy,
    takenOutside]

/-- Where an item holds only the paragraph, it is taken, and the row is looked for around it. -/
theorem takenOutside_item {start finish : List Token} (isStart : SpacedAfter [.itemOpen] start)
    (isFinish : SpacedBefore [.itemClose] finish) (before after : List Token) :
    takenOutside (start.reverse ++ before) (finish ++ after) =
      { itemStart := start
        rowStart := takenBy (takeBefore? [.cellOpen, .rowOpen] before)
        itemEnd := finish
        rowEnd := takenBy (takeRowEnd? after) } := by
  have startTaken : takeBefore? [.itemOpen] (start.reverse ++ before) = some ⟨start, before⟩ :=
    takeBefore?_of_spacedAfter [.itemOpen] isStart (by decide) before
  have finishTaken : takeAfter? .itemClose (finish ++ after) = some ⟨finish, after⟩ :=
    takeAfter?_of_spacedBefore isFinish (by decide) after
  simp only [takenOutside, startTaken, finishTaken, takenBy, leftBy]

/-- Where a row and its only cell hold only the paragraph, they are taken. -/
theorem takenOutside_row {start finish : List Token}
    (isStart : SpacedAfter [.rowOpen, .cellOpen] start) (isFinish : IsRowEnd finish)
    (before after : List Token) :
    takenOutside (start.reverse ++ before) (finish ++ after) =
      { rowStart := start, rowEnd := finish } := by
  have noItemStart : takeBefore? [.itemOpen] (start.reverse ++ before) = none := by
    obtain ⟨row, cell, rfl, _, isCell⟩ := isStart.split [.rowOpen]
    rw [List.reverse_append, List.append_assoc]
    exact takeBefore?_eq_none isCell (by decide) (by decide) _
  have noItemEnd : takeAfter? .itemClose (finish ++ after) = none := by
    obtain ⟨count, ended⟩ := isFinish
    obtain ⟨cell, rest, rfl, isCell, _⟩ := ended.split [.cellClose]
    rw [List.append_assoc]
    exact takeAfter?_eq_none isCell (by decide) (by decide) _
  have startTaken : takeBefore? [.cellOpen, .rowOpen] (start.reverse ++ before) =
      some ⟨start, before⟩ :=
    takeBefore?_of_spacedAfter [.cellOpen, .rowOpen] isStart (by decide) before
  have finishTaken := takeRowEnd?_of_isRowEnd isFinish after
  simp only [takenOutside, noItemStart, noItemEnd, takenBy, leftBy, startTaken, finishTaken]

/-- Tags that open structures are no tags with which a match ends. -/
theorem SpacedAfter.unsealed {kinds : List Kind} {tokens : List Token}
    (shaped : SpacedAfter kinds tokens)
    (unsealed : ∀ kind ∈ Kind.space :: kinds, kind ∉ sealKinds) :
    ∀ token ∈ tokens, token.kind ∉ sealKinds :=
  fun token member => unsealed _ (shaped.kind_mem token member)

theorem SpacedAfter.ne_nil {kind : Kind} {kinds : List Kind} {tokens : List Token}
    (shaped : SpacedAfter (kind :: kinds) tokens) : tokens ≠ [] := by
  cases shaped
  exact List.cons_ne_nil _ _

theorem SpacedBefore.ne_nil {kind : Kind} {kinds : List Kind} {tokens : List Token}
    (shaped : SpacedBefore (kind :: kinds) tokens) : tokens ≠ [] := by
  cases shaped
  exact List.append_ne_nil_of_right_ne_nil _ (List.cons_ne_nil _ _)

section Seen

-- What is seen before a run is `visible`; the tokens `unseen` before it end with another match.
variable {unseen visible after : List Token}

/-- A paragraph that holds only the run is seen and taken. -/
theorem OnlyIn.sees_paragraph {styles : Option Table} {outerBefore outerAfter : List Token}
    (only : OnlyIn .paragraphOpen .paragraphClose (unseen ++ visible) after outerBefore outerAfter)
    (isUnseen : EndsSealed unseen) :
    ∃ more start finish, unseen ++ more = outerBefore ∧ start ≠ [] ∧ finish ≠ [] ∧
      (surround styles visible.reverse after).taken =
        { takenOutside more.reverse outerAfter with
          paragraphStart := start, paragraphEnd := finish } := by
  obtain ⟨start, finish, same, rfl, isStart, isFinish⟩ := only
  obtain ⟨more, rfl, isOuter⟩ := seen_of_unsealed isUnseen same (isStart.unsealed (by decide))
  refine ⟨more, start, finish, isOuter, isStart.ne_nil, isFinish.ne_nil, ?_⟩
  rw [List.reverse_append]
  exact surround_paragraph isStart isFinish more.reverse outerAfter

/-- An item that holds only the paragraph is seen and taken. -/
theorem OnlyIn.sees_item {outerBefore outerAfter : List Token}
    (only : OnlyIn .itemOpen .itemClose (unseen ++ visible) after outerBefore outerAfter)
    (isUnseen : EndsSealed unseen) :
    ∃ more start finish, unseen ++ more = outerBefore ∧ start ≠ [] ∧ finish ≠ [] ∧
      takenOutside visible.reverse after =
        { itemStart := start
          rowStart := takenBy (takeBefore? [.cellOpen, .rowOpen] more.reverse)
          itemEnd := finish
          rowEnd := takenBy (takeRowEnd? outerAfter) } := by
  obtain ⟨start, finish, same, rfl, isStart, isFinish⟩ := only
  obtain ⟨more, rfl, isOuter⟩ := seen_of_unsealed isUnseen same (isStart.unsealed (by decide))
  refine ⟨more, start, finish, isOuter, isStart.ne_nil, isFinish.ne_nil, ?_⟩
  rw [List.reverse_append]
  exact takenOutside_item isStart isFinish more.reverse outerAfter

/-- A row that holds only one cell with what stands between is seen, with or without an item. -/
theorem OnlyInRow.sees_row (only : OnlyInRow (unseen ++ visible) after)
    (isUnseen : EndsSealed unseen) :
    ∃ start finish, start ≠ [] ∧ finish ≠ [] ∧
      takenOutside visible.reverse after = { rowStart := start, rowEnd := finish } ∧
      takenBy (takeBefore? [.cellOpen, .rowOpen] visible.reverse) = start ∧
      takenBy (takeRowEnd? after) = finish := by
  obtain ⟨outerBefore, outerAfter, start, finish, same, rfl, isStart, isFinish⟩ := only
  obtain ⟨more, rfl, _⟩ := seen_of_unsealed isUnseen same (isStart.unsealed (by decide))
  have finishFound : finish ≠ [] := by
    obtain ⟨count, ended⟩ := isFinish
    exact ended.ne_nil
  refine ⟨start, finish, isStart.ne_nil, finishFound, ?_, ?_, ?_⟩
  · rw [List.reverse_append]
    exact takenOutside_row isStart isFinish more.reverse outerAfter
  · rw [List.reverse_append,
      takeBefore?_of_spacedAfter [.cellOpen, .rowOpen] isStart (by decide) more.reverse]
    rfl
  · rw [takeRowEnd?_of_isRowEnd isFinish outerAfter]
    rfl

end Seen

/-! ## Structures are removed exactly when a run is alone -/

/-- Where a run is alone in its paragraph, both tags are taken. -/
theorem AloneInParagraph.hasParagraph {styles : Option Table} {unseen visible after : List Token}
    (alone : AloneInParagraph (unseen ++ visible) after) (isUnseen : EndsSealed unseen) :
    (surround styles visible.reverse after).taken.hasParagraph = true := by
  obtain ⟨outerBefore, outerAfter, only⟩ := alone
  obtain ⟨more, start, finish, _, hasStart, hasFinish, taken⟩ := only.sees_paragraph isUnseen
  rw [taken]
  simp [Taken.hasParagraph, hasStart, hasFinish]

theorem AloneInItem.hasItem {styles : Option Table} {unseen visible after : List Token}
    (alone : AloneInItem (unseen ++ visible) after) (isUnseen : EndsSealed unseen) :
    (surround styles visible.reverse after).taken.hasItem = true := by
  obtain ⟨paragraphBefore, paragraphAfter, outerBefore, outerAfter, inParagraph, inItem⟩ := alone
  obtain ⟨more, _, _, rfl, _, _, taken⟩ := inParagraph.sees_paragraph isUnseen
  obtain ⟨_, start, finish, _, hasStart, hasFinish, outside⟩ := inItem.sees_item isUnseen
  rw [taken, outside]
  simp [Taken.hasItem, hasStart, hasFinish]

theorem AloneInRow.hasRow {styles : Option Table} {unseen visible after : List Token}
    (alone : AloneInRow (unseen ++ visible) after) (isUnseen : EndsSealed unseen) :
    (surround styles visible.reverse after).taken.hasRow = true := by
  obtain ⟨paragraphBefore, paragraphAfter, inParagraph, inRow⟩ := alone
  obtain ⟨more, _, _, rfl, _, _, taken⟩ := inParagraph.sees_paragraph isUnseen
  rw [taken]
  rcases inRow with inRow | ⟨itemBefore, itemAfter, inItem, inRow⟩
  · obtain ⟨start, finish, hasStart, hasFinish, outside, _, _⟩ := inRow.sees_row isUnseen
    rw [outside]
    simp [Taken.hasRow, hasStart, hasFinish]
  · obtain ⟨farther, _, _, rfl, _, _, outside⟩ := inItem.sees_item isUnseen
    obtain ⟨start, finish, hasStart, hasFinish, _, rowTaken, endTaken⟩ := inRow.sees_row isUnseen
    rw [outside, rowTaken, endTaken]
    simp [Taken.hasRow, hasStart, hasFinish]

section Taken

-- The groups of a match that a walk gets over, with what stands before and after them.
variable {taken : Taken} {opened closed : List (List Char)}

/-- Where both tags of the paragraph are taken, it holds only the run. -/
theorem Taken.Shaped.onlyInParagraph (shaped : taken.Shaped) (fit : taken.NamesFit opened closed)
    (both : taken.hasParagraph = true) (front back : List Token) :
    OnlyIn .paragraphOpen .paragraphClose (front ++ taken.lead) (taken.trail ++ back)
      (front ++ taken.rowStart ++ taken.itemStart) (taken.itemEnd ++ taken.rowEnd ++ back) := by
  obtain ⟨noEnd, noStart, _⟩ := fit.of_hasParagraph both
  rw [hasParagraph_iff] at both
  exact ⟨taken.paragraphStart, taken.paragraphEnd, by simp [lead, noEnd], by simp [trail, noStart],
    shaped.paragraphStart.resolve_left both.1, shaped.paragraphEnd.resolve_left both.2⟩

/-- Where both tags of the item are taken, it holds only the paragraph. -/
theorem Taken.Shaped.onlyInItem (shaped : taken.Shaped) (both : taken.hasItem = true)
    (front back : List Token) :
    OnlyIn .itemOpen .itemClose (front ++ taken.rowStart ++ taken.itemStart)
      (taken.itemEnd ++ taken.rowEnd ++ back) (front ++ taken.rowStart) (taken.rowEnd ++ back) := by
  rw [hasItem_iff] at both
  exact ⟨taken.itemStart, taken.itemEnd, rfl, by simp, shaped.itemStart.resolve_left both.1,
    shaped.itemEnd.resolve_left both.2⟩

/-- Where both ends of the row are taken, nothing else stands between them and the other groups. -/
theorem Taken.Shaped.onlyInRow (shaped : taken.Shaped) (both : taken.hasRow = true)
    (front back : List Token) :
    OnlyInRow (front ++ taken.rowStart) (taken.rowEnd ++ back) := by
  rw [hasRow_iff] at both
  exact ⟨front, back, taken.rowStart, taken.rowEnd, rfl, rfl, shaped.rowStart.resolve_left both.1,
    shaped.rowEnd.resolve_left both.2⟩

/-- Where the paragraph and both ends of the row are taken, the row holds only the paragraph, or
only an item with it. -/
theorem Taken.Shaped.aloneInRow (shaped : taken.Shaped) (fit : taken.NamesFit opened closed)
    (hasParagraph : taken.hasParagraph = true) (hasRow : taken.hasRow = true)
    (front back : List Token) : AloneInRow (front ++ taken.lead) (taken.trail ++ back) := by
  refine ⟨_, _, shaped.onlyInParagraph fit hasParagraph front back, ?_⟩
  have inRow := shaped.onlyInRow hasRow front back
  by_cases hasItem : taken.hasItem = true
  · exact Or.inr ⟨_, _, shaped.onlyInItem hasItem front back, inRow⟩
  · obtain ⟨_, _, outer⟩ := fit.of_hasParagraph hasParagraph
    obtain ⟨noStart, noEnd⟩ := outer.no_item hasRow (Bool.not_eq_true _ ▸ hasItem)
    rw [noStart, noEnd, List.append_nil, List.nil_append]
    exact Or.inl inRow

end Taken

/-- Structures collapse exactly around a run that is alone in them.

A run anywhere in a part that is well nested is met by a match. Its paragraph is dropped exactly
when it is a statement or a block and the paragraph holds only the run; the item exactly when it is
a statement that is alone in the paragraph and the item; the row exactly when it is a statement that
is alone in the paragraph and the row. What stands before and after the run is all of the part, so
earlier matches make no difference. -/
theorem collapse_iff_alone {styles : Table} {part : List Char} {before after : List Token}
    {run : Run} {role : Role} (nested : WellNested (tokenize part))
    (stands : tokenize part = before ++ (run.tokens ++ after))
    (begins : Run.start? styles (run.tokens ++ after) = some run)
    (isRole : styles.find? run.style = some (.role role)) :
    ∃ earlier found later, pieces styles part = earlier ++ .matched found :: later ∧
      found.run = run ∧
      earlier.flatMap Piece.tokens ++ found.taken.lead = before ∧
      found.taken.trail ++ later.flatMap Piece.tokens = after ∧
      (compile styles part).source =
        (earlier.flatMap Piece.layout ++ found.writtenBefore.map Place.plain).flatMap Place.write ++
          directive role run.code ++
          (found.writtenAfter.map Place.plain ++ later.flatMap Piece.layout).flatMap Place.write ∧
      (found.Drops .paragraphOpen .paragraphClose ↔
        (role = .code ∨ role = .block) ∧ AloneInParagraph before after) ∧
      (found.Drops .itemOpen .itemClose ↔ role = .code ∧ AloneInItem before after) ∧
      (found.Drops .rowOpen .rowClose ↔ role = .code ∧ AloneInRow before after) := by
  obtain ⟨found, isRun, ⟨earlier, later, isCut, isBefore, isAfter⟩, unseen, visible, isSplit,
    isUnseen, seen⟩ := scan_reaches [] endsSealed_nil stands begins
  rw [List.reverse_nil, List.nil_append] at isBefore
  rw [List.reverse_nil, List.nil_append, List.nil_append] at isSplit
  have member : .matched found ∈ pieces styles part := by
    rw [pieces, isCut]
    simp
  have regular := pieces_regular member
  have isMark : found.mark = .role role := regular.mark_of_find? (isRun ▸ isRole)
  obtain ⟨opened, closed, walked⟩ := walk_of_mem_pieces nested member
  have fit := regular.walk_tokens_iff.mp walked
  have shaped := regular.shaped
  refine ⟨earlier, found, later, isCut, isRun, isBefore, isAfter, ?_, ?_, ?_, ?_⟩
  · rw [compile_source, layout, pieces, isCut, ← isRun]
    simp [Piece.layout, Place.write, isMark]
  · rw [regular.drops_paragraph, regular.collapse_eq, isMark]
    simp only [Bool.and_eq_true, Bool.or_eq_true, beq_iff_eq, Mark.role.injEq]
    refine and_congr_right fun _ => ⟨fun both => ?_, fun alone => ?_⟩
    · rw [← isBefore, ← isAfter]
      exact ⟨_, _, shaped.onlyInParagraph fit both _ _⟩
    · rw [isSplit] at alone
      rw [seen]
      exact alone.hasParagraph isUnseen
  · rw [regular.drops_item, regular.collapse_eq, isMark]
    simp only [Bool.and_eq_true, beq_iff_eq, Mark.role.injEq, and_assoc]
    refine and_congr_right fun _ => ⟨fun both => ?_, fun alone => ?_⟩
    · obtain ⟨inParagraph, inItem⟩ := both
      rw [← isBefore, ← isAfter]
      exact ⟨_, _, _, _, shaped.onlyInParagraph fit inParagraph _ _, shaped.onlyInItem inItem _ _⟩
    · rw [isSplit] at alone
      rw [seen]
      exact ⟨alone.inParagraph.hasParagraph isUnseen, alone.hasItem isUnseen⟩
  · rw [regular.drops_row, regular.collapse_eq, isMark]
    simp only [Bool.and_eq_true, beq_iff_eq, Mark.role.injEq, and_assoc]
    refine and_congr_right fun _ => ⟨fun both => ?_, fun alone => ?_⟩
    · obtain ⟨inParagraph, inRow⟩ := both
      rw [← isBefore, ← isAfter]
      exact shaped.aloneInRow fit inParagraph inRow _ _
    · rw [isSplit] at alone
      rw [seen]
      exact ⟨alone.inParagraph.hasParagraph isUnseen, alone.hasRow isUnseen⟩

/-! ## A statement alone in a row -/

/-- Tags without white space between them. -/
theorem spacedAfter_tags {kinds : List Kind} {tokens : List Token}
    (same : tokens.map Token.kind = kinds) : SpacedAfter kinds tokens := by
  subst same
  induction tokens with
  | nil => exact .nil
  | cons token rest inductionHypothesis =>
    exact .cons token (fun _ member => absurd member List.not_mem_nil) inductionHypothesis

theorem spacedBefore_tags {kinds : List Kind} {tokens : List Token}
    (same : tokens.map Token.kind = kinds) : SpacedBefore kinds tokens := by
  subst same
  induction tokens with
  | nil => exact .nil
  | cons token rest inductionHypothesis =>
    have none : AllSpace [] := fun _ member => absurd member List.not_mem_nil
    exact SpacedBefore.cons token none inductionHypothesis

/-- The tags before the run of `statementInRow`. -/
def rowFront : List Token :=
  [⟨.rowOpen, "<table:table-row>".toList⟩, ⟨.cellOpen, "<table:table-cell>".toList⟩,
    ⟨.paragraphOpen, "<text:p>".toList⟩]

/-- The tags after the run of `statementInRow`. -/
def rowBack : List Token :=
  [⟨.paragraphClose, "</text:p>".toList⟩, ⟨.cellClose, "</table:table-cell>".toList⟩,
    ⟨.coveredCell, "<table:covered-table-cell/>".toList⟩, ⟨.rowClose, "</table:table-row>".toList⟩]

/-- The run of `statementInRow`. -/
def rowStatement : Run :=
  ⟨⟨.spanOpen, "<text:span text:style-name='C'>".toList⟩, [⟨.text, "if x".toList⟩],
    ⟨.spanClose, "</text:span>".toList⟩⟩

/-- A row with a covered cell, in which a statement stands alone, after another statement. -/
def statementInRow : List Char :=
  ["<text:p>", "<text:span text:style-name='C'>", "for y in z", "</text:span>", "</text:p>",
    "<table:table-row>", "<table:table-cell>", "<text:p>", "<text:span text:style-name='C'>",
    "if x", "</text:span>", "</text:p>", "</table:table-cell>", "<table:covered-table-cell/>",
    "</table:table-row>"].flatMap String.toList

/-- What stands before the row of `statementInRow`. -/
def beforeRow : List Token :=
  [⟨.paragraphOpen, "<text:p>".toList⟩, ⟨.spanOpen, "<text:span text:style-name='C'>".toList⟩,
    ⟨.text, "for y in z".toList⟩, ⟨.spanClose, "</text:span>".toList⟩,
    ⟨.paragraphClose, "</text:p>".toList⟩]

/-- The row of `statementInRow` is dropped with its statement. -/
theorem collapse_iff_alone_statementInRow :
    WellNested (tokenize statementInRow) ∧
      tokenize statementInRow = (beforeRow ++ rowFront) ++ (rowStatement.tokens ++ rowBack) ∧
      Run.start? [("C", .role .code)] (rowStatement.tokens ++ rowBack) = some rowStatement ∧
      Table.find? [("C", .role .code)] rowStatement.style = some (.role .code) ∧
      ∃ found : Match, .matched found ∈ pieces [("C", .role .code)] statementInRow ∧
        found.run = rowStatement ∧ found.Drops .rowOpen .rowClose := by
  have nested : WellNested (tokenize statementInRow) := by decide +kernel
  have stands : tokenize statementInRow =
      (beforeRow ++ rowFront) ++ (rowStatement.tokens ++ rowBack) := by decide +kernel
  have begins : Run.start? [("C", .role .code)] (rowStatement.tokens ++ rowBack) =
      some rowStatement := by decide +kernel
  have isRole : Table.find? [("C", .role .code)] rowStatement.style = some (.role .code) := by
    decide +kernel
  have alone : AloneInRow (beforeRow ++ rowFront) rowBack :=
    ⟨beforeRow ++ rowFront.take 2, rowBack.drop 1,
      ⟨rowFront.drop 2, rowBack.take 1, rfl, rfl, spacedAfter_tags rfl, spacedBefore_tags rfl⟩,
      Or.inl ⟨beforeRow, [], rowFront.take 2, rowBack.drop 1, rfl, rfl, spacedAfter_tags rfl,
        1, spacedBefore_tags rfl⟩⟩
  obtain ⟨earlier, found, later, isCut, isRun, _, _, _, _, _, dropsRow⟩ :=
    collapse_iff_alone nested stands begins isRole
  refine ⟨nested, stands, begins, isRole, found, ?_, isRun, dropsRow.mpr ⟨rfl, alone⟩⟩
  rw [isCut]
  simp

end FormLetter.Markup
