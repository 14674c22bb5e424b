import FormLetter.Proofs.Markup.Balance
import FormLetter.Proofs.Markup.Floor

/-!
# What statements enclose

A statement between two spans joins them: it drops the tag that closes the one and the tag that
opens the other. What stands between two statements is then no longer well nested by itself, unless
the other statement drops what the first one left. This happens exactly when both join and the span
that is opened at the first is the one that is closed at the second, either without interruption or
through other statements that join in the same way.
-/

namespace FormLetter.Markup

open FormLetter.Style

/-! ## Names that cannot be a span's -/

/-- A group whose names are none was not found. -/
theorem eq_nil_of_namesOf {group : List Token} {names : List (List Char)} (some : names ≠ [])
    (none : namesOf group names = []) : group = [] := by
  by_contra found
  rw [namesOf_of_ne_nil found] at none
  exact some none

/-- The names of the groups on one side of a run are none of a span. -/
theorem spanName_not_mem_groupNames (paragraph item row : List Token) :
    spanName ∉ groupNames paragraph item row := by
  intro member
  have named : ∀ {group : List Token} {names : List (List Char)}, spanName ∈ namesOf group names →
      spanName ∈ names := by
    intro group names inside
    unfold namesOf at inside
    split at inside
    · simp at inside
    · exact inside
  rw [groupNames, List.mem_append, List.mem_append] at member
  rcases member with inParagraph | inItem | inRow
  · exact absurd (named inParagraph) (by decide)
  · exact absurd (named inItem) (by decide)
  · exact absurd (named inRow) (by decide)

/-- Where a span is the innermost element, the groups on one side of a run were not found. -/
theorem groups_eq_nil {paragraph item row : List Token} {rest outer : List (List Char)}
    (same : groupNames paragraph item row ++ rest = spanName :: outer) :
    paragraph = [] ∧ item = [] ∧ row = [] ∧ rest = spanName :: outer := by
  have none : groupNames paragraph item row = [] := by
    cases names : groupNames paragraph item row with
    | nil => rfl
    | cons name more =>
      rw [names, List.cons_append, List.cons.injEq] at same
      have member : spanName ∈ groupNames paragraph item row := by simp [names, same.1]
      exact absurd member (spanName_not_mem_groupNames paragraph item row)
  have parts := none
  rw [groupNames, List.append_eq_nil_iff, List.append_eq_nil_iff] at parts
  rw [none] at same
  exact ⟨eq_nil_of_namesOf (by simp) parts.1, eq_nil_of_namesOf (by simp) parts.2.1,
    eq_nil_of_namesOf (by simp) parts.2.2, same⟩

/-! ## Joined spans -/

namespace Match

/-- A statement that joins spans inside of one span either can be walked over without that span, or
it closes that span and opens it again, and nothing else is left of it. -/
theorem Regular.walk_or_reopens {styles : Table} {found : Match} (regular : found.Regular styles)
    {opened closed outer : List (List Char)}
    (read : walk (opened ++ [spanName]) found.tokens = some outer)
    (left : walk opened (Piece.matched found).erased = some closed) :
    walk opened found.tokens = some closed ∨
      (found.joins = true ∧ (Piece.matched found).erased = [] ∧ opened = [] ∧ closed = [] ∧
        outer = [spanName]) := by
  cases isMark : found.mark with
  | unknown label =>
    rw [found.erased_of_unknown isMark] at left
    exact Or.inl left
  | role role =>
    have fit := regular.walk_tokens_iff.mp read
    rw [found.erased_of_role isMark, written_eq] at left
    have remains := regular.bracketed_remaining.walk_iff.mp left
    cases removed : found.collapse.paragraph with
    | true =>
      have both := regular.hasParagraph_of_collapse removed
      obtain ⟨noEnd, noStart, outerFit⟩ := fit.of_hasParagraph both
      have outerLeft := (regular.namesFit_remaining_removed removed noEnd noStart).mp remains
      exact Or.inl (regular.walk_tokens_iff.mpr
        (.of_outer both noEnd noStart (outerLeft.fit outerFit)))
    | false =>
      cases joined : found.joins with
      | false =>
        rw [regular.remaining_eq removed joined] at remains
        exact Or.inl (regular.walk_tokens_iff.mpr remains)
      | true =>
        have same := (regular.namesFit_remaining_joined removed joined).mp remains
        obtain ⟨_, foundEnd, foundStart⟩ := found.joins_iff.mp joined
        obtain ⟨between, front, back⟩ := fit
        rw [namesOf_of_ne_nil foundEnd, List.singleton_append] at front
        rw [namesOf_of_ne_nil foundStart, List.singleton_append] at back
        obtain ⟨noParagraph, noItem, noRow, isSpan⟩ := groups_eq_nil front
        have noStarts : groupNames found.taken.paragraphStart found.taken.itemStart
            found.taken.rowStart = [] := by
          rw [noParagraph, noItem, noRow]
          rfl
        rw [noStarts, List.nil_append] at same
        cases opened with
        | nil =>
          -- The innermost element is the span itself, so the groups hold no tag but the two spans.
          rw [List.nil_append, List.cons.injEq] at isSpan
          rw [← isSpan.2] at back
          obtain ⟨noParagraphEnd, noItemEnd, noRowEnd, isOuter⟩ := groups_eq_nil back.symm
          have nothing : (Piece.matched found).erased = [] := by
            rw [found.erased_of_role isMark, written_eq]
            simp [remaining, Taken.lead, Taken.trail, kept, joined, noParagraph, noItem, noRow,
              noParagraphEnd, noItemEnd, noRowEnd]
          exact Or.inr ⟨rfl, nothing, rfl, (List.append_eq_nil_iff.mp same.symm).2, isOuter⟩
        | cons innermost more =>
          -- The span that is closed was opened inside.
          rw [List.cons_append, List.cons.injEq] at isSpan
          refine Or.inl (regular.walk_tokens_iff.mpr ⟨more, ?_, ?_⟩)
          · rw [noStarts, namesOf_of_ne_nil foundEnd, isSpan.1]
            rfl
          · rw [namesOf_of_ne_nil foundStart, ← same, isSpan.1]
            rfl

end Match

/-- Pieces through which a span is handed on. It is closed nowhere, or a statement that joins its
two neighbours closes it and opens the next one, and so on. -/
inductive Linked : List Piece → Prop where
  | nested {between : List Piece} (whole : WellNested (between.flatMap Piece.tokens)) :
      Linked between
  | through {first rest : List Piece} {middle : Match}
      (whole : WellNested (first.flatMap Piece.tokens)) (joins : middle.joins = true)
      (nothing : (Piece.matched middle).erased = []) (linked : Linked rest) :
      Linked (first ++ .matched middle :: rest)

/-- What is left of linked pieces is well nested. -/
theorem Linked.wellNested {styles : Table} {between : List Piece} (linked : Linked between)
    (regular : ∀ found, .matched found ∈ between → found.Regular styles) :
    WellNested (between.flatMap Piece.erased) := by
  induction linked with
  | nested whole => exact walk_erased regular whole
  | @through first rest middle whole joins nothing linked inductionHypothesis =>
    have firstLeft : WellNested (first.flatMap Piece.erased) :=
      walk_erased (fun found member => regular found (by simp [member])) whole
    have restLeft : WellNested (rest.flatMap Piece.erased) :=
      inductionHypothesis fun found member => regular found (by simp [member])
    rw [List.flatMap_append, List.flatMap_cons, nothing, List.nil_append]
    exact walk_append_of firstLeft restLeft

/-- Pieces inside of one span are linked when what is left of them is well nested. The pieces are
gone through in order. As long as those that are done can be walked over without the span, so can
what is left of them, with the same elements open; a piece that keeps the walks apart reopens the
span, and there the next link begins. -/
theorem linked_of_wellNested {styles : Table} {done rest : List Piece} {opened : List (List Char)}
    (regular : ∀ found, .matched found ∈ rest → found.Regular styles)
    (readDone : walk [] (done.flatMap Piece.tokens) = some opened)
    (read : walk (opened ++ [spanName]) (rest.flatMap Piece.tokens) = some [spanName])
    (left : walk opened (rest.flatMap Piece.erased) = some []) : Linked (done ++ rest) := by
  induction rest generalizing done opened with
  | nil =>
    simp only [List.flatMap_nil, walk_nil, Option.some.injEq] at left
    subst left
    rw [List.append_nil]
    exact .nested readDone
  | cons piece more inductionHypothesis =>
    have regularMore : ∀ found, .matched found ∈ more → found.Regular styles :=
      fun found member => regular found (List.mem_cons_of_mem piece member)
    rw [List.flatMap_cons] at read left
    obtain ⟨outer, readPiece, readMore⟩ := walk_append_some read
    obtain ⟨after, leftPiece, leftMore⟩ := walk_append_some left
    -- A piece that can be walked over without the span is done.
    have goOn (alone : walk opened piece.tokens = some after) : Linked (done ++ piece :: more) := by
      have framed := walk_frame alone [spanName]
      rw [readPiece, Option.some.injEq] at framed
      subst framed
      have doneNow : walk [] ((done ++ [piece]).flatMap Piece.tokens) = some after := by
        rw [List.flatMap_append]
        exact walk_append_of readDone (by simpa using alone)
      have linked := inductionHypothesis regularMore doneNow readMore leftMore
      rwa [List.append_assoc, List.singleton_append] at linked
    cases piece with
    | copied tokens =>
      rw [Piece.erased, Piece.layout, flatMap_erased_plain] at leftPiece
      exact goOn leftPiece
    | matched found =>
      rcases (regular found List.mem_cons_self).walk_or_reopens readPiece leftPiece with
        alone | ⟨joins, nothing, rfl, rfl, rfl⟩
      · exact goOn alone
      · have readNone : walk [] (([] : List Piece).flatMap Piece.tokens) = some [] := rfl
        have linked : Linked ([] ++ more) :=
          inductionHypothesis regularMore readNone readMore leftMore
        exact .through readDone joins nothing linked

/-- Inside of one span, what is left of pieces is well nested exactly when they are linked. -/
theorem wellNested_iff_linked {styles : Table} {between : List Piece}
    (regular : ∀ found, .matched found ∈ between → found.Regular styles)
    (read : walk [spanName] (between.flatMap Piece.tokens) = some [spanName]) :
    WellNested (between.flatMap Piece.erased) ↔ Linked between := by
  constructor
  · intro left
    have readNone : walk [] (([] : List Piece).flatMap Piece.tokens) = some [] := rfl
    exact linked_of_wellNested regular readNone read left
  · intro linked
    exact linked.wellNested regular

/-! ## Two statements -/

namespace Match

/-- The run of a match together with the structures that are removed with it. -/
def extent (found : Match) : List Token :=
  kept found.taken.rowStart (!found.collapse.row) ++
    kept found.taken.itemStart (!found.collapse.item) ++
    kept found.taken.paragraphStart (!found.collapse.paragraph) ++ found.run.tokens ++
    kept found.taken.paragraphEnd (!found.collapse.paragraph) ++
    kept found.taken.itemEnd (!found.collapse.item) ++ kept found.taken.rowEnd (!found.collapse.row)

/-- A match consists of what stands before its extent, the extent, and what stands after it. -/
theorem Regular.tokens_eq_extent {styles : Table} {found : Match} (regular : found.Regular styles)
    {opened closed : List (List Char)} (walked : walk opened found.tokens = some closed) :
    found.tokens = (found.openings ++ found.taken.spanEnd) ++ found.extent ++
      (found.taken.spanStart ++ found.closings) := by
  cases removed : found.collapse.paragraph with
  | false =>
    obtain ⟨noItem, noRow⟩ := regular.collapse_of_paragraph removed
    simp [extent, openings, closings, removed, noItem, noRow, kept, Match.tokens, Taken.lead,
      Taken.trail]
  | true =>
    have both := regular.hasParagraph_of_collapse removed
    obtain ⟨noEnd, noStart, fit⟩ := (regular.walk_tokens_iff.mp walked).of_hasParagraph both
    have inside : found.collapse.row = true → found.collapse.item = false →
        found.taken.itemStart = [] ∧ found.taken.itemEnd = [] := by
      intro row noItem
      rw [regular.collapse_eq] at row noItem
      simp only [both, Bool.and_true, Bool.and_eq_true] at row
      simp only [both, row.1, Bool.and_true, Bool.true_and] at noItem
      exact fit.no_item row.2 noItem
    cases row : found.collapse.row <;> cases item : found.collapse.item
    · simp [extent, openings, closings, removed, row, item, noEnd, noStart, kept, Match.tokens,
        Taken.lead, Taken.trail]
    · simp [extent, openings, closings, removed, row, item, noEnd, noStart, kept, Match.tokens,
        Taken.lead, Taken.trail]
    · obtain ⟨noItemStart, noItemEnd⟩ := inside row item
      simp [extent, openings, closings, removed, row, item, noEnd, noStart, kept, Match.tokens,
        Taken.lead, Taken.trail, noItemStart, noItemEnd]
    · simp [extent, openings, closings, removed, row, item, noEnd, noStart, kept, Match.tokens,
        Taken.lead, Taken.trail]

end Match

/-- What is read between the extents of two matches. -/
def readBetween (first : Match) (between : List Piece) (second : Match) : List Token :=
  (first.taken.spanStart ++ first.closings) ++ between.flatMap Piece.tokens ++
    (second.openings ++ second.taken.spanEnd)

/-- What is written between the directives of two matches. -/
def writtenBetween (first : Match) (between : List Piece) (second : Match) : List Place :=
  first.writtenAfter.map .plain ++ between.flatMap Piece.layout ++ second.writtenBefore.map .plain

theorem writtenBetween_erased (first : Match) (between : List Piece) (second : Match) :
    (writtenBetween first between second).flatMap Place.erased =
      first.writtenAfter ++ between.flatMap Piece.erased ++ second.writtenBefore := by
  simp only [writtenBetween, List.flatMap_append, flatMap_erased_plain, List.flatMap_assoc]
  rfl

/-- Directly after a span was opened, a match can only close tags if it has none. -/
theorem Match.Regular.no_closings {styles : Table} {found : Match} (regular : found.Regular styles)
    {closed : List (List Char)} (walked : walk [spanName] found.closings = some closed) :
    found.closings = [] ∧ closed = [spanName] := by
  have names := (regular.bracketed_remaining.ends _ _).mp walked
  obtain ⟨noParagraph, noItem, noRow, isClosed⟩ := groups_eq_nil names.symm
  refine ⟨?_, isClosed⟩
  change found.remaining.paragraphEnd ++ found.remaining.itemEnd ++ found.remaining.rowEnd = []
  rw [noParagraph, noItem, noRow]
  rfl

/-- Directly before a span is closed, a match can only open tags if it has none. -/
theorem Match.Regular.no_openings {styles : Table} {found : Match} (regular : found.Regular styles)
    {opened : List (List Char)} (walked : walk opened found.openings = some [spanName]) :
    found.openings = [] ∧ opened = [spanName] := by
  have names := (regular.bracketed_remaining.starts opened).symm.trans walked
  obtain ⟨noParagraph, noItem, noRow, isOpened⟩ := groups_eq_nil (Option.some.inj names)
  refine ⟨?_, isOpened⟩
  change found.remaining.rowStart ++ found.remaining.itemStart ++
    found.remaining.paragraphStart = []
  rw [noParagraph, noItem, noRow]
  rfl

/-- What is written between two statements is well nested, given that what is read between their
extents is, exactly when neither of them joins spans, or both do and the pieces between them are
linked. A statement that joins alone leaves a span without its other tag; when both join, what is
read between them stands inside of one span. -/
theorem wellNested_between_iff {styles : Table} {first second : Match} {between : List Piece}
    (firstRegular : first.Regular styles) (secondRegular : second.Regular styles)
    (regular : ∀ found, .matched found ∈ between → found.Regular styles)
    (firstCode : first.mark = .role .code) (secondCode : second.mark = .role .code)
    (read : WellNested (readBetween first between second)) :
    WellNested ((writtenBetween first between second).flatMap Place.erased) ↔
      (first.joins = false ∧ second.joins = false) ∨
        (first.joins = true ∧ second.joins = true ∧ Linked between) := by
  obtain ⟨afterBetween, readFront, readSecond⟩ := walk_append_some read
  obtain ⟨afterFirst, readFirst, readMiddle⟩ := walk_append_some readFront
  have middle := walk_erased regular readMiddle
  rw [writtenBetween_erased]
  simp only [Match.writtenAfter, Match.writtenBefore, Match.spansAfter, Match.spansBefore,
    firstCode, secondCode]
  cases firstJoins : first.joins with
  | false =>
    have front : walk [] (first.taken.spanStart ++ first.closings ++ between.flatMap Piece.erased) =
        some afterBetween := walk_append_of readFirst middle
    cases secondJoins : second.joins with
    | false =>
      have nested : WellNested (first.taken.spanStart ++ first.closings ++
          between.flatMap Piece.erased ++ (second.openings ++ second.taken.spanEnd)) :=
        walk_append_of front readSecond
      simpa [kept] using nested
    | true =>
      obtain ⟨_, foundEnd, _⟩ := second.joins_iff.mp secondJoins
      obtain ⟨beforeEnd, readOpenings, readEnd⟩ := walk_append_some readSecond
      have isSpan := (secondRegular.bracketed.spanEnd foundEnd _ _).mp readEnd
      have unbalanced : ¬WellNested (first.taken.spanStart ++ first.closings ++
          between.flatMap Piece.erased ++ second.openings) := by
        rw [WellNested, walk_append_of front readOpenings, isSpan]
        simp
      simpa [kept] using unbalanced
  | true =>
    obtain ⟨_, _, foundStart⟩ := first.joins_iff.mp firstJoins
    rw [walk_append, firstRegular.bracketed.spanStart foundStart, Option.bind_some] at readFirst
    cases secondJoins : second.joins with
    | false =>
      have inside : walk [spanName] (first.closings ++ between.flatMap Piece.erased ++
          (second.openings ++ second.taken.spanEnd)) = some [] :=
        walk_append_of (walk_append_of readFirst middle) readSecond
      have unbalanced : ¬WellNested (first.closings ++ between.flatMap Piece.erased ++
          (second.openings ++ second.taken.spanEnd)) := by
        intro nested
        have framed := walk_frame nested [spanName]
        rw [List.nil_append, inside] at framed
        simp at framed
      simpa [kept] using unbalanced
    | true =>
      obtain ⟨_, foundEnd, _⟩ := second.joins_iff.mp secondJoins
      obtain ⟨beforeEnd, readOpenings, readEnd⟩ := walk_append_some readSecond
      have isSpan := (secondRegular.bracketed.spanEnd foundEnd _ _).mp readEnd
      rw [isSpan] at readOpenings
      obtain ⟨noClosings, rfl⟩ := firstRegular.no_closings readFirst
      obtain ⟨noOpenings, rfl⟩ := secondRegular.no_openings readOpenings
      simpa [kept, noClosings, noOpenings] using wellNested_iff_linked regular readMiddle

/-- A part with two matches is what stands before, between and after their extents. -/
theorem tokens_eq_extents {styles : Table} {part : List Char} {earlier between later : List Piece}
    {first second : Match} (nested : WellNested (tokenize part))
    (isCut : pieces styles part =
      earlier ++ .matched first :: (between ++ .matched second :: later)) :
    tokenize part =
      earlier.flatMap Piece.tokens ++ (first.openings ++ first.taken.spanEnd) ++ first.extent ++
        readBetween first between second ++
        second.extent ++ (second.taken.spanStart ++ second.closings) ++
        later.flatMap Piece.tokens := by
  have isFirst : .matched first ∈ pieces styles part := by simp [isCut]
  have isSecond : .matched second ∈ pieces styles part := by simp [isCut]
  obtain ⟨_, _, firstWalked⟩ := walk_of_mem_pieces nested isFirst
  obtain ⟨_, _, secondWalked⟩ := walk_of_mem_pieces nested isSecond
  rw [← pieces_tokens styles part, isCut]
  simp only [List.flatMap_append, List.flatMap_cons, Piece.tokens,
    (pieces_regular isFirst).tokens_eq_extent firstWalked,
    (pieces_regular isSecond).tokens_eq_extent secondWalked, readBetween, List.append_assoc]

/-- The source of a part with two statements is what is written before, between and after their
directives. -/
theorem source_eq_directives {styles : Table} {part : List Char}
    {earlier between later : List Piece} {first second : Match}
    (isCut : pieces styles part =
      earlier ++ .matched first :: (between ++ .matched second :: later))
    (firstCode : first.mark = .role .code) (secondCode : second.mark = .role .code) :
    (compile styles part).source =
      (earlier.flatMap Piece.layout ++ first.writtenBefore.map Place.plain).flatMap Place.write ++
        directive .code first.run.code ++
        (writtenBetween first between second).flatMap Place.write ++
        directive .code second.run.code ++
        (second.writtenAfter.map Place.plain ++ later.flatMap Piece.layout).flatMap
          Place.write := by
  rw [compile_source, layout, isCut]
  simp [Piece.layout, writtenBetween, Place.write, firstCode, secondCode]

/-- Two statements of a part that is well nested, and what stands between them.

Each run is met by a match. In the part, each has its extent, which is the run with the structures
that are removed with it. In the source, each has its directive. If what is read between the extents
is well nested, then what is written between the directives is well nested exactly when neither
statement joins spans, or both do and the pieces between them are linked. -/
theorem between_statements {styles : Table} {part : List Char} {before middle after : List Token}
    {first second : Run} (nested : WellNested (tokenize part))
    (stands : tokenize part = before ++ (first.tokens ++ (middle ++ (second.tokens ++ after))))
    (firstBegins : Run.start? styles (first.tokens ++ (middle ++ (second.tokens ++ after))) =
      some first)
    (secondBegins : Run.start? styles (second.tokens ++ after) = some second)
    (firstCode : styles.find? first.style = some (.role .code))
    (secondCode : styles.find? second.style = some (.role .code)) :
    ∃ earlier found between other later,
      pieces styles part = earlier ++ .matched found :: (between ++ .matched other :: later) ∧
      found.run = first ∧ other.run = second ∧
      earlier.flatMap Piece.tokens ++ found.taken.lead = before ∧
      other.taken.trail ++ later.flatMap Piece.tokens = after ∧
      tokenize part =
        earlier.flatMap Piece.tokens ++ (found.openings ++ found.taken.spanEnd) ++ found.extent ++
          readBetween found between other ++
          other.extent ++ (other.taken.spanStart ++ other.closings) ++
          later.flatMap Piece.tokens ∧
      (compile styles part).source =
        (earlier.flatMap Piece.layout ++ found.writtenBefore.map Place.plain).flatMap Place.write ++
          directive .code first.code ++
          (writtenBetween found between other).flatMap Place.write ++
          directive .code second.code ++
          (other.writtenAfter.map Place.plain ++ later.flatMap Piece.layout).flatMap Place.write ∧
      (WellNested (readBetween found between other) →
        (WellNested ((writtenBetween found between other).flatMap Place.erased) ↔
          (found.joins = false ∧ other.joins = false) ∨
            (found.joins = true ∧ other.joins = true ∧ Linked between))) := by
  obtain ⟨earlier, found, between, other, later, isCut, rfl, rfl, isBefore, isAfter⟩ :=
    pieces_reach_both stands firstBegins secondBegins
  have regular {met : Match} (member : .matched met ∈ between ∨ met = found ∨ met = other) :
      met.Regular styles := by
    have isMet : .matched met ∈ pieces styles part := by
      rcases member with inside | rfl | rfl
      · simp [isCut, inside]
      · simp [isCut]
      · simp [isCut]
    exact pieces_regular isMet
  have foundRegular := regular (Or.inr (Or.inl rfl))
  have otherRegular := regular (Or.inr (Or.inr rfl))
  have foundCode := foundRegular.mark_of_find? firstCode
  have otherCode := otherRegular.mark_of_find? secondCode
  exact ⟨earlier, found, between, other, later, isCut, rfl, rfl, isBefore, isAfter,
    tokens_eq_extents nested isCut, source_eq_directives isCut foundCode otherCode,
    wellNested_between_iff foundRegular otherRegular (fun _ member => regular (Or.inl member))
      foundCode otherCode⟩

/-! ## Statements between spans -/

/-- The tag that opens a span under a style. -/
def spanTag (style : String) : Token :=
  ⟨.spanOpen, "<text:span text:style-name=".toList ++ '"' :: style.toList ++ ['"', '>']⟩

/-- The tag that closes a span. -/
def spanEndTag : Token := ⟨.spanClose, "</text:span>".toList⟩

/-- A statement between two spans. -/
def statementBetween (code : String) : Match where
  run := ⟨spanTag "C", [⟨.text, code.toList⟩], spanEndTag⟩
  mark := .role .code
  taken := { spanEnd := [spanEndTag], spanStart := [spanTag "B"] }

/-- A statement between a span and the end of its paragraph. -/
def statementAtEnd (code : String) : Match where
  run := ⟨spanTag "C", [⟨.text, code.toList⟩], spanEndTag⟩
  mark := .role .code
  taken := { spanEnd := [spanEndTag], paragraphEnd := [⟨.paragraphClose, "</text:p>".toList⟩] }

/-- A paragraph with three spans, of which the second stands under a condition. -/
def conditionInside : List Char :=
  ["<text:p>", "<text:span text:style-name=\"B\">", "a", "</text:span>",
    "<text:span text:style-name=\"C\">", "if x", "</text:span>",
    "<text:span text:style-name=\"B\">", "b", "</text:span>",
    "<text:span text:style-name=\"C\">", "endif", "</text:span>",
    "<text:span text:style-name=\"B\">", "c", "</text:span>", "</text:p>"].flatMap String.toList

/-- What stands before the first statement of `conditionInside`. -/
def insideFront : List Token :=
  [⟨.paragraphOpen, "<text:p>".toList⟩, spanTag "B", ⟨.text, ['a']⟩, spanEndTag]

/-- What stands between the statements of `conditionInside`. -/
def insideMiddle : List Token := [spanTag "B", ⟨.text, ['b']⟩, spanEndTag]

/-- What stands after the second statement of `conditionInside`. -/
def insideBack : List Token :=
  [spanTag "B", ⟨.text, ['c']⟩, spanEndTag, ⟨.paragraphClose, "</text:p>".toList⟩]

/-- In `conditionInside` both statements join, and what is written between them is well nested. -/
theorem between_statements_conditionInside :
    WellNested (tokenize conditionInside) ∧
      tokenize conditionInside =
        insideFront ++ ((statementBetween "if x").run.tokens ++
          (insideMiddle ++ ((statementBetween "endif").run.tokens ++ insideBack))) ∧
      ∃ found between other,
        found.run = (statementBetween "if x").run ∧ other.run = (statementBetween "endif").run ∧
        WellNested (readBetween found between other) ∧
        WellNested ((writtenBetween found between other).flatMap Place.erased) := by
  have nested : WellNested (tokenize conditionInside) := by decide +kernel
  have stands : tokenize conditionInside =
      insideFront ++ ((statementBetween "if x").run.tokens ++
        (insideMiddle ++ ((statementBetween "endif").run.tokens ++ insideBack))) := by
    decide +kernel
  have firstBegins : Run.start? [("C", .role .code)] ((statementBetween "if x").run.tokens ++
      (insideMiddle ++ ((statementBetween "endif").run.tokens ++ insideBack))) =
        some (statementBetween "if x").run := by decide +kernel
  have secondBegins : Run.start? [("C", .role .code)]
      ((statementBetween "endif").run.tokens ++ insideBack) =
        some (statementBetween "endif").run := by decide +kernel
  obtain ⟨earlier, found, between, other, later, isCut, isFirst, isSecond, _, _, _, _, linked⟩ :=
    between_statements nested stands firstBegins secondBegins (by decide +kernel)
      (by decide +kernel)
  have computed : pieces [("C", .role .code)] conditionInside =
      [.copied (insideFront.take 3), .matched (statementBetween "if x"), .copied [⟨.text, ['b']⟩],
        .matched (statementBetween "endif"), .copied (insideBack.drop 1)] := by decide +kernel
  have apart : (statementBetween "if x").run ≠ (statementBetween "endif").run := by decide
  have same : found = statementBetween "if x" ∧ between = [.copied [⟨.text, ['b']⟩]] ∧
      other = statementBetween "endif" := by
    rw [computed] at isCut
    rcases earlier with _ | ⟨_, _ | ⟨_, _ | ⟨_, _ | ⟨_, _ | ⟨_, _⟩⟩⟩⟩⟩ <;>
      simp only [List.nil_append, List.cons_append, List.cons.injEq, reduceCtorEq, false_and,
        and_false, Piece.matched.injEq, List.nil_eq, List.append_eq_nil_iff] at isCut
    · obtain ⟨-, rfl, rest⟩ := isCut
      rcases between with _ | ⟨_, _ | ⟨_, _ | ⟨_, _⟩⟩⟩ <;>
        simp_all
    · rw [← isCut.2.2.2.1] at isFirst
      exact absurd isFirst.symm apart
  obtain ⟨rfl, rfl, rfl⟩ := same
  have read : WellNested (readBetween (statementBetween "if x") [.copied [⟨.text, ['b']⟩]]
      (statementBetween "endif")) := by decide
  have inside : Linked [.copied [⟨.text, ['b']⟩]] := .nested (by decide)
  exact ⟨nested, stands, _, _, _, rfl, rfl, read, (linked read).mpr (Or.inr ⟨rfl, rfl, inside⟩)⟩

/-- A paragraph with two spans, of which the second stands under a condition. -/
def conditionAtEnd : List Char :=
  ["<text:p>", "<text:span text:style-name=\"B\">", "a", "</text:span>",
    "<text:span text:style-name=\"C\">", "if x", "</text:span>",
    "<text:span text:style-name=\"B\">", "b", "</text:span>",
    "<text:span text:style-name=\"C\">", "endif", "</text:span>",
    "</text:p>"].flatMap String.toList

/-- That what is read between two statements is well nested is not enough: in `conditionAtEnd` the
first statement joins the spans and the second cannot, and the closing tag of the second span is
left between them without an opening one. -/
theorem conditionAtEnd_unbalanced :
    ¬∀ (styles : Table) (part : List Char) (earlier between later : List Piece)
      (first second : Match), WellNested (tokenize part) →
      pieces styles part = earlier ++ .matched first :: (between ++ .matched second :: later) →
      first.mark = .role .code → second.mark = .role .code →
      WellNested (readBetween first between second) →
      WellNested ((writtenBetween first between second).flatMap Place.erased) := by
  intro claim
  have isCut : pieces [("C", .role .code)] conditionAtEnd =
      [.copied [⟨.paragraphOpen, "<text:p>".toList⟩, spanTag "B", ⟨.text, ['a']⟩]] ++
        .matched (statementBetween "if x") :: ([.copied [⟨.text, ['b']⟩]] ++
          .matched (statementAtEnd "endif") :: [.copied []]) := by decide +kernel
  have written := claim _ _ _ _ _ _ _ (by decide +kernel) isCut rfl rfl (by decide)
  exact absurd written (by decide)

end FormLetter.Markup
