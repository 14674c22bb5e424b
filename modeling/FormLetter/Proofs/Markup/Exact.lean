import FormLetter.Proofs.Markup.Written

/-!
# Markup around outputs stays as it is

The directive of a value or a literal may move into a span that touches its run, but no tag and no
white space moves with it, and nothing is removed. So a part under a table without statements and
blocks differs from its source only where its runs were: with the directives erased the source is
the part with these runs erased, character by character. A style with a mark that is no role leaves
even its runs. Nothing is asked of the part, which need not be well formed.
-/

namespace FormLetter.Markup

open FormLetter.Style

/-! ## Marks that take nothing with them -/

/-- True for the marks of styles whose runs never take markup with them: values, literals, and marks
that are no role. -/
def isPlainMark : Mark → Bool
  | .role .value | .role .literal | .unknown _ => true
  | .role .code | .role .block => false

/-- True for the marks that are a role. -/
def isRoleMark : Mark → Bool
  | .role _ => true
  | .unknown _ => false

/-- A table that marks styles only with values, literals and what is no role. -/
def OnlyPlain (styles : Table) : Prop :=
  ∀ entry ∈ styles, isPlainMark entry.2 = true

/-- A table none of whose marks is a role. -/
def NoRoles (styles : Table) : Prop :=
  ∀ entry ∈ styles, isRoleMark entry.2 = false

/-- What holds for all marks of a table holds for the mark of a run that was matched. -/
theorem Match.Regular.mark_of_table {styles : Table} {found : Match} (regular : found.Regular styles)
    (holds : Mark → Prop) (each : ∀ entry ∈ styles, holds entry.2) : holds found.mark := by
  have looked := regular.fits.found
  rw [← regular.mark_eq] at looked
  exact each (found.run.style, found.mark) (Keyed.mem_of_lookup looked)

/-! ## What is written around a run -/

namespace Match

variable {found : Match}

/-- Nothing collapses around a run that takes nothing with it. -/
theorem collapse_of_isPlain (plain : isPlainMark found.mark = true) : found.collapse = {} := by
  unfold collapse
  split
  · rename_i role isRole
    rw [isRole] at plain
    cases role with
    | value | literal => rfl
    | code | block => cases plain
  · rfl

/-- The spans that touch a run that takes nothing with it are all written, in their order. -/
theorem spans_of_isPlain (plain : isPlainMark found.mark = true) :
    found.spansBefore ++ found.spansAfter = found.taken.spanEnd ++ found.taken.spanStart := by
  unfold spansBefore spansAfter
  split
  · rename_i isCode
    rw [isCode] at plain
    cases plain
  · by_cases alone : found.taken.spanEnd.isEmpty
    · rw [if_pos alone, if_pos alone, List.isEmpty_iff.mp alone, List.append_nil, List.nil_append]
    · rw [if_neg alone, if_neg alone, List.nil_append]
  · rfl

/-- Around a run that takes nothing with it all its groups are written, as they stood. -/
theorem written_of_isPlain (plain : isPlainMark found.mark = true) :
    found.writtenBefore ++ found.writtenAfter = found.taken.lead ++ found.taken.trail := by
  have openings : found.openings
      = found.taken.rowStart ++ found.taken.itemStart ++ found.taken.paragraphStart := by
    rw [openings, collapse_of_isPlain plain]
    rfl
  have closings : found.closings
      = found.taken.paragraphEnd ++ found.taken.itemEnd ++ found.taken.rowEnd := by
    rw [closings, collapse_of_isPlain plain]
    rfl
  calc found.writtenBefore ++ found.writtenAfter
      = found.openings ++ (found.spansBefore ++ found.spansAfter) ++ found.closings := by
        simp only [writtenBefore, writtenAfter, List.append_assoc]
    _ = found.taken.lead ++ found.taken.trail := by
        rw [spans_of_isPlain plain, openings, closings]
        simp only [Taken.lead, Taken.trail, List.append_assoc]

end Match

/-! ## Erasing runs -/

/-- The text of a part without its runs whose style has a role. -/
def withoutRuns (styles : Table) (part : List Char) : List Char :=
  Token.join ((outline styles (tokenize part)).flatMap Place.erased)

/-- Where nothing is taken with a run, a piece with its directive erased is what it covers with the
run erased. -/
theorem Piece.erased_eq_outline {piece : Piece}
    (plain : ∀ found, piece = .matched found → isPlainMark found.mark = true) :
    piece.erased = piece.outline.flatMap Place.erased := by
  cases piece with
  | copied tokens => rfl
  | matched found =>
    simp only [Piece.outline, List.flatMap_append, List.flatMap_cons, flatMap_erased_plain]
    cases isMark : found.mark with
    | role role =>
      rw [found.erased_of_role isMark, Match.written_of_isPlain (plain found rfl)]
      rfl
    | unknown label =>
      rw [found.erased_of_unknown isMark]
      simp only [Match.tokens, Place.erased, List.append_assoc]

/-- Where nothing is taken with runs, the source with the directives erased is the part with the runs
erased. -/
theorem withoutDirectives_eq {styles : Table} (plain : OnlyPlain styles) (part : List Char) :
    withoutDirectives styles part = withoutRuns styles part := by
  have same : (layout styles part).flatMap Place.erased
      = (outline styles (tokenize part)).flatMap Place.erased := by
    rw [layout_erased, ← pieces_outline, List.flatMap_assoc]
    apply List.flatMap_congr
    intro piece isPiece
    apply Piece.erased_eq_outline
    rintro found rfl
    exact (pieces_regular isPiece).mark_of_table (isPlainMark · = true) plain
  rw [withoutDirectives, same, withoutRuns]

/-! ## Where nothing changes -/

/-- Without a run that has a role, a part is its own source. -/
theorem compile_of_noRole {styles : Table} {part : List Char}
    (noRole : ∀ found, .matched found ∈ pieces styles part → isRoleMark found.mark = false) :
    (compile styles part).source = part := by
  have each : ∀ piece ∈ pieces styles part,
      piece.layout.flatMap Place.write = Token.join piece.tokens := by
    intro piece isPiece
    cases piece with
    | copied tokens => exact flatMap_write_plain tokens
    | matched found =>
      have left := noRole found isPiece
      cases isMark : found.mark with
      | role role =>
        rw [isMark] at left
        cases left
      | unknown label =>
        rw [← Match.render_eq (pieces_genuine isPiece), Match.render, isMark]
        rfl
  calc (compile styles part).source
      = (pieces styles part).flatMap fun piece => piece.layout.flatMap Place.write := by
        rw [compile_source, layout, List.flatMap_assoc]
    _ = (pieces styles part).flatMap fun piece => Token.join piece.tokens := List.flatMap_congr each
    _ = Token.join ((pieces styles part).flatMap Piece.tokens) := by
        rw [Token.join, List.flatMap_assoc]
        rfl
    _ = part := by rw [pieces_tokens, join_tokenize]

/-- Where no run begins there is no match. -/
theorem no_match_of_no_run {styles : Table} {part : List Char}
    (none_ : (tokenize part).tails.filterMap (Run.start? styles) = []) (found : Match) :
    .matched found ∉ pieces styles part := by
  intro member
  rw [← outline_runs, ← pieces_outline, List.filterMap_eq_nil_iff] at none_
  have isPlace : Place.run found.run found.mark ∈ (pieces styles part).flatMap Piece.outline :=
    List.mem_flatMap.mpr ⟨_, member, by simp [Piece.outline]⟩
  cases none_ _ isPlace

/-- Values and literals leave the markup of a part as it is, whatever the part.

The source is the writing of the layout, each place of which is a directive, which is erased, or
what is left of it. The outline reads the part: its places hold the part's tokens, and its runs are
those that begin at any index. Under a table without statements and blocks, what is written besides
the directives is the part without its runs that have a role. The source is the part itself when no
mark of the table is a role, and when no run begins in the part, whatever the table. -/
theorem compile_leaves_markup (styles : Table) (part : List Char) :
    (OnlyPlain styles →
      (compile styles part).source = (layout styles part).flatMap Place.write ∧
      (∀ place ∈ layout styles part,
        (∃ run role, place = .run run (.role role) ∧ place.write = directive role run.code ∧
            place.erased = []) ∨
          place.write = Token.join place.erased) ∧
      Token.join ((outline styles (tokenize part)).flatMap Place.tokens) = part ∧
      (outline styles (tokenize part)).filterMap Place.run?
        = (tokenize part).tails.filterMap (Run.start? styles) ∧
      withoutDirectives styles part = withoutRuns styles part) ∧
    (NoRoles styles ∨ (tokenize part).tails.filterMap (Run.start? styles) = [] →
      (compile styles part).source = part) := by
  constructor
  · intro plain
    refine ⟨compile_source styles part, fun place _ => place.write_cases, ?_,
      outline_runs styles (tokenize part), withoutDirectives_eq plain part⟩
    rw [outline_tokens, join_tokenize]
  · intro nothing
    refine compile_of_noRole fun found isFound => ?_
    rcases nothing with noRoles | noRun
    · exact (pieces_regular isFound).mark_of_table (isRoleMark · = false) noRoles
    · exact absurd isFound (no_match_of_no_run noRun found)

/-- A row in which a value touches a span on both sides, a literal opens the next paragraph before a
span, and a run has a style without a role; the closing tag of the row is missing. -/
def outputsInRow : List Char :=
  ["<table:table-row>", "<table:table-cell>", " ", "<text:p>", "<text:span>", "a", "</text:span>",
    "<text:span text:style-name='V'>", "x", "</text:span>", "<text:span>", "b", "</text:span>",
    "</text:p>", " ", "<text:p>", "<text:span text:style-name='L'>", "y", "</text:span>",
    "<text:span>", "c", "</text:span>", "<text:span text:style-name='U'>", "z", "</text:span>",
    "</text:p>", "</table:table-cell>"].flatMap String.toList

/-- The part without its value and its literal is what is left of its source. -/
theorem compile_leaves_markup_outputsInRow :
    OnlyPlain [("V", .role .value), ("L", .role .literal), ("U", .unknown "Mystery")] ∧
      withoutDirectives [("V", .role .value), ("L", .role .literal), ("U", .unknown "Mystery")]
          outputsInRow
        = ["<table:table-row>", "<table:table-cell>", " ", "<text:p>", "<text:span>", "a",
          "</text:span>", "<text:span>", "b", "</text:span>", "</text:p>", " ", "<text:p>",
          "<text:span>", "c", "</text:span>", "<text:span text:style-name='U'>", "z", "</text:span>",
          "</text:p>", "</table:table-cell>"].flatMap String.toList ∧
      NoRoles [("U", .unknown "Mystery")] ∧
      (compile [("U", .unknown "Mystery")] outputsInRow).source = outputsInRow := by
  have plain : OnlyPlain
      [("V", .role .value), ("L", .role .literal), ("U", .unknown "Mystery")] := by
    simp [OnlyPlain, isPlainMark]
  have noRoles : NoRoles [("U", .unknown "Mystery")] := by
    simp [NoRoles, isRoleMark]
  refine ⟨plain, ?_, noRoles, (compile_leaves_markup _ outputsInRow).2 (Or.inl noRoles)⟩
  rw [((compile_leaves_markup _ outputsInRow).1 plain).2.2.2.2]
  decide +kernel

end FormLetter.Markup
