import FormLetter.Proofs.Markup.Outline

/-!
# Compiling loses, repeats and reorders nothing

Each run becomes one directive, and there are no other directives. Directives and the tokens that
mean something by themselves, which are text, typed white space and tags of other elements, keep
their order. What a match may drop is white space and tags of rows, cells, list items, paragraphs
and spans, and only from its own groups.
-/

namespace FormLetter.Markup

open FormLetter.Style

/-- True for what no compiling removes: runs, and tokens that are neither white space nor tags of a
structure around a run. -/
def Place.isLasting : Place → Bool
  | run _ _ => true
  | plain token => token.kind == .text || token.kind == .inlineSpace || token.kind == .other

/-- The kinds of tokens that may be removed with a run. -/
def removableKinds : List Kind := [.space, .paragraphOpen, .paragraphClose, .itemOpen, .itemClose,
  .rowOpen, .rowClose, .cellOpen, .cellClose, .coveredCell, .spanOpen, .spanClose]

/-- A style table that marks styles with roles only. -/
def OnlyRoles (styles : Table) : Prop :=
  ∀ entry ∈ styles, ∃ role, entry.2 = Mark.role role

/-- In a table of roles every style that is found has a role. -/
theorem OnlyRoles.find? {styles : Table} (known : OnlyRoles styles) {style : String} {mark : Mark}
    (found : styles.find? style = some mark) : ∃ role, mark = .role role :=
  known (style, mark) (Keyed.mem_of_lookup found)

/-- The groups around a run hold only what may be removed. -/
theorem Taken.Shaped.removable {taken : Taken} (shaped : taken.Shaped) :
    ∀ token ∈ taken.lead ++ taken.trail, token.kind ∈ removableKinds := by
  intro token member
  rcases List.mem_append.mp member with inLead | inTrail
  · exact (by decide : leadKinds ⊆ removableKinds) (shaped.lead_kinds token inLead)
  · simp only [Taken.trail, List.append_assoc, List.mem_append (s := taken.spanStart)] at inTrail
    rcases inTrail with inSpan | inClosings
    · obtain ⟨span, isSpan, kind⟩ := shaped.spanStart.resolve_left (List.ne_nil_of_mem inSpan)
      rw [isSpan, List.mem_singleton] at inSpan
      rw [inSpan, kind]
      decide
    · rw [← List.append_assoc] at inClosings
      exact (by decide : closingKinds ⊆ removableKinds) (shaped.closing_kinds token inClosings)

theorem kept_sublist (group : List Token) (removed : Bool) :
    (kept group removed).Sublist group := by
  cases removed with
  | true => exact List.nil_sublist group
  | false => exact List.Sublist.refl group

/-- Around a run, only tokens of its groups are written, in their order: the tags of neighbouring
spans keep their order wherever the directive goes. -/
theorem Match.written_sublist (found : Match) :
    (found.writtenBefore ++ found.writtenAfter).Sublist
      (found.taken.lead ++ found.taken.trail) := by
  have spans : (found.spansBefore ++ found.spansAfter).Sublist
      (found.taken.spanEnd ++ found.taken.spanStart) := by
    unfold Match.spansBefore Match.spansAfter
    split
    · exact (kept_sublist _ _).append (kept_sublist _ _)
    · split
      · simp
      · exact List.Sublist.refl _
    · exact List.Sublist.refl _
  have openings : found.openings.Sublist
      (found.taken.rowStart ++ found.taken.itemStart ++ found.taken.paragraphStart) :=
    ((kept_sublist _ _).append (kept_sublist _ _)).append (kept_sublist _ _)
  have closings : found.closings.Sublist
      (found.taken.paragraphEnd ++ found.taken.itemEnd ++ found.taken.rowEnd) :=
    ((kept_sublist _ _).append (kept_sublist _ _)).append (kept_sublist _ _)
  have whole := (openings.append spans).append closings
  simpa [Match.writtenBefore, Match.writtenAfter, Taken.lead, Taken.trail] using whole

/-- Tokens that may be removed do not last. -/
theorem filter_isLasting_plain {tokens : List Token}
    (removable : ∀ token ∈ tokens, token.kind ∈ removableKinds) :
    (tokens.map Place.plain).filter Place.isLasting = [] := by
  rw [List.filter_eq_nil_iff]
  intro place member
  obtain ⟨token, inTokens, rfl⟩ := List.mem_map.mp member
  have kind := removable token inTokens
  intro lasting
  simp only [Place.isLasting, Bool.or_eq_true, beq_iff_eq] at lasting
  rcases lasting with (isText | isTyped) | isOther
  · rw [isText] at kind
    exact absurd kind (by decide)
  · rw [isTyped] at kind
    exact absurd kind (by decide)
  · rw [isOther] at kind
    exact absurd kind (by decide)

/-- What lasts of a piece is written in the order in which it is read. -/
theorem Piece.layout_lasting {piece : Piece}
    (shaped : ∀ found, piece = .matched found → found.taken.Shaped) :
    piece.layout.filter Place.isLasting = piece.outline.filter Place.isLasting := by
  cases piece with
  | copied tokens => rfl
  | matched found =>
    have removable := (shaped found rfl).removable
    have written : ∀ token ∈ found.writtenBefore ++ found.writtenAfter,
        token.kind ∈ removableKinds := fun token member =>
      removable token (found.written_sublist.subset member)
    have before := filter_isLasting_plain fun token member =>
      written token (List.mem_append_left _ member)
    have after := filter_isLasting_plain fun token member =>
      written token (List.mem_append_right _ member)
    have lead := filter_isLasting_plain fun token member =>
      removable token (List.mem_append_left _ member)
    have trail := filter_isLasting_plain fun token member =>
      removable token (List.mem_append_right _ member)
    simp only [Piece.layout, Piece.outline, List.filter_append, List.filter_cons, before, after,
      lead, trail]

/-- What lasts of a part is written in the order in which it is read. -/
theorem layout_lasting (styles : Table) (part : List Char) :
    (layout styles part).filter Place.isLasting =
      (outline styles (tokenize part)).filter Place.isLasting := by
  rw [← pieces_outline, layout, List.filter_flatMap, List.filter_flatMap]
  apply List.flatMap_congr
  intro piece isPiece
  apply Piece.layout_lasting
  rintro found rfl
  exact (pieces_regular isPiece).shaped

/-- The runs among places are among those that last. -/
theorem filterMap_run?_filter (places : List Place) :
    (places.filter Place.isLasting).filterMap Place.run? = places.filterMap Place.run? := by
  induction places with
  | nil => rfl
  | cons place rest inductionHypothesis =>
    cases place with
    | run here mark =>
      rw [List.filter_cons_of_pos rfl]
      exact congrArg (here :: ·) inductionHypothesis
    | plain token =>
      rw [List.filterMap_cons_none rfl, ← inductionHypothesis, List.filter_cons]
      split <;> rfl

/-- The runs that are written are those that begin at any index, in order. -/
theorem layout_runs (styles : Table) (part : List Char) :
    (layout styles part).filterMap Place.run? =
      (tokenize part).tails.filterMap (Run.start? styles) := by
  rw [← filterMap_run?_filter, layout_lasting, filterMap_run?_filter, outline_runs]

/-- A run that is written has the mark of its style. -/
theorem find?_of_mem_layout {styles : Table} {part : List Char} {run : Run} {mark : Mark}
    (member : .run run mark ∈ layout styles part) : styles.find? run.style = some mark := by
  obtain ⟨piece, isPiece, inPiece⟩ := List.mem_flatMap.mp member
  cases piece with
  | copied tokens => simp [Piece.layout] at inPiece
  | matched found =>
    have regular := pieces_regular isPiece
    simp only [Piece.layout, List.mem_append, List.mem_map, reduceCtorEq, and_false, exists_false,
      List.mem_cons, Place.run.injEq, or_false, false_or] at inPiece
    obtain ⟨rfl, rfl⟩ := inPiece
    rw [regular.fits.found, regular.mark_eq]

/-- In a table of roles, every run that is written is a directive with the run's code. -/
theorem layout_directive {styles : Table} (known : OnlyRoles styles) (part : List Char) :
    ∀ place ∈ layout styles part, ∀ run, place.run? = some run →
      ∃ role, styles.find? run.style = some (.role role) ∧
        place.write = directive role run.code := by
  intro place member run isRun
  cases place with
  | plain token => cases isRun
  | run here mark =>
    obtain rfl : here = run := Option.some.inj isRun
    have isMark := find?_of_mem_layout member
    obtain ⟨role, rfl⟩ := known.find? isMark
    exact ⟨role, isMark, rfl⟩

/-- Compiling under a table of roles loses, repeats and reorders nothing.

The source is the writing of the layout. The outline is a reading of the part: its places hold the
part's tokens. The runs of the layout are the runs that begin at any index of the tokens, in order,
and each is written as the directive of its role with its code; every other place is written as a
token. What lasts stands in the layout as in the outline: runs, text, typed white space and tags of
other elements, each once and in the same order. The pieces of the scan are the outline cut up, and
a piece is written as it is read, unless it is a match: then only tokens of its groups are missing,
which are white space and tags of the structures around a run. -/
theorem compile_loses_nothing (styles : Table) (part : List Char) (known : OnlyRoles styles) :
    (compile styles part).source = (layout styles part).flatMap Place.write ∧
      (outline styles (tokenize part)).flatMap Place.tokens = tokenize part ∧
      (layout styles part).filterMap Place.run? =
        (tokenize part).tails.filterMap (Run.start? styles) ∧
      (∀ place ∈ layout styles part, ∀ run, place.run? = some run →
        ∃ role, styles.find? run.style = some (.role role) ∧
          place.write = directive role run.code) ∧
      (layout styles part).filter Place.isLasting =
        (outline styles (tokenize part)).filter Place.isLasting ∧
      (pieces styles part).flatMap Piece.outline = outline styles (tokenize part) ∧
      ∀ piece ∈ pieces styles part, piece.layout = piece.outline ∨
        ∃ found, piece = .matched found ∧
          (piece.layout.filterMap Place.token?).Sublist (piece.outline.filterMap Place.token?) ∧
          ∀ token ∈ piece.outline.filterMap Place.token?, token.kind ∈ removableKinds := by
  refine ⟨compile_source styles part, outline_tokens styles _, layout_runs styles part,
    layout_directive known part, layout_lasting styles part, pieces_outline styles part, ?_⟩
  intro piece isPiece
  cases piece with
  | copied tokens => exact Or.inl rfl
  | matched found =>
    have plain (tokens : List Token) :
        (tokens.map Place.plain).filterMap Place.token? = tokens := by
      rw [List.filterMap_map]
      exact List.filterMap_some
    have written : (Piece.matched found).layout.filterMap Place.token? =
        found.writtenBefore ++ found.writtenAfter := by
      simp only [Piece.layout, List.filterMap_append, List.filterMap_cons, Place.token?, plain]
    have read : (Piece.matched found).outline.filterMap Place.token? =
        found.taken.lead ++ found.taken.trail := by
      simp only [Piece.outline, List.filterMap_append, List.filterMap_cons, Place.token?, plain]
    refine Or.inr ⟨found, rfl, ?_, ?_⟩
    · rw [written, read]
      exact found.written_sublist
    · rw [read]
      exact (pieces_regular isPiece).shaped.removable

/-- A part in which two runs touch each other and a span: a run that a neighbour's reach could hide,
and one whose directive moves into the span. -/
def touchingRuns : List Char :=
  ["<text:p>", "<text:span>", "a", "</text:span>", "<text:span text:style-name='V'>", "b",
    "</text:span>", "<text:span text:style-name='C'>", "c", "</text:span>", " ", "<text:span>", "d",
    "</text:span>", "</text:p>"].flatMap String.toList

/-- Both runs of `touchingRuns` are written, in order. -/
theorem compile_loses_nothing_touching :
    OnlyRoles [("V", .role .value), ("C", .role .code)] ∧
      (layout [("V", .role .value), ("C", .role .code)] touchingRuns).filterMap Place.run? =
        (tokenize touchingRuns).tails.filterMap
          (Run.start? [("V", .role .value), ("C", .role .code)]) ∧
      ((layout [("V", .role .value), ("C", .role .code)] touchingRuns).filterMap
        Place.run?).map Run.code = [['b'], ['c']] := by
  have known : OnlyRoles [("V", .role .value), ("C", .role .code)] := by
    simp [OnlyRoles]
  exact ⟨known, (compile_loses_nothing _ touchingRuns known).2.2.1, by decide +kernel⟩

end FormLetter.Markup
