import FormLetter.Proofs.Markup.Taken

/-!
# Where runs begin

A run begins at most at the tags that open spans. No run begins inside another one, and none begins
in the groups that were taken around a run: the span that touches a run is taken only when it begins
no run, and the other tags open no span. So a scan that jumps over a run and its groups passes no
run.
-/

namespace FormLetter.Markup

open FormLetter.Style

/-! ## What a run is -/

/-- The mark of a run's style; a run that was found has one. -/
def Run.mark (styles : Table) (run : Run) : Mark :=
  (styles.find? run.style).getD (.unknown "")

/-- What a run consists of: a span under a style of the table, with nothing inside but what may
stand in a run. -/
structure Run.Fits (styles : Table) (run : Run) : Prop where
  opening : run.opening.kind = .spanOpen
  inner : ∀ token ∈ run.inner, Run.isContent token = true
  closing : run.closing.kind = .spanClose
  found : styles.find? run.style = some (run.mark styles)

theorem Run.fits_of_start? {styles : Table} {source : List Token} {run : Run}
    (begins : Run.start? styles source = some run) : run.Fits styles := by
  cases source with
  | nil => simp [Run.start?] at begins
  | cons opening rest =>
    simp only [Run.start?] at begins
    split at begins
    · simp at begins
    · rename_i closing tail dropped
      simp only [Bool.and_eq_true, beq_iff_eq, Option.ite_none_right_eq_some,
        Option.some.injEq] at begins
      obtain ⟨⟨⟨⟨isOpen, styled⟩, _⟩, isClose⟩, rfl⟩ := begins
      refine ⟨isOpen, fun token member => List.mem_takeWhile_imp member, isClose, ?_⟩
      obtain ⟨mark, isMark⟩ := Option.isSome_iff_exists.mp styled
      obtain ⟨name, isName, looked⟩ := Option.bind_eq_some_iff.mp isMark
      simp [Run.mark, Run.style, isName, looked]

/-- A run is what its tokens begin with, and nothing after them matters. -/
theorem Run.source_of_start? {styles : Table} {token : Token} {rest : List Token} {run : Run}
    (begins : Run.start? styles (token :: rest) = some run) :
    token :: rest = run.tokens ++ rest.drop (run.inner.length + 1) := by
  have parts := Run.tokens_append_of_start? begins
  rw [List.drop_succ_cons] at parts
  exact parts.symm

/-- A run begins with a tag that opens a span. -/
theorem Run.start?_of_kind {styles : Table} {token : Token} (noSpan : token.kind ≠ .spanOpen)
    (rest : List Token) : Run.start? styles (token :: rest) = none := by
  cases begins : Run.start? styles (token :: rest) with
  | none => rfl
  | some run =>
    have fits := Run.fits_of_start? begins
    have same := Run.source_of_start? begins
    simp only [Run.tokens, List.cons_append, List.cons.injEq] at same
    exact absurd (same.1 ▸ fits.opening) noSpan

/-! ## Where no run begins -/

/-- No run begins in some tokens when others follow them. -/
def Quiet (styles : Table) (rest : List Token) : List Token → Prop
  | [] => True
  | token :: more => Run.start? styles (token :: (more ++ rest)) = none ∧ Quiet styles rest more

/-- Tokens that open no span begin no run. -/
theorem quiet_of_kinds {styles : Table} {rest tokens : List Token}
    (noSpan : ∀ token ∈ tokens, token.kind ≠ .spanOpen) : Quiet styles rest tokens := by
  induction tokens with
  | nil => trivial
  | cons token more inductionHypothesis =>
    exact ⟨Run.start?_of_kind (noSpan token List.mem_cons_self) _,
      inductionHypothesis fun other member => noSpan other (List.mem_cons_of_mem token member)⟩

/-- Inside a run no other run begins. -/
theorem Run.Fits.quiet {styles : Table} {run : Run} (fits : run.Fits styles) (rest : List Token) :
    Quiet styles rest (run.inner ++ [run.closing]) := by
  apply quiet_of_kinds
  intro token member isSpan
  rcases List.mem_append.mp member with inside | last
  · have content := fits.inner token inside
    simp [Run.isContent, isSpan] at content
  · rw [List.mem_singleton.mp last, fits.closing] at isSpan
    exact absurd isSpan (by decide)

/-- The kinds of what the groups before a run hold. -/
def leadKinds : List Kind := [.space, .rowOpen, .cellOpen, .itemOpen, .paragraphOpen, .spanClose]

/-- The kinds of what the groups after a run hold behind a neighbouring span. -/
def closingKinds : List Kind :=
  [.space, .paragraphClose, .itemClose, .cellClose, .coveredCell, .rowClose]

theorem Taken.Shaped.lead_kinds {taken : Taken} (shaped : taken.Shaped) :
    ∀ token ∈ taken.lead, token.kind ∈ leadKinds := by
  intro token member
  simp only [Taken.lead, List.mem_append, or_assoc] at member
  rcases member with inRow | inItem | inParagraph | inSpan
  · have isStart := shaped.rowStart.resolve_left (List.ne_nil_of_mem inRow)
    exact (by decide : [Kind.space, .rowOpen, .cellOpen] ⊆ leadKinds) (isStart.kind_mem token inRow)
  · have isStart := shaped.itemStart.resolve_left (List.ne_nil_of_mem inItem)
    exact (by decide : [Kind.space, .itemOpen] ⊆ leadKinds) (isStart.kind_mem token inItem)
  · have isStart := shaped.paragraphStart.resolve_left (List.ne_nil_of_mem inParagraph)
    exact (by decide : [Kind.space, .paragraphOpen] ⊆ leadKinds)
      (isStart.kind_mem token inParagraph)
  · obtain ⟨span, isSpan, kind⟩ := shaped.spanEnd.resolve_left (List.ne_nil_of_mem inSpan)
    rw [isSpan, List.mem_singleton] at inSpan
    rw [inSpan, kind]
    decide

theorem Taken.Shaped.closing_kinds {taken : Taken} (shaped : taken.Shaped) :
    ∀ token ∈ taken.paragraphEnd ++ taken.itemEnd ++ taken.rowEnd, token.kind ∈ closingKinds := by
  intro token member
  simp only [List.mem_append, or_assoc] at member
  rcases member with inParagraph | inItem | inRow
  · have isEnd := shaped.paragraphEnd.resolve_left (List.ne_nil_of_mem inParagraph)
    exact (by decide : [Kind.space, .paragraphClose] ⊆ closingKinds)
      (isEnd.kind_mem token inParagraph)
  · have isEnd := shaped.itemEnd.resolve_left (List.ne_nil_of_mem inItem)
    exact (by decide : [Kind.space, .itemClose] ⊆ closingKinds) (isEnd.kind_mem token inItem)
  · have isEnd := shaped.rowEnd.resolve_left (List.ne_nil_of_mem inRow)
    exact (by decide : [Kind.space, .cellClose, .coveredCell, .rowClose] ⊆ closingKinds)
      (isEnd.kind_mem token inRow)

/-- No run begins in the groups after a run: a span that is taken as a neighbour begins none, and
the other tags open no span. -/
theorem surround_quiet (styles : Table) (before after : List Token) :
    Quiet styles (surround (some styles) before after).after
      (surround (some styles) before after).taken.trail := by
  have shaped := surround_shaped (some styles) before after
  have parts := surround_trail (some styles) before after
  have closings : Quiet styles (surround (some styles) before after).after
      ((surround (some styles) before after).taken.paragraphEnd ++
        (surround (some styles) before after).taken.itemEnd ++
        (surround (some styles) before after).taken.rowEnd) := by
    apply quiet_of_kinds
    intro token member isSpan
    have kind := shaped.closing_kinds token member
    rw [isSpan] at kind
    exact absurd kind (by decide)
  cases touching : takeTouching? (beginsWithNeighbour (some styles)) after with
  | none =>
    have empty : (surround (some styles) before after).taken.spanStart = [] := by
      simp only [surround, touching, takenBy]
    simpa [Taken.trail, empty] using closings
  | some split =>
    obtain ⟨token, isToken, same, accepted⟩ := takeTouching?_spec touching
    have one : (surround (some styles) before after).taken.spanStart = [token] := by
      simp only [surround, touching, takenBy, isToken]
    rw [← parts] at accepted
    simp only [Taken.trail, one, List.append_assoc, List.cons_append, List.nil_append,
      beginsWithNeighbour, Bool.and_eq_true, Option.isNone_iff_eq_none] at accepted
    simp only [Taken.trail, one, List.append_assoc, List.cons_append, List.nil_append]
    exact ⟨by simpa using accepted.2, by simpa using closings⟩

end FormLetter.Markup
