import FormLetter.Proofs.Markup.Outline

/-!
# How far back a match sees

The scan reaches every run, and the match there looks back only to the end of the match before it.
This hides nothing that it could take: the last token of a match is never white space and never
opens a paragraph, an item, a cell or a row, so tags that open structures around a run, with white
space between them, lie behind it.
-/

namespace FormLetter.Markup

open FormLetter.Style

/-! ## Where matches end -/

/-- The kinds of the last tokens of matches. -/
def sealKinds : List Kind := [.spanOpen, .spanClose, .paragraphClose, .itemClose, .rowClose]

/-- If there is a last token, a match can end with it. -/
def EndsSealed (tokens : List Token) : Prop :=
  ∀ token, tokens.getLast? = some token → token.kind ∈ sealKinds

theorem endsSealed_nil : EndsSealed [] := by
  intro token last
  simp at last

theorem EndsSealed.append {left right : List Token} (first : EndsSealed left)
    (second : EndsSealed right) : EndsSealed (left ++ right) := by
  intro token last
  rw [List.getLast?_append, Option.or_eq_some_iff] at last
  rcases last with inRight | ⟨_, inLeft⟩
  · exact second token inRight
  · exact first token inLeft

/-- What stands before tokens does not change how they end. -/
theorem EndsSealed.behind {tokens : List Token} (isSealed : EndsSealed tokens) (some : tokens ≠ [])
    (others : List Token) : EndsSealed (others ++ tokens) := by
  intro token last
  rw [List.getLast?_append_of_ne_nil _ some] at last
  exact isSealed token last

/-- Tags with white space before them end with the last tag. -/
theorem SpacedBefore.getLast?_kind {kinds : List Kind} {tokens : List Token}
    (shaped : SpacedBefore kinds tokens) : tokens.getLast?.map Token.kind = kinds.getLast? := by
  induction shaped with
  | nil => rfl
  | @cons kinds spaces rest token _ _ inductionHypothesis =>
    rw [List.getLast?_append, List.getLast?_cons, List.getLast?_cons]
    cases last : rest.getLast? with
    | none =>
      rw [last, Option.map_none] at inductionHypothesis
      rw [← inductionHypothesis]
      rfl
    | some final =>
      rw [last, Option.map_some] at inductionHypothesis
      rw [← inductionHypothesis]
      rfl

/-- A group after a run ends with its last tag. -/
theorem SpacedBefore.endsSealed {kinds : List Kind} {last : Kind} {tokens : List Token}
    (shaped : SpacedBefore kinds tokens) (ends : kinds.getLast? = some last)
    (isSeal : last ∈ sealKinds) : EndsSealed tokens := by
  intro token isLast
  have kind := shaped.getLast?_kind
  rw [isLast, ends, Option.map_some, Option.some.injEq] at kind
  exact kind ▸ isSeal

/-- A run with the groups after it ends with a tag that opens or closes a span, or closes a
paragraph, an item or a row. -/
theorem Taken.Shaped.endsSealed {styles : Table} {taken : Taken} {run : Run}
    (shaped : taken.Shaped) (fits : run.Fits styles) : EndsSealed (run.tokens ++ taken.trail) := by
  have found {group : List Token} {shape : List Token → Prop} (isShaped : group = [] ∨ shape group)
      (ends : shape group → EndsSealed group) : EndsSealed group :=
    isShaped.elim (fun none => none ▸ endsSealed_nil) ends
  have run : EndsSealed run.tokens := by
    intro token last
    rw [Run.tokens, ← List.cons_append, List.getLast?_concat, Option.some.injEq] at last
    rw [← last, fits.closing]
    decide
  have spanStart : EndsSealed taken.spanStart := found shaped.spanStart fun single => by
    obtain ⟨tag, isTag, kind⟩ := single
    intro token last
    rw [isTag, List.getLast?_singleton, Option.some.injEq] at last
    rw [← last, kind]
    decide
  have paragraphEnd : EndsSealed taken.paragraphEnd :=
    found shaped.paragraphEnd fun spaced => spaced.endsSealed rfl (by decide)
  have itemEnd : EndsSealed taken.itemEnd :=
    found shaped.itemEnd fun spaced => spaced.endsSealed rfl (by decide)
  have rowEnd : EndsSealed taken.rowEnd := found shaped.rowEnd fun ended => by
    obtain ⟨count, spaced⟩ := ended
    have ends : (rowEndKinds count).getLast? = some .rowClose := by
      rw [rowEndKinds, ← List.cons_append, List.getLast?_concat]
    exact spaced.endsSealed ends (by decide)
  exact run.append (((spanStart.append paragraphEnd).append itemEnd).append rowEnd)

/-! ## Reaching a run -/

/-- A run that begins behind tokens in which no run begins, begins behind all of them. -/
theorem Quiet.skip {styles : Table} {rest tokens before source : List Token} {run : Run}
    (quiet : Quiet styles rest tokens) (same : tokens ++ rest = before ++ source)
    (begins : Run.start? styles source = some run) :
    ∃ between, before = tokens ++ between ∧ rest = between ++ source := by
  induction tokens generalizing before with
  | nil => exact ⟨before, rfl, same⟩
  | cons token more inductionHypothesis =>
    cases before with
    | nil =>
      rw [List.nil_append] at same
      rw [← same] at begins
      exact absurd (quiet.1.symm.trans begins) (by simp)
    | cons first others =>
      rw [List.cons_append, List.cons_append, List.cons.injEq] at same
      obtain ⟨rfl, sameRest⟩ := same
      obtain ⟨between, rfl, isRest⟩ := inductionHypothesis quiet.2 sameRest
      exact ⟨between, rfl, isRest⟩

/-- A run that begins behind the beginning of another one begins behind it and its groups. -/
theorem skip_match {styles : Table} {token : Token} {rest before after : List Token}
    {here run : Run} (pending : List Token)
    (beginsHere : Run.start? styles (token :: rest) = some here)
    (same : token :: rest = before ++ (run.tokens ++ after)) (farther : before ≠ [])
    (begins : Run.start? styles (run.tokens ++ after) = some run) :
    ∃ between,
      before = here.tokens ++
        (surround (some styles) pending (rest.drop (here.inner.length + 1))).taken.trail ++
          between ∧
        (surround (some styles) pending (rest.drop (here.inner.length + 1))).after =
          between ++ (run.tokens ++ after) := by
  have source := Run.source_of_start? beginsHere
  have fits := Run.fits_of_start? beginsHere
  have trail := surround_trail (some styles) pending (rest.drop (here.inner.length + 1))
  have quietTrail := surround_quiet styles pending (rest.drop (here.inner.length + 1))
  cases before with
  | nil => exact absurd rfl farther
  | cons first others =>
    rw [List.cons_append, List.cons.injEq] at same
    obtain ⟨rfl, sameRest⟩ := same
    rw [Run.tokens, List.cons_append, List.cons.injEq] at source
    have inside : (here.inner ++ [here.closing]) ++ rest.drop (here.inner.length + 1) =
        others ++ (run.tokens ++ after) := source.2.symm.trans sameRest
    obtain ⟨behindRun, rfl, isBehind⟩ := (fits.quiet _).skip inside begins
    rw [← trail] at isBehind
    obtain ⟨between, rfl, isAfter⟩ := quietTrail.skip isBehind begins
    refine ⟨between, ?_, isAfter⟩
    rw [Run.tokens, source.1]
    simp

/-- The scan reaches every run. The pieces before its match cover what stands before the run up to
the groups of the match, and the pieces after it what stands behind them. What the match sees before
the run goes back to a token with which another match ended, or to the beginning. -/
theorem scan_reaches {styles : Table} (pending : List Token)
    {hidden tokens before after : List Token} {run : Run} (isSealed : EndsSealed hidden)
    (same : tokens = before ++ (run.tokens ++ after))
    (begins : Run.start? styles (run.tokens ++ after) = some run) :
    ∃ found : Match, found.run = run ∧
      (∃ earlier later, scan styles pending tokens = earlier ++ .matched found :: later ∧
        earlier.flatMap Piece.tokens ++ found.taken.lead = pending.reverse ++ before ∧
        found.taken.trail ++ later.flatMap Piece.tokens = after) ∧
      ∃ unseen visible, hidden ++ (pending.reverse ++ before) = unseen ++ visible ∧
        EndsSealed unseen ∧ found.taken = (surround (some styles) visible.reverse after).taken := by
  fun_induction scan styles pending tokens generalizing hidden before with
  | case1 pending => simp [Run.tokens] at same
  | case2 pending token rest none inductionHypothesis =>
    cases before with
    | nil =>
      rw [List.nil_append] at same
      rw [← same, none] at begins
      simp at begins
    | cons first others =>
      rw [List.cons_append, List.cons.injEq] at same
      obtain ⟨rfl, sameRest⟩ := same
      simpa using inductionHypothesis isSealed sameRest
  | case3 pending token rest here beginsHere behind around =>
    rename_i met inductionHypothesis
    have lead : around.before.reverse ++ around.taken.lead = pending.reverse :=
      surround_lead (some styles) pending behind
    have trail : around.taken.trail ++ around.after = behind :=
      surround_trail (some styles) pending behind
    by_cases isHere : before = []
    · -- The run begins here, so the match is the one that is made here.
      subst isHere
      rw [List.nil_append] at same
      rw [← same, beginsHere, Option.some.injEq] at begins
      subst begins
      have isBehind : behind = after := by
        have source := Run.source_of_start? beginsHere
        rw [same] at source
        exact (List.append_cancel_left source).symm
      refine ⟨met, rfl, ⟨[.copied around.before.reverse], scan styles [] around.after, rfl, ?_, ?_⟩,
        hidden, pending.reverse, by simp, isSealed, ?_⟩
      · simpa [Piece.tokens] using lead
      · rw [scan_tokens, List.reverse_nil, List.nil_append, ← isBehind]
        exact trail
      · rw [List.reverse_reverse, ← isBehind]
    · -- The run begins farther on, behind this run and its groups.
      obtain ⟨between, rfl, isAfter⟩ := skip_match pending beginsHere same isHere begins
      have sealedHere : EndsSealed (hidden ++ (pending.reverse ++ (here.tokens ++
          around.taken.trail))) := by
        have ends := (surround_shaped (some styles) pending behind).endsSealed
          (Run.fits_of_start? beginsHere)
        rw [← List.append_assoc]
        exact ends.behind (by simp [Run.tokens]) _
      obtain ⟨found, isRun, ⟨earlier, later, isCut, isBefore, isLater⟩, unseen, visible, isSplit,
        isUnseen, seen⟩ := inductionHypothesis sealedHere isAfter
      refine ⟨found, isRun, ⟨.copied around.before.reverse :: .matched met :: earlier, later,
        by rw [isCut]; rfl, ?_, isLater⟩, unseen, visible, ?_, isUnseen, seen⟩
      · rw [List.reverse_nil, List.nil_append] at isBefore
        rw [List.flatMap_cons, List.flatMap_cons, List.append_assoc, List.append_assoc, isBefore,
          ← lead]
        simp [Piece.tokens, Match.tokens, met, around, behind]
      · rw [← isSplit]
        simp [around, behind]

/-- Every run of a part is met by a match. -/
theorem pieces_reach {styles : Table} {part : List Char} {before after : List Token} {run : Run}
    (stands : tokenize part = before ++ (run.tokens ++ after))
    (begins : Run.start? styles (run.tokens ++ after) = some run) :
    ∃ earlier found later, pieces styles part = earlier ++ .matched found :: later ∧
      found.run = run ∧ earlier.flatMap Piece.tokens ++ found.taken.lead = before ∧
      found.taken.trail ++ later.flatMap Piece.tokens = after := by
  obtain ⟨found, isRun, ⟨earlier, later, isCut, isBefore, isAfter⟩, _⟩ :=
    scan_reaches [] endsSealed_nil stands begins
  exact ⟨earlier, found, later, isCut, isRun, isBefore, isAfter⟩

/-- Of two runs of a part, the match of the one that stands before comes before that of the other:
otherwise what stands before the first run would be longer than what stands before the second. -/
theorem pieces_reach_both {styles : Table} {part : List Char} {before middle after : List Token}
    {first second : Run}
    (stands : tokenize part = before ++ (first.tokens ++ (middle ++ (second.tokens ++ after))))
    (firstBegins : Run.start? styles (first.tokens ++ (middle ++ (second.tokens ++ after))) =
      some first)
    (secondBegins : Run.start? styles (second.tokens ++ after) = some second) :
    ∃ earlier found between other later,
      pieces styles part = earlier ++ .matched found :: (between ++ .matched other :: later) ∧
      found.run = first ∧ other.run = second ∧
      earlier.flatMap Piece.tokens ++ found.taken.lead = before ∧
      other.taken.trail ++ later.flatMap Piece.tokens = after := by
  obtain ⟨earlier, found, behind, firstCut, isFirst, isBefore, _⟩ := pieces_reach stands firstBegins
  have standsBehind : tokenize part =
      (before ++ (first.tokens ++ middle)) ++ (second.tokens ++ after) := by
    rw [stands]
    simp
  obtain ⟨front, other, later, secondCut, isSecond, isFront, isAfter⟩ :=
    pieces_reach standsBehind secondBegins
  have firstLength := congrArg List.length isBefore
  have secondLength := congrArg List.length isFront
  have positive : 0 < first.tokens.length := by simp [Run.tokens]
  simp only [List.length_append] at firstLength secondLength
  rcases List.append_eq_append_iff.mp (firstCut.symm.trans secondCut) with
    ⟨more, isMore, rest⟩ | ⟨more, isMore, rest⟩
  · cases more with
    | nil =>
      rw [List.nil_append, List.cons.injEq, Piece.matched.injEq] at rest
      rw [isMore, List.append_nil, ← rest.1] at secondLength
      omega
    | cons piece between =>
      rw [List.cons_append, List.cons.injEq] at rest
      exact ⟨earlier, found, between, other, later, by rw [firstCut, rest.2], isFirst, isSecond,
        isBefore, isAfter⟩
  · have covered := congrArg (fun pieces => (pieces.flatMap Piece.tokens).length) isMore
    cases more with
    | nil =>
      rw [List.nil_append, List.cons.injEq, Piece.matched.injEq] at rest
      rw [isMore, List.append_nil, ← rest.1] at firstLength
      omega
    | cons piece between =>
      rw [List.cons_append, List.cons.injEq] at rest
      simp only [List.flatMap_append, List.flatMap_cons, List.length_append, ← rest.1,
        Piece.tokens, Match.tokens] at covered
      omega

/-- Tokens with which no match ends, directly before a run, are seen from it. -/
theorem seen_of_unsealed {unseen visible outer start : List Token}
    (isUnseen : EndsSealed unseen) (same : unseen ++ visible = outer ++ start)
    (unsealed : ∀ token ∈ start, token.kind ∉ sealKinds) :
    ∃ more, visible = more ++ start ∧ unseen ++ more = outer := by
  rcases List.append_eq_append_iff.mp same with
    ⟨more, isOuter, isVisible⟩ | ⟨beyond, isUnseenSplit, isStart⟩
  · exact ⟨more, isVisible, isOuter.symm⟩
  · by_cases none : beyond = []
    · subst none
      exact ⟨[], isStart.symm, by rw [isUnseenSplit, List.append_nil, List.append_nil]⟩
    · obtain ⟨front, last, isLast⟩ := List.eq_nil_or_concat beyond |>.resolve_left none
      have isSeal := isUnseen last (by rw [isUnseenSplit, isLast, List.concat_eq_append]; simp)
      have inStart : last ∈ start := by
        rw [isStart, isLast, List.concat_eq_append]
        simp
      exact absurd isSeal (unsealed last inStart)

end FormLetter.Markup
