import FormLetter.Markup.Compile
import FormLetter.Proofs.Markup.Cut
import FormLetter.Proofs.Markup.Runs
import Mathlib.Data.List.Infix

/-!
# Outlines of a part

A part is read as a list of places: each run as a whole, and each token outside of runs by itself.
What the compiler writes is a list of places too, in which a run stands for its directive. Reading
goes on after a run and the scan after its groups. Since no run begins in the groups, the pieces of
the scan are the reading cut up, and what is written follows from them piece by piece.
-/

namespace FormLetter.Markup

open FormLetter.Style

/-! ## Places -/

/-- A place of a part: a run with the mark of its style, or a token outside of runs. -/
inductive Place where
  | run (run : Run) (mark : Mark)
  | plain (token : Token)
  deriving DecidableEq, Repr

namespace Place

/-- The tokens at a place. -/
def tokens : Place → List Token
  | run here _ => here.tokens
  | plain token => [token]

/-- The text that is written for a place: a run with a role becomes its directive. -/
def write : Place → List Char
  | run here (.role role) => directive role here.code
  | run here (.unknown _) => Token.join here.tokens
  | plain token => token.text

/-- The tokens that are left of a place when directives are erased from what is written. -/
def erased : Place → List Token
  | run _ (.role _) => []
  | run here (.unknown _) => here.tokens
  | plain token => [token]

/-- The run at a place. -/
def run? : Place → Option Run
  | run here _ => some here
  | plain _ => none

/-- The token at a place outside of runs. -/
def token? : Place → Option Token
  | run _ _ => none
  | plain token => some token

end Place

/-- Reads tokens as places. -/
def outline (styles : Table) (tokens : List Token) : List Place :=
  match tokens with
  | [] => []
  | token :: rest =>
    match Run.start? styles (token :: rest) with
    | none => .plain token :: outline styles rest
    | some run => .run run (run.mark styles) :: outline styles (rest.drop (run.inner.length + 1))
termination_by tokens.length

/-! ## What a match writes -/

/-- The tokens of a group that are written: none of a group that is removed. -/
def kept (group : List Token) (removed : Bool) : List Token :=
  if removed then [] else group

namespace Match

/-- The structures that are removed around a match. A run without a role removes none. -/
def collapse (found : Match) : Collapse :=
  match found.mark with
  | .role role => found.taken.groups.collapse role
  | .unknown _ => {}

/-- True when a statement joins the spans on both of its sides. -/
def joins (found : Match) : Bool :=
  found.mark == .role .code && !found.taken.spanEnd.isEmpty && !found.taken.spanStart.isEmpty

/-- The opening tags around a run that are written. -/
def openings (found : Match) : List Token :=
  kept found.taken.rowStart found.collapse.row ++ kept found.taken.itemStart found.collapse.item ++
    kept found.taken.paragraphStart found.collapse.paragraph

/-- The closing tags around a run that are written. -/
def closings (found : Match) : List Token :=
  kept found.taken.paragraphEnd found.collapse.paragraph ++
    kept found.taken.itemEnd found.collapse.item ++ kept found.taken.rowEnd found.collapse.row

/-- The tags of neighbouring spans that are written before the run. -/
def spansBefore (found : Match) : List Token :=
  match found.mark with
  | .role .code => kept found.taken.spanEnd found.joins
  | .role _ => if found.taken.spanEnd.isEmpty then found.taken.spanStart else []
  | .unknown _ => found.taken.spanEnd

/-- The tags of neighbouring spans that are written after the run. -/
def spansAfter (found : Match) : List Token :=
  match found.mark with
  | .role .code => kept found.taken.spanStart found.joins
  | .role _ =>
    if found.taken.spanEnd.isEmpty then [] else found.taken.spanEnd ++ found.taken.spanStart
  | .unknown _ => found.taken.spanStart

/-- The tokens that are written before the directive of a match. -/
def writtenBefore (found : Match) : List Token :=
  found.openings ++ found.spansBefore

/-- The tokens that are written after the directive of a match. -/
def writtenAfter (found : Match) : List Token :=
  found.spansAfter ++ found.closings

end Match

namespace Piece

/-- The places that a piece covers. -/
def outline : Piece → List Place
  | copied tokens => tokens.map .plain
  | matched found =>
    found.taken.lead.map .plain ++ .run found.run found.mark :: found.taken.trail.map .plain

/-- The places that are written for a piece. -/
def layout : Piece → List Place
  | copied tokens => tokens.map .plain
  | matched found =>
    found.writtenBefore.map .plain ++ .run found.run found.mark :: found.writtenAfter.map .plain

end Piece

/-- The places that are written for a part. -/
def layout (styles : Table) (part : List Char) : List Place :=
  (pieces styles part).flatMap Piece.layout

/-! ## Reading and the scan -/

theorem outline_cons_none {styles : Table} {token : Token} {rest : List Token}
    (none : Run.start? styles (token :: rest) = none) :
    outline styles (token :: rest) = .plain token :: outline styles rest := by
  rw [outline, none]

theorem outline_cons_some {styles : Table} {token : Token} {rest : List Token} {run : Run}
    (begins : Run.start? styles (token :: rest) = some run) :
    outline styles (token :: rest) =
      .run run (run.mark styles) :: outline styles (rest.drop (run.inner.length + 1)) := by
  rw [outline, begins]

/-- Where no run begins, tokens are read as they are. -/
theorem outline_append {styles : Table} {tokens rest : List Token}
    (quiet : Quiet styles rest tokens) :
    outline styles (tokens ++ rest) = tokens.map .plain ++ outline styles rest := by
  induction tokens with
  | nil => rfl
  | cons token more inductionHypothesis =>
    rw [List.cons_append, outline_cons_none quiet.1, inductionHypothesis quiet.2]
    rfl

/-- Reading loses no token. -/
theorem outline_tokens (styles : Table) (tokens : List Token) :
    (outline styles tokens).flatMap Place.tokens = tokens := by
  fun_induction outline styles tokens with
  | case1 => rfl
  | case2 token rest none inductionHypothesis =>
    rw [List.flatMap_cons, inductionHypothesis]
    rfl
  | case3 token rest run begins inductionHypothesis =>
    rw [List.flatMap_cons, inductionHypothesis]
    exact (Run.source_of_start? begins).symm

/-- Where no run begins, none is found at any index. -/
theorem starts_append {styles : Table} {tokens rest : List Token}
    (quiet : Quiet styles rest tokens) :
    (tokens ++ rest).tails.filterMap (Run.start? styles) =
      rest.tails.filterMap (Run.start? styles) := by
  induction tokens with
  | nil => rfl
  | cons token more inductionHypothesis =>
    rw [List.cons_append, List.tails_cons, List.filterMap_cons_none quiet.1,
      inductionHypothesis quiet.2]

/-- The runs of a reading are those that begin at any index, in order: no run begins inside of
another one, so going on after a run misses none. -/
theorem outline_runs (styles : Table) (tokens : List Token) :
    (outline styles tokens).filterMap Place.run? =
      tokens.tails.filterMap (Run.start? styles) := by
  fun_induction outline styles tokens with
  | case1 => rfl
  | case2 token rest none inductionHypothesis =>
    rw [List.tails_cons, List.filterMap_cons_none none, ← inductionHypothesis]
    rfl
  | case3 token rest run begins inductionHypothesis =>
    have same := Run.source_of_start? begins
    have inside : rest =
        (run.inner ++ [run.closing]) ++ rest.drop (run.inner.length + 1) := by
      simp only [Run.tokens, List.cons_append, List.cons.injEq] at same
      exact same.2
    have skipped : rest.tails.filterMap (Run.start? styles) =
        (rest.drop (run.inner.length + 1)).tails.filterMap (Run.start? styles) := by
      have quiet := (Run.fits_of_start? begins).quiet (rest.drop (run.inner.length + 1))
      rw [← starts_append quiet, ← inside]
    rw [List.tails_cons, List.filterMap_cons_some begins, skipped, ← inductionHypothesis]
    rfl

/-- The pieces of a scan are the reading cut up: the pending tokens, and then the rest as it is
read. -/
theorem scan_outline (styles : Table) (pending tokens : List Token) :
    (scan styles pending tokens).flatMap Piece.outline =
      pending.reverse.map .plain ++ outline styles tokens := by
  fun_induction scan styles pending tokens with
  | case1 pending => simp [Piece.outline, outline]
  | case2 pending token rest none inductionHypothesis =>
    rw [inductionHypothesis, outline_cons_none none]
    simp
  | case3 pending token rest run begins after around found inductionHypothesis =>
    have lead : around.before.reverse ++ around.taken.lead = pending.reverse :=
      surround_lead (some styles) pending after
    have trail : around.taken.trail ++ around.after = after :=
      surround_trail (some styles) pending after
    have quiet : Quiet styles around.after around.taken.trail :=
      surround_quiet styles pending after
    rw [List.flatMap_cons, List.flatMap_cons, inductionHypothesis, outline_cons_some begins]
    change _ = _ ++ _ :: outline styles after
    rw [← trail, outline_append quiet, ← lead]
    simp [Piece.outline, found, Run.mark]

/-- The pieces of a part are its reading cut up. -/
theorem pieces_outline (styles : Table) (part : List Char) :
    (pieces styles part).flatMap Piece.outline = outline styles (tokenize part) :=
  scan_outline styles [] (tokenize part)

theorem Piece.outline_tokens (piece : Piece) :
    piece.outline.flatMap Place.tokens = piece.tokens := by
  cases piece with
  | copied tokens => simp [Piece.outline, Piece.tokens, Place.tokens, List.flatMap_map]
  | matched found =>
    simp [Piece.outline, Piece.tokens, Match.tokens, Place.tokens, List.flatMap_map]

/-- The pieces of a scan cover the pending tokens and the rest. -/
theorem scan_tokens (styles : Table) (pending tokens : List Token) :
    (scan styles pending tokens).flatMap Piece.tokens = pending.reverse ++ tokens := by
  have waiting : (pending.reverse.map Place.plain).flatMap Place.tokens = pending.reverse := by
    rw [List.flatMap_map]
    exact List.flatMap_singleton' _
  have read := congrArg (List.flatMap Place.tokens) (scan_outline styles pending tokens)
  rw [List.flatMap_assoc, List.flatMap_append, waiting, outline_tokens] at read
  simpa only [Piece.outline_tokens] using read

/-- The pieces of a part cover its tokens. -/
theorem pieces_tokens (styles : Table) (part : List Char) :
    (pieces styles part).flatMap Piece.tokens = tokenize part :=
  scan_tokens styles [] (tokenize part)

/-- What is known of every match of a scan. -/
structure Match.Regular (styles : Table) (found : Match) : Prop where
  fits : found.run.Fits styles
  mark_eq : found.mark = found.run.mark styles
  shaped : found.taken.Shaped
  genuine : ∀ token ∈ found.tokens, token.Genuine

/-- The matches of a scan are regular when its tokens are genuine. -/
theorem scan_regular {styles : Table} {pending tokens : List Token} {found : Match}
    (member : .matched found ∈ scan styles pending tokens)
    (genuine : ∀ token ∈ found.tokens, token.Genuine) : found.Regular styles := by
  fun_induction scan styles pending tokens with
  | case1 pending => simp at member
  | case2 pending token rest none inductionHypothesis => exact inductionHypothesis member
  | case3 pending token rest run begins after around here inductionHypothesis =>
    simp only [List.mem_cons, reduceCtorEq, Piece.matched.injEq, false_or] at member
    rcases member with rfl | later
    · exact ⟨Run.fits_of_start? begins, rfl, surround_shaped (some styles) pending after, genuine⟩
    · exact inductionHypothesis later

/-- Every token of a piece is a token of the part. -/
theorem pieces_genuine {styles : Table} {part : List Char} {piece : Piece}
    (member : piece ∈ pieces styles part) : ∀ token ∈ piece.tokens, token.Genuine := by
  intro token inPiece
  apply tokenize_genuine part
  rw [← pieces_tokens styles part]
  exact List.mem_flatMap.mpr ⟨piece, member, inPiece⟩

/-- The matches of a part are regular. -/
theorem pieces_regular {styles : Table} {part : List Char} {found : Match}
    (member : .matched found ∈ pieces styles part) : found.Regular styles :=
  scan_regular member (pieces_genuine member)

/-- The mark of a match is what the table says of its style. -/
theorem Match.Regular.mark_of_find? {styles : Table} {found : Match} {mark : Mark}
    (regular : found.Regular styles) (isMark : styles.find? found.run.style = some mark) :
    found.mark = mark := by
  rw [regular.mark_eq]
  exact Option.some.inj (regular.fits.found.symm.trans isMark)

/-! ## What is written -/

theorem keep_text? (group : List Token) (removed : Bool) :
    keep (Taken.text? group) removed = Token.join (kept group removed) := by
  cases removed with
  | true => rfl
  | false =>
    cases group with
    | nil => rfl
    | cons token rest => simp [keep, Taken.text?, kept]

/-- A group of tokens with texts is present exactly when it has a token. -/
theorem isPresent_text? {group : List Token} (texts : ∀ token ∈ group, token.text ≠ []) :
    isPresent (Taken.text? group) = !group.isEmpty := by
  cases group with
  | nil => rfl
  | cons token rest =>
    cases text : token.text with
    | nil => exact absurd text (texts token List.mem_cons_self)
    | cons c more => simp [Taken.text?, isPresent, text]

theorem flatMap_write_plain (tokens : List Token) :
    (tokens.map Place.plain).flatMap Place.write = Token.join tokens := by
  rw [List.flatMap_map]
  rfl

/-- The text that takes the place of a match is the writing of its layout. -/
theorem Match.render_eq {found : Match} (genuine : ∀ token ∈ found.tokens, token.Genuine) :
    found.render = (Piece.matched found).layout.flatMap Place.write := by
  have inLead : ∀ token ∈ found.taken.lead, token.text ≠ [] := fun token member =>
    (genuine token (by simp [Match.tokens, member])).text_ne_nil
  have inTrail : ∀ token ∈ found.taken.trail, token.text ≠ [] := fun token member =>
    (genuine token (by simp [Match.tokens, member])).text_ne_nil
  have spanEnd : isPresent (Taken.text? found.taken.spanEnd) = !found.taken.spanEnd.isEmpty :=
    isPresent_text? fun token member => inLead token (by simp [Taken.lead, member])
  have spanStart : isPresent (Taken.text? found.taken.spanStart) = !found.taken.spanStart.isEmpty :=
    isPresent_text? fun token member => inTrail token (by simp [Taken.trail, member])
  simp only [Piece.layout, List.flatMap_append, List.flatMap_cons, flatMap_write_plain,
    Match.writtenBefore, Match.writtenAfter, Match.openings, Match.closings, Match.spansBefore,
    Match.spansAfter, Match.joins, Match.collapse, Match.render]
  cases mark : found.mark with
  | unknown label => simp [Place.write, Match.tokens, Taken.lead, Taken.trail, kept]
  | role role =>
    simp only [Groups.render, Taken.groups, keep_text?, Groups.withSpans, spanEnd, spanStart,
      Place.write, Token.join_append]
    cases role with
    | code => simp
    | value | block | literal =>
      by_cases empty : found.taken.spanEnd.isEmpty <;> simp [empty, kept]

/-- A compiled part is written piece by piece. Without a match, that is the part itself. -/
theorem compile_pieces (styles : Table) (part : List Char) :
    (compile styles part).source = (pieces styles part).flatMap Piece.render := by
  rw [compile]
  split
  · rename_i none
    have noMatch : ∀ piece ∈ pieces styles part, piece.render = Token.join piece.tokens := by
      intro piece isPiece
      cases piece with
      | copied tokens => rfl
      | matched found =>
        rw [List.isEmpty_iff, List.filterMap_eq_nil_iff] at none
        exact absurd (none _ isPiece) (by simp [Piece.match?])
    calc part
        = Token.join ((pieces styles part).flatMap Piece.tokens) := by
          rw [pieces_tokens, join_tokenize]
      _ = (pieces styles part).flatMap fun piece => Token.join piece.tokens := by
          rw [Token.join, List.flatMap_assoc]
          rfl
      _ = (pieces styles part).flatMap Piece.render := (List.flatMap_congr noMatch).symm
  · rfl

/-- A compiled part is the writing of its layout. -/
theorem compile_source (styles : Table) (part : List Char) :
    (compile styles part).source = (layout styles part).flatMap Place.write := by
  rw [compile_pieces, layout, List.flatMap_assoc]
  apply List.flatMap_congr
  intro piece isPiece
  cases piece with
  | copied tokens => exact (flatMap_write_plain tokens).symm
  | matched found => exact Match.render_eq (pieces_genuine isPiece)

end FormLetter.Markup
