import FormLetter.Markup.Run

/-!
# What stands around a run

The tokens before a run (nearest first, as far back as text has not been written yet) and the
tokens after it decide what can be removed together with its code. Eight optional groups are
taken: before the run a closing span that touches it, then the opening of its paragraph, of its
list item, and of its table row with the first cell; after it an opening span that touches it,
then the closing of the paragraph, of the item, and of the cell with any covered cells and the row.
A row is taken as a whole or not at all.

White space may stand between the structural groups and belongs to the group farther from the
run's paragraph. White space between spans is document text, so a neighbouring span has to touch
the run, and a following span that begins a run itself is never taken.
-/

namespace FormLetter.Markup

open FormLetter.Style (Table)

/-- Some tokens split in two: those taken, in document order, and those left. -/
structure Split where
  taken : List Token
  left : List Token
  deriving DecidableEq, Repr

/-- True for white space between tags. -/
def isSpace (token : Token) : Bool :=
  token.kind == .space

/-! ## Before a run -/

/-- Takes tokens of the given kinds, the nearest kind first, each after optional white space. The
tokens are given nearest first. -/
def takeBefore? : List Kind → List Token → Option Split
  | [], before => some ⟨[], before⟩
  | kind :: kinds, before =>
    let spaces := before.takeWhile isSpace
    match before.dropWhile isSpace with
    | [] => none
    | token :: farther =>
      if token.kind == kind then
        (takeBefore? kinds farther).map fun split =>
          ⟨split.taken ++ token :: spaces.reverse, split.left⟩
      else none

/-! ## After a run -/

/-- Takes one token of the given kind, after optional white space. -/
def takeAfter? (kind : Kind) (after : List Token) : Option Split :=
  match after.dropWhile isSpace with
  | [] => none
  | token :: farther =>
    if token.kind == kind then some ⟨after.takeWhile isSpace ++ [token], farther⟩ else none

/-- What is left after a token was taken is shorter. -/
theorem takeAfter?_shorter {kind : Kind} {after : List Token} {split : Split}
    (taken : takeAfter? kind after = some split) : split.left.length < after.length := by
  unfold takeAfter? at taken
  split at taken
  · simp at taken
  · rename_i token farther dropped
    split at taken
    · simp only [Option.some.injEq] at taken
      subst taken
      have bound : (after.dropWhile isSpace).length ≤ after.length :=
        (List.dropWhile_suffix _).length_le
      rw [dropped, List.length_cons] at bound
      exact bound
    · simp at taken

/-- Takes covered cells as long as there are any. -/
def takeCovered (after : List Token) : Split :=
  match _found : takeAfter? .coveredCell after with
  | none => ⟨[], after⟩
  | some cell =>
    let more := takeCovered cell.left
    ⟨cell.taken ++ more.taken, more.left⟩
termination_by after.length
decreasing_by exact takeAfter?_shorter _found

/-- Takes the end of a cell, any covered cells and the end of the row. -/
def takeRowEnd? (after : List Token) : Option Split :=
  match takeAfter? .cellClose after with
  | none => none
  | some cell =>
    let covered := takeCovered cell.left
    (takeAfter? .rowClose covered.left).map fun row =>
      ⟨cell.taken ++ covered.taken ++ row.taken, row.left⟩

/-! ## The groups -/

/-- The groups around a run, each with the exact text that it covers. -/
structure Groups where
  rowStart : Option (List Char) := none
  itemStart : Option (List Char) := none
  paragraphStart : Option (List Char) := none
  spanEnd : Option (List Char) := none
  spanStart : Option (List Char) := none
  paragraphEnd : Option (List Char) := none
  itemEnd : Option (List Char) := none
  rowEnd : Option (List Char) := none
  deriving DecidableEq, Repr, Inhabited

/-- The tokens of the groups around a run, in document order. A group that was not found has none. -/
structure Taken where
  rowStart : List Token := []
  itemStart : List Token := []
  paragraphStart : List Token := []
  spanEnd : List Token := []
  spanStart : List Token := []
  paragraphEnd : List Token := []
  itemEnd : List Token := []
  rowEnd : List Token := []
  deriving DecidableEq, Repr

namespace Taken

/-- The text of a group, if it was found. -/
def text? (group : List Token) : Option (List Char) :=
  if group.isEmpty then none else some (Token.join group)

/-- The groups with their texts. -/
def groups (taken : Taken) : Groups where
  rowStart := text? taken.rowStart
  itemStart := text? taken.itemStart
  paragraphStart := text? taken.paragraphStart
  spanEnd := text? taken.spanEnd
  spanStart := text? taken.spanStart
  paragraphEnd := text? taken.paragraphEnd
  itemEnd := text? taken.itemEnd
  rowEnd := text? taken.rowEnd

/-- The tokens before the run that belong to its groups. -/
def lead (taken : Taken) : List Token :=
  taken.rowStart ++ taken.itemStart ++ taken.paragraphStart ++ taken.spanEnd

/-- The tokens after the run that belong to its groups. -/
def trail (taken : Taken) : List Token :=
  taken.spanStart ++ taken.paragraphEnd ++ taken.itemEnd ++ taken.rowEnd

end Taken

/-- The groups around a run, with the tokens that none of them took: those before, nearest first,
and those after. -/
structure Surroundings where
  taken : Taken
  before : List Token
  after : List Token
  deriving DecidableEq, Repr

/-- The groups around a run with their texts. -/
def Surroundings.groups (around : Surroundings) : Groups :=
  around.taken.groups

/-- The tokens of a group that may not have been found. -/
def takenBy (split : Option Split) : List Token :=
  match split with
  | some split => split.taken
  | none => []

/-- What is left by a group that may not have been found. -/
def leftBy (split : Option Split) (tokens : List Token) : List Token :=
  match split with
  | some split => split.left
  | none => tokens

/-- Takes the first token if it satisfies a condition. -/
def takeTouching? (accept : List Token → Bool) : List Token → Option Split
  | [] => none
  | token :: rest => if accept (token :: rest) then some ⟨[token], rest⟩ else none

/-- True when some tokens begin with a tag that closes a span. -/
def beginsWithSpanClose : List Token → Bool
  | [] => false
  | token :: _ => token.kind == .spanClose

/-- True when some tokens begin with a tag that opens a span and no run of the table begins there.
Without a table every opening span counts. -/
def beginsWithNeighbour (styles : Option Table) : List Token → Bool
  | [] => false
  | token :: rest =>
    token.kind == .spanOpen &&
      match styles with
      | none => true
      | some table => (Run.start? table (token :: rest)).isNone

/-- Collects the groups around a run. `before` holds the tokens before it, nearest first. -/
def surround (styles : Option Table) (before after : List Token) : Surroundings :=
  let spanEnd := takeTouching? beginsWithSpanClose before
  let before := leftBy spanEnd before
  let paragraphStart := takeBefore? [.paragraphOpen] before
  let before := leftBy paragraphStart before
  let itemStart := takeBefore? [.itemOpen] before
  let before := leftBy itemStart before
  let rowStart := takeBefore? [.cellOpen, .rowOpen] before
  let before := leftBy rowStart before
  let spanStart := takeTouching? (beginsWithNeighbour styles) after
  let after := leftBy spanStart after
  let paragraphEnd := takeAfter? .paragraphClose after
  let after := leftBy paragraphEnd after
  let itemEnd := takeAfter? .itemClose after
  let after := leftBy itemEnd after
  let rowEnd := takeRowEnd? after
  let after := leftBy rowEnd after
  { taken :=
      { rowStart := takenBy rowStart
        itemStart := takenBy itemStart
        paragraphStart := takenBy paragraphStart
        spanEnd := takenBy spanEnd
        spanStart := takenBy spanStart
        paragraphEnd := takenBy paragraphEnd
        itemEnd := takenBy itemEnd
        rowEnd := takenBy rowEnd }
    before := before
    after := after }

/-! ## What no group takes is shorter -/

theorem takeCovered_length_le (after : List Token) :
    (takeCovered after).left.length ≤ after.length := by
  fun_induction takeCovered after with
  | case1 => simp
  | case2 after cell found more bound =>
    exact Nat.le_trans bound (Nat.le_of_lt (takeAfter?_shorter found))

theorem takeRowEnd?_length_le {after : List Token} {split : Split}
    (taken : takeRowEnd? after = some split) : split.left.length ≤ after.length := by
  unfold takeRowEnd? at taken
  split at taken
  · simp at taken
  · rename_i cell found
    simp only [Option.map_eq_some_iff] at taken
    obtain ⟨row, rowFound, rfl⟩ := taken
    have := takeAfter?_shorter found
    have := takeAfter?_shorter rowFound
    have := takeCovered_length_le cell.left
    simp only
    omega

theorem leftBy_length_le {split : Option Split} {tokens : List Token}
    (bound : ∀ found, split = some found → found.left.length ≤ tokens.length) :
    (leftBy split tokens).length ≤ tokens.length := by
  cases split with
  | none => simp [leftBy]
  | some found => exact bound found rfl

theorem takeTouching?_length_le {accept : List Token → Bool} {tokens : List Token} {split : Split}
    (taken : takeTouching? accept tokens = some split) : split.left.length ≤ tokens.length := by
  cases tokens with
  | nil => simp [takeTouching?] at taken
  | cons token rest =>
    simp only [takeTouching?] at taken
    split at taken
    · simp only [Option.some.injEq] at taken
      subst taken
      simp
    · simp at taken

/-- What is left after the groups behind a run is no longer than what stood there. -/
theorem surround_after_length_le (styles : Option Table) (before after : List Token) :
    (surround styles before after).after.length ≤ after.length := by
  simp only [surround]
  refine Nat.le_trans (leftBy_length_le fun _ found => takeRowEnd?_length_le found) ?_
  refine Nat.le_trans
    (leftBy_length_le fun _ found => Nat.le_of_lt (takeAfter?_shorter found)) ?_
  refine Nat.le_trans
    (leftBy_length_le fun _ found => Nat.le_of_lt (takeAfter?_shorter found)) ?_
  exact leftBy_length_le fun _ found => takeTouching?_length_le found

end FormLetter.Markup
