import FormLetter.Part
import Mathlib.Data.List.Basic

/-!
# The preview shows the directive that failed

A preview is a window on the directives of a source, cut around a line. What the directives of a
source are is said here without the search for them: where one begins it is taken whole, up to the
first mark that closes it, and elsewhere a character is passed. So directives do not overlap, and
one begins on the line where the one before it ends or on a later one.

That is why a window of two is enough. The directive that a line stands in begins on that line or
behind it, or it is the one before the first of those.
-/

namespace FormLetter.Text

/-- A text is found where it begins and not before. -/
theorem find?_spec {wanted text : List Char} {place : Nat}
    (found : find? wanted text = some place) :
    wanted <+: text.drop place ∧ ∀ other < place, ¬wanted <+: text.drop other := by
  induction text generalizing place with
  | nil =>
    simp only [find?, Option.ite_none_right_eq_some, List.isEmpty_iff, Option.some.injEq] at found
    obtain ⟨rfl, rfl⟩ := found
    exact ⟨List.nil_prefix, fun other below => absurd below (Nat.not_lt_zero other)⟩
  | cons c rest inductionHypothesis =>
    rw [find?] at found
    split at found
    · rename_i begins
      cases found
      exact ⟨List.isPrefixOf_iff_prefix.mp begins, fun other below =>
        absurd below (Nat.not_lt_zero other)⟩
    · rename_i never
      obtain ⟨place, foundLater, rfl⟩ := Option.map_eq_some_iff.mp found
      obtain ⟨here, before⟩ := inductionHypothesis foundLater
      refine ⟨here, fun other below => ?_⟩
      cases other with
      | zero => exact fun begins => never (List.isPrefixOf_iff_prefix.mpr begins)
      | succ other => exact before other (Nat.lt_of_succ_lt_succ below)

/-- A text is found where it occurs at all. -/
theorem isSome_find?_of_infix {wanted text : List Char} (occurs : wanted <:+: text) :
    (find? wanted text).isSome = true := by
  induction text with
  | nil => simp [find?, List.eq_nil_of_infix_nil occurs]
  | cons c rest inductionHypothesis =>
    rw [find?]
    split
    · rfl
    · rename_i never
      rw [Option.isSome_map]
      refine inductionHypothesis ((List.infix_cons_iff.mp occurs).resolve_left fun begins => ?_)
      exact never (List.isPrefixOf_iff_prefix.mpr begins)

end FormLetter.Text

namespace FormLetter.Part

open FormLetter.Script FormLetter.Text

/-! ## Directives of a source -/

/-- A directive: an opening mark, and code up to the first closing mark. -/
def IsDirective (text : List Char) : Prop :=
  ∃ code, text = "<%".toList ++ (code ++ "%>".toList) ∧
    ∀ lead rest, code ++ "%>".toList = lead ++ ("%>".toList ++ rest) → rest = []

/-- True where a directive begins. -/
def BeginsDirective (text : List Char) : Prop :=
  ∃ directive, IsDirective directive ∧ directive <+: text

/-- A directive in a source: what stands before it, and its text. -/
structure Occurrence where
  before : List Char
  text : List Char
  deriving DecidableEq, Repr

namespace Occurrence

/-- The line on which a directive begins. -/
def line (found : Occurrence) : Nat := 1 + found.before.count '\n'

/-- The line on which a directive ends. -/
def lastLine (found : Occurrence) : Nat := 1 + (found.before ++ found.text).count '\n'

/-- The directive as a preview shows it. -/
def shown (found : Occurrence) : Directive := (Directive.mk found.line found.text).shortened

end Occurrence

/-- The directives of a text behind another one. Where one begins it is taken whole, and elsewhere
a character is passed. -/
inductive Finds : List Char → List Char → List Occurrence → Prop where
  | nil (before : List Char) : Finds before [] []
  | pass {before rest : List Char} {found : List Occurrence} (c : Char)
      (none_ : ¬BeginsDirective (c :: rest)) (more : Finds (before ++ [c]) rest found) :
      Finds before (c :: rest) found
  | take {before rest : List Char} {found : List Occurrence} {text : List Char}
      (is : IsDirective text) (more : Finds (before ++ text) rest found) :
      Finds before (text ++ rest) (⟨before, text⟩ :: found)

theorem IsDirective.ne_nil {text : List Char} (is : IsDirective text) : text ≠ [] := by
  obtain ⟨code, rfl, -⟩ := is
  simp

/-- A directive ends with its first closing mark, so no other one begins with it. -/
theorem IsDirective.eq_of_prefix {first second : List Char} (isFirst : IsDirective first)
    (isSecond : IsDirective second) (begins : first <+: second) : first = second := by
  obtain ⟨code, rfl, -⟩ := isFirst
  obtain ⟨other, rfl, closes⟩ := isSecond
  obtain ⟨more, same⟩ := begins
  rw [List.append_assoc, List.append_cancel_left_eq, List.append_assoc] at same
  have ends : more = [] := closes code more same.symm
  rw [ends, List.append_nil] at same
  rw [same]

/-- At one place, one directive begins at most. -/
theorem IsDirective.unique {first second rest others : List Char} (isFirst : IsDirective first)
    (isSecond : IsDirective second) (same : first ++ rest = second ++ others) :
    first = second ∧ rest = others := by
  have begins : first = second := by
    have isPrefix : first <+: second ++ others := ⟨rest, same⟩
    rcases List.prefix_or_prefix_of_prefix isPrefix (List.prefix_append second others) with
      shorter | longer
    · exact isFirst.eq_of_prefix isSecond shorter
    · exact (isSecond.eq_of_prefix isFirst longer).symm
  subst begins
  exact ⟨rfl, List.append_cancel_left same⟩

/-- The directives of a text are given by the text. -/
theorem Finds.unique {before text : List Char} {found others : List Occurrence}
    (first : Finds before text found) (second : Finds before text others) : found = others := by
  induction first generalizing others with
  | nil before =>
    generalize isText : ([] : List Char) = text at second
    cases second with
    | nil => rfl
    | pass => cases isText
    | take is more => exact absurd (List.append_eq_nil_iff.mp isText.symm).1 is.ne_nil
  | @pass before rest found c none_ more inductionHypothesis =>
    generalize isText : c :: rest = text at second
    cases second with
    | nil => cases isText
    | pass d none_ other =>
      cases isText
      exact inductionHypothesis other
    | take is other => exact absurd ⟨_, is, _, isText.symm⟩ none_
  | @take before rest found text is more inductionHypothesis =>
    generalize isText : text ++ rest = whole at second
    cases second with
    | nil => exact absurd (List.append_eq_nil_iff.mp isText).1 is.ne_nil
    | pass d none_ other => exact absurd ⟨_, is, _, isText⟩ none_
    | take isOther other =>
      obtain ⟨rfl, rfl⟩ := is.unique isOther isText
      rw [inductionHypothesis other]

/-- Directives stand one after the other: each behind the end of those before it, and all behind
what stands before the text. -/
theorem Finds.apart {before text : List Char} {found : List Occurrence}
    (finds : Finds before text found) :
    (∀ each ∈ found, before <+: each.before) ∧
      found.Pairwise fun first second => first.before ++ first.text <+: second.before := by
  induction finds with
  | nil => exact ⟨by simp, List.Pairwise.nil⟩
  | pass c none_ more inductionHypothesis =>
    refine ⟨fun each member => ?_, inductionHypothesis.2⟩
    exact (List.prefix_append _ _).trans (inductionHypothesis.1 each member)
  | take is more inductionHypothesis =>
    refine ⟨List.forall_mem_cons.mpr ⟨List.prefix_refl _, fun each member => ?_⟩,
      List.pairwise_cons.mpr inductionHypothesis⟩
    exact (List.prefix_append _ _).trans (inductionHypothesis.1 each member)

/-- A directive begins on the line where one before it ends, or on a later one. -/
theorem Finds.lines {before text : List Char} {found : List Occurrence}
    (finds : Finds before text found) :
    found.Pairwise fun first second => first.lastLine ≤ second.line :=
  finds.apart.2.imp fun behind => Nat.add_le_add_left (behind.sublist.count_le '\n') 1

theorem Occurrence.line_le_lastLine (found : Occurrence) : found.line ≤ found.lastLine := by
  simp only [line, lastLine, List.count_append]
  omega

/-! ## The search for directives -/

/-- The length of a directive is found where one begins. -/
theorem directiveLength?_of_isDirective {text : List Char} (begins : BeginsDirective text) :
    (directiveLength? text).isSome = true := by
  obtain ⟨directive, ⟨code, rfl, -⟩, rest, rfl⟩ := begins
  have closed : "%>".toList <:+: (("<%".toList ++ (code ++ "%>".toList)) ++ rest).drop 2 :=
    ⟨code, rest, by simp⟩
  have opened : "<%".toList.isPrefixOf (("<%".toList ++ (code ++ "%>".toList)) ++ rest) = true :=
    List.isPrefixOf_iff_prefix.mpr ⟨_, (List.append_assoc _ _ _).symm⟩
  rw [directiveLength?, if_pos opened, Option.isSome_map]
  exact isSome_find?_of_infix closed

/-- Where a length is found, a directive of that length begins. -/
theorem isDirective_of_directiveLength? {text : List Char} {length : Nat}
    (found : directiveLength? text = some length) :
    ∃ directive rest, text = directive ++ rest ∧ IsDirective directive ∧
      directive.length = length := by
  rw [directiveLength?, Option.ite_none_right_eq_some, List.isPrefixOf_iff_prefix] at found
  obtain ⟨⟨inside, rfl⟩, found⟩ := found
  obtain ⟨place, isPlace, rfl⟩ := Option.map_eq_some_iff.mp found
  have dropped : ("<%".toList ++ inside).drop 2 = inside := rfl
  rw [dropped] at isPlace
  obtain ⟨⟨rest, isRest⟩, earliest⟩ := find?_spec isPlace
  have parts : inside = inside.take place ++ ("%>".toList ++ rest) := by
    rw [isRest, List.take_append_drop]
  have size : (inside.take place).length = place := by
    have long := congrArg List.length isRest
    rw [List.length_append, List.length_drop] at long
    rw [List.length_take]
    have two : "%>".toList.length = 2 := rfl
    omega
  refine ⟨"<%".toList ++ (inside.take place ++ "%>".toList), rest, ?_, ⟨_, rfl, ?_⟩, ?_⟩
  · rw [List.append_assoc, List.append_assoc, ← parts]
  · intro lead more same
    -- A closing mark with something behind it would have been found before.
    by_contra some_
    have sizes := congrArg List.length same
    simp only [List.length_append, size] at sizes
    have positive := List.length_pos_of_ne_nil some_
    have whole : inside = lead ++ ("%>".toList ++ (more ++ rest)) := by
      rw [parts, ← List.append_assoc, same]
      simp
    refine earliest lead.length (by omega) ⟨more ++ rest, ?_⟩
    rw [whole, List.drop_left]
  · rw [List.length_append, List.length_append, size]
    exact Nat.add_comm 2 _

/-- The line behind a character. -/
theorem line_next (c : Char) (line : Nat) :
    (if c == '\n' then line + 1 else line) = line + [c].count '\n' := by
  rw [List.count_singleton]
  split <;> rfl

/-- Characters of a directive that was found are passed, and their lines are counted. -/
theorem directivesFrom_append (lead rest : List Char) (line : Nat) :
    directivesFrom line lead.length (lead ++ rest)
      = directivesFrom (line + lead.count '\n') 0 rest := by
  induction lead generalizing line with
  | nil => rfl
  | cons c more inductionHypothesis =>
    rw [List.length_cons, List.cons_append, directivesFrom, inductionHypothesis, line_next,
      Nat.add_assoc, ← List.count_append, List.singleton_append]

theorem directivesFrom_pass {c : Char} {rest : List Char}
    (none_ : directiveLength? (c :: rest) = none) (line : Nat) :
    directivesFrom line 0 (c :: rest) = directivesFrom (line + [c].count '\n') 0 rest := by
  rw [directivesFrom, line_next]
  simp only [none_]

theorem directivesFrom_take {directive rest : List Char} (some_ : directive ≠ [])
    (length : directiveLength? (directive ++ rest) = some directive.length) (line : Nat) :
    directivesFrom line 0 (directive ++ rest)
      = ⟨line, directive⟩ :: directivesFrom (line + directive.count '\n') 0 rest := by
  obtain ⟨c, more, rfl⟩ := List.exists_cons_of_ne_nil some_
  rw [List.cons_append] at length ⊢
  rw [directivesFrom, line_next]
  simp only [length]
  rw [← List.cons_append, List.take_left, List.length_cons, Nat.add_sub_cancel,
    directivesFrom_append, Nat.add_assoc, ← List.count_append, List.singleton_append]

/-- The search gives the directives of a text, each with the line on which it begins. -/
theorem exists_finds (text before : List Char) :
    ∃ found, Finds before text found ∧
      directivesFrom (1 + before.count '\n') 0 text
        = found.map fun each => ⟨each.line, each.text⟩ := by
  induction size : text.length using Nat.strongRecOn generalizing text before with
  | ind size inductionHypothesis =>
    cases text with
    | nil => exact ⟨[], .nil before, rfl⟩
    | cons c rest =>
      cases length_ : directiveLength? (c :: rest) with
      | none =>
        obtain ⟨found, finds, same⟩ := inductionHypothesis rest.length
          (by rw [← size]; exact Nat.lt_succ_self _) rest (before ++ [c]) rfl
        refine ⟨found, .pass c (fun begins => ?_) finds, ?_⟩
        · have some_ := directiveLength?_of_isDirective begins
          rw [length_] at some_
          cases some_
        · rw [← same, List.count_append, ← Nat.add_assoc, directivesFrom_pass length_]
      | some length =>
        obtain ⟨directive, others, parts, is, rfl⟩ := isDirective_of_directiveLength? length_
        rw [parts] at length_ size ⊢
        have positive := List.length_pos_of_ne_nil is.ne_nil
        obtain ⟨found, finds, same⟩ := inductionHypothesis others.length
          (by rw [← size, List.length_append]; omega) others (before ++ directive) rfl
        refine ⟨⟨before, directive⟩ :: found, .take is finds, ?_⟩
        rw [List.map_cons, ← same, directivesFrom_take is.ne_nil length_, List.count_append,
          Nat.add_assoc]
        rfl

/-! ## The window -/

theorem filterMap_range_getElem? {α : Type} (items : List α) (first count : Nat) :
    (List.range count).filterMap (fun n => items[first + n]?) = (items.drop first).take count := by
  induction count with
  | zero => simp
  | succ count inductionHypothesis =>
    rw [List.range_succ, List.filterMap_append, inductionHypothesis, List.take_add_one,
      List.getElem?_drop]
    cases found : items[first + count]? with
    | none => simp [found]
    | some item => simp [found]

/-- The indices of so many items from a place on, as far as there are items. -/
theorem sliceIndices_eq (length start count : Nat) :
    sliceIndices length (some start) (some (start + count : Int)) 1
      = (List.range (min length (start + count) - min length start)).map
          (min length start + ·) := by
  have first : max (0 : Int) (min length (if (start : Int) < 0 then start + length else start))
      = (min length start : Nat) := by
    rw [if_neg (by omega)]
    omega
  have last : max (0 : Int) (min length
        (if (start + count : Int) < 0 then start + count + length else start + count))
      = (min length (start + count) : Nat) := by
    rw [if_neg (by omega)]
    omega
  have size : ((min length (start + count) : Nat) - (min length start : Nat) + 1 - 1 : Int).toNat
      = min length (start + count) - min length start := by omega
  simp only [sliceIndices, Int.reduceLT, if_false, if_true, first, last, rangeLength,
    Int.fdiv_one, size]
  refine List.map_congr_left fun n _ => ?_
  omega

/-- So many items from a place on. -/
theorem between_eq {α : Type} (items : List α) (start count : Nat) :
    between items start (start + count : Int) = (items.drop start).take count := by
  have window := filterMap_range_getElem? items (min items.length start)
    (min items.length (start + count) - min items.length start)
  rw [between, sliceIndices_eq, List.filterMap_map]
  refine window.trans ?_
  rcases Nat.le_total items.length start with beyond | within
  · rw [Nat.min_eq_left beyond, List.drop_length, List.drop_eq_nil_of_le beyond]
    simp
  · rw [Nat.min_eq_right within, List.take_eq_take_iff, List.length_drop]
    omega

theorem mem_window {α : Type} {items : List α} {start count place : Nat}
    (inside : place < items.length) (behind : start ≤ place) (within : place < start + count) :
    items[place] ∈ (items.drop start).take count := by
  refine List.mem_iff_getElem.mpr ⟨place - start, ?_, ?_⟩
  · rw [List.length_take, List.length_drop]
    omega
  · rw [List.getElem_take, List.getElem_drop]
    congr 1
    omega

/-- The place in the directives from which on a window shows them. -/
def windowStart (found : List Occurrence) (focus count : Nat) : Nat :=
  match found.findIdx? fun each => focus ≤ each.line with
  | some place => place - count / 2
  | none => found.length - count

theorem shortened_line (directive : Directive) : directive.shortened.line = directive.line := by
  unfold Directive.shortened
  split <;> rfl

/-- A preview is the window on the directives of its source. -/
theorem preview_eq (part : Part) {found : List Occurrence}
    (same : directivesFrom 1 0 part.source = found.map fun each => ⟨each.line, each.text⟩)
    (focus count : Nat) :
    part.preview (some focus) count =
      ((found.drop (windowStart found focus count)).take count).map Occurrence.shown := by
  have all : part.directives = found.map Occurrence.shown := by
    rw [directives, same, List.map_map]
    rfl
  have place : (found.map Occurrence.shown).findIdx? (focus ≤ ·.line)
      = found.findIdx? fun each => focus ≤ each.line := by
    rw [List.findIdx?_map]
    congr 1
    funext each
    simp [Occurrence.shown, shortened_line]
  have half : (count : Int).fdiv 2 = (count / 2 : Nat) := by
    rw [Int.fdiv_eq_ediv_of_nonneg _ (by decide)]
    rfl
  unfold preview
  dsimp only
  rw [all, place, windowStart, List.length_map, half, List.map_take, List.map_drop]
  cases found.findIdx? fun each => focus ≤ each.line with
  | some index =>
    have start : max (0 : Int) (index - (count / 2 : Nat)) = (index - count / 2 : Nat) := by omega
    dsimp only
    rw [start, between_eq]
  | none =>
    have start : max (0 : Int) (found.length - count) = (found.length - count : Nat) := by omega
    dsimp only
    rw [start, between_eq]

/-- The first directive on a line or behind it is in the window. -/
theorem find?_in_window {found : List Occurrence} {focus count : Nat} (enough : 2 ≤ count)
    {next : Occurrence} (first : found.find? (fun each => focus ≤ each.line) = some next) :
    next ∈ (found.drop (windowStart found focus count)).take count := by
  obtain ⟨isAt, place, inside, rfl, earlier⟩ := List.find?_eq_some_iff_getElem.mp first
  have isFirst : found.findIdx? (fun each => focus ≤ each.line) = some place :=
    List.findIdx?_eq_some_iff_getElem.mpr ⟨inside, isAt, fun other below => by
      simpa using earlier other below⟩
  have start : windowStart found focus count = place - count / 2 := by
    rw [windowStart, isFirst]
  exact mem_window inside (by omega) (by omega)

/-- Without such a directive the window ends with the last one. -/
theorem windowStart_of_none {found : List Occurrence} {focus : Nat} (count : Nat)
    (before : ∀ each ∈ found, each.line < focus) :
    windowStart found focus count = found.length - count := by
  have none_ : found.findIdx? (fun each => focus ≤ each.line) = none :=
    List.findIdx?_eq_none_iff.mpr fun each member => by
      simpa using before each member
  rw [windowStart, none_]

/-- A directive that begins before a line and reaches it is in the window: it stands right before
the first one on that line or behind it, or is the last one of all. -/
theorem Finds.reaching_in_window {before text : List Char} {found : List Occurrence}
    (finds : Finds before text found) {focus count : Nat} (enough : 2 ≤ count)
    {each : Occurrence} (member : each ∈ found) (begins : each.line < focus)
    (reaches : focus ≤ each.lastLine) :
    each ∈ (found.drop (windowStart found focus count)).take count := by
  obtain ⟨place, inside, rfl⟩ := List.mem_iff_getElem.mp member
  have lines := List.pairwise_iff_getElem.mp finds.lines
  have later {other : Nat} (isOther : other < found.length) (behind : place < other) :
      focus ≤ found[other].line :=
    Nat.le_trans reaches (lines place other inside isOther behind)
  cases first : found.findIdx? (fun each => focus ≤ each.line) with
  | some next =>
    obtain ⟨isNext, isAt, earlier⟩ := List.findIdx?_eq_some_iff_getElem.mp first
    rw [decide_eq_true_iff] at isAt
    have behind : place < next := by
      by_contra notBehind
      rcases Nat.lt_or_eq_of_le (Nat.le_of_not_lt notBehind) with before | same
      · have ends := lines next place isNext inside before
        have begun := found[next].line_le_lastLine
        omega
      · subst same
        omega
    have adjacent : next ≤ place + 1 := by
      by_contra between
      have notYet := earlier (place + 1) (by omega)
      rw [decide_eq_true_iff] at notYet
      exact notYet (later (by omega) (Nat.lt_succ_self place))
    have start : windowStart found focus count = next - count / 2 := by
      rw [windowStart, first]
    exact mem_window inside (by omega) (by omega)
  | none =>
    have none_ : ∀ other ∈ found, other.line < focus := fun other isOther => by
      simpa using List.findIdx?_eq_none_iff.mp first other isOther
    have last : found.length ≤ place + 1 := by
      by_contra more
      have isNext : place + 1 < found.length := by omega
      have early := none_ _ (List.getElem_mem isNext)
      have late := later isNext (Nat.lt_succ_self place)
      omega
    have start := windowStart_of_none count none_
    exact mem_window inside (by omega) (by omega)

/-- A preview shows the directive that a line stands in.

Its directives are some of the source that follow each other, in their order, each with the line on
which it begins, and no more than were asked for. Among them is the first directive that begins on
the line or behind it; where there is none, they end with the last one. Among them is also the
directive that begins before the line and reaches it. At least two have to be asked for: of one,
only the first of these is sure to be shown. -/
theorem preview_shows_reaching (part : Part) (focus : Nat) {limit : Int} (enough : 2 ≤ limit) :
    ∃ found front shown back, Finds [] part.source found ∧
      (∀ others, Finds [] part.source others → others = found) ∧
      found = front ++ (shown ++ back) ∧
      part.preview (some focus) limit = shown.map Occurrence.shown ∧
      (∀ each, (Occurrence.shown each).line = each.line) ∧ (shown.length : Int) ≤ limit ∧
      (∀ next, found.find? (fun each => focus ≤ each.line) = some next → next ∈ shown) ∧
      ((∀ each ∈ found, each.line < focus) → shown.getLast? = found.getLast?) ∧
      ∀ each ∈ found, each.line < focus → focus ≤ each.lastLine → each ∈ shown := by
  obtain ⟨count, rfl⟩ := Int.eq_ofNat_of_zero_le (show 0 ≤ limit by omega)
  obtain ⟨found, finds, same⟩ := exists_finds part.source []
  have two : 2 ≤ count := by exact_mod_cast enough
  refine ⟨found, found.take (windowStart found focus count),
    (found.drop (windowStart found focus count)).take count,
    (found.drop (windowStart found focus count)).drop count, finds,
    fun others other => other.unique finds, ?_, preview_eq part same focus count,
    fun each => shortened_line _, ?_, fun next first => find?_in_window two first, ?_,
    fun each member begins reaches => finds.reaching_in_window two member begins reaches⟩
  · rw [List.take_append_drop, List.take_append_drop]
  · exact_mod_cast List.length_take_le _ _
  · intro none_
    have all : (found.drop (found.length - count)).length ≤ count := by
      rw [List.length_drop]
      omega
    rw [windowStart_of_none count none_, List.take_of_length_le all, List.getLast?_drop]
    split
    · rename_i short
      rw [List.length_eq_zero_iff.mp (show found.length = 0 by omega)]
      rfl
    · rfl

/-- A statement on two lines and an output behind it on the second one. -/
def statementOnTwoLines : Part :=
  .ofSource "content.xml" "<p>\n<% if x\n  and y %><%= z %>\n<%# note #%>".toList

/-- When the second line fails, both directives are shown that stand there. -/
theorem preview_shows_reaching_statementOnTwoLines :
    (2 : Int) ≤ 2 ∧
      statementOnTwoLines.preview (some 3) 2 =
        [⟨2, "<% if x\n  and y %>".toList⟩, ⟨3, "<%= z %>".toList⟩] ∧
      ∃ found shown, Finds [] statementOnTwoLines.source found ∧ shown <:+: found ∧
        statementOnTwoLines.preview (some 3) 2 = shown.map Occurrence.shown ∧
        ∀ each ∈ found, each.line < 3 → 3 ≤ each.lastLine → each ∈ shown := by
  refine ⟨by decide, by decide, ?_⟩
  obtain ⟨found, front, shown, back, finds, -, parts, isPreview, -, -, -, -, reaching⟩ :=
    preview_shows_reaching statementOnTwoLines 3 (show (2 : Int) ≤ 2 by decide)
  exact ⟨found, shown, finds, ⟨front, back, by rw [parts, List.append_assoc]⟩, isPreview, reaching⟩

end FormLetter.Part
