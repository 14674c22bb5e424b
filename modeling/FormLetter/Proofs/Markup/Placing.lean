import FormLetter.Markup.Context
import FormLetter.Proofs.Markup.Outline

/-!
# What the context of a run covers

The groups before a run, the run and the groups after it stand side by side: together they are one
stretch of the tokens, from the start of the context up to its stop, and nothing of that stretch is
left out or given twice. The stretch does not reach below the floor nor behind the last token, and
behind the run it passes no other run.

The tokens may be any list: nothing here asks that they were cut from a text, except that a group
of tokens without text would have none.
-/

namespace FormLetter.Markup

open FormLetter.Style

/-! ## Stretches of tokens -/

/-- What stands between two other parts of some tokens is found by the places where it stands. -/
theorem Token.between_append (front middle back : List Token) :
    Token.between (front ++ (middle ++ back)) front.length (front.length + middle.length)
      = middle := by
  rw [Token.between, ← List.append_assoc, ← List.length_append, List.take_left, List.drop_left]

/-- Tokens up to a place are those up to a floor and those from there on. -/
theorem Token.take_append_between (tokens : List Token) {floor place : Nat}
    (below : floor ≤ place) :
    tokens.take floor ++ Token.between tokens floor place = tokens.take place := by
  have parts := List.take_append_drop floor (tokens.take place)
  rwa [List.take_take, Nat.min_eq_left below] at parts

/-- A run that stands between other tokens is found by its places. -/
theorem Run.between_append (front : List Token) (run : Run) (back : List Token) :
    Run.between (front ++ (run.tokens ++ back)) front.length
      (front.length + run.inner.length + 1) = run := by
  have parts : front ++ (run.tokens ++ back) =
      (front ++ [run.opening]) ++ (run.inner ++ run.closing :: back) := by simp [Run.tokens]
  have opening : (front ++ (run.tokens ++ back))[front.length]? = some run.opening := by
    simp [Run.tokens]
  have place : (front ++ [run.opening]).length = front.length + 1 := by simp
  have size : front.length + run.inner.length + 1 =
      (front ++ [run.opening]).length + run.inner.length := by omega
  have inner := Token.between_append (front ++ [run.opening]) run.inner (run.closing :: back)
  have closing : (front ++ (run.tokens ++ back))[front.length + run.inner.length + 1]? =
      some run.closing := by
    rw [parts, size, ← List.length_append, ← List.append_assoc]
    simp
  rw [Run.between, opening, closing, parts, ← place, size, inner]
  rfl

/-- Where no run begins in some tokens, none begins at their places. -/
theorem Quiet.start?_drop {styles : Table} {rest tokens : List Token}
    (quiet : Quiet styles rest tokens) {place : Nat} (inside : place < tokens.length) :
    Run.start? styles ((tokens ++ rest).drop place) = none := by
  induction tokens generalizing place with
  | nil => exact absurd inside (Nat.not_lt_zero place)
  | cons token more inductionHypothesis =>
    cases place with
    | zero => exact quiet.1
    | succ place => exact inductionHypothesis quiet.2 (Nat.lt_of_succ_lt_succ inside)

/-! ## Groups -/

namespace Groups

/-- All groups, in document order. -/
def all (groups : Groups) : List (Option (List Char)) :=
  [groups.rowStart, groups.itemStart, groups.paragraphStart, groups.spanEnd, groups.spanStart,
    groups.paragraphEnd, groups.itemEnd, groups.rowEnd]

/-- The text of the groups before a run. -/
def leadText (groups : Groups) : List Char :=
  keep groups.rowStart ++ keep groups.itemStart ++ keep groups.paragraphStart
    ++ keep groups.spanEnd

/-- The text of the groups after a run. -/
def trailText (groups : Groups) : List Char :=
  keep groups.spanStart ++ keep groups.paragraphEnd ++ keep groups.itemEnd ++ keep groups.rowEnd

end Groups

namespace Taken

theorem leadText_groups (taken : Taken) : taken.groups.leadText = Token.join taken.lead := by
  simp only [Groups.leadText, groups, keep_text?, kept, lead, Token.join_append,
    Bool.false_eq_true, if_false]

theorem trailText_groups (taken : Taken) : taken.groups.trailText = Token.join taken.trail := by
  simp only [Groups.trailText, groups, keep_text?, kept, trail, Token.join_append,
    Bool.false_eq_true, if_false]

/-- A group that was found has some text when its tokens have. -/
theorem text?_ne_empty {group : List Token} (texts : ∀ token ∈ group, token.text ≠ []) :
    text? group ≠ some [] := by
  cases group with
  | nil => nofun
  | cons token rest =>
    have some_ : token.text ≠ [] := texts token List.mem_cons_self
    simp [text?, some_]

/-- No group that was found is without text when the tokens before and after the run have some. -/
theorem groups_ne_empty {taken : Taken} (lead : ∀ token ∈ taken.lead, token.text ≠ [])
    (trail : ∀ token ∈ taken.trail, token.text ≠ []) :
    ∀ group ∈ taken.groups.all, group ≠ some [] := by
  have inLead {group : List Token} (part : group ⊆ taken.lead) : text? group ≠ some [] :=
    text?_ne_empty fun token member => lead token (part member)
  have inTrail {group : List Token} (part : group ⊆ taken.trail) : text? group ≠ some [] :=
    text?_ne_empty fun token member => trail token (part member)
  simp only [Groups.all, groups, List.forall_mem_cons]
  refine ⟨inLead ?_, inLead ?_, inLead ?_, inLead ?_, inTrail ?_, inTrail ?_, inTrail ?_,
    inTrail ?_, by simp⟩
  all_goals
    intro token member
    simp [Taken.lead, Taken.trail, member]

end Taken

/-! ## The context of a run -/

/-- How a context stands among the tokens: those in front of it, the groups before the run, the run,
the groups after it, and those behind it. -/
structure Context.Stands (found : Context) (styles : Option Table) (tokens : List Token)
    (floor first last : Nat) (front : List Token) (taken : Taken) (run : Run) (back : List Token) :
    Prop where
  parts : tokens = front ++ (taken.lead ++ (run.tokens ++ (taken.trail ++ back)))
  floored : floor ≤ front.length
  isFirst : first = front.length + taken.lead.length
  isLast : last + 1 = first + run.tokens.length
  isStart : found.start = front.length
  isStop : found.stop = last + 1 + taken.trail.length
  isGroups : found.groups = taken.groups
  quiet : ∀ given, styles = some given → Quiet given back taken.trail

/-- The context of a run that begins at a place stands among the tokens. -/
theorem Run.stands_of_closingAt? {table : Table} {tokens : List Token} {floor first last : Nat}
    (styles : Option Table) (begins : Run.closingAt? table tokens first = some last)
    (below : floor ≤ first) :
    ∃ front taken run back, (context styles tokens floor first last).Stands styles tokens floor
      first last front taken run back := by
  obtain ⟨run, found, rfl⟩ := Option.map_eq_some_iff.mp begins
  have size : run.tokens.length = run.inner.length + 2 := by simp [Run.tokens]
  have inRun :
      run.tokens ++ tokens.drop (first + run.inner.length + 1 + 1) = tokens.drop first := by
    have parts := Run.tokens_append_of_start? found
    rwa [List.drop_drop, show first + (run.inner.length + 2) = first + run.inner.length + 1 + 1 by
      omega] at parts
  have inside : first < tokens.length := by
    have long := congrArg List.length inRun
    rw [List.length_append, List.length_drop, List.length_drop, size] at long
    omega
  generalize isAround : surround styles (Token.between tokens floor first).reverse
    (tokens.drop (first + run.inner.length + 1 + 1)) = around
  have before : tokens.take floor ++ around.before.reverse ++ around.taken.lead =
      tokens.take first := by
    rw [← isAround, List.append_assoc, surround_lead, List.reverse_reverse]
    exact Token.take_append_between tokens below
  have after : around.taken.trail ++ around.after =
      tokens.drop (first + run.inner.length + 1 + 1) := by
    rw [← isAround, surround_trail]
  have place : first = (tokens.take floor ++ around.before.reverse).length
      + around.taken.lead.length := by
    rw [← List.length_append, before, List.length_take]
    omega
  refine ⟨tokens.take floor ++ around.before.reverse, around.taken, run, around.after, ?_⟩
  exact
    { parts := by rw [← List.append_assoc, before, after, inRun, List.take_append_drop]
      floored := by
        rw [List.length_append, List.length_take]
        omega
      isFirst := place
      isLast := by omega
      isStart := by
        simp only [context, isAround]
        omega
      isStop := by simp only [context, isAround]
      isGroups := by simp only [context, isAround, Surroundings.groups]
      quiet := by
        rintro given rfl
        rw [← isAround]
        exact surround_quiet given _ _ }

namespace Context.Stands

variable {found : Context} {styles : Option Table} {tokens front back : List Token}
  {floor first last : Nat} {taken : Taken} {run : Run}
  (stands : found.Stands styles tokens floor first last front taken run back)

include stands

/-- The tokens between the places of the run are the run. -/
theorem between_run : Token.between tokens first (last + 1) = run.tokens := by
  have place : (front ++ taken.lead).length = first := by
    rw [List.length_append, ← stands.isFirst]
  have parts : tokens = (front ++ taken.lead) ++ (run.tokens ++ (taken.trail ++ back)) := by
    rw [List.append_assoc]
    exact stands.parts
  rw [parts, stands.isLast, ← place]
  exact Token.between_append _ _ _

/-- The tokens of the context are the groups before the run, the run and the groups after it. -/
theorem between_context :
    Token.between tokens found.start found.stop =
      taken.lead ++ (run.tokens ++ taken.trail) := by
  have isFirst := stands.isFirst
  have isLast := stands.isLast
  have isStop := stands.isStop
  have stop : found.stop = front.length
      + (taken.lead ++ (run.tokens ++ taken.trail)).length := by
    simp only [List.length_append]
    omega
  have parts : tokens = front ++ ((taken.lead ++ (run.tokens ++ taken.trail)) ++ back) := by
    simpa using stands.parts
  rw [parts, stands.isStart, stop]
  exact Token.between_append _ _ _

/-- The tokens behind the run are the groups after it and what stands behind them. -/
theorem drop_run : tokens.drop (last + 1) = taken.trail ++ back := by
  have isLast : last + 1 = (front ++ (taken.lead ++ run.tokens)).length := by
    rw [stands.isLast, stands.isFirst, List.length_append, List.length_append, Nat.add_assoc]
  have parts : tokens = (front ++ (taken.lead ++ run.tokens)) ++ (taken.trail ++ back) := by
    simpa using stands.parts
  rw [parts, isLast, List.drop_left]

/-- No run under the table that was given begins in the groups after the run. -/
theorem closingAt?_eq_none {given : Table} (isGiven : styles = some given) {place : Nat}
    (behind : last < place) (within : place < found.stop) :
    Run.closingAt? given tokens place = none := by
  have isStop := stands.isStop
  have place_ : tokens.drop place = (taken.trail ++ back).drop (place - (last + 1)) := by
    rw [← stands.drop_run, List.drop_drop]
    congr 1
    omega
  rw [Run.closingAt?, place_, (stands.quiet given isGiven).start?_drop (by omega), Option.map_none]

end Context.Stands

/-- The context of a run is one stretch of the tokens: it begins at the floor or behind it and at
the run or before it, ends behind the run and within the tokens, and its text is that of the groups
before the run, the run, and the groups after it. Groups that were found have some text, as tokens
have. Where a table of styles is given, no run under it begins behind the run in the stretch.

The run is one that begins at its first place under some table, and the table that is given may be
another one. -/
theorem context_partitions {table : Table} {tokens : List Token} {floor first last : Nat}
    (styles : Option Table) (begins : Run.closingAt? table tokens first = some last)
    (below : floor ≤ first) :
    let found := context styles tokens floor first last
    (floor ≤ found.start ∧ found.start ≤ first ∧ last < found.stop ∧ found.stop ≤ tokens.length) ∧
      found.groups.leadText ++ Token.join (Token.between tokens first (last + 1))
          ++ found.groups.trailText = Token.join (Token.between tokens found.start found.stop) ∧
      ((∀ token ∈ tokens, token.text ≠ []) → ∀ group ∈ found.groups.all, group ≠ some []) ∧
      ∀ given, styles = some given → ∀ place, last < place → place < found.stop →
        Run.closingAt? given tokens place = none := by
  intro found
  obtain ⟨front, taken, run, back, stands⟩ : ∃ front taken run back,
      found.Stands styles tokens floor first last front taken run back :=
    Run.stands_of_closingAt? styles begins below
  have places : floor ≤ found.start ∧ found.start ≤ first ∧ last < found.stop ∧
      found.stop ≤ tokens.length := by
    have whole := congrArg List.length stands.parts
    simp only [List.length_append] at whole
    obtain ⟨-, floored, isFirst, isLast, isStart, isStop, -, -⟩ := stands
    omega
  refine ⟨places, ?_, ?_, ?_⟩
  · rw [stands.between_context, stands.between_run, stands.isGroups, Taken.leadText_groups,
      Taken.trailText_groups, Token.join_append, Token.join_append, List.append_assoc]
  · intro texts
    rw [stands.isGroups]
    refine Taken.groups_ne_empty (fun token member => texts token ?_)
      (fun token member => texts token ?_)
    all_goals
      rw [stands.parts]
      simp [member]
  · intro given isGiven place behind within
    exact stands.closingAt?_eq_none isGiven behind within

/-- A run alone in the first cell of a row, with a covered cell behind that one. -/
def rowAroundRun : List Token :=
  [⟨.rowOpen, "<table:table-row>".toList⟩, ⟨.cellOpen, "<table:table-cell>".toList⟩,
    ⟨.paragraphOpen, "<text:p>".toList⟩, ⟨.spanOpen, "<text:span text:style-name='C'>".toList⟩,
    ⟨.text, "if a".toList⟩, ⟨.spanClose, "</text:span>".toList⟩,
    ⟨.paragraphClose, "</text:p>".toList⟩, ⟨.space, [' ']⟩,
    ⟨.cellClose, "</table:table-cell>".toList⟩,
    ⟨.coveredCell, "<table:covered-table-cell/>".toList⟩,
    ⟨.rowClose, "</table:table-row>".toList⟩, ⟨.other, "<text:p/>".toList⟩]

/-- The paragraph and the end of the row belong to the run; its beginning lies below the floor. -/
theorem context_partitions_belowFloor :
    let styles : Table := [("C", .role .code)]
    let found := context (some styles) rowAroundRun 1 3 5
    Run.closingAt? styles rowAroundRun 3 = some 5 ∧ 1 ≤ 3 ∧
      (∀ token ∈ rowAroundRun, token.text ≠ []) ∧ (found.start = 2 ∧ found.stop = 11) ∧
      found.groups.leadText ++ Token.join (Token.between rowAroundRun 3 6)
          ++ found.groups.trailText = Token.join (Token.between rowAroundRun 2 11) ∧
      (∀ group ∈ found.groups.all, group ≠ some []) ∧
      Run.closingAt? styles rowAroundRun 6 = none := by
  intro styles found
  have begins : Run.closingAt? styles rowAroundRun 3 = some 5 := by decide +kernel
  have texts : ∀ token ∈ rowAroundRun, token.text ≠ [] := by decide
  have places : found.start = 2 ∧ found.stop = 11 := by decide +kernel
  obtain ⟨-, whole, groups, quiet⟩ :=
    context_partitions (some styles) begins (show 1 ≤ 3 by decide)
  refine ⟨begins, by decide, texts, places, ?_, groups texts, quiet styles rfl 6 (by decide) ?_⟩
  · rw [← places.1, ← places.2]
    exact whole
  · exact lt_of_lt_of_eq (by decide) places.2.symm

/-! ## The contexts of a scan -/

/-- The scan takes each run with its context. Of the tokens, some were written with the last match
or before it, and their number is the floor; others are pending, nearest first. The groups around
the run are those that the scan finds, the context starts where what it copies ends, and the scan
goes on at the stop. -/
theorem context_of_scanned {styles : Table} {token : Token} {rest : List Token} {run : Run}
    (begins : Run.start? styles (token :: rest) = some run) (written pending : List Token) :
    let tokens := written ++ (pending.reverse ++ token :: rest)
    let first := written.length + pending.length
    let last := first + run.inner.length + 1
    let around := surround (some styles) pending (rest.drop (run.inner.length + 1))
    let found := context (some styles) tokens written.length first last
    Run.closingAt? styles tokens first = some last ∧
      found.style = run.style ∧ found.code = run.code ∧ found.groups = around.groups ∧
      found.start = written.length + around.before.length ∧
      tokens.drop found.stop = around.after := by
  intro tokens first last around found
  have place : (written ++ pending.reverse).length = first := by simp [first]
  have whole : tokens = (written ++ pending.reverse) ++ (token :: rest) := by simp [tokens]
  have source := Run.source_of_start? begins
  have dropped : tokens.drop first = token :: rest := by
    rw [whole, ← place, List.drop_left]
  have isPending : Token.between tokens written.length first = pending.reverse := by
    have between := Token.between_append written pending.reverse (token :: rest)
    rwa [List.length_reverse] at between
  have behind : tokens.drop (last + 1) = rest.drop (run.inner.length + 1) := by
    rw [show last + 1 = first + (run.inner.length + 2) by simp only [last]; omega,
      ← List.drop_drop, dropped, List.drop_succ_cons]
  have isRun : Run.between tokens first last = run := by
    have between := Run.between_append (written ++ pending.reverse) run
      (rest.drop (run.inner.length + 1))
    rwa [← source, ← whole, place] at between
  have isAround : surround (some styles) (Token.between tokens written.length first).reverse
      (tokens.drop (last + 1)) = around := by
    rw [isPending, List.reverse_reverse, behind]
  have lead : around.before.length + around.taken.lead.length = pending.length := by
    have parts := congrArg List.length (surround_lead (some styles) pending
      (rest.drop (run.inner.length + 1)))
    rwa [List.length_append, List.length_reverse, List.length_reverse] at parts
  refine ⟨?_, ?_, ?_, ?_, ?_, ?_⟩
  · rw [Run.closingAt?, dropped, begins]
    rfl
  · simp only [found, context, isRun]
  · simp only [found, context, isRun]
  · simp only [found, context, isAround, Surroundings.groups]
  · simp only [found, context, isAround, first]
    omega
  · have stop : found.stop = last + 1 + around.taken.trail.length := by
      simp only [found, context, isAround]
    rw [stop, ← List.drop_drop, behind, ← surround_trail (some styles) pending
      (rest.drop (run.inner.length + 1)), List.drop_left]

end FormLetter.Markup
