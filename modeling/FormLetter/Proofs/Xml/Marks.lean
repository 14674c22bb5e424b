import FormLetter.Xml.Event

/-!
# Names and marks

What makes a name, and which texts a mark ends. A text that is split at a mark has the part before
it ended by the mark, and a reader that consists of steps took something only where each step did.
-/

namespace FormLetter.Xml

/-- True for a name. -/
def isName (text : List Char) : Bool :=
  match text with
  | first :: rest => isNameStart first && rest.all isNameRest
  | [] => false

/-- True for a text that a mark ends: when the mark is put behind the text, it does not occur any
earlier. -/
def isEndedBy (mark : List Char) : List Char → Bool
  | [] => true
  | c :: rest => !mark.isPrefixOf (c :: (rest ++ mark)) && isEndedBy mark rest

/-- A text that can stand in a document before a mark: a document may hold its characters, no line
break in it is read as another one, and the mark ends it. -/
structure Enclosable (mark : String) (text : List Char) : Prop where
  valid : ∀ c ∈ text, isChar c = true
  unbroken : '\r' ∉ text
  ended : isEndedBy mark.toList text = true

/-- What may begin a name may stand in it. -/
theorem isNameRest_of_isNameStart {c : Char} (starts : isNameStart c = true) :
    isNameRest c = true := by
  simp [isNameRest, starts]

/-- Every character of a name is one that may stand in names. -/
theorem isNameRest_of_mem {name : List Char} (named : isName name = true) {c : Char}
    (member : c ∈ name) : isNameRest c = true := by
  cases name with
  | nil => simp at member
  | cons first rest =>
    simp only [isName, Bool.and_eq_true, List.all_eq_true] at named
    rcases List.mem_cons.mp member with rfl | inRest
    · exact isNameRest_of_isNameStart named.1
    · exact named.2 c inRest

/-- A character of a name is none that may not stand in names. -/
theorem ne_of_isNameRest {c mark : Char} (isRest : isNameRest c = true)
    (isMark : isNameRest mark = false) : c ≠ mark := by
  rintro rfl
  exact Bool.false_ne_true (isMark.symm.trans isRest)

/-- A mark that ends a text also does so as the beginning of a longer mark. -/
theorem isEndedBy_append {mark text : List Char}
    (ended : isEndedBy mark text = true) (more : List Char) :
    isEndedBy (mark ++ more) text = true := by
  induction text with
  | nil => rfl
  | cons c rest inductionHypothesis =>
    simp only [isEndedBy, Bool.and_eq_true, Bool.not_eq_true'] at ended ⊢
    refine ⟨?_, inductionHypothesis ended.2⟩
    -- An occurrence of the longer mark begins with one of the shorter, which ends before `more`.
    refine Bool.eq_false_iff.mpr fun begins => ?_
    have longer : mark ++ more <+: (c :: (rest ++ mark)) ++ more := by
      simpa using List.isPrefixOf_iff_prefix.mp begins
    have shorter : mark <+: c :: (rest ++ mark) :=
      List.prefix_of_prefix_length_le ((List.prefix_append mark more).trans longer)
        (List.prefix_append _ more) (by simp; omega)
    exact Bool.false_ne_true (ended.1.symm.trans (List.isPrefixOf_iff_prefix.mpr shorter))

/-- A text goes on being ended by a mark when characters come before it with which the mark does not
begin. -/
theorem isEndedBy_append_left {mark before text : List Char}
    (differs : ∀ c ∈ before, mark.head? ≠ some c) (found : mark ≠ [])
    (ended : isEndedBy mark text = true) : isEndedBy mark (before ++ text) = true := by
  induction before with
  | nil => exact ended
  | cons c rest inductionHypothesis =>
    rw [List.forall_mem_cons] at differs
    obtain ⟨first, others, rfl⟩ := List.exists_cons_of_ne_nil found
    have notFirst : (first == c) = false := by
      simpa using differs.1
    rw [List.cons_append, isEndedBy, List.isPrefixOf, notFirst, Bool.false_and, Bool.not_false,
      Bool.true_and]
    exact inductionHypothesis differs.2

/-- Splitting at a mark gives a text that the mark ends. -/
theorem splitAt?_spec {mark text before after : List Char}
    (split : splitAt? mark text = some (before, after)) :
    text = before ++ mark ++ after ∧ isEndedBy mark before = true := by
  induction text generalizing before with
  | nil => simp [splitAt?] at split
  | cons c rest inductionHypothesis =>
    rw [splitAt?] at split
    split at split
    · rename_i begins
      obtain ⟨tail, whole⟩ := List.isPrefixOf_iff_prefix.mp begins
      rw [← whole] at split ⊢
      simp only [List.drop_left, Option.some.injEq, Prod.mk.injEq] at split
      obtain ⟨rfl, rfl⟩ := split
      exact ⟨rfl, rfl⟩
    · rename_i notHere
      obtain ⟨parts, splitRest, same⟩ := Option.map_eq_some_iff.mp split
      simp only [Prod.mk.injEq] at same
      obtain ⟨rfl, rfl⟩ := same
      obtain ⟨whole, ended⟩ := inductionHypothesis splitRest
      refine ⟨by rw [whole]; rfl, ?_⟩
      simp only [isEndedBy, ended, Bool.and_true, Bool.not_eq_true']
      refine Bool.eq_false_iff.mpr fun begins => notHere ?_
      rw [List.isPrefixOf_iff_prefix] at begins ⊢
      rw [whole]
      exact begins.trans (List.prefix_append _ parts.2)

/-! ## Steps -/

theorem bind_eq_ok {ε α β : Type} {taken : Except ε α} {next : α → Except ε β} {result : β}
    (done : (taken >>= next) = .ok result) :
    ∃ value, taken = .ok value ∧ next value = .ok result := by
  cases taken with
  | error fault => cases done
  | ok value => exact ⟨value, rfl, done⟩

theorem map_eq_ok {ε α β : Type} {taken : Except ε α} {change : α → β} {result : β}
    (done : taken.map change = .ok result) :
    ∃ value, taken = .ok value ∧ change value = result := by
  cases taken with
  | error fault => cases done
  | ok value => exact ⟨value, rfl, Except.ok.inj done⟩

end FormLetter.Xml
