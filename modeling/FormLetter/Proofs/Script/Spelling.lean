import FormLetter.Proofs.Script.Scanning

/-!
# How tokens are spelled

Numbers, texts, names and signs are read from the beginning of a text, and what is left is the end
of the text. None of them goes on over a blank or over a closing bracket, so what stands behind one
of these makes no difference to what is read.
-/

namespace FormLetter.Script

open FormLetter.Text

/-- True for the characters that stand right behind code. -/
def endsCode (c : Char) : Bool :=
  c == ' ' || c == ')'

/-! ## Parts of numbers -/

/-- The sign of an exponent: true for a minus sign. -/
def exponentSign : List Char → Bool × List Char
  | '-' :: rest => (true, rest)
  | '+' :: rest => (false, rest)
  | rest => (false, rest)

theorem takeExponent?_cons (mark : Char) (rest : List Char) :
    takeExponent? (mark :: rest) = if mark == 'e' || mark == 'E' then
      (digitRun? Char.isDigit (exponentSign rest).2).map fun found =>
        (if (exponentSign rest).1 then -(numberOf 10 found.1 : Int) else numberOf 10 found.1,
          found.2)
      else none := rfl

/-- The digits after a point. -/
def fraction? : List Char → Option (List Char × List Char)
  | '.' :: rest => digitRun? Char.isDigit rest
  | _ => none

/-- A number with a fraction, with an exponent or with both, by its digits before the point. -/
def floatOf? (whole rest : List Char) : Option (Float × List Char) :=
  (takeExponent? ((fraction? rest).getD ([], rest)).2).elim
    ((fraction? rest).map fun found =>
      (Decimal.toFloat (numberOf 10 (whole ++ found.1)) (-found.1.length), found.2))
    fun found => some (Decimal.toFloat (numberOf 10 (whole ++ ((fraction? rest).getD ([], rest)).1))
      (found.1 - ((fraction? rest).getD ([], rest)).1.length), found.2)

theorem takeFloat?_eq (text : List Char) :
    takeFloat? text = (digitRun? Char.isDigit text).bind fun found => floatOf? found.1 found.2 := by
  unfold takeFloat? floatOf?
  refine congrArg (Option.bind (digitRun? Char.isDigit text)) (funext fun found => ?_)
  obtain ⟨whole, rest⟩ := found
  dsimp only
  split
  · rename_i power behind isExponent
    have same : takeExponent? ((fraction? rest).getD ([], rest)).2 = some (power, behind) :=
      isExponent
    rw [same]
    rfl
  · rename_i noExponent
    have same : takeExponent? ((fraction? rest).getD ([], rest)).2 = none := noExponent
    rw [same]
    change (if (fraction? rest).isNone then none
      else some (Decimal.toFloat (numberOf 10 (whole ++ ((fraction? rest).getD ([], rest)).1))
        (-((fraction? rest).getD ([], rest)).1.length), ((fraction? rest).getD ([], rest)).2)) = _
    cases fraction? rest <;> rfl

/-- The base of a mark. -/
def baseOf? (mark : Char) : Option Nat :=
  if mark == 'b' || mark == 'B' then some 2
  else if mark == 'o' || mark == 'O' then some 8
  else if mark == 'x' || mark == 'X' then some 16
  else none

/-- A number of a base. -/
def takeBased? (base : Nat) (text : List Char) : Option (Nat × List Char) :=
  if (takeDigits (isDigitOf base) text).1.isEmpty then none
  else some (numberOf base (takeDigits (isDigitOf base) text).1,
    (takeDigits (isDigitOf base) text).2)

/-- A number in decimal digits, by its first character. -/
def takeDecimal? (c : Char) (rest : List Char) : Option (Nat × List Char) :=
  if c == '0' then some (0, (takeDigits (· == '0') rest).2)
  else if c.isDigit then
    some (numberOf 10 (c :: (takeDigits isDecimalDigit rest).1), (takeDigits isDecimalDigit rest).2)
  else none

theorem takeInt?_marked (mark : Char) (rest : List Char) :
    takeInt? ('0' :: mark :: rest) = (((baseOf? mark).bind fun base => takeBased? base rest)
      <|> takeDecimal? '0' (mark :: rest)) := by
  unfold takeInt? baseOf?
  dsimp only
  refine congrArg (· <|> takeDecimal? '0' (mark :: rest)) ?_
  by_cases isTwo : mark == 'b' || mark == 'B'
  · rw [if_pos isTwo, if_pos isTwo]
    rfl
  by_cases isEight : mark == 'o' || mark == 'O'
  · rw [if_neg isTwo, if_neg isTwo, if_pos isEight, if_pos isEight]
    rfl
  by_cases isSixteen : mark == 'x' || mark == 'X'
  · rw [if_neg isTwo, if_neg isTwo, if_neg isEight, if_neg isEight, if_pos isSixteen,
      if_pos isSixteen]
    rfl
  · rw [if_neg isTwo, if_neg isTwo, if_neg isEight, if_neg isEight, if_neg isSixteen,
      if_neg isSixteen]
    rfl

theorem takeInt?_unmarked {c : Char} {rest : List Char} (unmarked : c ≠ '0' ∨ rest = []) :
    takeInt? (c :: rest) = takeDecimal? c rest := by
  rw [takeInt?]
  · rfl
  · intro mark more same
    obtain ⟨rfl, rfl⟩ := List.cons.inj same
    simp at unmarked

section Numbers

variable {stop : Char} (ends : endsCode stop = true)

include ends

theorem eq_of_endsCode : stop = ' ' ∨ stop = ')' := by
  simpa [endsCode] using ends

/-- Digits end where code does. -/
theorem takeDigits_append {accept : Char → Bool} (noMark : accept '_' = false)
    (refused : accept stop = false) (text more : List Char) :
    takeDigits accept (text ++ stop :: more)
      = ((takeDigits accept text).1, (takeDigits accept text).2 ++ stop :: more) := by
  have notMark : stop ≠ '_' := by
    rcases eq_of_endsCode ends with rfl | rfl <;> decide
  fun_induction takeDigits accept text with
  | case1 c rest isDigit digits after split ih =>
    rw [List.cons_append, List.cons_append, takeDigits, if_pos isDigit, ih, split]
  | case2 c rest noDigit =>
    rw [List.cons_append, List.cons_append, takeDigits, if_neg noDigit]
  | case3 c rest noPair isDigit digits after split ih =>
    have other : c ≠ '_' := by
      rintro rfl
      exact Bool.false_ne_true (noMark.symm.trans isDigit)
    rw [List.cons_append, takeDigits, if_pos isDigit, ih, split]
    exact fun _ _ same _ => other same
  | case4 c rest noPair noDigit =>
    cases rest with
    | cons next rest =>
      have other : c ≠ '_' := fun same => noPair next rest same rfl
      rw [List.cons_append, takeDigits, if_neg noDigit]
      exact fun _ _ same _ => other same
    | nil =>
      by_cases isMark : c = '_'
      · subst isMark
        rw [List.cons_append, List.nil_append, takeDigits, if_neg (by simp [refused])]
      · rw [List.cons_append, takeDigits, if_neg noDigit]
        exact fun _ _ same _ => isMark same
  | case5 =>
    rw [List.nil_append, takeDigits, if_neg (by simp [refused])]
    exact fun _ _ same _ => notMark same

theorem digitRun?_append {accept : Char → Bool} (noMark : accept '_' = false)
    (refused : accept stop = false) (text more : List Char) :
    digitRun? accept (text ++ stop :: more)
      = (digitRun? accept text).map fun (digits, rest) => (digits, rest ++ stop :: more) := by
  cases text with
  | nil => simp [digitRun?, refused]
  | cons c rest =>
    by_cases isDigit : accept c
    · have whole := takeDigits_append ends noMark refused (c :: rest) more
      rw [List.cons_append] at whole
      simp [digitRun?, isDigit, whole]
    · simp [digitRun?, isDigit]

theorem takeDecimal?_append (c : Char) (text more : List Char) :
    takeDecimal? c (text ++ stop :: more)
      = (takeDecimal? c text).map fun (value, rest) => (value, rest ++ stop :: more) := by
  unfold takeDecimal?
  have zero : (stop == '0') = false := by
    rcases eq_of_endsCode ends with rfl | rfl <;> decide
  have decimal : isDecimalDigit stop = false := by
    rcases eq_of_endsCode ends with rfl | rfl <;> decide
  rw [takeDigits_append ends (by decide) zero, takeDigits_append ends (by decide) decimal]
  split
  · rfl
  · split <;> rfl

theorem takeBased?_append {base : Nat} (text more : List Char) :
    takeBased? base (text ++ stop :: more)
      = (takeBased? base text).map fun (value, rest) => (value, rest ++ stop :: more) := by
  unfold takeBased?
  have refused : isDigitOf base stop = false := by
    rcases eq_of_endsCode ends with rfl | rfl <;> simp [isDigitOf, Char.isDigit]
  have noMark : isDigitOf base '_' = false := by simp [isDigitOf, Char.isDigit]
  rw [takeDigits_append ends noMark refused]
  dsimp only
  split <;> rfl

theorem takeInt?_append (text more : List Char) :
    takeInt? (text ++ stop :: more)
      = (takeInt? text).map fun (value, rest) => (value, rest ++ stop :: more) := by
  have notZero : stop ≠ '0' := by
    rcases eq_of_endsCode ends with rfl | rfl <;> decide
  have noBase : baseOf? stop = none := by
    rcases eq_of_endsCode ends with rfl | rfl <;> decide
  cases text with
  | nil =>
    rw [List.nil_append, takeInt?_unmarked (.inl notZero)]
    rcases eq_of_endsCode ends with rfl | rfl <;> rfl
  | cons c rest =>
    have decimal := takeDecimal?_append ends c rest more
    by_cases isZero : c = '0'
    · subst isZero
      cases rest with
      | nil =>
        rw [takeInt?_unmarked (.inr rfl), ← decimal]
        exact (takeInt?_marked stop more).trans (by rw [noBase]; rfl)
      | cons mark rest =>
        rw [List.cons_append, List.cons_append, takeInt?_marked, takeInt?_marked,
          ← List.cons_append, decimal]
        cases baseOf? mark with
        | none => rfl
        | some base =>
          simp only [Option.bind_some, takeBased?_append ends]
          cases takeBased? base rest <;> rfl
    · rw [List.cons_append, takeInt?_unmarked (.inl isZero), takeInt?_unmarked (.inl isZero), decimal]

theorem exponentSign_append (text more : List Char) :
    exponentSign (text ++ stop :: more)
      = ((exponentSign text).1, (exponentSign text).2 ++ stop :: more) := by
  cases text with
  | nil => rcases eq_of_endsCode ends with rfl | rfl <;> rfl
  | cons c rest =>
    rw [List.cons_append, exponentSign.eq_def, exponentSign.eq_def]
    split <;> split <;> simp_all

theorem takeExponent?_append (text more : List Char) :
    takeExponent? (text ++ stop :: more)
      = (takeExponent? text).map fun (value, rest) => (value, rest ++ stop :: more) := by
  have refused : Char.isDigit stop = false := by
    rcases eq_of_endsCode ends with rfl | rfl <;> decide
  cases text with
  | nil => rcases eq_of_endsCode ends with rfl | rfl <;> rfl
  | cons mark rest =>
    rw [List.cons_append, takeExponent?_cons, takeExponent?_cons, exponentSign_append ends,
      digitRun?_append ends rfl refused]
    split
    · cases digitRun? Char.isDigit (exponentSign rest).2 <;> rfl
    · rfl

theorem fraction?_append (text more : List Char) :
    fraction? (text ++ stop :: more)
      = (fraction? text).map fun (value, rest) => (value, rest ++ stop :: more) := by
  have refused : Char.isDigit stop = false := by
    rcases eq_of_endsCode ends with rfl | rfl <;> decide
  cases text with
  | nil => rcases eq_of_endsCode ends with rfl | rfl <;> rfl
  | cons c rest =>
    by_cases isPoint : c = '.'
    · subst isPoint
      exact digitRun?_append ends rfl refused rest more
    · simp [fraction?, isPoint]

theorem takeFloat?_append (text more : List Char) :
    takeFloat? (text ++ stop :: more)
      = (takeFloat? text).map fun (value, rest) => (value, rest ++ stop :: more) := by
  have refused : Char.isDigit stop = false := by
    rcases eq_of_endsCode ends with rfl | rfl <;> decide
  rw [takeFloat?_eq, takeFloat?_eq, digitRun?_append ends rfl refused]
  cases digitRun? Char.isDigit text with
  | none => rfl
  | some found =>
    obtain ⟨whole, rest⟩ := found
    simp only [Option.map_some, Option.bind_some, floatOf?, fraction?_append ends]
    cases fraction? rest with
    | none =>
      simp only [Option.map_none, Option.getD_none, takeExponent?_append ends]
      cases takeExponent? rest <;> rfl
    | some found =>
      simp only [Option.map_some, Option.getD_some, takeExponent?_append ends]
      cases takeExponent? found.2 <;> rfl

end Numbers

/-! ## Texts, signs and words -/

theorem takeQuoted?_append {quote : Char} (noSlash : quote ≠ '\\') {text value after : List Char}
    (taken : takeQuoted? quote text = some (value, after)) (more : List Char) :
    takeQuoted? quote (text ++ more) = some (value, after ++ more) := by
  fun_induction takeQuoted? quote text generalizing value after with
  | case1 => cases taken
  | case2 c rest ih =>
    obtain ⟨⟨inner, others⟩, found, same⟩ := Option.map_eq_some_iff.mp taken
    obtain ⟨rfl, rfl⟩ := Prod.mk.inj same
    rw [List.cons_append, List.cons_append, takeQuoted?, ih found]
    rfl
  | case3 c rest noEscape isQuote =>
    obtain ⟨rfl, rfl⟩ := Prod.mk.inj (Option.some.inj taken)
    rw [List.cons_append, takeQuoted?, if_pos isQuote]
    intro _ _ same _
    exact noSlash ((beq_iff_eq.mp isQuote).symm.trans same)
  | case4 => cases taken
  | case5 c rest noEscape noQuote plain ih =>
    obtain ⟨⟨inner, others⟩, found, same⟩ := Option.map_eq_some_iff.mp taken
    obtain ⟨rfl, rfl⟩ := Prod.mk.inj same
    rw [List.cons_append, takeQuoted?, if_neg noQuote, if_neg plain, ih found]
    · rfl
    · intro _ _ same _
      exact plain (beq_iff_eq.mpr same)

section Signs

variable {stop : Char}

theorem isPrefixOf_append {mark : List Char} (foreign : stop ∉ mark) (text more : List Char) :
    mark.isPrefixOf (text ++ stop :: more) = mark.isPrefixOf text := by
  induction mark generalizing text with
  | nil => simp
  | cons m rest ih =>
    rw [List.mem_cons, not_or] at foreign
    cases text with
    | nil => simp [List.isPrefixOf, Ne.symm foreign.1]
    | cons c text => simp [List.isPrefixOf, ih foreign.2]

theorem afterMark?_append {mark : String} (foreign : stop ∉ mark.toList.tail) (c : Char)
    (rest more : List Char) :
    afterMark? mark (c :: rest ++ stop :: more)
      = (afterMark? mark (c :: rest)).map (· ++ stop :: more) := by
  unfold afterMark?
  have same : mark.toList.isPrefixOf (c :: rest ++ stop :: more)
      = mark.toList.isPrefixOf (c :: rest) := by
    cases written : mark.toList with
    | nil => rfl
    | cons m others =>
      rw [written] at foreign
      change (m == c && others.isPrefixOf (rest ++ stop :: more)) = (m == c && _)
      rw [isPrefixOf_append (show stop ∉ others from foreign)]
  rw [same]
  split
  · rename_i isPrefix
    have short := (List.isPrefixOf_iff_prefix.mp isPrefix).length_le
    rw [List.drop_append_of_le_length short]
    rfl
  · rfl

variable (ends : endsCode stop = true)

include ends

theorem operator?_append (c : Char) (rest more : List Char) :
    operator? (c :: rest ++ stop :: more)
      = (operator? (c :: rest)).map fun (sign, after) => (sign, after ++ stop :: more) := by
  have foreign : ∀ sign ∈ Operator.all, stop ∉ sign.written.toList.tail := by
    rcases eq_of_endsCode ends with rfl | rfl <;> decide
  unfold operator?
  generalize Operator.all = signs at foreign
  induction signs with
  | nil => rfl
  | cons sign others ih =>
    rw [List.forall_mem_cons] at foreign
    rw [List.findSome?_cons, List.findSome?_cons, afterMark?_append foreign.1, ih foreign.2]
    cases afterMark? sign.written (c :: rest) <;> rfl

theorem takeWhile_isWordChar_append (text more : List Char) :
    (text ++ stop :: more).takeWhile isWordChar = text.takeWhile isWordChar := by
  have refused : isWordChar stop = false := by
    rcases eq_of_endsCode ends with rfl | rfl <;> decide
  induction text with
  | nil => simp [refused]
  | cons c rest ih => simp [List.takeWhile_cons, ih]

end Signs

/-! ## What is left after a token -/

theorem takeDigits_suffix (accept : Char → Bool) (text : List Char) :
    (takeDigits accept text).2 <:+ text := by
  fun_induction takeDigits accept text with
  | case1 c rest isDigit digits after split ih =>
    rw [split] at ih
    exact ih.trans ((List.suffix_cons c rest).trans (List.suffix_cons '_' (c :: rest)))
  | case2 | case4 | case5 => exact List.suffix_rfl
  | case3 c rest noPair isDigit digits after split ih =>
    rw [split] at ih
    exact ih.trans (List.suffix_cons c rest)

theorem digitRun?_suffix {accept : Char → Bool} {text digits after : List Char}
    (taken : digitRun? accept text = some (digits, after)) : after <:+ text := by
  cases text with
  | nil => cases taken
  | cons c rest =>
    by_cases isDigit : accept c
    · rw [digitRun?, if_pos isDigit] at taken
      have same : (takeDigits accept (c :: rest)).2 = after :=
        congrArg Prod.snd (Option.some.inj taken)
      exact same ▸ takeDigits_suffix accept (c :: rest)
    · rw [digitRun?, if_neg isDigit] at taken
      cases taken

theorem takeInt?_suffix {text after : List Char} {value : Nat}
    (taken : takeInt? text = some (value, after)) : after <:+ text := by
  have decimal {c : Char} {rest : List Char} (taken : takeDecimal? c rest = some (value, after)) :
      after <:+ c :: rest := by
    unfold takeDecimal? at taken
    have digits {accept : Char → Bool} (same : (takeDigits accept rest).2 = after) :
        after <:+ c :: rest :=
      same ▸ (takeDigits_suffix accept rest).trans (List.suffix_cons c rest)
    split at taken
    · exact digits (congrArg Prod.snd (Option.some.inj taken))
    · split at taken
      · exact digits (congrArg Prod.snd (Option.some.inj taken))
      · cases taken
  cases text with
  | nil => cases taken
  | cons c rest =>
    by_cases unmarked : c ≠ '0' ∨ rest = []
    · rw [takeInt?_unmarked unmarked] at taken
      exact decimal taken
    · rw [not_or] at unmarked
      obtain ⟨isZero, found⟩ := unmarked
      obtain rfl : c = '0' := Decidable.not_not.mp isZero
      obtain ⟨mark, digits, rfl⟩ := List.exists_cons_of_ne_nil found
      rw [takeInt?_marked] at taken
      cases isBase : (baseOf? mark).bind fun base => takeBased? base digits with
      | none =>
        rw [isBase] at taken
        exact decimal taken
      | some number =>
        rw [isBase] at taken
        obtain ⟨base, -, based⟩ := Option.bind_eq_some_iff.mp isBase
        obtain rfl := Option.some.inj taken
        unfold takeBased? at based
        split at based
        · cases based
        · have same : (takeDigits (isDigitOf base) digits).2 = after :=
            congrArg Prod.snd (Option.some.inj based)
          exact same ▸ (takeDigits_suffix _ digits).trans
            ((List.suffix_cons mark digits).trans (List.suffix_cons '0' _))

theorem exponentSign_suffix (text : List Char) : (exponentSign text).2 <:+ text := by
  unfold exponentSign
  split
  · exact List.suffix_cons '-' _
  · exact List.suffix_cons '+' _
  · exact List.suffix_rfl

theorem takeExponent?_suffix {text after : List Char} {value : Int}
    (taken : takeExponent? text = some (value, after)) : after <:+ text := by
  cases text with
  | nil => cases taken
  | cons mark rest =>
    rw [takeExponent?_cons] at taken
    split at taken
    · obtain ⟨⟨digits, left⟩, found, same⟩ := Option.map_eq_some_iff.mp taken
      obtain ⟨-, rfl⟩ := Prod.mk.inj same
      exact (digitRun?_suffix found).trans
        ((exponentSign_suffix rest).trans (List.suffix_cons mark rest))
    · cases taken

theorem fraction?_suffix (text whole : List Char) :
    ((fraction? text).getD (whole, text)).2 <:+ text := by
  unfold fraction?
  split
  · rename_i rest
    cases found : digitRun? Char.isDigit rest with
    | none => exact List.suffix_rfl
    | some digits => exact (digitRun?_suffix found).trans (List.suffix_cons '.' rest)
  · exact List.suffix_rfl

theorem takeFloat?_suffix {text after : List Char} {value : Float}
    (taken : takeFloat? text = some (value, after)) : after <:+ text := by
  rw [takeFloat?_eq] at taken
  obtain ⟨⟨whole, rest⟩, run, found⟩ := Option.bind_eq_some_iff.mp taken
  refine List.IsSuffix.trans ?_ (digitRun?_suffix run)
  have behind := fraction?_suffix rest []
  unfold floatOf? at found
  dsimp only at found
  cases exponent : takeExponent? ((fraction? rest).getD ([], rest)).2 with
  | some power =>
    rw [exponent] at found
    have same : power.2 = after := congrArg Prod.snd (Option.some.inj found)
    exact same ▸ (takeExponent?_suffix exponent).trans behind
  | none =>
    rw [exponent] at found
    obtain ⟨digits, isFraction, same⟩ := Option.map_eq_some_iff.mp found
    obtain ⟨-, rfl⟩ := Prod.mk.inj same
    rw [isFraction] at behind
    exact behind

theorem takeQuoted?_suffix {quote : Char} {text value after : List Char}
    (taken : takeQuoted? quote text = some (value, after)) : after <:+ text := by
  fun_induction takeQuoted? quote text generalizing value after with
  | case1 | case4 => cases taken
  | case2 c rest ih =>
    obtain ⟨⟨inner, others⟩, found, same⟩ := Option.map_eq_some_iff.mp taken
    obtain ⟨rfl, rfl⟩ := Prod.mk.inj same
    exact (ih found).trans ((List.suffix_cons c rest).trans (List.suffix_cons '\\' _))
  | case3 c rest noEscape isQuote =>
    obtain ⟨rfl, rfl⟩ := Prod.mk.inj (Option.some.inj taken)
    exact List.suffix_cons c rest
  | case5 c rest noEscape noQuote plain ih =>
    obtain ⟨⟨inner, others⟩, found, same⟩ := Option.map_eq_some_iff.mp taken
    obtain ⟨rfl, rfl⟩ := Prod.mk.inj same
    exact (ih found).trans (List.suffix_cons c rest)

theorem operator?_suffix {text after : List Char} {sign : Operator}
    (taken : operator? text = some (sign, after)) : after <:+ text := by
  obtain ⟨found, -, marked⟩ := List.exists_of_findSome?_eq_some taken
  obtain ⟨rest, isMark, same⟩ := Option.map_eq_some_iff.mp marked
  obtain ⟨-, rfl⟩ := Prod.mk.inj same
  unfold afterMark? at isMark
  split at isMark
  · exact Option.some.inj isMark ▸ List.drop_suffix _ text
  · cases isMark

end FormLetter.Script
