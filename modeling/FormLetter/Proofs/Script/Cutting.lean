import FormLetter.Markup.Directive
import FormLetter.Proofs.Script.Spelling

/-!
# Code is cut by itself

Code that stands between the marks of an output is cut into the tokens that it is cut into on its
own. The brackets around it stay open, no token goes on over what stands behind it, and the
character before it counts only when it is a point.
-/

namespace FormLetter.Script

open FormLetter.Markup (directive outputOpen directiveClose)
open FormLetter.Style (Role)
open FormLetter.Text

/-! ## Tokens of code -/

/-- A number with a fraction or an exponent, which does not begin behind a point. -/
def floatBehind? (isPoint : Bool) (text : List Char) : Option (Float × List Char) :=
  if isPoint then none else takeFloat? text

/-- True for the characters around a text. -/
def isQuote (c : Char) : Bool :=
  c == '\'' || c == '"'

/-- What can be read at the beginning of code: white space, a number, a name, a text or a sign. -/
inductive Takes (isPoint : Bool) (c : Char) (rest : List Char) : Option Lexeme → List Char → Prop
  | blank (blank : isBlank c = true) : Takes isPoint c rest none (skipBlank rest)
  | float {value : Float} {after : List Char} (dark : isBlank c = false)
      (found : floatBehind? isPoint (c :: rest) = some (value, after)) :
      Takes isPoint c rest (some (.float value)) after
  | int {value : Nat} {after : List Char} (dark : isBlank c = false)
      (noFloat : floatBehind? isPoint (c :: rest) = none)
      (found : takeInt? (c :: rest) = some (value, after)) :
      Takes isPoint c rest (some (.int value)) after
  | name (dark : isBlank c = false) (noFloat : floatBehind? isPoint (c :: rest) = none)
      (noInt : takeInt? (c :: rest) = none)
      (isWord : ((c :: rest).takeWhile isWordChar).isEmpty = false)
      (named : isName ((c :: rest).takeWhile isWordChar) = true) :
      Takes isPoint c rest (some (.name (String.ofList ((c :: rest).takeWhile isWordChar))))
        ((c :: rest).drop ((c :: rest).takeWhile isWordChar).length)
  | text {written value after : List Char} (dark : isBlank c = false)
      (noFloat : floatBehind? isPoint (c :: rest) = none) (noInt : takeInt? (c :: rest) = none)
      (noWord : ((c :: rest).takeWhile isWordChar).isEmpty = true) (quote : isQuote c = true)
      (found : takeQuoted? c rest = some (written, after)) (isValue : textValue written = .ok value) :
      Takes isPoint c rest (some (.text value)) after
  | sign {sign : Operator} {after : List Char} (dark : isBlank c = false)
      (noFloat : floatBehind? isPoint (c :: rest) = none) (noInt : takeInt? (c :: rest) = none)
      (noWord : ((c :: rest).takeWhile isWordChar).isEmpty = true) (noQuote : isQuote c = false)
      (found : operator? (c :: rest) = some (sign, after)) :
      Takes isPoint c rest (some (.operator sign)) after

theorem operator?_quote {c : Char} (quote : isQuote c = true) (rest : List Char) :
    operator? (c :: rest) = none := by
  rcases Bool.or_eq_true_iff.mp quote with same | same
  · rw [beq_iff_eq.mp same]
    rfl
  · rw [beq_iff_eq.mp same]
    rfl

section

variable {previous : Option Char} {offset : Nat} {c : Char} {rest after : List Char}
  {lexeme : Option Lexeme}

theorem takes_of_takeToken (offset : Nat)
    (taken : takeToken previous offset (c :: rest) = .ok (lexeme, after)) :
    Takes (previous == some '.') c rest lexeme after := by
  have same {found : Option Lexeme} {left : List Char}
      (taken : (Except.ok (found, left) : Except Problem _) = .ok (lexeme, after)) :
      found = lexeme ∧ left = after := by
    simpa using taken
  rw [takeToken] at taken
  by_cases blank : isBlank c
  · rw [if_pos blank] at taken
    obtain ⟨rfl, rfl⟩ := same taken
    exact .blank blank
  rw [if_neg blank] at taken
  have dark := Bool.eq_false_iff.mpr blank
  cases float : floatBehind? (previous == some '.') (c :: rest) with
  | some found =>
    rw [floatBehind?] at float
    rw [float] at taken
    obtain ⟨rfl, rfl⟩ := same taken
    exact .float dark float
  | none =>
  have noFloat := float
  rw [floatBehind?] at float
  rw [float] at taken
  cases int : takeInt? (c :: rest) with
  | some found =>
    rw [int] at taken
    obtain ⟨rfl, rfl⟩ := same taken
    exact .int dark noFloat int
  | none =>
  rw [int] at taken
  dsimp only at taken
  by_cases isWord : ((c :: rest).takeWhile isWordChar).isEmpty
  · rw [if_neg (by simp [isWord])] at taken
    by_cases quote : isQuote c
    · rw [isQuote] at quote
      rw [if_pos quote] at taken
      cases quoted : takeQuoted? c rest with
      | some found =>
        rw [quoted] at taken
        dsimp only at taken
        cases value : textValue found.1 with
        | error => rw [value] at taken; cases taken
        | ok content =>
          rw [value] at taken
          obtain ⟨rfl, rfl⟩ := same taken
          exact .text dark noFloat int isWord quote quoted value
      | none =>
        rw [quoted] at taken
        dsimp only at taken
        rw [operator?_quote quote] at taken
        cases taken
    · have noQuote := Bool.eq_false_iff.mpr quote
      rw [isQuote] at quote
      rw [if_neg quote] at taken
      cases sign : operator? (c :: rest) with
      | some found =>
        rw [sign] at taken
        obtain ⟨rfl, rfl⟩ := same taken
        exact .sign dark noFloat int isWord noQuote sign
      | none => rw [sign] at taken; cases taken
  · rw [if_pos (by simp [isWord])] at taken
    by_cases named : isName ((c :: rest).takeWhile isWordChar)
    · rw [if_pos named] at taken
      obtain ⟨rfl, rfl⟩ := same taken
      exact .name dark noFloat int (Bool.eq_false_iff.mpr isWord) named
    · rw [if_neg named] at taken
      cases taken

theorem takeToken_of_takes (takes : Takes (previous == some '.') c rest lexeme after) :
    takeToken previous offset (c :: rest) = .ok (lexeme, after) := by
  rw [takeToken]
  cases takes with
  | blank blank => rw [if_pos blank]
  | float dark found =>
    rw [floatBehind?] at found
    rw [dark, if_neg Bool.false_ne_true, found]
  | int dark noFloat found =>
    rw [floatBehind?] at noFloat
    rw [dark, if_neg Bool.false_ne_true, noFloat, found]
  | name dark noFloat noInt isWord named =>
    rw [floatBehind?] at noFloat
    rw [dark, if_neg Bool.false_ne_true, noFloat, noInt]
    dsimp only
    rw [isWord, named]
    rfl
  | text dark noFloat noInt noWord quote found isValue =>
    rw [floatBehind?] at noFloat
    rw [isQuote] at quote
    rw [dark, if_neg Bool.false_ne_true, noFloat, noInt]
    dsimp only
    rw [noWord, quote, found, if_pos rfl]
    dsimp only
    rw [isValue]
    rfl
  | sign dark noFloat noInt noWord noQuote found =>
    rw [floatBehind?] at noFloat
    rw [isQuote] at noQuote
    rw [dark, if_neg Bool.false_ne_true, noFloat, noInt]
    dsimp only
    rw [noWord, noQuote, if_neg Bool.false_ne_true, found]
    rfl

end

namespace Takes

variable {isPoint : Bool} {c : Char} {rest after : List Char} {lexeme : Option Lexeme}

/-- What is read stands at the beginning. -/
theorem suffix (takes : Takes isPoint c rest lexeme after) : after <:+ c :: rest := by
  cases takes with
  | blank _ => exact (List.dropWhile_suffix _).trans (List.suffix_cons c rest)
  | float _ found =>
    unfold floatBehind? at found
    split at found
    · cases found
    · exact takeFloat?_suffix found
  | int _ _ found => exact takeInt?_suffix found
  | name _ _ _ _ _ => exact List.drop_suffix _ _
  | text _ _ _ _ _ found _ => exact (takeQuoted?_suffix found).trans (List.suffix_cons c rest)
  | sign _ _ _ _ _ found => exact operator?_suffix found

/-- White space is read as a whole. -/
theorem isBlank (takes : Takes isPoint c rest none after) :
    isBlank c = true ∧ after = skipBlank rest := by
  cases takes with
  | blank blank => exact ⟨blank, rfl⟩

variable {stop : Char} (ends : endsCode stop = true)

include ends

/-- A token is read where more comes behind the code. -/
theorem append {lexeme : Lexeme} (takes : Takes isPoint c rest (some lexeme) after)
    (more : List Char) :
    Takes isPoint c (rest ++ stop :: more) (some lexeme) (after ++ stop :: more) := by
  have float : floatBehind? isPoint (c :: (rest ++ stop :: more))
      = (floatBehind? isPoint (c :: rest)).map
        fun found => (found.1, found.2 ++ stop :: more) := by
    unfold floatBehind?
    split
    · rfl
    · exact takeFloat?_append ends (c :: rest) more
  have int := takeInt?_append ends (c :: rest) more
  have word := takeWhile_isWordChar_append ends (c :: rest) more
  have sign := operator?_append ends c rest more
  rw [List.cons_append] at int word sign
  cases takes with
  | float dark found => exact .float dark (by rw [float, found]; rfl)
  | int dark noFloat found =>
    exact .int dark (by rw [float, noFloat]; rfl) (by rw [int, found]; rfl)
  | name dark noFloat noInt isWord named =>
    have noFloat' : floatBehind? isPoint (c :: (rest ++ stop :: more)) = none := by
      rw [float, noFloat]
      rfl
    have noInt' : takeInt? (c :: (rest ++ stop :: more)) = none := by
      rw [int, noInt]
      rfl
    have taken := Takes.name dark noFloat' noInt' (by rw [word, isWord]) (by rw [word, named])
    rw [word, ← List.cons_append, List.drop_append_of_le_length (List.takeWhile_prefix _).length_le]
      at taken
    exact taken
  | text dark noFloat noInt noWord quote found isValue =>
    have noSlash : c ≠ '\\' := by
      rintro rfl
      exact absurd quote (by decide)
    exact .text dark (by rw [float, noFloat]; rfl) (by rw [int, noInt]; rfl) (by rw [word, noWord])
      quote (takeQuoted?_append noSlash found _) isValue
  | sign dark noFloat noInt noWord noQuote found =>
    exact .sign dark (by rw [float, noFloat]; rfl) (by rw [int, noInt]; rfl) (by rw [word, noWord])
      noQuote (by rw [sign, found]; rfl)

end Takes

/-! ## Steps -/

/-- The brackets that are to be closed after a step that read a token, or white space; no brackets
where the token closes one that is not open. -/
def closersAfter? (closers : List Operator) : Option Lexeme → Option (List Operator)
  | some (.operator sign) =>
    match sign.closing? with
    | some closer => some (closer :: closers)
    | none =>
      if sign.isClosing then if closers.head? = some sign then some closers.tail else none
      else some closers
  | _ => some closers

/-- What a step passes. -/
def passed (text after : List Char) : List Char :=
  text.take (text.length - after.length)

/-- The code from a place on, inside of the given brackets. -/
def cutCode (size : Nat) (closers : List Operator) (previous : Option Char) (line : Nat)
    (text : List Char) : List Token :=
  cutTemplate size (.inside ⟨true, closers⟩) previous line text

section

variable {size line : Nat} {closers : List Operator} {previous : Option Char} {c : Char}
  {rest after : List Char} {lexeme : Option Lexeme}

/-- A step inside of an output passes what it read, unless it closes a bracket that is not open. -/
theorem cutCode_taken (line : Nat) (goes : goesOn closers (c :: rest) = true)
    (taken : takeToken previous (size - (c :: rest).length) (c :: rest) = .ok (lexeme, after)) :
    (∀ further, closersAfter? closers lexeme = some further →
      cutCode size closers previous line (c :: rest)
        = lexeme.toList.map (⟨·, line⟩) ++ if after.length < (c :: rest).length
          then cutCode size further (passed (c :: rest) after).getLast?
            (line + (passed (c :: rest) after).count '\n') after
          else [⟨.fault (.unexpectedCharacter c (size - (c :: rest).length)), line⟩]) ∧
      (closersAfter? closers lexeme = none →
        ∃ problem, cutCode size closers previous line (c :: rest) = [⟨.fault problem, line⟩]) := by
  unfold cutCode
  rw [cutTemplate]
  simp only [outputEnd?_of_goesOn goes, taken, if_true]
  cases lexeme with
  | none => exact ⟨fun _ step => Option.some.inj step ▸ rfl, fun none_ => absurd none_ (Option.some_ne_none _)⟩
  | some lexeme =>
    cases lexeme with
    | operator sign =>
      simp only [closersAfter?]
      cases sign.closing? with
      | some closer => exact ⟨fun _ step => Option.some.inj step ▸ rfl, fun none_ => absurd none_ (Option.some_ne_none _)⟩
      | none =>
        by_cases isClosing : sign.isClosing
        · simp only [if_pos isClosing]
          cases closers with
          | nil => exact ⟨fun _ step => absurd step.symm (Option.some_ne_none _), fun _ => ⟨_, rfl⟩⟩
          | cons expected tail =>
            by_cases isLast : expected = sign
            · simp only [List.head?_cons, isLast, beq_self_eq_true, if_true]
              exact ⟨fun _ step => Option.some.inj step ▸ rfl, fun none_ => absurd none_ (Option.some_ne_none _)⟩
            · simp only [List.head?_cons, Option.some.injEq, isLast, beq_iff_eq, if_false]
              exact ⟨fun _ step => absurd step.symm (Option.some_ne_none _), fun _ => ⟨_, rfl⟩⟩
        · simp only [if_neg isClosing]
          exact ⟨fun _ step => Option.some.inj step ▸ rfl, fun none_ => absurd none_ (Option.some_ne_none _)⟩
    | _ => exact ⟨fun _ step => Option.some.inj step ▸ rfl, fun none_ => absurd none_ (Option.some_ne_none _)⟩

/-- A step that reads something. -/
theorem cutCode_step (size : Nat) (closers : List Operator) (line : Nat)
    (goes : goesOn closers (c :: rest) = true)
    (takes : Takes (previous == some '.') c rest lexeme after) {further : List Operator}
    (step : closersAfter? closers lexeme = some further)
    (shorter : after.length < (c :: rest).length) :
    cutCode size closers previous line (c :: rest) = lexeme.toList.map (⟨·, line⟩)
      ++ cutCode size further (passed (c :: rest) after).getLast?
        (line + (passed (c :: rest) after).count '\n') after := by
  rw [(cutCode_taken line goes (takeToken_of_takes takes)).1 further step, if_pos shorter]

/-- True for tokens of code: they tell of no mistake and do not end an output. -/
def Lexeme.isCode : Lexeme → Bool
  | .fault _ | .outputEnd => false
  | _ => true

/-- Where all tokens are tokens of code, there is a step that reads the first of them. -/
theorem exists_step (sound : ∀ token ∈ cutCode size closers previous line (c :: rest),
      token.lexeme.isCode = true) :
    goesOn closers (c :: rest) = true ∧ ∃ lexeme after further,
      takeToken previous (size - (c :: rest).length) (c :: rest) = .ok (lexeme, after) ∧
        closersAfter? closers lexeme = some further ∧ after.length < (c :: rest).length ∧
        cutCode size closers previous line (c :: rest) = lexeme.toList.map (⟨·, line⟩)
          ++ cutCode size further (passed (c :: rest) after).getLast?
            (line + (passed (c :: rest) after).count '\n') after := by
  have noFault (before : List Token) (problem : Problem)
      (same : cutCode size closers previous line (c :: rest) = before ++ [⟨.fault problem, line⟩]) :
      False := by
    rw [same] at sound
    exact Bool.false_ne_true (sound ⟨.fault problem, line⟩ (by simp))
  by_cases goes : goesOn closers (c :: rest)
  · refine ⟨goes, ?_⟩
    cases taken : takeToken previous (size - (c :: rest).length) (c :: rest) with
    | error problem =>
      refine (noFault [] problem ?_).elim
      unfold cutCode
      rw [cutTemplate]
      simp only [outputEnd?_of_goesOn goes, taken, if_true]
      rfl
    | ok found =>
      obtain ⟨lexeme, after⟩ := found
      obtain ⟨steps, stops⟩ := cutCode_taken line goes taken
      cases step : closersAfter? closers lexeme with
      | none =>
        obtain ⟨problem, same⟩ := stops step
        exact (noFault [] _ same).elim
      | some further =>
        have same := steps further step
        by_cases shorter : after.length < (c :: rest).length
        · rw [if_pos shorter] at same
          exact ⟨lexeme, after, further, rfl, step, shorter, same⟩
        · rw [if_neg shorter] at same
          exact (noFault _ _ same).elim
  · have ending : ∃ after, (if !closers.isEmpty then none else outputEnd? (c :: rest)) = some after := by
      simp only [goesOn, Bool.or_eq_true, not_or, Bool.not_eq_true, Option.isNone_eq_false_iff] at goes
      rw [goes.1, if_neg Bool.false_ne_true]
      exact Option.isSome_iff_exists.mp goes.2
    obtain ⟨after, ends⟩ := ending
    have isEnd : ⟨.outputEnd, line⟩ ∈ cutCode size closers previous line (c :: rest) := by
      unfold cutCode
      rw [cutTemplate]
      simp only [ends, if_true]
      exact List.mem_cons_self
    exact absurd (sound _ isEnd) Bool.false_ne_true

end

/-! ## Code with more behind it -/

/-- How many brackets a token opens more than it closes. -/
def Token.weight (token : Token) : Int :=
  match token.lexeme with
  | .operator sign => if sign.closing?.isSome then 1 else if sign.isClosing then -1 else 0
  | _ => 0

/-- How many brackets tokens open more than they close. -/
def weight : List Token → Int
  | [] => 0
  | token :: rest => token.weight + weight rest

@[simp]
theorem weight_nil : weight [] = 0 := rfl

@[simp]
theorem weight_cons (token : Token) (tokens : List Token) :
    weight (token :: tokens) = token.weight + weight tokens := rfl

@[simp]
theorem weight_append (first second : List Token) :
    weight (first ++ second) = weight first + weight second := by
  induction first with
  | nil => simp
  | cons token rest ih => rw [List.cons_append, weight_cons, weight_cons, ih, Int.add_assoc]

section

variable {closers further : List Operator} {lexeme : Option Lexeme}

/-- A step that opens or closes a bracket changes the number of those that are open. -/
theorem length_of_closersAfter? (step : closersAfter? closers lexeme = some further) (line : Nat) :
    (further.length : Int) = closers.length + weight (lexeme.toList.map (⟨·, line⟩)) := by
  cases lexeme with
  | none =>
    obtain rfl := Option.some.inj step
    simp
  | some lexeme =>
    cases lexeme with
    | operator sign =>
      simp only [closersAfter?] at step
      cases isOpening : sign.closing? with
      | some closer =>
        rw [isOpening] at step
        obtain rfl := Option.some.inj step
        simp [Token.weight, isOpening]
      | none =>
        rw [isOpening] at step
        dsimp only at step
        split at step
        · rename_i isClosing
          split at step
          · rename_i isLast
            obtain ⟨tail, rfl⟩ := List.head?_eq_some_iff.mp isLast
            obtain rfl := Option.some.inj step
            simp only [Option.toList_some, List.map_cons, List.map_nil, weight_cons, Token.weight,
              isOpening, isClosing, Option.isSome_none, if_true, weight_nil, List.length_cons,
              List.tail_cons, Bool.false_eq_true, if_false]
            omega
          · cases step
        · rename_i notClosing
          obtain rfl := Option.some.inj step
          simp [Token.weight, isOpening, notClosing]
    | _ =>
      obtain rfl := Option.some.inj step
      simp [Token.weight]

/-- Brackets around the code stay open. -/
theorem closersAfter?_append (step : closersAfter? closers lexeme = some further)
    (outer : List Operator) : closersAfter? (closers ++ outer) lexeme = some (further ++ outer) := by
  cases lexeme with
  | none =>
    obtain rfl := Option.some.inj step
    rfl
  | some lexeme =>
    cases lexeme with
    | operator sign =>
      simp only [closersAfter?] at step ⊢
      cases isOpening : sign.closing? with
      | some closer =>
        rw [isOpening] at step
        obtain rfl := Option.some.inj step
        rfl
      | none =>
        rw [isOpening] at step
        dsimp only at step ⊢
        split at step
        · rename_i isClosing
          split at step
          · rename_i isLast
            obtain ⟨tail, rfl⟩ := List.head?_eq_some_iff.mp isLast
            obtain rfl := Option.some.inj step
            simp [isClosing]
          · cases step
        · rename_i notClosing
          obtain rfl := Option.some.inj step
          simp [notClosing]
    | _ =>
      obtain rfl := Option.some.inj step
      rfl

end

theorem passed_append {text after : List Char} (isSuffix : after <:+ text) :
    passed text after ++ after = text := by
  obtain ⟨before, rfl⟩ := isSuffix
  simp [passed]

theorem passed_append_append {text after : List Char} (isSuffix : after <:+ text)
    (more : List Char) : passed (text ++ more) (after ++ more) = passed text after := by
  obtain ⟨before, rfl⟩ := isSuffix
  simp [passed]

/-- Where no line ends in the white space behind code, none ends between the code and what comes
after that white space. -/
theorem count_passed_skipBlank {code behind : List Char} (quiet : '\n' ∉ behind.takeWhile isBlank)
    (isSuffix : skipBlank behind <:+ code ++ behind) :
    (passed (code ++ behind) (skipBlank behind)).count '\n' = code.count '\n' := by
  have whole := congrArg (List.count '\n') (passed_append isSuffix)
  have parts := congrArg (List.count '\n')
    (List.takeWhile_append_dropWhile (p := Text.isBlank) (l := behind))
  rw [List.count_append, List.count_eq_zero_of_not_mem quiet] at parts
  rw [List.count_append, List.count_append] at whole
  unfold skipBlank at whole ⊢
  omega

section

variable {stop : Char} (ends : endsCode stop = true)

include ends

theorem outputEnd?_append {c : Char} {rest : List Char} (noEnd : outputEnd? (c :: rest) = none)
    (more : List Char) : outputEnd? (c :: rest ++ stop :: more) = none := by
  have notEnd : stop ≠ '>' ∧ stop ≠ '%' := by
    rcases eq_of_endsCode ends with rfl | rfl <;> decide
  match rest with
  | [] =>
    rw [List.cons_append, List.nil_append, outputEnd?.eq_def]
    split
    · rename_i same
      simp_all
    · rename_i same
      simp_all
    · rfl
  | [d] =>
    rw [List.cons_append, List.cons_append, List.nil_append, outputEnd?.eq_def]
    split
    · rename_i same
      simp_all
    · rename_i same
      simp only [List.cons.injEq] at same
      obtain ⟨rfl, rfl, -⟩ := same
      cases noEnd
    · rfl
  | d :: e :: others =>
    rw [List.cons_append, List.cons_append, List.cons_append, outputEnd?.eq_def]
    split
    · rename_i same
      simp only [List.cons.injEq] at same
      obtain ⟨rfl, rfl, rfl, -⟩ := same
      cases noEnd
    · rename_i same
      simp only [List.cons.injEq] at same
      obtain ⟨rfl, rfl, -⟩ := same
      cases noEnd
    · rfl

theorem goesOn_append {closers : List Operator} {c : Char} {rest : List Char}
    (goes : goesOn closers (c :: rest) = true) (outer : List Operator) (more : List Char) :
    goesOn (closers ++ outer) (c :: rest ++ stop :: more) = true := by
  simp only [goesOn, Bool.or_eq_true, Bool.not_eq_true', List.isEmpty_eq_false_iff,
    Option.isNone_iff_eq_none] at goes ⊢
  rcases goes with isOpen | noEnd
  · exact .inl (List.append_ne_nil_of_left_ne_nil isOpen outer)
  · exact .inr (outputEnd?_append ends noEnd more)

/-- Code is cut into its tokens, whatever brackets are around it. Then what stands behind it is
read, or, where the code ends in white space, what comes after the white space. -/
theorem cutCode_append {more : List Char}
    (quiet : '\n' ∉ (stop :: more).takeWhile isBlank) (outer : List Operator) (size size' : Nat)
    {text : List Char} {closers : List Operator} {previous previous' : Option Char} {line : Nat}
    (alike : (previous == some '.') = (previous' == some '.'))
    (sound : ∀ token ∈ cutCode size closers previous line text, token.lexeme.isCode = true) :
    ∃ further before left, (left = stop :: more ∨ left = skipBlank (stop :: more)) ∧
      (further.length : Int) = closers.length + weight (cutCode size closers previous line text) ∧
      cutCode size' (closers ++ outer) previous' line (text ++ stop :: more)
        = cutCode size closers previous line text
          ++ cutCode size' (further ++ outer) before (line + text.count '\n') left := by
  induction length : text.length using Nat.strongRecOn
    generalizing text closers previous previous' line with
  | ind length ih =>
  subst length
  cases text with
  | nil =>
    refine ⟨closers, previous', stop :: more, .inl rfl, ?_, ?_⟩
    · simp [cutCode, cutTemplate]
    · simp [cutCode, cutTemplate]
  | cons c rest =>
    obtain ⟨goes, lexeme, after, further, taken, step, shorter, cut⟩ := exists_step sound
    have takes := takes_of_takeToken _ taken
    have isSuffix := takes.suffix
    rw [cut] at sound ⊢
    have later : ∀ token ∈ cutCode size further (passed (c :: rest) after).getLast?
        (line + (passed (c :: rest) after).count '\n') after, token.lexeme.isCode = true :=
      fun token member => sound token (List.mem_append_right _ member)
    have longer := length_of_closersAfter? step line
    have counted := congrArg (List.count '\n') (passed_append isSuffix)
    rw [List.count_append] at counted
    have goes' := goesOn_append ends goes outer more
    have step' := closersAfter?_append step outer
    rw [List.cons_append] at goes' ⊢
    -- A step that stops within the code is the same step, and the others follow it.
    have within (takes' : Takes (previous == some '.') c (rest ++ stop :: more) lexeme
        (after ++ stop :: more)) :
        ∃ last before left, (left = stop :: more ∨ left = skipBlank (stop :: more)) ∧
          (last.length : Int) = closers.length + weight (lexeme.toList.map (⟨·, line⟩)
            ++ cutCode size further (passed (c :: rest) after).getLast?
              (line + (passed (c :: rest) after).count '\n') after) ∧
          cutCode size' (closers ++ outer) previous' line (c :: (rest ++ stop :: more))
            = lexeme.toList.map (⟨·, line⟩)
                ++ cutCode size further (passed (c :: rest) after).getLast?
                  (line + (passed (c :: rest) after).count '\n') after
              ++ cutCode size' (last ++ outer) before (line + (c :: rest).count '\n') left := by
      rw [alike] at takes'
      have shorter' : (after ++ stop :: more).length < (c :: (rest ++ stop :: more)).length := by
        rw [← List.cons_append, List.length_append, List.length_append]
        omega
      have cut' := cutCode_step size' (closers ++ outer) line goes' takes' step' shorter'
      rw [← List.cons_append, passed_append_append isSuffix] at cut'
      obtain ⟨last, before, left, isLeft, weighs, same⟩ :=
        ih after.length shorter (Eq.refl ((passed (c :: rest) after).getLast? == some '.')) later rfl
      refine ⟨last, before, left, isLeft, ?_, ?_⟩
      · rw [weight_append]
        omega
      · rw [← List.cons_append, cut', same, ← counted, List.append_assoc, Nat.add_assoc]
    cases lexeme with
    | some lexeme => exact within (takes.append ends more)
    | none =>
      obtain ⟨blank, isAfter⟩ := takes.isBlank
      have takes' : Takes (previous' == some '.') c (rest ++ stop :: more) none
          (skipBlank (rest ++ stop :: more)) := .blank blank
      have split : skipBlank (rest ++ stop :: more)
          = if after.isEmpty then skipBlank (stop :: more) else after ++ stop :: more := by
        rw [isAfter]
        exact List.dropWhile_append
      by_cases empty : after.isEmpty
      · obtain rfl := List.isEmpty_iff.mp empty
        rw [split, if_pos empty] at takes'
        have shorter' : (skipBlank (stop :: more)).length < (c :: (rest ++ stop :: more)).length := by
          have := (List.dropWhile_suffix Text.isBlank (l := stop :: more)).length_le
          rw [← List.cons_append, List.length_append]
          unfold skipBlank
          simp only [List.length_cons] at *
          omega
        have quietly : (passed (c :: (rest ++ stop :: more)) (skipBlank (stop :: more))).count '\n'
            = (c :: rest).count '\n' := by
          rw [← List.cons_append]
          exact count_passed_skipBlank quiet takes'.suffix
        refine ⟨further, (passed (c :: (rest ++ stop :: more)) (skipBlank (stop :: more))).getLast?,
          skipBlank (stop :: more), .inr rfl, ?_, ?_⟩
        · simpa [cutCode, cutTemplate] using longer
        · rw [cutCode_step size' _ line goes' takes' step' shorter', quietly]
          simp [cutCode, cutTemplate]
      · rw [split, if_neg empty, ← alike] at takes'
        exact within takes'

end

/-! ## Directives -/

/-- The tokens of code on its own. -/
def codeTokens (code : List Char) : List Token :=
  cutCode (unifyLines code).length [] none 1 (unifyLines code)

/-- The line on which code ends. -/
def lastLine (code : List Char) : Nat :=
  1 + (unifyLines code).count '\n'

/-- A blank before code is passed. -/
theorem cutCode_space {size line : Nat} {closers : List Operator} {previous : Option Char}
    {c : Char} {rest : List Char} (goes : goesOn closers (c :: rest) = true) :
    cutCode size closers previous line (' ' :: c :: rest)
      = cutCode size closers (some ' ') line (c :: rest) := by
  have goes' : goesOn closers (' ' :: c :: rest) = true := by
    simp [goesOn, outputEnd?]
  have takes : Takes (previous == some '.') ' ' (c :: rest) none (skipBlank (c :: rest)) :=
    .blank (by decide)
  have step : closersAfter? closers none = some closers := rfl
  have shorter : (skipBlank (c :: rest)).length < (' ' :: c :: rest).length :=
    Nat.lt_succ_of_le (List.dropWhile_suffix _).length_le
  rw [cutCode_step size closers line goes' takes step shorter]
  by_cases blank : isBlank c
  · have skipped : skipBlank (c :: rest) = skipBlank rest := by
      simp [skipBlank, blank]
    have shorter' : (skipBlank rest).length < (c :: rest).length :=
      Nat.lt_succ_of_le (List.dropWhile_suffix _).length_le
    rw [cutCode_step size closers line goes (.blank blank) step shorter', skipped]
    have passes : passed (' ' :: c :: rest) (skipBlank rest)
        = ' ' :: passed (c :: rest) (skipBlank rest) := by
      obtain ⟨before, whole⟩ : skipBlank rest <:+ c :: rest :=
        (List.dropWhile_suffix _).trans (List.suffix_cons c rest)
      rw [← whole]
      simp [passed, Nat.succ_sub]
    have nonempty : passed (c :: rest) (skipBlank rest) ≠ [] := by
      intro empty
      have size := congrArg List.length empty
      simp only [passed, List.length_take, List.length_nil] at size
      omega
    rw [passes, List.getLast?_cons_of_ne_nil nonempty, List.count_cons_of_ne (by decide)]
  · have kept : skipBlank (c :: rest) = c :: rest := by
      simp [skipBlank, blank]
    rw [kept]
    simp [passed]

theorem unifyLines_append {stop : Char} (ends : endsCode stop = true) (text more : List Char) :
    unifyLines (text ++ stop :: more) = unifyLines text ++ unifyLines (stop :: more) := by
  have notBreak : stop ≠ '\n' := by
    rcases eq_of_endsCode ends with rfl | rfl <;> decide
  fun_induction unifyLines text with
  | case1 rest ih => rw [List.cons_append, List.cons_append, unifyLines, ih, List.cons_append]
  | case2 rest noBreak ih =>
    rw [List.cons_append, unifyLines, ih, List.cons_append]
    intro after same
    cases rest with
    | nil => exact notBreak (List.cons.inj same).1
    | cons c rest => exact noBreak rest (by rw [(List.cons.inj same).1])
  | case3 c rest noPair noBreak ih =>
    rw [List.cons_append, unifyLines, ih, List.cons_append]
    · exact fun _ isBreak _ => noBreak isBreak
    · exact noBreak
  | case4 => rfl

/-- The tokens behind code that is put out escaped. -/
def escaping (line : Nat) : List Token :=
  [⟨.operator .closeParen, line⟩, ⟨.operator .pipe, line⟩, ⟨.name "xml", line⟩, ⟨.outputEnd, line⟩]

theorem cutCode_end (size : Nat) (previous : Option Char) (line : Nat) :
    cutCode size [] previous line "%>".toList = [⟨.outputEnd, line⟩] := by
  unfold cutCode
  change cutTemplate size _ previous line ['%', '>'] = _
  rw [cutTemplate]
  simp only [List.isEmpty_nil, Bool.not_true, Bool.false_eq_true, if_false, if_true, outputEnd?]
  rw [dif_pos (by simp), cutTemplate]

/-- A blank before the mark at the end is passed. -/
theorem cutCode_spaceEnd (size : Nat) (previous : Option Char) (line : Nat) :
    cutCode size [] previous line " %>".toList = [⟨.outputEnd, line⟩] := by
  have takes : Takes (previous == some '.') ' ' "%>".toList none "%>".toList := .blank (by decide)
  have blank := cutCode_step size [] line rfl takes rfl (by decide)
  exact blank.trans (cutCode_end size _ line)

theorem cutCode_escaping (size : Nat) (previous : Option Char) (line : Nat) :
    cutCode size [.closeParen] previous line ")|xml %>".toList = escaping line := by
  have named : isName "xml".toList = true := by decide
  have isWord : "xml".toList.all isWordChar = true := by decide
  have filter (previous : Option Char) : cutCode size [] previous line "xml %>".toList
      = [⟨.name "xml", line⟩, ⟨.outputEnd, line⟩] := by
    have takes : Takes (previous == some '.') 'x' "ml %>".toList (some (.name "xml")) " %>".toList :=
      takes_of_takeToken 0 (takeToken_name named isWord (rfl : " %>".toList.head?.all _ = true))
    have name := cutCode_step size [] line rfl takes rfl (by decide)
    exact name.trans (congrArg (_ :: ·) (cutCode_spaceEnd size _ line))
  have pipe (previous : Option Char) : cutCode size [] previous line "|xml %>".toList
      = [⟨.operator .pipe, line⟩, ⟨.name "xml", line⟩, ⟨.outputEnd, line⟩] := by
    have takes : Takes (previous == some '.') '|' "xml %>".toList (some (.operator .pipe))
        "xml %>".toList := takes_of_takeToken 0 takeToken_sign.2.2
    have sign := cutCode_step size [] line rfl takes rfl (by decide)
    exact sign.trans (congrArg (_ :: ·) (filter _))
  have takes : Takes (previous == some '.') ')' "|xml %>".toList (some (.operator .closeParen))
      "|xml %>".toList := takes_of_takeToken 0 takeToken_sign.2.1
  have sign := cutCode_step size [.closeParen] line rfl takes rfl (by decide)
  exact sign.trans (congrArg (_ :: ·) (pipe _))

/-- The tokens of an output begin with its mark. -/
theorem tokens_output (inner : List Char) :
    ∃ size, tokens ("<%= ".toList ++ inner)
      = ⟨.outputBegin, 1⟩ :: cutCode size [] (some '=') 1 (' ' :: unifyLines inner) := by
  have cut (size : Nat) : cutTemplate size .outside none 1 ('<' :: '%' :: '=' :: ' ' :: unifyLines inner)
      = ⟨.outputBegin, 1⟩ :: cutCode size [] (some '=') 1 (' ' :: unifyLines inner) := by
    have found : findFirst? opening? ('<' :: '%' :: '=' :: ' ' :: unifyLines inner)
        = some ([], (.output, .plain), ' ' :: unifyLines inner) := rfl
    have passes : ('<' :: '%' :: '=' :: ' ' :: unifyLines inner).take
        (('<' :: '%' :: '=' :: ' ' :: unifyLines inner).length - (' ' :: unifyLines inner).length)
        = ['<', '%', '='] := by
      simp [Nat.succ_sub]
    rw [cutTemplate]
    simp only [found]
    rw [dif_pos (by simp)]
    simp only [passes]
    rfl
  exact ⟨_, cut _⟩

section

variable {code : List Char} (sound : ∀ token ∈ codeTokens code, token.lexeme.isCode = true)
  (balanced : weight (codeTokens code) = 0)

include sound balanced

/-- Code in front of a blank or a bracket is cut into its own tokens, and then what stands behind it
is read where the code ends. -/
theorem cutCode_behind {stop : Char} (ends : endsCode stop = true) (more : List Char)
    (quiet : '\n' ∉ (stop :: more).takeWhile isBlank) (outer : List Operator) (size : Nat)
    {previous : Option Char} (noPoint : previous ≠ some '.') {last : List Token}
    (ending : ∀ before, cutCode size outer before (lastLine code) (stop :: more) = last ∧
      cutCode size outer before (lastLine code) (skipBlank (stop :: more)) = last) :
    cutCode size outer previous 1 (unifyLines code ++ stop :: more) = codeTokens code ++ last := by
  have alike : ((none : Option Char) == some '.') = (previous == some '.') := by
    rw [beq_eq_false_iff_ne.mpr noPoint]
    rfl
  obtain ⟨further, before, left, isLeft, weighs, cut⟩ :=
    cutCode_append ends quiet outer (unifyLines code).length size alike sound
  have closed : further = [] := by
    unfold codeTokens at balanced
    rw [balanced] at weighs
    exact List.length_eq_zero_iff.mp (by simpa using weighs)
  rw [closed] at cut
  refine cut.trans (congrArg (codeTokens code ++ ·) ?_)
  rcases isLeft with rfl | rfl
  · exact (ending before).1
  · exact (ending before).2

/-- The tokens of code that is put out escaped. -/
theorem tokens_value : tokens (directive .value code)
    = ⟨.outputBegin, 1⟩ :: ⟨.operator .openParen, 1⟩
      :: (codeTokens code ++ escaping (lastLine code)) := by
  have written : directive .value code = "<%= ".toList ++ ('(' :: (code ++ ")|xml %>".toList)) := by
    simp [directive, outputOpen, directiveClose]
  have unified : unifyLines ('(' :: (code ++ ")|xml %>".toList))
      = '(' :: (unifyLines code ++ ")|xml %>".toList) :=
    congrArg ('(' :: ·) (unifyLines_append (by decide) code "|xml %>".toList)
  obtain ⟨size, cut⟩ := tokens_output ('(' :: (code ++ ")|xml %>".toList))
  rw [written, cut, unified, cutCode_space rfl]
  have takes : Takes (some ' ' == some '.') '(' (unifyLines code ++ ")|xml %>".toList)
      (some (.operator .openParen)) (unifyLines code ++ ")|xml %>".toList) :=
    takes_of_takeToken 0 takeToken_sign.1
  have opening := cutCode_step size [] 1 rfl takes rfl (Nat.lt_succ_self _)
  have passes : passed ('(' :: (unifyLines code ++ ")|xml %>".toList))
      (unifyLines code ++ ")|xml %>".toList) = ['('] := by
    simp [passed]
  rw [passes] at opening
  have inner := cutCode_behind sound balanced (by decide : endsCode ')' = true)
    "|xml %>".toList (by decide) [.closeParen] size (by decide : some '(' ≠ some '.')
    (fun before => ⟨cutCode_escaping size before _, cutCode_escaping size before _⟩)
  exact congrArg (_ :: ·) (opening.trans (congrArg (_ :: ·) inner))

/-- The tokens of code that is put out as it is. -/
theorem tokens_plain {role : Role} (isPlain : role = .literal ∨ role = .block)
    (found : codeTokens code ≠ []) : tokens (directive role code)
      = ⟨.outputBegin, 1⟩ :: (codeTokens code ++ [⟨.outputEnd, lastLine code⟩]) := by
  have written : directive role code = "<%= ".toList ++ (code ++ " %>".toList) := by
    rcases isPlain with rfl | rfl <;> simp [directive, outputOpen, directiveClose]
  have unified : unifyLines (code ++ " %>".toList) = unifyLines code ++ " %>".toList :=
    unifyLines_append (by decide) code "%>".toList
  obtain ⟨size, cut⟩ := tokens_output (code ++ " %>".toList)
  have inner := cutCode_behind sound balanced (by decide : endsCode ' ' = true)
    "%>".toList (by decide) [] size (by decide : some ' ' ≠ some '.')
    (fun before => ⟨cutCode_spaceEnd size before _, cutCode_end size before _⟩)
  rw [written, cut, unified]
  cases isText : unifyLines code with
  | nil =>
    refine absurd ?_ found
    unfold codeTokens
    rw [isText]
    simp [cutCode, cutTemplate]
  | cons c rest =>
    unfold codeTokens at sound
    rw [isText] at sound
    have goes := goesOn_append (by decide : endsCode ' ' = true) (exists_step sound).1 []
      "%>".toList
    rw [isText] at inner
    rw [List.cons_append] at goes inner
    exact congrArg (_ :: ·) ((cutCode_space goes).trans inner)

end

end FormLetter.Script
