import FormLetter.Proofs.Xml.Marks
import FormLetter.Script.Parser

/-!
# Scanning texts and escaped names

A template that consists of texts and of names that are put out escaped is cut into exactly these:
a text is one token as long as no opening mark stands in it, and a name with its output is always
the same seven tokens.
-/

namespace FormLetter.Script

open FormLetter.Text
open FormLetter.Xml (isEndedBy)

/-- A name that the scanner takes as one word, and that stands for a variable: it is no constant,
and it does not negate what comes after it. -/
def isVariable (name : List Char) : Bool :=
  isName name && name.all isWordChar
    && !("not" :: Parser.constantWords).contains (String.ofList name)

/-- The output of a name, escaped. -/
def outputOf (name : List Char) : List Char :=
  "<%= (".toList ++ name ++ ")|xml %>".toList

/-- A template that consists of a text and of names that are put out escaped, each with the text
after it. -/
structure Form where
  start : List Char
  slots : List (List Char × List Char)

/-- A form as it is written. -/
def Form.write (form : Form) : List Char :=
  form.start ++ form.slots.flatMap fun (name, text) => outputOf name ++ text

/-- A form that is read as what it is: its names are variables, no opening mark stands in its texts
or begins at their ends, and its line breaks have one form. -/
structure Form.Legible (form : Form) : Prop where
  start : isEndedBy "<%".toList form.start = true
  names : ∀ slot ∈ form.slots, isVariable slot.1 = true
  texts : ∀ slot ∈ form.slots, isEndedBy "<%".toList slot.2 = true
  unbroken : '\r' ∉ form.write

/-! ## Marks -/

theorem opening?_eq_none {text : List Char} (begins : "<%".toList.isPrefixOf text = false) :
    opening? text = none := by
  unfold opening?
  split
  · cases begins
  · rfl

/-- A mark is found where a text ends that the mark ends. -/
theorem findFirst?_opening {text more : List Char} {found : (Opening × Trim) × List Char}
    (ended : isEndedBy "<%".toList text = true)
    (opens : opening? ("<%".toList ++ more) = some found) :
    findFirst? opening? (text ++ ("<%".toList ++ more)) = some (text, found) := by
  induction text with
  | nil =>
    rw [List.nil_append]
    change findFirst? opening? ('<' :: '%' :: more) = _
    rw [findFirst?, show opening? ('<' :: '%' :: more) = some found from opens]
  | cons c rest inductionHypothesis =>
    simp only [isEndedBy, Bool.and_eq_true, Bool.not_eq_true'] at ended
    have begins : "<%".toList.isPrefixOf (c :: (rest ++ ("<%".toList ++ more))) = false := by
      refine Bool.eq_false_iff.mpr fun isPrefix => Bool.false_ne_true (ended.1.symm.trans ?_)
      rw [List.isPrefixOf_iff_prefix] at isPrefix ⊢
      have longer : "<%".toList <+: (c :: (rest ++ "<%".toList)) ++ more := by simpa using isPrefix
      exact List.prefix_of_prefix_length_le longer (List.prefix_append _ more) (by simp)
    rw [List.cons_append, findFirst?, opening?_eq_none begins, inductionHypothesis ended.2]
    rfl

/-- No mark is found in a text that holds none. -/
theorem findFirst?_opening_eq_none {text : List Char} (ended : isEndedBy "<%".toList text = true) :
    findFirst? opening? text = none := by
  induction text with
  | nil => rfl
  | cons c rest inductionHypothesis =>
    simp only [isEndedBy, Bool.and_eq_true, Bool.not_eq_true'] at ended
    have begins : "<%".toList.isPrefixOf (c :: rest) = false := by
      refine Bool.eq_false_iff.mpr fun isPrefix => Bool.false_ne_true (ended.1.symm.trans ?_)
      rw [List.isPrefixOf_iff_prefix] at isPrefix ⊢
      exact isPrefix.trans (List.prefix_append (c :: rest) _)
    rw [findFirst?, opening?_eq_none begins, inductionHypothesis ended.2]
    rfl

/-! ## Words and signs -/

/-- Text that does not begin with a digit begins with no number. -/
theorem takeFloat?_eq_none {c : Char} {rest : List Char} (noDigit : c.isDigit = false) :
    takeFloat? (c :: rest) = none := by
  simp [takeFloat?, digitRun?, noDigit]

theorem takeInt?_eq_none {c : Char} {rest : List Char} (noDigit : c.isDigit = false) :
    takeInt? (c :: rest) = none := by
  have notZero : c ≠ '0' := by
    rintro rfl
    exact absurd noDigit (by decide)
  unfold takeInt?
  dsimp only
  split
  · rename_i same
    exact absurd (List.cons.inj same).1 notZero
  · simp [notZero, noDigit]

/-- A character that begins a name is no digit. -/
theorem isDigit_of_isNameStart {c : Char} (starts : isNameStart c = true) : c.isDigit = false := by
  refine Bool.eq_false_iff.mpr fun digit => ?_
  simp only [Char.isDigit, Bool.and_eq_true, decide_eq_true_eq, UInt32.le_iff_toNat_le] at digit
  have low : 48 ≤ c.toNat := digit.1
  have high : c.toNat ≤ 57 := digit.2
  have none : ∀ n ∈ List.range' 48 10, isNameStart (Char.ofNat n) = false := by decide
  have notStart := none c.toNat (List.mem_range'_1.mpr (by omega))
  rw [Char.ofNat_toNat] at notStart
  exact Bool.false_ne_true (notStart.symm.trans starts)

/-- The code points of white space. -/
def blankCodes : List Nat :=
  List.range' 9 5 ++ List.range' 28 5 ++ [0x85, 0xA0, 0x1680] ++ List.range' 0x2000 11
    ++ [0x2028, 0x2029, 0x202F, 0x205F, 0x3000]

theorem mem_blankCodes {c : Char} (blank : isBlank c = true) : c.toNat ∈ blankCodes := by
  simp only [isBlank, Bool.or_eq_true, Bool.and_eq_true, decide_eq_true_eq, beq_iff_eq] at blank
  simp only [blankCodes, List.mem_append, List.mem_range'_1, List.mem_cons, List.not_mem_nil,
    or_false]
  omega

/-- A character that begins a name is no white space. -/
theorem isBlank_of_isNameStart {c : Char} (starts : isNameStart c = true) : isBlank c = false := by
  refine Bool.eq_false_iff.mpr fun blank => ?_
  have none : ∀ n ∈ blankCodes, isNameStart (Char.ofNat n) = false := by decide +kernel
  have notStart := none c.toNat (mem_blankCodes blank)
  rw [Char.ofNat_toNat] at notStart
  exact Bool.false_ne_true (notStart.symm.trans starts)

/-- A word up to a character that belongs to none is one name. -/
theorem takeToken_name {previous : Option Char} {offset : Nat} {name more : List Char}
    (named : isName name = true) (isWord : name.all isWordChar = true)
    (ends : (more.head?.all fun c => !isWordChar c) = true) :
    takeToken previous offset (name ++ more) = .ok (some (.name (String.ofList name)), more) := by
  cases name with
  | nil => exact absurd named Bool.false_ne_true
  | cons first rest =>
    have starts : isNameStart first = true := (Bool.and_eq_true _ _ ▸ named).1
    have noDigit := isDigit_of_isNameStart starts
    have word : ((first :: rest) ++ more).takeWhile isWordChar = first :: rest := by
      have stops : more.takeWhile isWordChar = [] := by
        cases more with
        | nil => rfl
        | cons c _ => rw [List.takeWhile_cons_of_neg (by simpa using ends)]
      rw [List.takeWhile_append_of_pos (List.all_eq_true.mp isWord), stops, List.append_nil]
    rw [List.cons_append] at word ⊢
    have noFloat : (if previous == some '.' then none else takeFloat? (first :: (rest ++ more)))
        = none := by
      rw [takeFloat?_eq_none noDigit, ite_self]
    simp only [takeToken, isBlank_of_isNameStart starts, noFloat, takeInt?_eq_none noDigit, word,
      named]
    simp

/-- The signs around a name that is put out escaped. -/
theorem takeToken_sign {previous : Option Char} {offset : Nat} {more : List Char} :
    takeToken previous offset ('(' :: more) = .ok (some (.operator .openParen), more) ∧
      takeToken previous offset (')' :: more) = .ok (some (.operator .closeParen), more) ∧
      takeToken previous offset ('|' :: more) = .ok (some (.operator .pipe), more) := by
  have noFloat {c : Char} (noDigit : c.isDigit = false) :
      (if previous == some '.' then none else takeFloat? (c :: more)) = none := by
    rw [takeFloat?_eq_none noDigit, ite_self]
  refine ⟨?_, ?_, ?_⟩
  all_goals
    unfold takeToken
    dsimp only
    rw [noFloat (by decide), takeInt?_eq_none (by decide)]
    rfl

/-! ## Tokens -/

/-- What tokens are, wherever they stand. -/
def lexemes (tokens : List Token) : List Lexeme := tokens.map (·.lexeme)

/-- Wherever a text stands and whatever came before it, a mode cuts it into the given lexemes. -/
def CutsInto (mode : Mode) (text : List Char) (expected : List Lexeme) : Prop :=
  ∀ size previous line, lexemes (cutTemplate size mode previous line text) = expected

variable {text after : List Char} {expected : List Lexeme}

theorem cutsInto_nil (mode : Mode) : CutsInto mode [] [] := by
  intro size previous line
  rw [cutTemplate]
  rfl

/-- A directive goes on while a bracket is open, or else until its closing mark. -/
def goesOn (closers : List Operator) (text : List Char) : Bool :=
  !closers.isEmpty || (outputEnd? text).isNone

theorem outputEnd?_of_goesOn {closers : List Operator} (continues : goesOn closers text = true) :
    (if !closers.isEmpty then none else outputEnd? text) = none := by
  simp only [goesOn, Bool.or_eq_true, Option.isNone_iff_eq_none] at continues
  split
  · rfl
  · rename_i closed
    exact continues.resolve_left closed

/-- What follows a step that read something. -/
theorem CutsInto.rest {mode : Mode} (rest : CutsInto mode after expected)
    (shorter : after.length < text.length) {size line : Nat} {previous : Option Char}
    {otherwise : List Token} :
    lexemes (if _ : after.length < text.length then cutTemplate size mode previous line after
      else otherwise) = expected := by
  rw [dif_pos shorter]
  exact rest size previous line

/-- A step inside of an output that reads white space. -/
theorem CutsInto.blank {closers : List Operator}
    (rest : CutsInto (.inside ⟨true, closers⟩) after expected)
    (taken : ∀ previous offset, takeToken previous offset text = .ok (none, after))
    (continues : goesOn closers text = true) (shorter : after.length < text.length) :
    CutsInto (.inside ⟨true, closers⟩) text expected := by
  intro size previous line
  cases text with
  | nil => exact absurd shorter (Nat.not_lt_zero _)
  | cons c more =>
    rw [cutTemplate]
    simp only [outputEnd?_of_goesOn continues, taken, if_true]
    exact rest.rest shorter

/-- A step inside of an output that reads a token which is no sign. -/
theorem CutsInto.token {closers : List Operator} {lexeme : Lexeme}
    (rest : CutsInto (.inside ⟨true, closers⟩) after expected)
    (taken : ∀ previous offset, takeToken previous offset text = .ok (some lexeme, after))
    (continues : goesOn closers text = true) (shorter : after.length < text.length)
    (noSign : ∀ sign, lexeme ≠ .operator sign) :
    CutsInto (.inside ⟨true, closers⟩) text (lexeme :: expected) := by
  intro size previous line
  cases text with
  | nil => exact absurd shorter (Nat.not_lt_zero _)
  | cons c more =>
    rw [cutTemplate]
    simp only [outputEnd?_of_goesOn continues, taken, if_true]
    cases lexeme with
    | operator sign => exact absurd rfl (noSign sign)
    | _ => exact congrArg (_ :: ·) (rest.rest shorter)

/-- A step inside of an output that reads a sign which is no closing bracket. -/
theorem CutsInto.sign {closers : List Operator} {sign : Operator}
    (rest : CutsInto (.inside ⟨true, sign.closing?.toList ++ closers⟩) after expected)
    (taken : ∀ previous offset,
      takeToken previous offset text = .ok (some (.operator sign), after))
    (continues : goesOn closers text = true) (shorter : after.length < text.length)
    (noClosing : sign.isClosing = false) :
    CutsInto (.inside ⟨true, closers⟩) text (.operator sign :: expected) := by
  intro size previous line
  cases text with
  | nil => exact absurd shorter (Nat.not_lt_zero _)
  | cons c more =>
    rw [cutTemplate]
    simp only [outputEnd?_of_goesOn continues, taken, if_true, noClosing]
    cases isOpening : sign.closing? with
    | none =>
      rw [isOpening] at rest
      exact congrArg (_ :: ·) (rest.rest shorter)
    | some closer =>
      rw [isOpening] at rest
      exact congrArg (_ :: ·) (rest.rest shorter)

/-- A step inside of an output that reads the bracket which closes the last one. -/
theorem CutsInto.closing {closers : List Operator} {sign : Operator}
    (rest : CutsInto (.inside ⟨true, closers⟩) after expected)
    (taken : ∀ previous offset,
      takeToken previous offset text = .ok (some (.operator sign), after))
    (shorter : after.length < text.length) (isClosing : sign.isClosing = true)
    (noOpening : sign.closing? = none) :
    CutsInto (.inside ⟨true, sign :: closers⟩) text (.operator sign :: expected) := by
  intro size previous line
  cases text with
  | nil => exact absurd shorter (Nat.not_lt_zero _)
  | cons c more =>
    have noEnd : (if !(sign :: closers).isEmpty then none else outputEnd? (c :: more)) = none :=
      outputEnd?_of_goesOn rfl
    rw [cutTemplate]
    simp only [noEnd, taken, if_true, isClosing,
      noOpening, beq_self_eq_true]
    exact congrArg (_ :: ·) (rest.rest shorter)

/-- The end of an output. -/
theorem CutsInto.ending (rest : CutsInto .outside after expected)
    (ends : outputEnd? text = some after) (shorter : after.length < text.length) :
    CutsInto (.inside ⟨true, []⟩) text (.outputEnd :: expected) := by
  intro size previous line
  cases text with
  | nil => exact absurd shorter (Nat.not_lt_zero _)
  | cons c more =>
    rw [cutTemplate]
    simp only [ends, List.isEmpty_nil, Bool.not_true, Bool.false_eq_true, if_false, if_true]
    exact congrArg (_ :: ·) (rest.rest shorter)

/-- The lexeme of a text that is not empty. -/
def dataLexeme (text : List Char) : List Lexeme :=
  if text.isEmpty then [] else [.data text]

theorem lexemes_dataToken (text : List Char) (line : Nat) :
    lexemes (dataToken text line) = dataLexeme text := by
  unfold dataToken dataLexeme
  split <;> rfl

/-- The lexemes of the output of a name. -/
def outputLexemes (name : List Char) : List Lexeme :=
  [.outputBegin, .operator .openParen, .name (String.ofList name), .operator .closeParen,
    .operator .pipe, .name "xml", .outputEnd]

/-- The lexemes of a form. -/
def Form.scanned (form : Form) : List Lexeme :=
  dataLexeme form.start
    ++ form.slots.flatMap fun (name, text) => outputLexemes name ++ dataLexeme text

/-- A text without an opening mark is one token. -/
theorem cutsInto_text (ended : isEndedBy "<%".toList text = true) :
    CutsInto .outside text (dataLexeme text) := by
  intro size previous line
  cases text with
  | nil => exact cutsInto_nil _ size previous line
  | cons c rest =>
    rw [cutTemplate]
    simp only [findFirst?_opening_eq_none ended]
    exact lexemes_dataToken _ _

/-- A text up to the mark of an output. -/
theorem CutsInto.output {before : List Char}
    (rest : CutsInto (.inside ⟨true, []⟩) after expected)
    (found : findFirst? opening? text = some (before, (.output, .plain), after))
    (shorter : after.length < text.length) :
    CutsInto .outside text (dataLexeme before ++ .outputBegin :: expected) := by
  intro size previous line
  cases text with
  | nil => exact absurd shorter (Nat.not_lt_zero _)
  | cons c more =>
    rw [cutTemplate]
    simp only [found]
    have data : (dataToken before line).map (·.lexeme) = dataLexeme before :=
      lexemes_dataToken before line
    rw [lexemes, List.map_append, List.map_cons, trimBefore, if_neg (by decide), data]
    exact congrArg (dataLexeme before ++ .outputBegin :: ·) (rest.rest shorter)

theorem length_lt_append {mark : List Char} (found : mark ≠ []) (text : List Char) :
    text.length < (mark ++ text).length := by
  have := List.length_pos_iff.mpr found
  rw [List.length_append]
  omega

/-- The inside of the output of a name, after its mark. -/
theorem cutsInto_output {name more : List Char} (isVariable : isVariable name = true)
    (rest : CutsInto .outside more expected) :
    CutsInto (.inside ⟨true, []⟩) (" (".toList ++ (name ++ (")|xml %>".toList ++ more)))
      ((outputLexemes name).drop 1 ++ expected) := by
  simp only [Script.isVariable, Bool.and_eq_true] at isVariable
  obtain ⟨⟨named, isWord⟩, -⟩ := isVariable
  have nameFound : name ≠ [] := by
    rintro rfl
    exact Bool.false_ne_true named
  have short (c : Char) (text : List Char) : text.length < (c :: text).length :=
    Nat.lt_succ_self _
  -- Read from the end, each step prepends what it takes.
  have mark : CutsInto (.inside ⟨true, []⟩) ("%>".toList ++ more) (.outputEnd :: expected) :=
    rest.ending rfl (length_lt_append (List.cons_ne_nil _ _) more)
  have blank : CutsInto (.inside ⟨true, []⟩) (" %>".toList ++ more) (.outputEnd :: expected) :=
    mark.blank (fun _ _ => rfl) rfl (short ' ' _)
  have filter : CutsInto (.inside ⟨true, []⟩) ("xml %>".toList ++ more)
      (.name "xml" :: .outputEnd :: expected) := by
    have named : isName "xml".toList = true := by decide
    have isWord : "xml".toList.all isWordChar = true := by decide
    have shorter := length_lt_append (by decide : "xml".toList ≠ []) (" %>".toList ++ more)
    exact blank.token (fun _ _ => takeToken_name named isWord rfl) rfl shorter nofun
  have pipe : CutsInto (.inside ⟨true, []⟩) ("|xml %>".toList ++ more)
      (.operator .pipe :: .name "xml" :: .outputEnd :: expected) :=
    filter.sign (fun _ _ => takeToken_sign.2.2) rfl (short '|' _) rfl
  have closing : CutsInto (.inside ⟨true, [.closeParen]⟩) (")|xml %>".toList ++ more)
      (.operator .closeParen :: .operator .pipe :: .name "xml" :: .outputEnd :: expected) :=
    pipe.closing (fun _ _ => takeToken_sign.2.1) (short ')' _) rfl rfl
  have word : CutsInto (.inside ⟨true, [.closeParen]⟩) (name ++ (")|xml %>".toList ++ more))
      (.name (String.ofList name) :: .operator .closeParen :: .operator .pipe :: .name "xml"
        :: .outputEnd :: expected) :=
    closing.token (fun _ _ => takeToken_name named isWord rfl) rfl
      (length_lt_append nameFound _) nofun
  have opening : CutsInto (.inside ⟨true, []⟩) ('(' :: (name ++ (")|xml %>".toList ++ more)))
      ((outputLexemes name).drop 1 ++ expected) :=
    word.sign (fun _ _ => takeToken_sign.1) rfl (short '(' _) rfl
  exact opening.blank (fun _ _ => rfl) rfl (short ' ' _)

/-- A text before the output of a name, and the output. -/
theorem cutsInto_slot {name more : List Char} (ended : isEndedBy "<%".toList text = true)
    (isVariable : isVariable name = true) (rest : CutsInto .outside more expected) :
    CutsInto .outside (text ++ (outputOf name ++ more))
      (dataLexeme text ++ (outputLexemes name ++ expected)) := by
  have inner := cutsInto_output isVariable rest
  generalize inside : " (".toList ++ (name ++ (")|xml %>".toList ++ more)) = after at inner
  have opening : "<%= (".toList = "<%".toList ++ '=' :: " (".toList := rfl
  have whole : outputOf name ++ more = "<%".toList ++ '=' :: after := by
    rw [← inside]
    calc outputOf name ++ more
        = "<%".toList ++ '=' :: " (".toList ++ name ++ ")|xml %>".toList ++ more :=
          congrArg (· ++ name ++ ")|xml %>".toList ++ more) opening
      _ = "<%".toList ++ '=' :: (" (".toList ++ (name ++ (")|xml %>".toList ++ more))) := by
          simp only [List.append_assoc, List.cons_append]
  have opens : opening? ("<%".toList ++ '=' :: after) = some ((.output, .plain), after) := by
    rw [← inside]
    rfl
  rw [whole]
  refine inner.output (findFirst?_opening ended opens) ?_
  simp only [List.length_append, List.length_cons]
  omega

/-! ## Forms -/

theorem unifyLines_eq {text : List Char} (unbroken : '\r' ∉ text) : unifyLines text = text := by
  fun_induction unifyLines text with
  | case1 | case2 => simp at unbroken
  | case3 c rest _ _ inductionHypothesis =>
    rw [inductionHypothesis fun member => unbroken (List.mem_cons_of_mem c member)]
  | case4 => rfl

/-- A form is cut into the lexemes of its texts and of the outputs of its names. -/
theorem Form.Legible.lexemes_tokens {form : Form} (legible : form.Legible) :
    lexemes (tokens form.write) = form.scanned := by
  have cuts (start : List Char) (slots : List (List Char × List Char))
      (startEnded : isEndedBy "<%".toList start = true)
      (names : ∀ slot ∈ slots, isVariable slot.1 = true)
      (texts : ∀ slot ∈ slots, isEndedBy "<%".toList slot.2 = true) :
      CutsInto .outside (Form.write ⟨start, slots⟩) (Form.scanned ⟨start, slots⟩) := by
    induction slots generalizing start with
    | nil =>
      simpa [Form.write, Form.scanned] using cutsInto_text startEnded
    | cons slot rest inductionHypothesis =>
      rw [List.forall_mem_cons] at names texts
      have later := inductionHypothesis slot.2 texts.1 names.2 texts.2
      simpa [Form.write, Form.scanned] using cutsInto_slot startEnded names.1 later
  rw [tokens, unifyLines_eq legible.unbroken]
  exact cuts form.start form.slots legible.start legible.names legible.texts _ none 1

end FormLetter.Script
