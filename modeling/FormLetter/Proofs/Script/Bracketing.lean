import FormLetter.Proofs.Script.Cutting
import FormLetter.Proofs.Script.Reading

/-!
# Expressions in brackets

A reader of expressions does not notice whether an output ends where its tokens end or a bracket
closes there: what it reads in front of the end of an output it reads in front of a closing bracket
too, and it closes as many brackets as it opens. More tokens behind the bracket and more room for
nesting make no difference.
-/

namespace FormLetter.Script

open Script.Parser

namespace Reads

variable {α β : Type} {before after : Stream}

/-- What reads in two steps reads in the first of them. -/
theorem of_bind {reader : Parser α} {next : α → Parser β} {result : β}
    (reads : Reads (reader >>= next) before result after) :
    ∃ value middle, Reads reader before value middle ∧ Reads (next value) middle result after := by
  unfold Reads at reads ⊢
  rw [StateT.run_bind] at reads
  cases first : reader.run before with
  | error mistake => rw [first] at reads; cases reads
  | ok found =>
    rw [first] at reads
    exact ⟨found.1, found.2, rfl, reads⟩

/-- A token that is read stands in front, and no mistake follows it. -/
theorem of_next {token value : Token} {rest : List Token} {line : Nat}
    (reads : Reads Parser.next ⟨token :: rest, line⟩ value after) :
    value = token ∧ after = ⟨rest, token.line⟩ ∧
      ∀ problem, (rest.head?.map (·.lexeme)) ≠ some (.fault problem) := by
  have sound : ∀ problem, (rest.head?.map (·.lexeme)) ≠ some (.fault problem) := by
    intro problem found
    cases rest with
    | nil => cases found
    | cons first others =>
      obtain ⟨lexeme, place⟩ := first
      obtain rfl : lexeme = .fault problem := Option.some.inj found
      cases reads
  have same := (Reads.next sound).symm.trans reads
  obtain ⟨isToken, isAfter⟩ := Prod.mk.inj (Except.ok.inj same)
  exact ⟨isToken.symm, isAfter.symm, sound⟩

/-- The token after the next one is looked at where no mistake follows the next one. -/
theorem second {token : Token} {rest : List Token} {line : Nat}
    (sound : ∀ problem, (rest.head?.map (·.lexeme)) ≠ some (.fault problem)) :
    Reads Parser.second ⟨token :: rest, line⟩ (Stream.next ⟨rest, token.line⟩)
      ⟨token :: rest, line⟩ := by
  unfold Parser.second
  refine (show Reads get ⟨token :: rest, line⟩ ⟨token :: rest, line⟩ _ from rfl).bind ?_
  refine (Reads.next sound).bind ((Reads.current _).bind ?_)
  rfl

theorem of_second {token value : Token} {rest : List Token} {line : Nat}
    (reads : Reads Parser.second ⟨token :: rest, line⟩ value after) :
    value = Stream.next ⟨rest, token.line⟩ ∧ after = ⟨token :: rest, line⟩ ∧
      ∀ problem, (rest.head?.map (·.lexeme)) ≠ some (.fault problem) := by
  unfold Parser.second at reads
  obtain ⟨stream, middle, got, goesOn⟩ := of_bind reads
  obtain ⟨rfl, rfl⟩ := Prod.mk.inj (Except.ok.inj got)
  obtain ⟨_, _, read, -⟩ := of_bind goesOn
  have sound := (of_next read).2.2
  have same := (Reads.second sound).symm.trans reads
  obtain ⟨isToken, isAfter⟩ := Prod.mk.inj (Except.ok.inj same)
  exact ⟨isToken.symm, isAfter.symm, sound⟩

end Reads

section

-- The line on which the tokens end, and what stands behind the bracket there.
variable (line : Nat) (more : List Token)

/-- The end of an output. -/
def outputStop : Token := ⟨.outputEnd, line⟩

/-- The closing bracket in its place. -/
def bracketStop : Token := ⟨.operator .closeParen, line⟩

/-- What one reader reads of some tokens in front of the end of an output, another one reads of them
in front of a closing bracket. The brackets of what is read are counted. -/
def EchoesOn {α : Type} (tokens : List Token) (brackets : α → Int) (first second : Parser α) :
    Prop :=
  ∀ before value after, Reads first ⟨tokens ++ [outputStop line], before⟩ value after →
    ∃ used left, tokens = used ++ left ∧ after.tokens = left ++ [outputStop line] ∧
      weight used = brackets value ∧
      Reads second ⟨tokens ++ bracketStop line :: more, before⟩ value
        ⟨left ++ bracketStop line :: more, after.line⟩

/-- One reader follows another on all tokens that are not too many. -/
def Echoes {α : Type} (limit : Nat) (brackets : α → Int) (first second : Parser α) : Prop :=
  ∀ tokens, tokens.length ≤ limit → EchoesOn line more tokens brackets first second

/-- A reader that reads nothing in front of the end of an output. -/
def Halts {α : Type} (reader : Parser α) : Prop :=
  ∀ before value after, ¬Reads reader ⟨[outputStop line], before⟩ value after

/-- One reader follows another, and they close the brackets that they open. -/
abbrev EchoesClosed {α : Type} (limit : Nat) (first second : Parser α) : Prop :=
  Echoes line more limit (fun _ => 0) first second

end

section

variable {α β : Type} {line limit : Nat} {more tokens : List Token} {brackets : β → Int}

namespace EchoesOn

theorem pure {value : β} (closed : brackets value = 0) :
    EchoesOn line more tokens brackets (pure value) (pure value) := by
  intro before found after reads
  obtain ⟨rfl, rfl⟩ := Prod.mk.inj (Except.ok.inj reads)
  exact ⟨[], tokens, rfl, rfl, closed.symm, rfl⟩

theorem fail (problem : Problem) (place : Nat) (second : Parser β) :
    EchoesOn line more tokens brackets (fail problem place) second := by
  intro before value after reads
  cases reads

theorem congr {other : β → Int} {first second : Parser β}
    (follows : EchoesOn line more tokens other first second)
    (same : ∀ value, other value = brackets value) :
    EchoesOn line more tokens brackets first second := by
  intro before value after reads
  obtain ⟨used, left, parts, isLeft, weighs, reads'⟩ := follows before value after reads
  exact ⟨used, left, parts, isLeft, weighs.trans (same value), reads'⟩

/-- A reader that goes on is followed by one that goes on in the same way. -/
theorem bind {opened : α → Int} {first second : Parser α} {next next' : α → Parser β}
    (begins : EchoesOn line more tokens opened first second) (others : α → β → Int)
    (short : tokens.length ≤ limit)
    (goesOn : ∀ value, Echoes line more limit (others value) (next value) (next' value))
    (total : ∀ value result, opened value + others value result = brackets result) :
    EchoesOn line more tokens brackets (first >>= next) (second >>= next') := by
  intro before result last reads
  obtain ⟨value, ⟨unread, place⟩, reads₁, reads₂⟩ := Reads.of_bind reads
  obtain ⟨used, left, rfl, rfl, weighs, follows⟩ := begins before value _ reads₁
  have shorter : left.length ≤ limit := by
    rw [List.length_append] at short
    omega
  obtain ⟨used', left', rfl, isLast, weighs', follows'⟩ :=
    goesOn value left shorter place result last reads₂
  refine ⟨used ++ used', left', (List.append_assoc ..).symm, isLast, ?_, follows.bind follows'⟩
  rw [weight_append, weighs, weighs', total]

/-- A reader that closes what it opens, and another one after it. -/
theorem andThen {first second : Parser α} {next next' : α → Parser β}
    (begins : EchoesOn line more tokens (fun _ => 0) first second) (short : tokens.length ≤ limit)
    (goesOn : ∀ value, Echoes line more limit brackets (next value) (next' value)) :
    EchoesOn line more tokens brackets (first >>= next) (second >>= next') :=
  begins.bind (fun _ => brackets) short goesOn fun _ _ => Int.zero_add _

/-- The next token is looked at. -/
theorem peek {token : Token} {rest : List Token} {first second : Token → Parser β}
    (follows : EchoesOn line more (token :: rest) brackets (first token) (second token)) :
    EchoesOn line more (token :: rest) brackets (current >>= first) (current >>= second) :=
  follows

/-- Where the tokens end, one reader sees the end of an output, and the other one a bracket. -/
theorem peekEnd {first second : Token → Parser β}
    (follows : EchoesOn line more [] brackets (first (outputStop line))
      (second (bracketStop line))) :
    EchoesOn line more [] brackets (current >>= first) (current >>= second) :=
  follows

theorem next (token : Token) (rest : List Token) :
    EchoesOn line more (token :: rest) (fun _ => token.weight) next next := by
  intro before value after reads
  obtain ⟨rfl, rfl, sound⟩ := Reads.of_next reads
  refine ⟨[value], rest, rfl, rfl, by simp, Reads.next ?_⟩
  cases rest with
  | nil => simp [bracketStop]
  | cons first others => exact sound

/-- The next token is read. -/
theorem read {token : Token} {rest : List Token} {first second : Token → Parser β}
    (others : β → Int)
    (follows : EchoesOn line more rest others (first token) (second token))
    (total : ∀ result, token.weight + others result = brackets result) :
    EchoesOn line more (token :: rest) brackets (Parser.next >>= first)
      (Parser.next >>= second) := by
  intro before result last reads
  obtain ⟨value, middle, reads₁, reads₂⟩ := Reads.of_bind reads
  obtain ⟨used, left, parts, isLeft, -, follows₁⟩ := next token rest before value middle reads₁
  obtain ⟨rfl, rfl, -⟩ := Reads.of_next reads₁
  obtain ⟨used', left', rfl, isLast, weighs, follows₂⟩ := follows _ result last reads₂
  refine ⟨value :: used', left', rfl, isLast, ?_, ?_⟩
  · rw [weight_cons, weighs, total]
  · have same : left = used' ++ left' := List.append_cancel_right isLeft.symm
    rw [same] at follows₁
    exact follows₁.bind follows₂

/-- A token that is no bracket is read. -/
theorem skip {token : Token} {rest : List Token} {first second : Token → Parser β}
    (weighs : token.weight = 0)
    (follows : EchoesOn line more rest brackets (first token) (second token)) :
    EchoesOn line more (token :: rest) brackets (Parser.next >>= first)
      (Parser.next >>= second) :=
  .read brackets follows fun _ => by rw [weighs, Int.zero_add]

/-- A token is read, and no other one. -/
theorem readLast {token : Token} {rest : List Token} {value : β}
    (weighs : token.weight = brackets value) :
    EchoesOn line more (token :: rest) brackets (do let _ ← Parser.next; return value)
      (do let _ ← Parser.next; return value) :=
  .read (fun result => brackets result - token.weight)
    (.pure (by rw [weighs, Int.sub_self])) fun _ => by omega

/-- A token is read that does not fit. -/
theorem readFail {token : Token} {rest : List Token} {first : Token → Parser β} {second : Parser β}
    {problem : Problem} {place : Nat} (fails : first token = Parser.fail problem place) :
    EchoesOn line more (token :: rest) brackets (Parser.next >>= first) second := by
  intro before value after reads
  obtain ⟨found, middle, read, goesOn⟩ := Reads.of_bind reads
  obtain ⟨rfl, -, -⟩ := Reads.of_next read
  rw [fails] at goesOn
  cases goesOn

/-- The token after the next one is looked at. -/
theorem peekSecond {token : Token} {rest : List Token} {first second : Token → Parser β}
    (inside : ∀ other others, rest = other :: others →
      EchoesOn line more (token :: rest) brackets (first other) (second other))
    (ends : rest = [] → EchoesOn line more (token :: rest) brackets (first (outputStop line))
      (second (bracketStop line))) :
    EchoesOn line more (token :: rest) brackets (Parser.second >>= first)
      (Parser.second >>= second) := by
  intro before result last reads
  obtain ⟨found, middle, reads₁, reads₂⟩ := Reads.of_bind reads
  obtain ⟨rfl, rfl, sound⟩ := Reads.of_second reads₁
  cases rest with
  | nil =>
    obtain ⟨used, left, parts, isLast, weighs, follows⟩ := ends rfl before result last reads₂
    refine ⟨used, left, parts, isLast, weighs, Reads.bind (Reads.second ?_) follows⟩
    simp [bracketStop]
  | cons other others =>
    obtain ⟨used, left, parts, isLast, weighs, follows⟩ :=
      inside other others rfl before result last reads₂
    exact ⟨used, left, parts, isLast, weighs, Reads.bind (Reads.second sound) follows⟩

end EchoesOn

namespace Echoes

/-- A reader that looks at the next token first. -/
theorem current {first second : Token → Parser β}
    (inside : ∀ token rest, rest.length < limit →
      EchoesOn line more (token :: rest) brackets (first token) (second token))
    (ends : EchoesOn line more [] brackets (first (outputStop line)) (second (bracketStop line))) :
    Echoes line more limit brackets (current >>= first) (current >>= second) := by
  intro tokens short
  cases tokens with
  | nil => exact ends.peekEnd
  | cons token rest => exact (inside token rest short).peek

/-- A reader that takes no more than the line of the next token. -/
theorem onLine {first second : Token → Parser β}
    (goesOn : ∀ token, Echoes line more limit brackets (first token) (second token))
    (same : second (bracketStop line) = second (outputStop line)) :
    Echoes line more limit brackets (Parser.current >>= first) (Parser.current >>= second) :=
  current (fun token rest short => goesOn token (token :: rest) short)
    (same ▸ goesOn (outputStop line) [] (Nat.zero_le limit))

theorem pure {value : β} (closed : brackets value = 0) :
    Echoes line more limit brackets (pure value) (pure value) :=
  fun _ _ => .pure closed

/-- A reader that closes what it opens, and another one after it. -/
theorem bind {first second : Parser α} {next next' : α → Parser β}
    (begins : EchoesClosed line more limit first second)
    (goesOn : ∀ value, Echoes line more limit brackets (next value) (next' value)) :
    Echoes line more limit brackets (first >>= next) (second >>= next') :=
  fun tokens short => (begins tokens short).andThen short goesOn

theorem failAtNext {problem : Token → Problem} {place : Token → Nat} (second : Parser β) :
    Echoes line more limit brackets
      (do let token ← Parser.current; fail (problem token) (place token)) second := by
  intro tokens short before value after reads
  cases reads

/-- What is said of all tokens holds behind the first one. -/
theorem behind {first second : Parser β} {rest : List Token} (short : rest.length < limit)
    (follows : Echoes line more limit brackets first second) :
    EchoesOn line more rest brackets first second :=
  follows rest (Nat.le_of_lt short)

theorem map {first second : Parser α} (begins : EchoesClosed line more limit first second)
    (change : α → β) : EchoesClosed line more limit (change <$> first) (change <$> second) := by
  rw [← bind_pure_comp, ← bind_pure_comp]
  exact begins.bind fun _ => .pure rfl

end Echoes

namespace Halts

theorem bind {first : Parser α} (halts : Halts line first) (next : α → Parser β) :
    Halts line (first >>= next) := by
  intro before value after reads
  obtain ⟨found, middle, begins, -⟩ := Reads.of_bind reads
  exact halts before found middle begins

theorem followsOn {first second : Parser β} (halts : Halts line first) :
    EchoesOn line more [] brackets first second := by
  intro before value after reads
  exact absurd reads (halts before value after)

end Halts

/-! ## Repetition -/

/-- The brackets of a step that goes on or gives a result. -/
def stepBrackets (brackets : β → Int) : α ⊕ β → Int
  | .inl _ => 0
  | .inr result => brackets result

theorem echoes_go {step step' : α → Parser (α ⊕ β)}
    (steps : ∀ state, Echoes line more limit (stepBrackets brackets) (step state) (step' state))
    {fuel fuel' : Nat} (enough : fuel ≤ fuel') (state : α) :
    Echoes line more limit brackets (repeatStep.go step fuel state)
      (repeatStep.go step' fuel' state) := by
  induction fuel generalizing fuel' state with
  | zero =>
    intro tokens short before value after reads
    cases reads
  | succ fuel ih =>
    obtain ⟨fuel', rfl⟩ := Nat.exists_eq_add_one.mpr (Nat.lt_of_lt_of_le (Nat.succ_pos fuel) enough)
    intro tokens short
    unfold repeatStep.go
    refine (steps state tokens short).bind
      (fun found result => brackets result - stepBrackets brackets found) short
      (fun found => ?_) fun found result => by omega
    cases found with
    | inl state =>
      simp only [stepBrackets, Int.sub_zero]
      exact ih (Nat.le_of_succ_le_succ enough) state
    | inr result => exact fun _ _ => .pure (Int.sub_self _)

theorem echoes_repeatStep {step step' : α → Parser (α ⊕ β)}
    (steps : ∀ state, Echoes line more limit (stepBrackets brackets) (step state) (step' state))
    (state : α) :
    Echoes line more limit brackets (repeatStep step state) (repeatStep step' state) := by
  intro tokens short before value after reads
  have enough : (tokens ++ [outputStop line]).length + 1
      ≤ (tokens ++ bracketStop line :: more).length + 1 := by
    simp
  obtain ⟨used, left, parts, isLeft, weighs, follows⟩ :=
    echoes_go steps enough state tokens short before value after reads
  exact ⟨used, left, parts, isLeft, weighs, .repeatStep follows⟩

theorem echoes_repeat {step step' : α → Parser (α ⊕ β)}
    (steps : ∀ state, EchoesClosed line more limit (step state) (step' state)) (state : α) :
    EchoesClosed line more limit (repeatStep step state) (repeatStep step' state) := by
  refine echoes_repeatStep (fun state tokens short => ?_) state
  exact (steps state tokens short).congr fun found => by cases found <;> rfl

end

/-! ## Single tokens -/

section

variable {line limit : Nat} {more : List Token}

theorem weight_of_isWord {word : String} {token : Token} (isWord : isWord word token = true) :
    token.weight = 0 := by
  obtain ⟨lexeme, place⟩ := token
  cases lexeme with
  | name text => rfl
  | _ => cases isWord

theorem weight_of_isSign {sign : Operator} {token : Token} (isSign : isSign sign token = true) :
    token.weight = Token.weight ⟨.operator sign, 0⟩ := by
  obtain ⟨lexeme, place⟩ := token
  cases lexeme with
  | operator found =>
    obtain rfl : found = sign := beq_iff_eq.mp isSign
    rfl
  | _ => cases isSign

theorem echoes_expect {test : Token → Bool} {expected : String}
    (notEnd : test (outputStop line) = false) {brackets : Int}
    (weighs : ∀ token, test token = true → token.weight = brackets) :
    Echoes line more limit (fun _ => brackets) (expect test expected) (expect test expected) := by
  unfold expect
  refine .current (fun token rest _ => ?_) ?_
  · by_cases passes : test token
    · rw [if_pos passes]
      exact (EchoesOn.next token rest).congr fun _ => weighs token passes
    · rw [if_neg passes]
      split <;> exact .fail _ _ _
  · rw [notEnd, if_neg Bool.false_ne_true]
    exact .fail _ _ _

theorem halts_expectSign (sign : Operator) : Halts line (expectSign sign) := by
  intro before value after reads
  cases reads

theorem echoes_expectSign (sign : Operator) :
    Echoes line more limit (fun _ => Token.weight ⟨.operator sign, 0⟩) (expectSign sign)
      (expectSign sign) :=
  echoes_expect rfl fun _ => weight_of_isSign

theorem echoes_expectName :
    EchoesClosed line more limit expectName expectName := by
  unfold expectName
  refine .bind (echoes_expect rfl ?_) fun token => ?_
  · intro token isName
    obtain ⟨lexeme, place⟩ := token
    cases lexeme with
    | name text => rfl
    | _ => cases isName
  · split <;> exact .pure rfl

theorem echoes_skipIf {test : Token → Bool} (notEnd : test (outputStop line) = false)
    (notBracket : test (bracketStop line) = false)
    (weighs : ∀ token, test token = true → token.weight = 0) :
    EchoesClosed line more limit (skipIf test) (skipIf test) := by
  unfold skipIf
  refine .current (fun token rest _ => ?_) ?_
  · by_cases passes : test token
    · rw [if_pos passes]
      exact .skip (weighs token passes) (.pure rfl)
    · rw [if_neg passes]
      exact .pure rfl
  · rw [notEnd, notBracket]
    exact .pure rfl

theorem echoes_skipWord (word : String) :
    EchoesClosed line more limit (skipIf (isWord word)) (skipIf (isWord word)) :=
  echoes_skipIf rfl rfl fun _ => weight_of_isWord

theorem echoes_texts (value : List Char) :
    EchoesClosed line more limit (texts value) (texts value) := by
  unfold texts
  refine echoes_repeat (fun found => .current (fun token rest _ => ?_) ?_) value
  · obtain ⟨lexeme, place⟩ := token
    cases lexeme with
    | text more => exact .skip rfl (.pure rfl)
    | _ => exact .pure rfl
  · exact .pure rfl

theorem echoes_dottedName : EchoesClosed line more limit dottedName dottedName := by
  unfold dottedName
  refine echoes_expectName.bind fun found => .bind (echoes_repeat (fun name => ?_) _)
    fun _ => .pure rfl
  refine .current (fun token rest short => ?_) (.pure rfl)
  by_cases isDot : isSign .dot token
  · rw [if_pos isDot]
    refine .skip (weight_of_isSign isDot) (Echoes.behind short ?_)
    exact echoes_expectName.bind fun _ => .pure rfl
  · rw [if_neg isDot]
    exact .pure rfl

theorem echoes_comparator? : EchoesClosed line more limit comparator? comparator? := by
  unfold comparator?
  refine .current (fun token rest short => ?_) (.pure rfl)
  obtain ⟨lexeme, place⟩ := token
  dsimp only
  split
  · rename_i sign
    cases comparison : comparison? sign with
    | some found =>
      refine .skip ?_ (.pure rfl)
      cases sign <;> first | rfl | cases comparison
    | none => exact .pure rfl
  · exact .skip rfl (.pure rfl)
  · refine .peekSecond (fun other others same => ?_) fun _ => .pure rfl
    by_cases isIn : isWord "in" other
    · rw [if_pos isIn, same]
      exact .skip rfl (.skip (weight_of_isWord isIn) (.pure rfl))
    · rw [if_neg isIn]
      exact .pure rfl
  · exact .pure rfl

end

/-! ## Layers -/

section

variable {line limit : Nat} {more : List Token} {inner inner' : Parser Expr}

theorem echoes_leftLayer {operand operand' : Parser Expr}
    {operation : Nat → Token → Option (Expr → Expr → Expr)}
    (operands : EchoesClosed line more limit operand operand')
    (noBracket : ∀ place token, (operation place token).isSome → token.weight = 0)
    (ends : ∀ place, operation place (outputStop line) = none)
    (ends' : ∀ place, operation place (bracketStop line) = none) :
    EchoesClosed line more limit (leftLayer operand operation) (leftLayer operand' operation) := by
  unfold leftLayer
  refine .onLine (fun token => .bind operands fun first => echoes_repeat ?_ _) rfl
  rintro ⟨left, place⟩
  refine .current (fun token rest short => ?_) ?_
  · cases isOperation : operation place token with
    | some combine =>
      have weighs : token.weight = 0 := noBracket place token (by rw [isOperation]; rfl)
      refine .skip weighs (Echoes.behind short ?_)
      exact operands.bind fun right => .onLine (fun _ => .pure rfl) rfl
    | none => exact .pure rfl
  · rw [ends, ends']
    exact .pure rfl

theorem echoes_arithmetic {operand operand' : Parser Expr} {table : List (Operator × Arithmetic)}
    (operands : EchoesClosed line more limit operand operand')
    (plain : ∀ sign, (table.lookup sign).isSome → Token.weight ⟨.operator sign, 0⟩ = 0) :
    EchoesClosed line more limit (leftLayer operand (arithmeticOf table))
      (leftLayer operand' (arithmeticOf table)) := by
  have noBracket : table.lookup .closeParen = none := by
    cases found : table.lookup .closeParen with
    | none => rfl
    | some operation => exact absurd (plain .closeParen (by rw [found]; rfl)) (by decide)
  refine echoes_leftLayer operands (fun place token isOperation => ?_) (fun _ => rfl) fun _ => ?_
  · obtain ⟨lexeme, place⟩ := token
    cases lexeme with
    | operator sign => exact plain sign (by simpa [arithmeticOf] using isOperation)
    | _ => cases isOperation
  · simp [arithmeticOf, bracketStop, noBracket]

/-- What comes of the parts of a slice, the last of which may follow. -/
def sliceEnd (inner : Parser Expr) (start? stop? : Option Expr) : Parser Index := do
  let step? ←
    if isSign .colon (← current) then do
      let _ ← next
      if endsSlice (← current) then pure none else some <$> inner
    else pure none
  return .slice start? stop? step?

/-- An index of which the first part was read. -/
def indexEnd (inner : Parser Expr) (start? : Option Expr) : Parser Index := do
  if !isSign .colon (← current) then
    match start? with
    | some start => return .single start
    | none => return .slice none none none
  else
    let _ ← next
    let token ← current
    let stop? ←
      if isSign .colon token || endsSlice token then pure none else some <$> inner
    sliceEnd inner start? stop?

section

variable {α : Type} {item item' : Parser α}

/-- An item, unless a comma was the last. -/
def itemOrEnd (closing : Operator) (trailing : Bool) (item : Parser α) (items : List α) :
    Parser (List α ⊕ List α) := do
  if trailing && isSign closing (← current) then
    let _ ← next
    return .inr items.reverse
  else return .inl ((← item) :: items)

theorem echoes_itemsUntil (closing : Operator) (trailing : Bool)
    (items : EchoesClosed line more limit item item') (other : closing ≠ .closeParen)
    (closes : Token.weight ⟨.operator closing, 0⟩ = -1) :
    Echoes line more limit (fun _ => -1) (itemsUntil closing trailing item)
      (itemsUntil closing trailing item') := by
  have notStop : isSign closing (bracketStop line) = false := by
    simpa [isSign, bracketStop] using other.symm
  have weighs {token : Token} (isClosing : isSign closing token = true) : token.weight = -1 :=
    (weight_of_isSign isClosing).trans closes
  have one (read : List α) : Echoes line more limit (stepBrackets (fun _ => -1))
      (itemOrEnd closing trailing item read) (itemOrEnd closing trailing item' read) := by
    unfold itemOrEnd
    refine .current (fun token rest short => ?_) ?_
    · by_cases ends : trailing && isSign closing token
      · rw [if_pos ends, if_pos ends]
        exact .readLast (weighs (Bool.and_eq_true_iff.mp ends).2)
      · rw [if_neg ends, if_neg ends]
        exact (items (token :: rest) short).andThen short fun _ => .pure rfl
    · have notEnd : isSign closing (outputStop line) = false := rfl
      rw [notEnd, notStop, Bool.and_false]
      exact (items [] (Nat.zero_le limit)).andThen (Nat.zero_le limit) fun _ => .pure rfl
  unfold itemsUntil
  refine echoes_repeatStep (fun read => ?_) []
  have others : Echoes line more limit (stepBrackets (fun _ => -1))
      (do if !read.isEmpty then let _ ← expectSign .comma
          itemOrEnd closing trailing item read)
      (do if !read.isEmpty then let _ ← expectSign .comma
          itemOrEnd closing trailing item' read) := by
    dsimp only
    split
    · exact (echoes_expectSign .comma).bind fun _ => one read
    · exact one read
  refine .current (fun token rest short => ?_) ?_
  · by_cases isClosing : isSign closing token
    · rw [if_pos isClosing, if_pos isClosing]
      exact .readLast (weighs isClosing)
    · rw [if_neg isClosing, if_neg isClosing]
      exact others (token :: rest) short
  · rw [notStop]
    exact others [] (Nat.zero_le limit)

end

/-- Two readers of expressions of which one follows the other. An expression is more than
nothing. -/
structure Mirrors (line : Nat) (more : List Token) (limit : Nat) (inner inner' : Parser Expr) :
    Prop where
  follows : EchoesClosed line more limit inner inner'
  halts : Halts line inner

section

variable (inners : Mirrors line more limit inner inner')

include inners

theorem echoes_pair : EchoesClosed line more limit (pair inner) (pair inner') := by
  unfold pair
  refine inners.follows.bind fun key => .bind (echoes_expectSign .colon) fun _ => ?_
  exact inners.follows.bind fun value => .pure rfl

theorem echoes_sliceEnd (start? stop? : Option Expr) :
    EchoesClosed line more limit (sliceEnd inner start? stop?) (sliceEnd inner' start? stop?) := by
  unfold sliceEnd
  refine .current (fun token rest short => ?_) (.andThen (.pure rfl) (Nat.zero_le limit) fun _ => .pure rfl)
  by_cases isColon : isSign .colon token
  · rw [if_pos isColon, if_pos isColon]
    refine .skip (weight_of_isSign isColon) (Echoes.behind short ?_)
    refine .current (fun token rest short => ?_) ?_
    · split
      · exact .andThen (.pure rfl) short fun _ => .pure rfl
      · exact (inners.follows.map some (token :: rest) short).andThen short fun _ => .pure rfl
    · exact (inners.follows.map some [] (Nat.zero_le limit)).andThen (Nat.zero_le limit) fun _ => .pure rfl
  · rw [if_neg isColon, if_neg isColon]
    exact .andThen (.pure rfl) short fun _ => .pure rfl

theorem echoes_indexEnd (start? : Option Expr) :
    EchoesClosed line more limit (indexEnd inner start?) (indexEnd inner' start?) := by
  unfold indexEnd
  have parts : EchoesOn line more [] (fun _ => 0)
      (match start? with
        | some start => pure (Index.single start)
        | none => pure (.slice none none none) : Parser Index)
      (match start? with
        | some start => pure (Index.single start)
        | none => pure (.slice none none none) : Parser Index) := by
    cases start? <;> exact .pure rfl
  refine .current (fun token rest short => ?_) parts
  by_cases isColon : isSign .colon token
  · rw [if_neg (by simp [isColon]), if_neg (by simp [isColon])]
    refine .skip (weight_of_isSign isColon) (Echoes.behind short ?_)
    refine .current (fun token rest short => ?_) ?_
    · split
      · exact .andThen (.pure rfl) short (echoes_sliceEnd inners start?)
      · exact (inners.follows.map some (token :: rest) short).andThen short (echoes_sliceEnd inners start?)
    · exact (inners.follows.map some [] (Nat.zero_le limit)).andThen (Nat.zero_le limit)
        (echoes_sliceEnd inners start?)
  · rw [if_pos (by simp [isColon]), if_pos (by simp [isColon])]
    cases start? <;> exact .pure rfl

theorem echoes_index : EchoesClosed line more limit (index inner) (index inner') := by
  unfold index
  refine .current (fun token rest short => ?_) ?_
  · by_cases isColon : isSign .colon token
    · rw [if_pos isColon, if_pos isColon]
      exact .andThen (.pure rfl) short (echoes_indexEnd inners)
    · rw [if_neg isColon, if_neg isColon]
      exact (inners.follows.map some (token :: rest) short).andThen short (echoes_indexEnd inners)
  · exact (inners.follows.map some [] (Nat.zero_le limit)).andThen (Nat.zero_le limit) (echoes_indexEnd inners)

/-- The items of a tuple that were read, whether it is one, and its line, as the next ones are
read. -/
def tupleItem (item : Parser Expr) (items : List Expr) (isTuple : Bool) (place : Nat) :
    Parser ((List Expr × Bool × Nat) ⊕ (List Expr × Bool × Nat)) := do
  if endsTuple (fun _ => false) (← current) then return .inr (items, isTuple, place)
  else
    let items := items ++ [← item]
    if isSign .comma (← current) then return .inl (items, true, (← current).line)
    else return .inr (items, isTuple, place)

omit inners in
theorem echoes_tupleItem {item item' : Parser Expr} (each : EchoesClosed line more limit item item')
    (items : List Expr) (isTuple : Bool) (place : Nat) :
    EchoesClosed line more limit (tupleItem item items isTuple place)
      (tupleItem item' items isTuple place) := by
  unfold tupleItem
  refine .current (fun token rest short => ?_) (.pure rfl)
  by_cases ends : endsTuple (fun _ => false) token
  · rw [if_pos ends, if_pos ends]
    exact .pure rfl
  · rw [if_neg ends, if_neg ends]
    refine (each (token :: rest) short).andThen short fun value => ?_
    refine .current (fun token rest short => ?_) (.pure rfl)
    split
    · exact .peek (.pure rfl)
    · exact .pure rfl

omit inners in
/-- A tuple may be empty in brackets only. -/
theorem echoes_tupleOf {item item' : Parser Expr} (each : EchoesClosed line more limit item item')
    {inBrackets inBrackets' : Bool} (wider : inBrackets = true → inBrackets' = true) :
    EchoesClosed line more limit (tupleOf item (fun _ => false) inBrackets)
      (tupleOf item' (fun _ => false) inBrackets') := by
  unfold tupleOf
  refine .onLine (fun token => .bind (echoes_repeat ?_ _) fun found => ?_) rfl
  · rintro ⟨items, isTuple, place⟩
    dsimp only
    split
    · exact .bind (echoes_expectSign .comma) fun _ => echoes_tupleItem each items isTuple place
    · exact echoes_tupleItem each items isTuple place
  · obtain ⟨items, isTuple, place⟩ := found
    dsimp only
    split
    · exact .pure rfl
    · cases items with
      | cons first others => exact .pure rfl
      | nil =>
        cases inBrackets with
        | true => 
          rw [wider rfl]
          exact .pure rfl
        | false => exact .failAtNext _

/-- Stops at the arguments of a call unless something holds. -/
def ensureAt (opening : Token) (holds : Bool) : Parser Unit :=
  if holds then return () else fail .callArguments opening.line

omit inners in
theorem echoes_ensureAt {tokens : List Token} {α : Type} {brackets : α → Int} (opening : Token)
    (holds : Bool) {first second : Parser α}
    (follows : EchoesOn line more tokens brackets first second) :
    EchoesOn line more tokens brackets (do ensureAt opening holds; first)
      (do ensureAt opening holds; second) := by
  cases holds with
  | true => exact follows
  | false => exact fun _ _ _ reads => by cases reads

omit inners in
theorem halts_ensureAt {α : Type} (opening : Token) (holds : Bool) {first : Parser α}
    (halts : Halts line first) : Halts line (do ensureAt opening holds; first) := by
  cases holds with
  | true => exact halts
  | false => exact fun _ _ _ reads => by cases reads

/-- Ends the arguments of a call. -/
def finishCall (parts : CallParts) : Parser (CallParts ⊕ Arguments) := do
  let _ ← next
  return .inr (.mk parts.positional parts.names parts.values parts.rest parts.restNamed)

/-- Reads an argument with the given name, or without one. -/
def namedArgument (inner : Parser Expr) (opening : Token) (parts : CallParts) :
    Option String → Parser (CallParts ⊕ Arguments)
  | some name => do
    ensureAt opening parts.restNamed.isNone
    let _ ← next
    let _ ← next
    let value ← inner
    return .inl
      { parts with
        names := parts.names ++ [name], values := parts.values ++ [value], started := true }
  | none => do
    ensureAt opening (parts.rest.isNone && parts.restNamed.isNone && parts.names.isEmpty)
    let value ← inner
    return .inl { parts with positional := parts.positional ++ [value], started := true }

/-- Reads an argument, or the end of the arguments. -/
def argument (inner : Parser Expr) (opening : Token) (parts : CallParts) :
    Parser (CallParts ⊕ Arguments) := do
  let token ← current
  if isSign .closeParen token then finishCall parts
  else if isSign .mul token then
    ensureAt opening (parts.rest.isNone && parts.restNamed.isNone)
    let _ ← next
    return .inl { parts with rest := some (← inner), started := true }
  else if isSign .pow token then
    ensureAt opening parts.restNamed.isNone
    let _ ← next
    return .inl { parts with restNamed := some (← inner), started := true }
  else
    let named ← match token.lexeme with
      | .name name => do
        if isSign .assign (← second) then pure (some name) else pure none
      | _ => pure none
    namedArgument inner opening parts named

theorem halts_namedArgument (opening : Token) (parts : CallParts) :
    Halts line (namedArgument inner opening parts none) := by
  exact halts_ensureAt opening _ (inners.halts.bind _)

theorem echoes_namedArgument (opening : Token) (parts : CallParts) :
    Echoes line more limit (stepBrackets (fun _ => -1)) (namedArgument inner opening parts none)
      (namedArgument inner' opening parts none) := by
  intro tokens short
  refine echoes_ensureAt opening _ ?_
  exact (inners.follows tokens short).andThen short fun _ => .pure rfl

theorem echoes_argument (opening : Token) (parts : CallParts) :
    Echoes line more limit (stepBrackets (fun _ => -1)) (argument inner opening parts)
      (argument inner' opening parts) := by
  unfold argument
  refine .current (fun token others short => ?_) (halts_namedArgument inners opening parts).followsOn
  have behind (change : Expr → CallParts) :
      EchoesOn line more others (stepBrackets (fun _ : Arguments => -1))
        (do return Sum.inl (change (← inner))) (do return Sum.inl (change (← inner'))) :=
    (inners.follows others (Nat.le_of_lt short)).andThen (Nat.le_of_lt short) fun _ => .pure rfl
  by_cases ends : isSign .closeParen token
  · rw [if_pos ends, if_pos ends]
    exact .readLast (weight_of_isSign ends)
  rw [if_neg ends, if_neg ends]
  by_cases isRest : isSign .mul token
  · rw [if_pos isRest, if_pos isRest]
    exact echoes_ensureAt opening _ (.skip (weight_of_isSign isRest) (behind _))
  rw [if_neg isRest, if_neg isRest]
  by_cases isNamed : isSign .pow token
  · rw [if_pos isNamed, if_pos isNamed]
    exact echoes_ensureAt opening _ (.skip (weight_of_isSign isNamed) (behind _))
  rw [if_neg isNamed, if_neg isNamed]
  have plain := echoes_namedArgument inners opening parts (token :: others) short
  obtain ⟨lexeme, place⟩ := token
  cases lexeme with
  | name word =>
    refine .peekSecond (fun other later same => ?_) fun _ => plain
    by_cases isAssign : isSign .assign other
    · rw [if_pos isAssign, if_pos isAssign]
      subst same
      have later_ : later.length ≤ limit := Nat.le_of_lt (Nat.lt_of_succ_lt short)
      refine echoes_ensureAt opening _ (.skip rfl (.skip (weight_of_isSign isAssign) ?_))
      exact (inners.follows later later_).andThen later_ fun _ => .pure rfl
    · rw [if_neg isAssign, if_neg isAssign]
      exact plain
  | _ => exact plain

theorem echoes_arguments :
    EchoesClosed line more limit (arguments inner) (arguments inner') := by
  unfold arguments
  refine fun tokens short => (echoes_expectSign .openParen tokens short).bind (fun _ _ => -1)
    short (fun opening => echoes_repeatStep (fun parts => ?_) _) fun _ _ => rfl
  have others : Echoes line more limit (stepBrackets (fun _ => -1))
      (do if parts.started then let _ ← expectSign .comma
          argument inner opening parts)
      (do if parts.started then let _ ← expectSign .comma
          argument inner' opening parts) := by
    dsimp only
    split
    · exact (echoes_expectSign .comma).bind fun _ => echoes_argument inners opening parts
    · exact echoes_argument inners opening parts
  have halts : Halts line
      (do if parts.started then let _ ← expectSign .comma
          argument inner opening parts) := by
    dsimp only
    split
    · exact (halts_expectSign .comma).bind _
    · exact halts_namedArgument inners opening parts
  refine .current (fun token rest short => ?_) halts.followsOn
  by_cases ends : isSign .closeParen token
  · rw [if_pos ends, if_pos ends]
    exact .readLast (weight_of_isSign ends)
  · rw [if_neg ends, if_neg ends]
    exact others (token :: rest) short

theorem echoes_primary :
    EchoesClosed line more limit (primary inner false) (primary inner' false) := by
  unfold primary
  refine .current (fun token rest short => ?_) fun _ _ _ reads => by cases reads
  obtain ⟨lexeme, place⟩ := token
  dsimp only
  split
  · refine .skip rfl ?_
    split
    · exact .pure rfl
    · exact .pure rfl
    · exact .pure rfl
    · exact .pure rfl
    · exact .pure rfl
    · exact .pure rfl
    · exact Echoes.behind short (.onLine (fun _ => .pure rfl) rfl)
  · refine .skip rfl (Echoes.behind short ?_)
    exact (echoes_texts _).bind fun _ => .pure rfl
  · exact .skip rfl (.pure rfl)
  · exact .skip rfl (.pure rfl)
  · refine .read (fun _ => -1) (Echoes.behind short ?_) fun _ => rfl
    refine (echoes_tupleOf inners.follows id).bind fun value tokens short => ?_
    exact (echoes_expectSign .closeParen tokens short).bind (fun _ _ => 0) short
      (fun _ => .pure rfl) fun _ _ => rfl
  · refine .read (fun _ => -1) (fun before value after => ?_) fun _ => rfl
    have items := echoes_itemsUntil .closeBracket true inners.follows
      (by decide) rfl rest (Nat.le_of_lt short)
    exact items.bind (fun _ _ => 0) (Nat.le_of_lt short)
      (fun _ => .pure rfl) (fun _ _ => rfl) before value after
  · refine .read (fun _ => -1) (fun before value after => ?_) fun _ => rfl
    have items := echoes_itemsUntil .closeBrace true (echoes_pair inners)
      (by decide) rfl rest (Nat.le_of_lt short)
    exact items.bind (fun _ _ => 0) (Nat.le_of_lt short)
      (fun _ => .pure rfl) (fun _ _ => rfl) before value after
  · exact .fail _ _ _

theorem echoes_subscript (subject : Expr) {token : Token} {rest : List Token}
    (begins : (isSign .dot token || isSign .openBracket token) = true) (short : rest.length < limit) :
    EchoesOn line more (token :: rest) (fun _ => 0) (subscript inner subject)
      (subscript inner' subject) := by
  unfold subscript
  by_cases isDot : isSign .dot token
  · refine .skip (weight_of_isSign isDot) ?_
    rw [if_pos isDot, if_pos isDot]
    cases rest with
    | nil => exact fun _ _ _ reads => by cases reads
    | cons other others =>
      obtain ⟨lexeme, place⟩ := other
      cases lexeme with
      | name | int => exact .skip rfl (.pure rfl)
      | _ => exact .readFail rfl
  · rw [Bool.eq_false_iff.mpr isDot, Bool.false_or] at begins
    refine .read (fun _ => -1) ?_ fun _ => ?_
    · rw [if_neg isDot, if_neg isDot]
      have indices := echoes_itemsUntil .closeBracket false (echoes_index inners)
        (by decide) rfl rest (Nat.le_of_lt short)
      refine indices.bind (fun _ _ => 0) (Nat.le_of_lt short)
        (fun found => ?_) fun _ _ => rfl
      split <;> exact .pure rfl
    · rw [weight_of_isSign begins]
      rfl

theorem echoes_postfixes (value : Expr) :
    EchoesClosed line more limit (postfixes inner value) (postfixes inner' value) := by
  unfold postfixes
  refine echoes_repeat (fun value => ?_) value
  have ends : EchoesOn line more [] (fun _ => 0) (pure (Sum.inr value) : Parser (Expr ⊕ Expr))
      (pure (Sum.inr value)) := .pure rfl
  refine .current (fun token rest short => ?_) ends
  by_cases begins : isSign .dot token || isSign .openBracket token
  · rw [if_pos begins, if_pos begins]
    exact (echoes_subscript inners value begins short).andThen short fun _ => .pure rfl
  rw [if_neg begins, if_neg begins]
  by_cases isCall : isSign .openParen token
  · rw [if_pos isCall, if_pos isCall]
    exact (echoes_arguments inners (token :: rest) short).andThen short fun _ => .pure rfl
  · rw [if_neg isCall, if_neg isCall]
    exact .pure rfl

theorem echoes_optionalArguments :
    EchoesClosed line more limit (optionalArguments inner) (optionalArguments inner') := by
  unfold optionalArguments
  refine .current (fun token rest short => ?_) (.pure rfl)
  split
  · exact echoes_arguments inners (token :: rest) short
  · exact .pure rfl

theorem echoes_oneFilter (subject : Expr) :
    EchoesClosed line more limit (oneFilter inner subject) (oneFilter inner' subject) := by
  unfold oneFilter
  exact echoes_dottedName.bind fun _ => (echoes_optionalArguments inners).bind fun _ => .pure rfl

omit inners in
theorem echoes_skipSign {sign : Operator} (notStop : isSign sign (bracketStop line) = false)
    (plain : Token.weight ⟨.operator sign, 0⟩ = 0) :
    EchoesClosed line more limit (skipIf (isSign sign)) (skipIf (isSign sign)) :=
  echoes_skipIf rfl notStop fun _ isSign => (weight_of_isSign isSign).trans plain

theorem echoes_filters (subject : Expr) :
    EchoesClosed line more limit (filters inner subject) (filters inner' subject) := by
  unfold filters
  refine echoes_repeat (fun subject => ?_) subject
  refine (echoes_skipSign rfl rfl).bind fun isPipe => ?_
  split
  · exact (echoes_oneFilter inners subject).bind fun _ => .pure rfl
  · exact .pure rfl

theorem echoes_testOf (subject : Expr) {token : Token} {rest : List Token}
    (isTest : isWord "is" token = true) (short : rest.length < limit) :
    EchoesOn line more (token :: rest) (fun _ => 0) (testOf inner subject)
      (testOf inner' subject) := by
  unfold testOf
  refine .skip (weight_of_isWord isTest) (Echoes.behind short ?_)
  refine (echoes_skipWord "not").bind fun negated => echoes_dottedName.bind fun found => ?_
  refine .current (fun token rest short => ?_) (.andThen (.pure rfl) (Nat.zero_le limit) fun _ => .pure rfl)
  by_cases isCall : isSign .openParen token
  · rw [if_pos isCall, if_pos isCall]
    exact (echoes_arguments inners (token :: rest) short).andThen short fun _ => .pure rfl
  rw [if_neg isCall, if_neg isCall]
  by_cases begins : beginsArgument token
  · rw [if_pos begins, if_pos begins]
    split
    · exact fun _ _ _ reads => by cases reads
    · refine (echoes_primary inners (token :: rest) short).andThen short fun _ => ?_
      exact (echoes_postfixes inners _).bind fun _ => .pure rfl
  · rw [if_neg begins, if_neg begins]
    exact .andThen (.pure rfl) short fun _ => .pure rfl

theorem echoes_filterChain (value : Expr) :
    EchoesClosed line more limit (filterChain inner value) (filterChain inner' value) := by
  unfold filterChain
  refine echoes_repeat (fun value => ?_) value
  have ends : EchoesOn line more [] (fun _ => 0) (pure (Sum.inr value) : Parser (Expr ⊕ Expr))
      (pure (Sum.inr value)) := .pure rfl
  refine .current (fun token rest short => ?_) ends
  by_cases isPipe : isSign .pipe token
  · rw [if_pos isPipe, if_pos isPipe]
    exact (echoes_filters inners value (token :: rest) short).andThen short fun _ => .pure rfl
  rw [if_neg isPipe, if_neg isPipe]
  by_cases isTest : isWord "is" token
  · rw [if_pos isTest, if_pos isTest]
    exact (echoes_testOf inners value isTest short).andThen short fun _ => .pure rfl
  rw [if_neg isTest, if_neg isTest]
  by_cases isCall : isSign .openParen token
  · rw [if_pos isCall, if_pos isCall]
    exact (echoes_arguments inners (token :: rest) short).andThen short fun _ => .pure rfl
  · rw [if_neg isCall, if_neg isCall]
    exact .pure rfl

theorem echoes_unary : EchoesClosed line more limit (unary inner) (unary inner') := by
  unfold unary
  refine .bind (echoes_repeat (fun signs => ?_) _) fun signs => ?_
  · refine .current (fun token rest short => ?_) (.pure rfl)
    by_cases isMinus : isSign .sub token
    · rw [if_pos isMinus]
      exact .skip (weight_of_isSign isMinus) (.pure rfl)
    rw [if_neg isMinus]
    by_cases isPlus : isSign .add token
    · rw [if_pos isPlus]
      exact .skip (weight_of_isSign isPlus) (.pure rfl)
    · rw [if_neg isPlus]
      exact .pure rfl
  · refine (echoes_primary inners).bind fun _ => (echoes_postfixes inners _).bind fun _ => ?_
    exact echoes_filterChain inners _

theorem echoes_power : EchoesClosed line more limit (power inner) (power inner') := by
  refine echoes_arithmetic (echoes_unary inners) fun sign found => ?_
  cases sign <;> first | rfl | cases found

theorem echoes_product : EchoesClosed line more limit (product inner) (product inner') := by
  refine echoes_arithmetic (echoes_power inners) fun sign found => ?_
  cases sign <;> first | rfl | cases found

theorem echoes_concatenation :
    EchoesClosed line more limit (concatenation inner) (concatenation inner') := by
  unfold concatenation
  refine .onLine (fun token => (echoes_product inners).bind fun first => ?_) rfl
  refine .bind (echoes_repeat (fun items => ?_) _) fun items => ?_
  · refine (echoes_skipSign rfl rfl).bind fun isTilde => ?_
    split
    · exact (echoes_product inners).bind fun _ => .pure rfl
    · exact .pure rfl
  · split <;> exact .pure rfl

theorem echoes_sum : EchoesClosed line more limit (sum inner) (sum inner') := by
  refine echoes_arithmetic (echoes_concatenation inners) fun sign found => ?_
  cases sign <;> first | rfl | cases found

theorem echoes_comparisons :
    EchoesClosed line more limit (comparisons inner) (comparisons inner') := by
  unfold comparisons
  refine .onLine (fun token => (echoes_sum inners).bind fun first => ?_) rfl
  refine .bind (echoes_repeat ?_ _) fun found => ?_
  · rintro ⟨operators, operands, place⟩
    refine echoes_comparator?.bind fun operator => ?_
    cases operator with
    | some operator => exact (echoes_sum inners).bind fun _ => .onLine (fun _ => .pure rfl) rfl
    | none => exact .pure rfl
  · obtain ⟨operators, operands, place⟩ := found
    dsimp only
    split <;> exact .pure rfl

theorem echoes_negations : EchoesClosed line more limit (negations inner) (negations inner') := by
  unfold negations
  refine .bind (echoes_repeat (fun lines => ?_) _) fun lines => ?_
  · refine .current (fun token rest short => ?_) (.pure rfl)
    by_cases isNot : isWord "not" token
    · rw [if_pos isNot]
      exact .skip (weight_of_isWord isNot) (.pure rfl)
    · rw [if_neg isNot]
      exact .pure rfl
  · exact (echoes_comparisons inners).bind fun _ => .pure rfl

omit inners in
/-- The operations that a word stands for. -/
theorem echoes_wordLayer {operand operand' : Parser Expr} {word : String}
    {combine : Nat → Expr → Expr → Expr}
    (operands : EchoesClosed line more limit operand operand') :
    EchoesClosed line more limit
      (leftLayer operand fun line token => if isWord word token then some (combine line) else none)
      (leftLayer operand' fun line token =>
        if isWord word token then some (combine line) else none) := by
  refine echoes_leftLayer operands (fun place token found => ?_) (fun _ => rfl) fun _ => rfl
  by_cases isOperation : isWord word token
  · exact weight_of_isWord isOperation
  · rw [if_neg isOperation] at found
    cases found

theorem echoes_disjunctions :
    EchoesClosed line more limit (disjunctions inner) (disjunctions inner') :=
  echoes_wordLayer (echoes_wordLayer (echoes_negations inners))

theorem echoes_conditionals :
    EchoesClosed line more limit (conditionals inner) (conditionals inner') := by
  unfold conditionals
  refine .onLine (fun token => (echoes_disjunctions inners).bind fun first => ?_) rfl
  refine echoes_repeat ?_ _
  rintro ⟨value, place⟩
  refine (echoes_skipWord "if").bind fun isConditional => ?_
  cases isConditional with
  | false => exact .pure rfl
  | true =>
    refine (echoes_disjunctions inners).bind fun test => (echoes_skipWord "else").bind ?_
    have ends (orElse : Option Expr) : EchoesClosed line more limit
        (do return .inl (Expr.conditional place test value orElse, (← current).line) :
          Parser ((Expr × Nat) ⊕ Expr))
        (do return .inl (Expr.conditional place test value orElse, (← current).line)) :=
      .onLine (fun _ => .pure rfl) rfl
    intro hasElse
    cases hasElse with
    | true => exact (inners.follows.map some).bind ends
    | false => exact Echoes.bind (.pure rfl) ends

omit inners in
/-- Every layer asks for a value first. -/
theorem halts_conditionals : Halts line (conditionals inner) := by
  intro before value after reads
  cases reads

end

/-- Expressions are read in the same way with more room for nesting. -/
theorem mirrors_expressionWithin {depth depth' : Nat} (enough : depth ≤ depth') :
    Mirrors line more limit (expressionWithin depth) (expressionWithin depth') := by
  induction depth generalizing depth' with
  | zero =>
    have halts : Halts line (expressionWithin 0) := by
      intro before value after reads
      cases reads
    exact ⟨fun tokens short before value after reads => (by cases reads), halts⟩
  | succ depth ih =>
    obtain ⟨depth', rfl⟩ := Nat.exists_eq_add_one.mpr (Nat.lt_of_lt_of_le (Nat.succ_pos depth) enough)
    exact ⟨echoes_conditionals (ih (Nat.le_of_succ_le_succ enough)), halts_conditionals⟩

end

end FormLetter.Script
