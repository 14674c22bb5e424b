import FormLetter.Proofs.Script.Scanning
import FormLetter.Script.Check

/-!
# Reading the output of a name

An expression in brackets with a filter behind it goes through every layer of operators, and each
layer that finds none of its own hands on what it read.
-/

namespace FormLetter.Script

/-- A reader gives a value for a stream, and leaves another stream. -/
def Reads {α : Type} (reader : Parser α) (before : Stream) (value : α) (after : Stream) : Prop :=
  reader.run before = .ok (value, after)

/-- The next token of a stream. -/
def Stream.next (stream : Stream) : Token :=
  stream.tokens.head?.getD ⟨.ending, stream.line⟩

namespace Reads

open Script.Parser

variable {α β γ : Type} {before middle after : Stream}

theorem pure (value : α) (stream : Stream) : Reads (pure value) stream value stream := rfl

theorem bind {reader : Parser α} {next : α → Parser β} {value : α} {result : β}
    (first : Reads reader before value middle) (second : Reads (next value) middle result after) :
    Reads (reader >>= next) before result after := by
  unfold Reads at first second ⊢
  rw [StateT.run_bind, first]
  exact second

theorem current (stream : Stream) : Reads current stream stream.next stream := rfl

/-- No mistake is found where none follows. -/
theorem checkNext {stream : Stream}
    (sound : ∀ problem, (stream.tokens.head?.map (·.lexeme)) ≠ some (.fault problem)) :
    Reads checkNext stream () stream := by
  obtain ⟨tokens, line⟩ := stream
  unfold Parser.checkNext
  refine (show Reads get ⟨tokens, line⟩ ⟨tokens, line⟩ ⟨tokens, line⟩ from rfl).bind ?_
  cases tokens with
  | nil => rfl
  | cons first others =>
    obtain ⟨lexeme, line⟩ := first
    cases lexeme with
    | fault problem => exact absurd rfl (sound problem)
    | _ => rfl

/-- A token is read where no mistake follows. -/
theorem next {token : Token} {rest : List Token} {line : Nat}
    (sound : ∀ problem, (rest.head?.map (·.lexeme)) ≠ some (.fault problem)) :
    Reads next ⟨token :: rest, line⟩ token ⟨rest, token.line⟩ := by
  have dropped : Reads (modify fun stream : Stream => ⟨stream.tokens.drop 1, token.line⟩)
      ⟨token :: rest, line⟩ () ⟨rest, token.line⟩ := rfl
  unfold Parser.next
  exact (current _).bind (dropped.bind ((checkNext sound).bind rfl))

section

variable {step : β → Parser (β ⊕ γ)} {state : β}

/-- A step that gives a result ends the repetition. -/
theorem stop {fuel : Nat} {result : γ} (stops : Reads (step state) before (.inr result) after) :
    Reads (repeatStep.go step (fuel + 1) state) before result after := by
  unfold repeatStep.go
  exact stops.bind rfl

/-- A step that goes on is followed by the others. -/
theorem go {fuel : Nat} {later : β} {result : γ}
    (goesOn : Reads (step state) before (.inl later) middle)
    (others : Reads (repeatStep.go step fuel later) middle result after) :
    Reads (repeatStep.go step (fuel + 1) state) before result after := by
  conv => unfold repeatStep.go
  exact goesOn.bind others

theorem repeatStep {result : γ}
    (steps : Reads (repeatStep.go step (before.tokens.length + 1) state) before result after) :
    Reads (repeatStep step state) before result after := by
  unfold Parser.repeatStep
  exact (show Reads get before before before from rfl).bind steps

end

end Reads

/-! ## Layers -/

open Script.Parser

/-- True for a token at which every expression ends. -/
def endsAll (token : Token) : Bool :=
  match token.lexeme with
  | .operator .closeParen | .outputEnd => true
  | _ => false

section

variable {inner : Parser Expr} {before after : Stream} {value : Expr}

/-- A layer hands on an operand that no operation follows. -/
theorem reads_leftLayer {operand : Parser Expr}
    {operation : Nat → Token → Option (Expr → Expr → Expr)}
    (first : Reads operand before value after) (none : ∀ line, operation line after.next = none) :
    Reads (leftLayer operand operation) before value after := by
  unfold leftLayer
  refine (Reads.current before).bind (first.bind (.repeatStep (.stop ?_)))
  refine (Reads.current after).bind ?_
  rw [none]
  rfl

theorem reads_skipIf_not {test : Token → Bool} {stream : Stream}
    (fails : test stream.next = false) : Reads (skipIf test) stream false stream := by
  unfold skipIf
  refine (Reads.current stream).bind ?_
  rw [fails]
  rfl

theorem reads_concatenation (first : Reads (product inner) before value after)
    (none : isSign .tilde after.next = false) : Reads (concatenation inner) before value after := by
  unfold concatenation
  refine (Reads.current before).bind (first.bind ?_)
  refine .bind (.repeatStep (.stop ((reads_skipIf_not none).bind (.pure _ _)))) ?_
  exact .pure _ _

theorem reads_comparisons (first : Reads (sum inner) before value after)
    (none : Reads comparator? after none after) : Reads (comparisons inner) before value after := by
  unfold comparisons
  refine (Reads.current before).bind (first.bind ?_)
  refine .bind (.repeatStep (.stop (none.bind (.pure _ _)))) ?_
  exact .pure _ _

theorem reads_negations (first : Reads (comparisons inner) before value after)
    (none : isWord "not" before.next = false) : Reads (negations inner) before value after := by
  unfold negations
  have noLine : Reads (if isWord "not" before.next then do
      let _ ← next
      return Sum.inl [before.next.line]
    else return Sum.inr []) before (.inr ([] : List Nat)) before := by
    rw [none]
    rfl
  have noLines : Reads (repeatStep (fun lines : List Nat => do
      let token ← current
      if isWord "not" token then
        let _ ← next
        return .inl (token.line :: lines)
      else return .inr lines) []) before [] before :=
    .repeatStep (.stop ((Reads.current before).bind noLine))
  exact noLines.bind (first.bind (.pure _ _))

theorem reads_conditionals (first : Reads (disjunctions inner) before value after)
    (none : isWord "if" after.next = false) : Reads (conditionals inner) before value after := by
  unfold conditionals
  refine (Reads.current before).bind (first.bind ?_)
  exact .repeatStep (.stop ((reads_skipIf_not none).bind (.pure _ _)))

/-- A value that no operation stands before or behind is an expression. -/
theorem reads_expressionWithin {depth : Nat}
    (first : Reads (unary (expressionWithin depth)) before value after)
    (noNegation : isWord "not" before.next = false) (ends : endsAll after.next = true) :
    Reads (expressionWithin (depth + 1)) before value after := by
  have isEnd : after.next.lexeme = .operator .closeParen ∨ after.next.lexeme = .outputEnd := by
    unfold endsAll at ends
    split at ends
    · exact .inl ‹_›
    · exact .inr ‹_›
    · cases ends
  have noWord (word : String) : isWord word after.next = false := by
    unfold isWord
    rcases isEnd with same | same <;> rw [same]
  have noOperation {table : List (Operator × Arithmetic)} (line : Nat)
      (other : table.lookup .closeParen = none) : arithmeticOf table line after.next = none := by
    unfold arithmeticOf
    rcases isEnd with same | same
    · rw [same]
      dsimp only
      rw [other]
      rfl
    · rw [same]
  have noTilde : isSign .tilde after.next = false := by
    unfold isSign
    rcases isEnd with same | same <;> rw [same]
    rfl
  have noComparison : Reads comparator? after none after := by
    unfold comparator?
    refine (Reads.current after).bind ?_
    rcases isEnd with same | same <;> rw [same] <;> rfl
  have power : Reads (power _) before value after :=
    reads_leftLayer first fun line => noOperation line rfl
  have product : Reads (product _) before value after :=
    reads_leftLayer power fun line => noOperation line rfl
  have sum : Reads (sum _) before value after :=
    reads_leftLayer (reads_concatenation product noTilde) fun line => noOperation line rfl
  have negations := reads_negations (reads_comparisons sum noComparison) noNegation
  have conjunctions : Reads (conjunctions _) before value after :=
    reads_leftLayer negations fun line => by rw [noWord]; rfl
  have disjunctions : Reads (disjunctions _) before value after :=
    reads_leftLayer conjunctions fun line => by rw [noWord]; rfl
  exact reads_conditionals disjunctions (noWord "if")

/-- A name for itself. -/
theorem reads_primary_name {name : String} {line before : Nat} {rest : List Token}
    (isVariable : constantWords.contains name = false)
    (sound : ∀ problem, (rest.head?.map (·.lexeme)) ≠ some (.fault problem)) :
    Reads (primary inner false) ⟨⟨.name name, line⟩ :: rest, before⟩ (.name line name)
      ⟨rest, line⟩ := by
  unfold primary
  refine (Reads.current _).bind ((Reads.next sound).bind ?_)
  split
  · exact absurd isVariable (by decide)
  · exact absurd isVariable (by decide)
  · exact absurd isVariable (by decide)
  · exact absurd isVariable (by decide)
  · exact absurd isVariable (by decide)
  · exact absurd isVariable (by decide)
  · rfl

/-- Members, indices and calls begin with one of three signs. -/
theorem reads_postfixes {stream : Stream}
    (none : [Operator.dot, .openBracket, .openParen].all (!isSign · stream.next) = true) :
    Reads (postfixes inner value) stream value stream := by
  simp only [List.all_cons, List.all_nil, Bool.and_true, Bool.and_eq_true,
    Bool.not_eq_true'] at none
  have stops : Reads (if isSign .dot stream.next || isSign .openBracket stream.next then
        return .inl (← subscript inner value)
      else if isSign .openParen stream.next then
        return .inl (.call stream.next.line value (← arguments inner))
      else return .inr value : Parser (Expr ⊕ Expr)) stream (.inr value) stream := by
    rw [none.1, none.2.1, none.2.2]
    rfl
  exact .repeatStep (.stop ((Reads.current stream).bind stops))

/-- A value behind which an expression ends has no filter. -/
theorem reads_filterChain_end (ends : endsAll after.next = true) {fuel : Nat} :
    Reads (repeatStep.go (fun value : Expr => do
      let token ← current
      if isSign .pipe token then return .inl (← filters inner value)
      else if isWord "is" token then return .inl (← testOf inner value)
      else if isSign .openParen token then
        return .inl (.call token.line value (← arguments inner))
      else return .inr value) (fuel + 1) value) after value after := by
  refine .stop ((Reads.current after).bind ?_)
  unfold endsAll at ends
  have none : isSign .pipe after.next = false ∧ isWord "is" after.next = false ∧
      isSign .openParen after.next = false := by
    unfold isSign isWord
    split at ends <;> simp_all
  rw [none.1, none.2.1, none.2.2]
  rfl

/-- A value without signs before it, and with what may follow it. -/
theorem reads_unary {middle : Stream} {subject : Expr}
    (first : Reads (primary inner false) before subject middle)
    (noSign : isSign .sub before.next = false ∧ isSign .add before.next = false)
    (noPostfix : [Operator.dot, .openBracket, .openParen].all (!isSign · middle.next) = true)
    (filtered : Reads (filterChain inner subject) middle value after) :
    Reads (unary inner) before value after := by
  have stops : Reads (if isSign .sub before.next then do
        let _ ← next
        return .inl [(true, before.next.line)]
      else if isSign .add before.next then do
        let _ ← next
        return .inl [(false, before.next.line)]
      else return .inr [] : Parser (List (Bool × Nat) ⊕ List (Bool × Nat)))
      before (.inr []) before := by
    rw [noSign.1, noSign.2]
    rfl
  have signs : Reads (repeatStep (fun signs : List (Bool × Nat) => do
      let token ← current
      if isSign .sub token then
        let _ ← next
        return .inl ((true, token.line) :: signs)
      else if isSign .add token then
        let _ ← next
        return .inl ((false, token.line) :: signs)
      else return .inr signs) []) before [] before :=
    .repeatStep (.stop ((Reads.current before).bind stops))
  exact signs.bind (first.bind ((reads_postfixes noPostfix).bind filtered))

/-- A variable in brackets. -/
theorem reads_variable {depth : Nat} {name : String} {line closing before : Nat} {rest : List Token}
    (isVariable : ("not" :: constantWords).contains name = false) :
    Reads (expressionWithin (depth + 1))
      ⟨⟨.name name, line⟩ :: ⟨.operator .closeParen, closing⟩ :: rest, before⟩ (.name line name)
      ⟨⟨.operator .closeParen, closing⟩ :: rest, line⟩ := by
  simp only [List.contains_cons, Bool.or_eq_false_iff] at isVariable
  have primary : Reads (primary (expressionWithin depth) false)
      ⟨⟨.name name, line⟩ :: ⟨.operator .closeParen, closing⟩ :: rest, before⟩ (.name line name)
      ⟨⟨.operator .closeParen, closing⟩ :: rest, line⟩ :=
    reads_primary_name isVariable.2 (by simp)
  refine reads_expressionWithin (reads_unary primary ⟨rfl, rfl⟩ rfl ?_) isVariable.1 rfl
  exact .repeatStep (reads_filterChain_end rfl)

/-- True for the tokens with which the output of a name, or the name in brackets, begins. -/
def begins (token : Token) : Bool :=
  match token.lexeme with
  | .name _ | .operator .openParen => true
  | _ => false

/-- One expression without a comma behind it is no tuple. -/
theorem reads_tuple {item : Parser Expr} {inBrackets : Bool} (first : Reads item before value after)
    (isFirst : begins before.next = true) (noComma : isSign .comma after.next = false) :
    Reads (tupleOf item (fun _ => false) inBrackets) before value after := by
  have single : Reads (do
      if isSign .comma (← current) then
        return Sum.inl ([] ++ [value], true, (← current).line)
      else return Sum.inr ([] ++ [value], false, before.next.line)) after
      (.inr ([value], false, before.next.line)) after := by
    refine (Reads.current after).bind ?_
    rw [noComma]
    rfl
  have notEnded : endsTuple (fun _ => false) before.next = false := by
    unfold begins at isFirst
    unfold endsTuple isSign
    split at isFirst <;> simp_all
  have step : Reads (if endsTuple (fun _ => false) before.next then
      return Sum.inr ([], false, before.next.line)
    else do
      let items := [] ++ [← item]
      if isSign .comma (← current) then
        return Sum.inl (items, true, (← current).line)
      else return Sum.inr (items, false, before.next.line)) before
      (.inr ([value], false, before.next.line)) after := by
    rw [notEnded]
    exact first.bind single
  unfold tupleOf
  refine (Reads.current before).bind ?_
  exact @Reads.bind _ _ before after after _ _ ([value], false, before.next.line) value
    (.repeatStep (.stop ((Reads.current before).bind step))) (.pure _ _)

/-- A token that passes a test where it must. -/
theorem reads_expect {test : Token → Bool} {expected : String} {token : Token} {rest : List Token}
    {line : Nat} (passes : test token = true)
    (sound : ∀ problem, (rest.head?.map (·.lexeme)) ≠ some (.fault problem)) :
    Reads (expect test expected) ⟨token :: rest, line⟩ token ⟨rest, token.line⟩ := by
  unfold expect
  refine (Reads.current _).bind ?_
  rw [show test (Stream.next ⟨token :: rest, line⟩) = true from passes]
  exact Reads.next sound

theorem reads_skipIf {test : Token → Bool} {token : Token} {rest : List Token}
    {line : Nat} (passes : test token = true)
    (sound : ∀ problem, (rest.head?.map (·.lexeme)) ≠ some (.fault problem)) :
    Reads (skipIf test) ⟨token :: rest, line⟩ true ⟨rest, token.line⟩ := by
  unfold skipIf
  refine (Reads.current _).bind ?_
  rw [show test (Stream.next ⟨token :: rest, line⟩) = true from passes]
  exact (Reads.next sound).bind (.pure _ _)

section

variable {name : String} {more : List Token} {l₀ l₁ l₂ l₃ l₄ l₅ l₆ : Nat}
  (isVariable : ("not" :: constantWords).contains name = false)

include isVariable

theorem reads_brackets {depth : Nat} :
    Reads (primary (expressionWithin (depth + 1)) false)
      ⟨⟨.operator .openParen, l₁⟩ :: ⟨.name name, l₂⟩ :: ⟨.operator .closeParen, l₃⟩ ::
        ⟨.operator .pipe, l₄⟩ :: more, l₀⟩
      (.name l₂ name) ⟨⟨.operator .pipe, l₄⟩ :: more, l₃⟩ := by
  have inside : Reads (tupleOf (expressionWithin (depth + 1)) (fun _ => false) true)
      ⟨⟨.name name, l₂⟩ :: ⟨.operator .closeParen, l₃⟩ :: ⟨.operator .pipe, l₄⟩ :: more, l₁⟩
      (.name l₂ name) ⟨⟨.operator .closeParen, l₃⟩ :: ⟨.operator .pipe, l₄⟩ :: more, l₂⟩ :=
    reads_tuple (reads_variable isVariable) rfl rfl
  unfold primary
  refine (Reads.current _).bind ((Reads.next (by simp)).bind (inside.bind ?_))
  exact (reads_expect rfl (by simp)).bind (.pure _ _)

omit isVariable in
/-- A filter without arguments. -/
theorem reads_filter {filter : String} :
    Reads (filterChain inner value)
      ⟨⟨.operator .pipe, l₄⟩ :: ⟨.name filter, l₅⟩ :: ⟨.outputEnd, l₆⟩ :: more, l₃⟩
      (.filter l₅ value filter .none) ⟨⟨.outputEnd, l₆⟩ :: more, l₅⟩ := by
  have dotted : Reads dottedName ⟨⟨.name filter, l₅⟩ :: ⟨.outputEnd, l₆⟩ :: more, l₄⟩ (filter, l₅)
      ⟨⟨.outputEnd, l₆⟩ :: more, l₅⟩ := by
    have first : Reads expectName ⟨⟨.name filter, l₅⟩ :: ⟨.outputEnd, l₆⟩ :: more, l₄⟩
        (filter, l₅) ⟨⟨.outputEnd, l₆⟩ :: more, l₅⟩ :=
      (reads_expect rfl (by simp)).bind (.pure _ _)
    refine first.bind (.bind (.repeatStep (.stop ?_)) (.pure _ _))
    exact (Reads.current _).bind (.pure _ _)
  have one : Reads (oneFilter inner value) ⟨⟨.name filter, l₅⟩ :: ⟨.outputEnd, l₆⟩ :: more, l₄⟩
      (.filter l₅ value filter .none) ⟨⟨.outputEnd, l₆⟩ :: more, l₅⟩ :=
    dotted.bind (Reads.bind ((Reads.current _).bind (.pure _ _)) (.pure _ _))
  have all : Reads (filters inner value)
      ⟨⟨.operator .pipe, l₄⟩ :: ⟨.name filter, l₅⟩ :: ⟨.outputEnd, l₆⟩ :: more, l₃⟩
      (.filter l₅ value filter .none) ⟨⟨.outputEnd, l₆⟩ :: more, l₅⟩ :=
    .repeatStep (.go ((reads_skipIf rfl (by simp)).bind (one.bind (.pure _ _)))
      (.stop ((reads_skipIf_not rfl).bind (.pure _ _))))
  refine .repeatStep (.go ?_ (reads_filterChain_end rfl))
  exact (Reads.current _).bind (all.bind (.pure _ _))

/-- The output of a name is read as the name with its filter. -/
theorem reads_output :
    Reads (tuple expression)
      ⟨⟨.operator .openParen, l₁⟩ :: ⟨.name name, l₂⟩ :: ⟨.operator .closeParen, l₃⟩ ::
        ⟨.operator .pipe, l₄⟩ :: ⟨.name "xml", l₅⟩ :: ⟨.outputEnd, l₆⟩ :: more, l₀⟩
      (.filter l₅ (.name l₂ name) "xml" .none) ⟨⟨.outputEnd, l₆⟩ :: more, l₅⟩ := by
  refine reads_tuple ?_ rfl rfl
  refine (show Reads depthEnough _ _ _ from rfl).bind ?_
  exact reads_expressionWithin
    (reads_unary (reads_brackets isVariable) ⟨rfl, rfl⟩ rfl reads_filter) rfl rfl

end

end

end FormLetter.Script
