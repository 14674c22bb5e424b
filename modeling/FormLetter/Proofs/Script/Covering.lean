import FormLetter.Proofs.Script.Bracketing
import FormLetter.Proofs.Script.Running
import FormLetter.Script.Render

/-!
# Escaping covers the whole expression

Code that is an output by itself is put out escaped by a directive that puts brackets around it and
a filter behind it. The brackets make the code one operand, whatever operators it has, so the filter
gets the value of all of it; and nothing of the code merges with the marks. Without the brackets and
the filter the text of the value comes out as it is.
-/

namespace FormLetter.Script

open FormLetter.Markup (directive)
open FormLetter.Style (Role)
open FormLetter.Text
open Script.Parser

/-- The stream of code that is an output by itself. -/
def codeStream (code : List Char) : Stream :=
  ⟨codeTokens code ++ [outputStop (lastLine code)], 1⟩

/-- What code is read as that is an output by itself: it is cut without a mistake and without an end
in it, and all of it is an expression, or several ones that are a tuple. -/
def outputOf? (code : List Char) : Option Expr :=
  if (codeTokens code).all (·.lexeme.isCode) then
    match (tuple expression).run (codeStream code) with
    | .ok (value, after) => if after.tokens.length = 1 then some value else none
    | .error _ => none
  else none

/-! ## Reading -/

theorem echoes_expression {line limit depth : Nat} {more : List Token}
    (enough : limit + 2 ≤ depth) :
    EchoesClosed line more limit expression (expressionWithin depth) := by
  intro tokens short before value after reads
  unfold expression at reads
  obtain ⟨room, middle, measured, reads⟩ := Reads.of_bind reads
  obtain ⟨rfl, rfl⟩ := Prod.mk.inj (Except.ok.inj measured)
  have depths : (tokens ++ [outputStop line]).length + 1 ≤ depth := by
    rw [List.length_append, List.length_singleton]
    omega
  exact (mirrors_expressionWithin depths).follows tokens short before value after reads

section

variable {code : List Char} {value : Expr}

theorem isCode_of_outputOf (isOutput : outputOf? code = some value) :
    ∀ token ∈ codeTokens code, token.lexeme.isCode = true := by
  unfold outputOf? at isOutput
  split at isOutput
  · rename_i sound
    exact List.all_eq_true.mp sound
  · cases isOutput

theorem reads_of_outputOf (isOutput : outputOf? code = some value) :
    ∃ after, Reads (tuple expression) (codeStream code) value after ∧ after.tokens.length = 1 := by
  unfold outputOf? at isOutput
  rw [if_pos (List.all_eq_true.mpr (isCode_of_outputOf isOutput))] at isOutput
  split at isOutput
  · rename_i found after reads
    split at isOutput
    · rename_i single
      obtain rfl := Option.some.inj isOutput
      exact ⟨after, reads, single⟩
    · cases isOutput
  · cases isOutput

/-- What is read of the code up to the end of the output is read of it in brackets, which the code
does not close; and the code closes the brackets that it opens. -/
theorem reads_inBrackets (isOutput : outputOf? code = some value) {depth : Nat}
    (enough : (codeTokens code).length + 2 ≤ depth) (more : List Token) :
    weight (codeTokens code) = 0 ∧ ∃ place,
      Reads (tuple expression) (codeStream code) value ⟨[outputStop (lastLine code)], place⟩ ∧
      Reads (tupleOf (expressionWithin depth) (fun _ => false) true)
        ⟨codeTokens code ++ bracketStop (lastLine code) :: more, 1⟩ value
        ⟨bracketStop (lastLine code) :: more, place⟩ := by
  obtain ⟨⟨unread, place⟩, reads, single⟩ := reads_of_outputOf isOutput
  have follows : EchoesClosed (lastLine code) more (codeTokens code).length (tuple expression)
      (tupleOf (expressionWithin depth) (fun _ => false) true) :=
    echoes_tupleOf (echoes_expression enough) fun _ => rfl
  obtain ⟨used, left, parts, rfl, weighs, reads'⟩ :=
    follows (codeTokens code) (Nat.le_refl _) 1 value _ reads
  obtain rfl : left = [] := by
    rw [List.length_append, List.length_singleton] at single
    exact List.length_eq_zero_iff.mp (by omega)
  rw [List.append_nil] at parts
  rw [← parts] at weighs
  exact ⟨weighs, place, reads, reads'⟩

theorem codeTokens_ne_nil (isOutput : outputOf? code = some value) : codeTokens code ≠ [] := by
  intro empty
  obtain ⟨after, reads, -⟩ := reads_of_outputOf isOutput
  unfold codeStream at reads
  rw [empty] at reads
  cases reads

/-- No mistake stands in front of the code. -/
theorem not_fault_of_outputOf (isOutput : outputOf? code = some value) (more : List Token)
    (problem : Problem) :
    ((codeTokens code ++ more).head?.map (·.lexeme)) ≠ some (.fault problem) := by
  cases cut : codeTokens code with
  | nil => exact absurd cut (codeTokens_ne_nil isOutput)
  | cons first others =>
    intro same
    have isCode := isCode_of_outputOf isOutput first (cut ▸ List.mem_cons_self)
    obtain ⟨lexeme, line⟩ := first
    obtain rfl : lexeme = .fault problem := Option.some.inj same
    cases isCode

/-- An expression is read where there is room for it. -/
theorem reads_expression {stream after : Stream}
    (reads : Reads (expressionWithin (stream.tokens.length + 1)) stream value after) :
    Reads expression stream value after :=
  (show Reads depthEnough stream (stream.tokens.length + 1) stream from rfl).bind reads

/-- The code in brackets with the filter behind it is read as the filter of what the code is read
as. -/
theorem reads_escaped (isOutput : outputOf? code = some value) :
    Reads (tuple expression)
      ⟨⟨.operator .openParen, 1⟩ :: (codeTokens code ++ escaping (lastLine code)), 1⟩
      (.filter (lastLine code) value "xml" .none) ⟨[outputStop (lastLine code)], lastLine code⟩ := by
  have enough : (codeTokens code).length + 2
      ≤ (codeTokens code ++ escaping (lastLine code)).length + 1 := by
    simp only [List.length_append, escaping, List.length_cons]
    omega
  obtain ⟨-, place, -, inside⟩ := reads_inBrackets isOutput enough
    [⟨.operator .pipe, lastLine code⟩, ⟨.name "xml", lastLine code⟩, outputStop (lastLine code)]
  have primary : Reads (primary
      (expressionWithin ((codeTokens code ++ escaping (lastLine code)).length + 1)) false)
      ⟨⟨.operator .openParen, 1⟩ :: (codeTokens code ++ escaping (lastLine code)), 1⟩ value
      ⟨[⟨.operator .pipe, lastLine code⟩, ⟨.name "xml", lastLine code⟩, outputStop (lastLine code)],
        lastLine code⟩ := by
    unfold primary
    refine (Reads.current _).bind
      ((Reads.next (not_fault_of_outputOf isOutput _)).bind (inside.bind ?_))
    exact (reads_expect rfl (by simp)).bind (.pure _ _)
  have unary := reads_unary primary ⟨rfl, rfl⟩ rfl reads_filter
  exact reads_tuple (reads_expression (reads_expressionWithin unary rfl rfl)) rfl rfl

end

/-- A template that is one output. -/
theorem parse_output {template : List Char} {inner : List Token} {value : Expr} {last place : Nat}
    (cut : tokens template = ⟨.outputBegin, 1⟩ :: inner)
    (sound : ∀ problem, (inner.head?.map (·.lexeme)) ≠ some (.fault problem))
    (reads : Reads (tuple expression) ⟨inner, 1⟩ value ⟨[outputStop last], place⟩) :
    parse template = .ok [.print value] := by
  have ended : Reads (expect isOutputEnd "end of print statement") ⟨[outputStop last], place⟩
      (outputStop last) ⟨[], last⟩ :=
    reads_expect rfl (by simp)
  have print (depth fuel : Nat) : Reads
      (repeatStep.go (nextStatement (statementsWithin depth) ⟨[], []⟩ []) (fuel + 2) [])
      ⟨⟨.outputBegin, 1⟩ :: inner, 1⟩ [.print value] ⟨[], last⟩ := by
    have goesOn : Reads (nextStatement (statementsWithin depth) ⟨[], []⟩ [] [])
        ⟨⟨.outputBegin, 1⟩ :: inner, 1⟩ (.inl [.print value]) ⟨[], last⟩ :=
      (Reads.current _).bind ((Reads.next sound).bind (reads.bind (ended.bind (.pure _ _))))
    have stops : Reads (nextStatement (statementsWithin depth) ⟨[], []⟩ [] [.print value])
        ⟨[], last⟩ (.inr [.print value]) ⟨[], last⟩ :=
      (Reads.current _).bind (.pure _ _)
    exact .go goesOn (.stop stops)
  have whole : Reads wholeTemplate ⟨⟨.outputBegin, 1⟩ :: inner, 1⟩ [.print value] ⟨[], last⟩ := by
    refine (Reads.checkNext (by simp)).bind ?_
    refine (show Reads depthEnough _ _ _ from rfl).bind (.repeatStep ?_)
    cases inner with
    | nil => cases reads
    | cons first others => exact print _ _
  unfold parse
  rw [cut, whole]
  rfl

/-! ## Writing -/

/-- The escaped form of a value, as the filter makes it: nothing is written for no value. -/
def xmlEscape : Value → Local (List Char)
  | .none => return []
  | value => escaped value

theorem bindParameters_nothing (callee : String) : bindParameters callee ⟨[], []⟩ [] = pure [] := by
  rfl

theorem applyFilter_xml (value : Value) :
    applyFilter "xml" value ⟨[], []⟩ = (do return .markup (← xmlEscape value)) := by
  unfold applyFilter
  rw [if_pos (by decide)]
  change (do
    let _ ← bindParameters "do_xml" ⟨[], []⟩ []
    match value with
    | .none => return Value.markup []
    | other => return Value.markup (← escaped other)) = _
  rw [bindParameters_nothing, pure_bind]
  unfold xmlEscape
  split
  · rfl
  · rfl

theorem load_output {template : List Char} {value : Expr}
    (parsed : parse template = .ok [.print value]) :
    load template = (Check.expression false value).map fun _ => [Statement.print value] := by
  have checked : Check.template [.print value] = Check.expression false value := by
    unfold Check.template
    change (Check.statements false [.print value] >>= fun _ => pure ()) = _
    unfold Check.statements Check.statement Check.statements
    rcases Check.expression false value with mistake | _
    · rfl
    · rfl
  unfold load
  rw [parsed]
  change (Check.template [Statement.print value] >>= fun _ => pure [Statement.print value]) = _
  rw [checked]
  rfl

section

variable {σ : Type} [World σ]

/-- The value of an expression that stands alone in a template, at a line. -/
def outputValue (host : Host σ) (bound : List (String × Value)) (line : Nat) (value : Expr) :
    M σ Value :=
  match Check.expression false value with
  | .error mistake => throw (.mistake mistake)
  | .ok () => do
    let stage : Stage σ := ⟨host, bound, []⟩
    beginTemplate
    let place ← allocate (.frame [])
    let scope := stage.scope (Symbols.root.statements [.print value]) place true
    enterFrame scope
    setLine line
    value.evaluate (stage.callWithin callLimit) scope

variable (host : Host σ) (bound : List (String × Value))

/-- A template that is one output writes the text of the value. -/
theorem render_output {template : List Char} {value : Expr}
    (parsed : parse template = .ok [.print value]) :
    render host bound template = (do textOf (← outputValue host bound value.line value)) := by
  unfold render outputValue
  rw [load_output parsed]
  cases Check.expression false value with
  | error mistake => rfl
  | ok checked =>
    change Stage.run ⟨host, bound, []⟩ [.print value] = _
    have printed (call : Value → Given → M σ Value) (scope : Scope) :
        (runAll call scope [.print value] >>= fun outcome => pure outcome.output)
          = (do
            setLine value.line
            textOf (← value.evaluate call scope) : M σ (List Char)) := by
      unfold runAll Statement.run runAll
      simp only [bind_assoc, pure_bind, Outcome.wrote, Outcome.nothing, List.append_nil, bind_pure]
    unfold Stage.run
    simp only [printed, bind_assoc]

/-- The filter makes the escaped form of the value. -/
theorem outputValue_filter (line filterLine : Nat) (value : Expr) :
    outputValue host bound line (.filter filterLine value "xml" .none)
      = (do return .markup (← xmlEscape (← outputValue host bound line value))) := by
  have checked : Check.expression false (.filter filterLine value "xml" .none)
      = Check.expression false value := by
    conv => left; unfold Check.expression
    rw [show Check.arguments false .none = .ok () by rfl]
    rcases Check.expression false value with mistake | _
    · rfl
    · rfl
  have names : Symbols.root.statements [.print (.filter filterLine value "xml" .none)]
      = Symbols.root.statements [.print value] := by
    change Symbols.root.visit _ = Symbols.root.visit _
    unfold Symbols.visit
    conv => left; unfold Expr.names
    rw [show Arguments.none.names = [] by rfl, List.append_nil]
  have evaluated (call : Value → Given → M σ Value) (scope : Scope) :
      Expr.evaluate call scope (.filter filterLine value "xml" .none)
        = (do return .markup (← xmlEscape (← value.evaluate call scope)) : M σ Value) := by
    conv => left; unfold Expr.evaluate
    have nothing : Arguments.evaluate call scope .none = (pure ⟨[], []⟩ : M σ Given) := by
      unfold Arguments.none Arguments.evaluate evaluateAll evaluateOption
      rfl
    rw [nothing]
    simp only [pure_bind, applyFilter_xml, M.lift_bind, M.lift_pure]
  unfold outputValue
  rw [checked, names]
  cases Check.expression false value with
  | error mistake => rfl
  | ok checked =>
    simp only [evaluated, bind_assoc]

end

/-- Code that is an output by itself is escaped as a whole: the directive of a value writes the
escaped form of the value of all of it, and the others write the text of that value as it is. -/
theorem render_directive {σ : Type} [World σ] {code : List Char} {value : Expr}
    (isOutput : outputOf? code = some value) (host : Host σ) (bound : List (String × Value)) :
    render host bound (directive .value code)
        = (do xmlEscape (← outputValue host bound (lastLine code) value)) ∧
      ∀ role, role = .literal ∨ role = .block →
        render host bound (directive role code)
          = (do textOf (← outputValue host bound value.line value)) := by
  have sound := isCode_of_outputOf isOutput
  obtain ⟨balanced, place, reads, -⟩ := reads_inBrackets isOutput (Nat.le_refl _) []
  constructor
  · have parsed : parse (directive .value code)
        = .ok [.print (.filter (lastLine code) value "xml" .none)] :=
      parse_output (tokens_value sound balanced) (by simp) (reads_escaped isOutput)
    rw [render_output host bound parsed]
    unfold Expr.line
    rw [outputValue_filter]
    simp only [bind_assoc, pure_bind, textOf, Value.markup, M.lift_pure, bind_pure]
  · intro role isPlain
    have cut := tokens_plain sound balanced isPlain (codeTokens_ne_nil isOutput)
    exact render_output host bound (parse_output cut (not_fault_of_outputOf isOutput _) reads)

/-- A conditional in a tuple is an output by itself. -/
theorem render_directive_tuple :
    ∃ value, outputOf? "a or 1 < 2 if b else '<' ~ c, d|upper".toList = some value ∧
      (render Host.none [] (directive .value "a or 1 < 2 if b else '<' ~ c, d|upper".toList)
          = (do xmlEscape (← outputValue Host.none [] 1 value) : M Unit (List Char)) ∧
        ∀ role, role = .literal ∨ role = .block →
          render Host.none [] (directive role "a or 1 < 2 if b else '<' ~ c, d|upper".toList)
            = (do textOf (← outputValue Host.none [] value.line value) : M Unit (List Char))) := by
  have isSome : (outputOf? "a or 1 < 2 if b else '<' ~ c, d|upper".toList).isSome = true := by
    decide +kernel
  obtain ⟨value, isOutput⟩ := Option.isSome_iff_exists.mp isSome
  exact ⟨value, isOutput, render_directive isOutput Host.none []⟩

example : (renderAlone false [("yes", .bool true)]
    (directive .value "'<a>' if yes else '<b>'".toList)).text.toOption
      = some "&lt;a&gt;".toList := by
  decide +kernel

end FormLetter.Script
