import FormLetter.Proofs.Script.Reading

/-!
# Forms

A form is read as its texts and the outputs of its names.
-/

namespace FormLetter.Script

open Script.Parser

/-! ## Statements -/

/-- The statement of a text that is not empty. -/
def dataStatements (text : List Char) : List Statement :=
  if text.isEmpty then [] else [.text text]

/-- What slots are read as: outputs of their names through the filter that escapes, each with the
text after it. The lines are those of the names and of the filters. -/
inductive ReadAs : List (List Char × List Char) → List Statement → Prop
  | nil : ReadAs [] []
  | cons {name text : List Char} {rest : List (List Char × List Char)} {content : List Statement}
      (line filterLine : Nat) (others : ReadAs rest content) :
      ReadAs ((name, text) :: rest)
        (.print (.filter filterLine (.name line (String.ofList name)) "xml" .none)
          :: (dataStatements text ++ content))

/-- Where no token is a mistake, the next one is none. -/
theorem sound_of_lexemes {tokens : List Token} (sound : ∀ problem, .fault problem ∉ lexemes tokens)
    (problem : Problem) : (tokens.head?.map (·.lexeme)) ≠ some (.fault problem) := by
  cases tokens with
  | nil => nofun
  | cons first rest =>
    intro same
    exact sound problem (List.mem_cons.mpr (.inl (Option.some.inj same).symm))

theorem lexemes_eq_cons {tokens : List Token} {first : Lexeme} {rest : List Lexeme}
    (same : lexemes tokens = first :: rest) :
    ∃ line others, tokens = ⟨first, line⟩ :: others ∧ lexemes others = rest := by
  cases tokens with
  | nil => cases same
  | cons token others =>
    obtain ⟨rfl, rfl⟩ := List.cons.inj same
    exact ⟨token.line, others, rfl, rfl⟩

/-- The lexemes of slots. -/
def slotLexemes (slots : List (List Char × List Char)) : List Lexeme :=
  slots.flatMap fun (name, text) => outputLexemes name ++ dataLexeme text

theorem not_fault_mem_dataLexeme {text : List Char} (problem : Problem) :
    .fault problem ∉ dataLexeme text := by
  unfold dataLexeme
  split <;> simp

theorem not_fault_mem_slotLexemes {slots : List (List Char × List Char)} (problem : Problem) :
    .fault problem ∉ slotLexemes slots := by
  intro member
  obtain ⟨slot, -, found⟩ := List.mem_flatMap.mp member
  rcases List.mem_append.mp found with output | data
  · simp [outputLexemes] at output
  · exact not_fault_mem_dataLexeme problem data

/-- Whatever was read before, tokens with the given lexemes are read as statements that have a
property, up to their end. -/
def ReadsOn (step : List Statement → Parser (List Statement ⊕ List Statement))
    (cut : List Lexeme) (holds : List Statement → Prop) : Prop :=
  ∀ tokens line fuel read, lexemes tokens = cut → tokens.length < fuel →
    ∃ content after, holds content ∧
      Reads (repeatStep.go step fuel read) ⟨tokens, line⟩ (read.reverse ++ content) after

namespace ReadsOn

variable {statements : Around → List String → Parser (List Statement)} {around : Around}
  {closers : List String} {more : List Lexeme} {holds : List Statement → Prop}

theorem ending : ReadsOn (nextStatement statements around closers) [] (ReadAs []) := by
  intro tokens line fuel read cut enough
  obtain rfl : tokens = [] := List.map_eq_nil_iff.mp cut
  obtain ⟨fuel, rfl⟩ := Nat.exists_eq_add_one.mpr enough
  refine ⟨[], ⟨[], line⟩, .nil, ?_⟩
  rw [List.append_nil]
  exact .stop ((Reads.current _).bind (.pure _ _))

/-- A text before other statements. -/
theorem text (text : List Char) (sound : ∀ problem, .fault problem ∉ more)
    (others : ReadsOn (nextStatement statements around closers) more holds) :
    ReadsOn (nextStatement statements around closers) (dataLexeme text ++ more)
      fun content => ∃ rest, holds rest ∧ content = dataStatements text ++ rest := by
  intro tokens line fuel read cut enough
  by_cases empty : text.isEmpty
  · rw [dataLexeme, if_pos empty, List.nil_append] at cut
    obtain ⟨content, after, kept, reads⟩ := others tokens line fuel read cut enough
    exact ⟨content, after, ⟨content, kept, by rw [dataStatements, if_pos empty]; rfl⟩, reads⟩
  · rw [dataLexeme, if_neg empty] at cut
    obtain ⟨textLine, rest, rfl, same⟩ := lexemes_eq_cons cut
    obtain ⟨fuel, rfl⟩ := Nat.exists_eq_add_one.mpr (Nat.zero_lt_of_lt enough)
    obtain ⟨content, after, kept, reads⟩ :=
      others rest textLine fuel (.text text :: read) same (Nat.lt_of_succ_lt_succ enough)
    refine ⟨.text text :: content, after, ⟨content, kept, ?_⟩, ?_⟩
    · rw [dataStatements, if_neg empty]
      rfl
    have step : Reads (nextStatement statements around closers read)
        ⟨⟨.data text, textLine⟩ :: rest, line⟩ (.inl (.text text :: read)) ⟨rest, textLine⟩ :=
      (Reads.current _).bind ((Reads.next (sound_of_lexemes (same ▸ sound))).bind (.pure _ _))
    rw [List.reverse_cons, List.append_assoc] at reads
    exact step.go reads

/-- The output of a name before other statements. -/
theorem output {name : List Char} (named : isVariable name = true)
    (sound : ∀ problem, .fault problem ∉ more)
    (others : ReadsOn (nextStatement statements around closers) more holds) :
    ReadsOn (nextStatement statements around closers) (outputLexemes name ++ more)
      fun content => ∃ line filterLine rest, holds rest ∧
        content = .print (.filter filterLine (.name line (String.ofList name)) "xml" .none)
          :: rest := by
  intro tokens line fuel read cut enough
  obtain ⟨l₁, _, rfl, cut₁⟩ := lexemes_eq_cons cut
  obtain ⟨l₂, _, rfl, cut₂⟩ := lexemes_eq_cons cut₁
  obtain ⟨l₃, _, rfl, cut₃⟩ := lexemes_eq_cons cut₂
  obtain ⟨l₄, _, rfl, cut₄⟩ := lexemes_eq_cons cut₃
  obtain ⟨l₅, _, rfl, cut₅⟩ := lexemes_eq_cons cut₄
  obtain ⟨l₆, _, rfl, cut₆⟩ := lexemes_eq_cons cut₅
  obtain ⟨l₇, rest, rfl, same⟩ := lexemes_eq_cons cut₆
  obtain ⟨fuel, rfl⟩ := Nat.exists_eq_add_one.mpr (Nat.zero_lt_of_lt enough)
  simp only [List.length_cons] at enough
  obtain ⟨content, after, kept, reads⟩ := others rest l₇ fuel
    (.print (.filter l₆ (.name l₃ (String.ofList name)) "xml" .none) :: read) same (by omega)
  refine ⟨_, after, ⟨l₃, l₆, content, kept, rfl⟩, ?_⟩
  simp only [isVariable, Bool.and_eq_true, Bool.not_eq_true'] at named
  have ended : Reads (expect isOutputEnd "end of print statement")
      ⟨⟨.outputEnd, l₇⟩ :: rest, l₆⟩ ⟨.outputEnd, l₇⟩ ⟨rest, l₇⟩ :=
    reads_expect rfl (sound_of_lexemes (same ▸ sound))
  rw [List.reverse_cons, List.append_assoc] at reads
  refine Reads.go ?_ reads
  unfold nextStatement
  refine (Reads.current _).bind ((Reads.next (by simp)).bind ((reads_output named.2).bind ?_))
  exact ended.bind (.pure _ _)

/-- The slots of a form. -/
theorem slots {slots : List (List Char × List Char)}
    (named : ∀ slot ∈ slots, isVariable slot.1 = true) :
    ReadsOn (nextStatement statements around closers) (slotLexemes slots) (ReadAs slots) := by
  induction slots with
  | nil => exact ending
  | cons slot slots inductionHypothesis =>
    rw [List.forall_mem_cons] at named
    obtain ⟨name, content⟩ := slot
    have later := (inductionHypothesis named.2).text content not_fault_mem_slotLexemes
    have sound (problem : Problem) : .fault problem ∉ dataLexeme content ++ slotLexemes slots := by
      rw [List.mem_append, not_or]
      exact ⟨not_fault_mem_dataLexeme problem, not_fault_mem_slotLexemes problem⟩
    have whole := later.output named.1 sound
    intro tokens line fuel read cut enough
    rw [slotLexemes, List.flatMap_cons, List.append_assoc] at cut
    obtain ⟨_, after, ⟨nameLine, filterLine, _, ⟨rest, kept, rfl⟩, rfl⟩, reads⟩ :=
      whole tokens line fuel read cut enough
    exact ⟨_, after, .cons nameLine filterLine kept, reads⟩

end ReadsOn

/-- A legible form is read as its texts and its slots. -/
theorem Form.Legible.parse {form : Form} (legible : form.Legible) :
    ∃ content, ReadAs form.slots content ∧
      parse form.write = .ok (dataStatements form.start ++ content) := by
  have cut : lexemes (tokens form.write) = dataLexeme form.start ++ slotLexemes form.slots :=
    legible.lexemes_tokens
  have sound (problem : Problem) : .fault problem ∉ lexemes (tokens form.write) := by
    rw [cut, List.mem_append, not_or]
    exact ⟨not_fault_mem_dataLexeme problem, not_fault_mem_slotLexemes problem⟩
  unfold Script.parse
  generalize tokens form.write = stream at cut sound
  have all : ReadsOn (nextStatement (statementsWithin stream.length) ⟨[], []⟩ []) _ _ :=
    (ReadsOn.slots legible.names).text form.start not_fault_mem_slotLexemes
  obtain ⟨_, after, ⟨rest, kept, rfl⟩, reads⟩ :=
    all stream 1 (stream.length + 1) [] cut (Nat.lt_succ_self _)
  refine ⟨rest, kept, ?_⟩
  have whole : Reads wholeTemplate ⟨stream, 1⟩ (dataStatements form.start ++ rest) after := by
    refine (Reads.checkNext (sound_of_lexemes sound)).bind ?_
    exact (show Reads depthEnough _ _ _ from rfl).bind (.repeatStep reads)
  rw [whole]
  rfl

/-! ## Checking -/

/-- True for statements that a check of templates has nothing against, wherever they stand. -/
structure Unremarkable (content : List Statement) : Prop where
  noBlock : Check.blocksOfAll content = []
  noParent : Check.nestedParent? content = none
  checked : Check.statements false content = .ok ()

namespace Unremarkable

variable {content : List Statement}

theorem nil : Unremarkable [] := ⟨rfl, rfl, rfl⟩

theorem text (content : List Char) {rest : List Statement} (others : Unremarkable rest) :
    Unremarkable (dataStatements content ++ rest) := by
  unfold dataStatements
  split
  · exact others
  · exact ⟨others.noBlock, others.noParent, others.checked⟩

theorem output (line filterLine : Nat) (name : String) {rest : List Statement}
    (others : Unremarkable rest) :
    Unremarkable (.print (.filter filterLine (.name line name) "xml" .none) :: rest) := by
  refine ⟨others.noBlock, others.noParent, ?_⟩
  have known : Check.statement false
      (.print (.filter filterLine (.name line name) "xml" .none)) = .ok () := by
    rfl
  rw [Check.statements, known]
  exact others.checked

theorem of_readAs {slots : List (List Char × List Char)} (read : ReadAs slots content) :
    Unremarkable content := by
  induction read with
  | nil => exact nil
  | cons line filterLine _ inductionHypothesis =>
    exact (inductionHypothesis.text _).output line filterLine _

theorem template (unremarkable : Unremarkable content) : Check.template content = .ok () := by
  unfold Check.template
  rw [unremarkable.noBlock, unremarkable.noParent]
  exact congrArg (· >>= fun _ => pure ()) unremarkable.checked

end Unremarkable

/-- A legible form is a template. -/
theorem Form.Legible.load {form : Form} (legible : form.Legible) :
    ∃ content, ReadAs form.slots content ∧
      load form.write = .ok (dataStatements form.start ++ content) := by
  obtain ⟨content, read, parsed⟩ := legible.parse
  refine ⟨content, read, ?_⟩
  have checked := ((Unremarkable.of_readAs read).text form.start).template
  unfold Script.load
  rw [parsed]
  change (Check.template _ >>= fun _ => pure _) = _
  rw [checked]
  rfl

end FormLetter.Script
