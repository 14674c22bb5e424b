import FormLetter.Proofs.Markup.Unchanged

/-!
# Values bring no markup

A run of a value is written as the output of its code through the filter that escapes. Escaped text
holds no bracket, so whatever texts the names of a part are given, cutting the rendered part finds
the same markup: the pieces that the layout of the part holds anyway.
-/

namespace FormLetter.Markup

open FormLetter.Script
open FormLetter.Style
open FormLetter.Text

/-- True for what is neither text nor white space. -/
def Token.isMarkup (token : Token) : Bool :=
  token.kind != .text && token.kind != .space

/-! ## Markup among pieces -/

theorem not_mem_encode (text : List Char) : '<' ∉ Escape.encode text := by
  intro member
  obtain ⟨c, -, written⟩ := List.mem_flatMap.mp member
  unfold Escape.encodeChar at written
  split at written
  case h_6 notLess _ _ _ => exact notLess (List.mem_singleton.mp written).symm
  all_goals revert written; decide

/-- Markup consists of more than its bracket. -/
theorem exists_of_isMarkup {piece : List Char} (markup : isMarkup piece = true) :
    ∃ second rest, piece = '<' :: second :: rest := by
  simp only [isMarkup, Bool.or_eq_true, beq_iff_eq] at markup
  rcases markup with ((comment | literal) | instruction) | tag
  · obtain ⟨rest, rfl⟩ := prefix_of_enclosedLength? comment
    exact ⟨'!', _, rfl⟩
  · obtain ⟨rest, rfl⟩ := prefix_of_enclosedLength? literal
    exact ⟨'!', _, rfl⟩
  · obtain ⟨rest, rfl⟩ := prefix_of_enclosedLength? instruction
    exact ⟨'?', _, rfl⟩
  · unfold isTag at tag
    split at tag
    · exact ⟨_, _, rfl⟩
    · cases tag

/-- No tag is named text or white space. -/
theorem tagKinds_isMarkup : ∀ row ∈ tagKinds, row.2.2 ≠ .text ∧ row.2.2 ≠ .space := by
  decide

/-- A whole piece is a token of markup when it begins with a bracket. -/
theorem isMarkup_of_isWhole {piece : List Char} (whole : isWhole piece = true) :
    Token.isMarkup ⟨kindOf piece, piece⟩ = (piece.head? == some '<') := by
  by_cases begins : piece.head? = some '<'
  · have markup : isMarkup piece = true := by
      obtain ⟨rest, rfl⟩ := List.head?_eq_some_iff.mp begins
      simpa [isWhole] using whole
    obtain ⟨second, rest, rfl⟩ := exists_of_isMarkup markup
    simp only [Token.isMarkup, kindOf]
    split
    · rename_i found
      have named := tagKinds_isMarkup _ (List.mem_of_find?_eq_some found)
      simp [named]
    · rfl
  · have noMarkup : (piece.head? == some '<') = false := beq_eq_false_iff_ne.mpr begins
    rw [noMarkup]
    unfold Token.isMarkup kindOf
    split
    · exact absurd rfl begins
    · rfl
    · split <;> rfl

/-- The markup in pieces that were put together is the markup in the pieces. -/
theorem filter_mergeTexts (texts : List (List Char)) {pending : List Char}
    (noMarkup : pending.head? ≠ some '<') :
    (mergeTexts pending texts).filter (·.head? == some '<')
      = texts.filter (·.head? == some '<') := by
  have flushed {pending : List Char} (noMarkup : pending.head? ≠ some '<') :
      (flush pending).filter (·.head? == some '<') = [] := by
    unfold flush
    split
    · rfl
    · simp [noMarkup]
  induction texts generalizing pending with
  | nil => exact flushed noMarkup
  | cons text rest inductionHypothesis =>
    rw [mergeTexts]
    split
    · rename_i begins
      rw [List.filter_append, flushed noMarkup, List.nil_append, List.filter_cons, if_pos begins,
        inductionHypothesis (by simp), List.filter_cons, if_pos begins]
    · rename_i noneHere
      have bothNone : (pending ++ text).head? ≠ some '<' := by
        cases pending with
        | nil => exact fun begins => noneHere (beq_iff_eq.mpr begins)
        | cons c more => exact noMarkup
      rw [inductionHypothesis bothNone, List.filter_cons, if_neg noneHere]

/-- The markup that cutting finds in whole pieces is the markup among them. -/
theorem filter_isMarkup_tokenize {texts : List (List Char)}
    (whole : ∀ text ∈ texts, isWhole text = true) :
    (tokenize texts.flatten).filter Token.isMarkup =
      (texts.filter (·.head? == some '<')).map fun text => ⟨kindOf text, text⟩ := by
  have pieces := cut_flatten_whole whole List.not_mem_nil
  rw [List.nil_append] at pieces
  have wholePieces := isWhole_mergeTexts whole List.not_mem_nil
  rw [tokenize, pieces, List.filter_map]
  congr 1
  rw [← filter_mergeTexts texts (by simp : ([] : List Char).head? ≠ some '<')]
  exact List.filter_congr fun piece member => isMarkup_of_isWhole (wholePieces piece member)

/-! ## The form of a part -/

/-- The form that places are written as: tokens are its texts, and the codes of runs its names. -/
def formOf : List Place → Form
  | [] => ⟨[], []⟩
  | .plain token :: rest => ⟨token.text ++ (formOf rest).start, (formOf rest).slots⟩
  | .run run _ :: rest => ⟨[], (run.code, (formOf rest).start) :: (formOf rest).slots⟩

/-- The texts of places when the names of runs stand for texts. -/
def Place.fill (shown : List Char → List Char) : Place → List Char
  | run here _ => Escape.encode (shown here.code)
  | plain token => token.text

/-- True for a run of a value and for a token outside of runs. -/
def Place.isValue : Place → Bool
  | run _ mark => mark == .role .value
  | plain _ => true

theorem write_formOf {places : List Place} (values : ∀ place ∈ places, place.isValue = true) :
    (formOf places).write = places.flatMap Place.write := by
  induction places with
  | nil => rfl
  | cons place rest inductionHypothesis =>
    rw [List.forall_mem_cons] at values
    have later := inductionHypothesis values.2
    rw [List.flatMap_cons, ← later]
    cases place with
    | plain token => simp [formOf, Form.write, Place.write]
    | run here mark =>
      obtain rfl : mark = .role .value := beq_iff_eq.mp values.1
      simp [formOf, Form.write, Place.write, outputOf, directive, outputOpen, directiveClose]

theorem fill_formOf (places : List Place) (shown : List Char → List Char) :
    (formOf places).fill shown = (places.map (Place.fill shown)).flatten := by
  induction places with
  | nil => rfl
  | cons place rest inductionHypothesis =>
    rw [List.map_cons, List.flatten_cons, ← inductionHypothesis]
    cases place <;> simp [formOf, Form.fill, Place.fill]

theorem slots_formOf (places : List Place) :
    (formOf places).slots.map (·.1) = (places.filterMap Place.run?).map Run.code := by
  induction places with
  | nil => rfl
  | cons place rest inductionHypothesis =>
    cases place with
    | plain token => exact inductionHypothesis
    | run here mark => exact congrArg (here.code :: ·) inductionHypothesis

/-- The texts of the form of places are put together from their tokens. -/
theorem texts_formOf {places : List Place} (holds : List Char → Prop) (nil : holds [])
    (append : ∀ left right, holds left → holds right → holds (left ++ right))
    (tokens : ∀ token, .plain token ∈ places → holds token.text) :
    holds (formOf places).start ∧ ∀ slot ∈ (formOf places).slots, holds slot.2 := by
  induction places with
  | nil => exact ⟨nil, nofun⟩
  | cons place rest inductionHypothesis =>
    obtain ⟨start, slots⟩ := inductionHypothesis fun token member =>
      tokens token (List.mem_cons_of_mem place member)
    cases place with
    | plain token => exact ⟨append _ _ (tokens token List.mem_cons_self) start, slots⟩
    | run here mark => exact ⟨nil, List.forall_mem_cons.mpr ⟨start, slots⟩⟩

/-! ## Values -/

/-- A mark that reaches to the end of a text ends it. -/
theorem getLast?_of_lengthThrough? {mark text : List Char}
    (found : lengthThrough? mark text = some text.length) : text.getLast? = mark.getLast? := by
  induction text with
  | nil => cases found
  | cons c rest inductionHypothesis =>
    rw [lengthThrough?] at found
    split at found
    · rename_i begins
      have same := (List.isPrefixOf_iff_prefix.mp begins).eq_of_length (Option.some.inj found)
      rw [same]
    · obtain ⟨inner, foundInner, same⟩ := Option.map_eq_some_iff.mp found
      obtain rfl : inner = rest.length := Nat.succ.inj same
      cases rest with
      | nil => cases foundInner
      | cons next more => rw [List.getLast?_cons_cons, inductionHypothesis foundInner]

theorem getLast?_of_enclosedLength? {opening closing text : List Char} (found : closing ≠ [])
    (enclosed : enclosedLength? opening closing text = some text.length) :
    text.getLast? = closing.getLast? := by
  obtain ⟨inside, rfl⟩ := prefix_of_enclosedLength? enclosed
  simp only [enclosedLength?, Option.ite_none_right_eq_some, List.drop_left] at enclosed
  obtain ⟨inner, foundInner, same⟩ := Option.map_eq_some_iff.mp enclosed.2
  rw [List.length_append] at same
  obtain rfl : inner = inside.length := by omega
  have last := getLast?_of_lengthThrough? foundInner
  rw [List.getLast?_append, last, List.getLast?_eq_some_getLast found, Option.some_or]

theorem getLast?_of_tagTailLength? {text : List Char}
    (found : tagTailLength? text = some text.length) : text.getLast? = some '>' := by
  induction text with
  | nil => cases found
  | cons c rest inductionHypothesis =>
    rw [tagTailLength?] at found
    split at found
    · rename_i ends
      have none : rest.length = 0 := (Nat.succ.inj (Option.some.inj found)).symm
      obtain rfl := List.length_eq_zero_iff.mp none
      rw [beq_iff_eq.mp ends]
      rfl
    · split at found
      · cases found
      · obtain ⟨inner, foundInner, same⟩ := Option.map_eq_some_iff.mp found
        obtain rfl : inner = rest.length := Nat.succ.inj same
        cases rest with
        | nil => cases foundInner
        | cons next more => rw [List.getLast?_cons_cons, inductionHypothesis foundInner]

/-- No whole piece ends where markup could begin. -/
theorem getLast?_of_isWhole {piece : List Char} (whole : isWhole piece = true) :
    piece.getLast? ≠ some '<' := by
  by_cases markup : isMarkup piece = true
  · have closed : piece.getLast? = some '>' := by
      simp only [isMarkup, Bool.or_eq_true, beq_iff_eq] at markup
      rcases markup with ((comment | literal) | instruction) | tag
      · exact getLast?_of_enclosedLength? (by decide) comment
      · exact getLast?_of_enclosedLength? (by decide) literal
      · exact getLast?_of_enclosedLength? (by decide) instruction
      · unfold isTag at tag
        split at tag
        · simp only [Bool.and_eq_true, beq_iff_eq] at tag
          rw [List.getLast?_cons_cons]
          exact getLast?_of_tagTailLength? tag.2
        · cases tag
    rw [closed]
    simp
  · simp only [isWhole, markup, Bool.false_or, Bool.not_eq_true', List.contains_eq_mem,
      decide_eq_false_iff_not] at whole
    exact fun last => whole (List.mem_of_getLast? last)

theorem not_mem_outputOf {name : List Char} (named : isVariable name = true) :
    '\r' ∉ outputOf name := by
  simp only [isVariable, Bool.and_eq_true] at named
  have notIn : '\r' ∉ name := fun member =>
    absurd (List.all_eq_true.mp named.1.2 _ member) (by decide)
  simp [outputOf, notIn]

section

variable {styles : Table} {part : List Char}

/-- In a table of values, every run that is written is one. -/
theorem isValue_layout (values : ∀ entry ∈ styles, entry.2 = .role .value) :
    ∀ place ∈ layout styles part, place.isValue = true := by
  intro place member
  cases place with
  | plain token => rfl
  | run here mark =>
    have stands := Keyed.mem_of_lookup (find?_of_mem_layout member)
    exact beq_iff_eq.mpr (values (here.style, mark) stands)

/-- A token of the layout is a piece of the part. -/
theorem mem_cut_of_mem_layout {token : Token} (member : .plain token ∈ layout styles part) :
    token.text ∈ cut part := by
  rw [← tokenize_texts]
  refine List.mem_map_of_mem (layout_erased_subset styles part ?_)
  exact List.mem_flatMap.mpr ⟨_, member, List.mem_singleton.mpr rfl⟩

/-- The codes of runs are the names of the form. -/
theorem code_of_mem_slots {slot : List Char × List Char}
    (member : slot ∈ (formOf (layout styles part)).slots) :
    ∃ rest ∈ (tokenize part).tails, ∃ run, Run.start? styles rest = some run ∧
      run.code = slot.1 := by
  have isName := List.mem_map_of_mem (f := (·.1)) member
  rw [slots_formOf, layout_runs] at isName
  obtain ⟨run, isRun, same⟩ := List.mem_map.mp isName
  obtain ⟨rest, isRest, begins⟩ := List.mem_filterMap.mp isRun
  exact ⟨rest, isRest, run, begins, same⟩

/-- The form of a written part without the mark is legible. -/
theorem legible_formOf (written : IsWritten part) (unbroken : '\r' ∉ part)
    (noMark : ¬ "<%".toList <:+: part)
    (named : ∀ rest ∈ (tokenize part).tails, ∀ run, Run.start? styles rest = some run →
      isVariable run.code = true) :
    (formOf (layout styles part)).Legible := by
  have inPart {piece : List Char} (member : piece ∈ cut part) : piece <:+: part := by
    have inside := List.infix_of_mem_flatten member
    rwa [cut_flatten] at inside
  have tokens : ∀ token, .plain token ∈ layout styles part → Unmarked token.text := by
    intro token member
    have inCut := mem_cut_of_mem_layout member
    exact ⟨isEndedBy_opening_of_absent fun inside => noMark (inside.trans (inPart inCut)),
      getLast?_of_isWhole (written.whole _ inCut)⟩
  have texts := texts_formOf Unmarked .nil (fun _ _ => Unmarked.append) tokens
  have names : ∀ slot ∈ (formOf (layout styles part)).slots, isVariable slot.1 = true := by
    intro slot member
    obtain ⟨rest, isRest, run, begins, same⟩ := code_of_mem_slots member
    rw [← same]
    exact named rest isRest run begins
  have unbrokenTokens : ∀ token, .plain token ∈ layout styles part → '\r' ∉ token.text :=
    fun token member inside =>
      unbroken ((inPart (mem_cut_of_mem_layout member)).subset inside)
  have unbrokenTexts := texts_formOf ('\r' ∉ ·) (by simp)
    (fun _ _ left right => by simp [left, right]) unbrokenTokens
  refine ⟨texts.1.ended, names, fun slot member => (texts.2 slot member).ended, fun member => ?_⟩
  rcases List.mem_append.mp member with inStart | inSlots
  · exact unbrokenTexts.1 inStart
  · obtain ⟨slot, isSlot, inside⟩ := List.mem_flatMap.mp inSlots
    rcases List.mem_append.mp inside with inOutput | inText
    · exact not_mem_outputOf (names slot isSlot) inOutput
    · exact unbrokenTexts.2 slot isSlot inText

/-- Among the texts of places, markup is what was markup before: the names of runs bring none. -/
theorem filter_fill {places : List Place} (shown : List Char → List Char)
    (genuine : ∀ token, .plain token ∈ places → token.Genuine ∧ isWhole token.text = true) :
    ((places.map (Place.fill shown)).filter (·.head? == some '<')).map
        (fun text => (⟨kindOf text, text⟩ : Token))
      = (places.filterMap Place.token?).filter Token.isMarkup := by
  induction places with
  | nil => rfl
  | cons place rest inductionHypothesis =>
    have later := inductionHypothesis fun token member =>
      genuine token (List.mem_cons_of_mem place member)
    rw [List.map_cons, List.filter_cons]
    cases place with
    | plain token =>
      obtain ⟨isGenuine, whole⟩ := genuine token List.mem_cons_self
      have same : (⟨kindOf token.text, token.text⟩ : Token) = token := by
        rw [← isGenuine.kind_eq]
      have kind := isMarkup_of_isWhole whole
      rw [same] at kind
      have first : (Place.plain token :: rest).filterMap Place.token?
          = token :: rest.filterMap Place.token? := rfl
      rw [first, List.filter_cons, kind, Place.fill]
      split
      · rw [List.map_cons, later, same]
      · exact later
    | run here mark =>
      have noMarkup : ((Place.run here mark).fill shown).head? ≠ some '<' :=
        fun begins => not_mem_encode _ (List.mem_of_head? begins)
      rw [if_neg fun begins => noMarkup (beq_iff_eq.mp begins)]
      exact later

/-- The markup of a rendered part is the markup of its layout, whatever the names stand for. -/
theorem filter_isMarkup_fill (written : IsWritten part) (shown : List Char → List Char) :
    (tokenize ((formOf (layout styles part)).fill shown)).filter Token.isMarkup =
      (((layout styles part).filterMap Place.token?).filter Token.isMarkup) := by
  have whole : ∀ text ∈ (layout styles part).map (Place.fill shown), isWhole text = true := by
    intro text member
    obtain ⟨place, inLayout, rfl⟩ := List.mem_map.mp member
    cases place with
    | plain token => exact written.whole _ (mem_cut_of_mem_layout inLayout)
    | run here mark => simp [isWhole, Place.fill, not_mem_encode]
  rw [fill_formOf, filter_isMarkup_tokenize whole]
  refine filter_fill shown fun token member => ?_
  have inCut := mem_cut_of_mem_layout member
  refine ⟨tokenize_genuine part token ?_, written.whole _ inCut⟩
  exact layout_erased_subset styles part
    (List.mem_flatMap.mpr ⟨_, member, List.mem_singleton.mpr rfl⟩)

end

end FormLetter.Markup

namespace FormLetter

open FormLetter.Markup
open FormLetter.Script
open FormLetter.Style

section

variable {σ : Type} [World σ] {part : List Char} {styles : Table}

/-- A part in which every run is a value with a name for its code is processed when the names are
given texts, and the markup of what is written is that of its layout. -/
theorem process_values (written : IsWritten part) (unbroken : '\r' ∉ part)
    (noMark : ¬ "<%".toList <:+: part) (values : ∀ entry ∈ styles, entry.2 = .role .value)
    (named : ∀ rest ∈ (tokenize part).tails, ∀ run, Run.start? styles rest = some run →
      isVariable run.code = true)
    (host : Host σ) {bound : List (String × Value)}
    (textual : ∀ rest ∈ (tokenize part).tails, ∀ run, Run.start? styles rest = some run →
      ∃ content, bound.lookup (String.ofList run.code) = some (.plain content))
    (name : String) (store : Store σ) :
    ∃ text after, ((Part.ofSource name (compile styles part).source).process host bound).runFrom
        store = (.ok ⟨(compile styles part).source, name, some text⟩, after) ∧
      (tokenize text).filter Token.isMarkup =
        ((layout styles part).filterMap Place.token?).filter Token.isMarkup := by
  have legible := legible_formOf written unbroken noMark named
  have source : (compile styles part).source = (formOf (layout styles part)).write := by
    rw [compile_source, write_formOf (isValue_layout values)]
  have textualSlots : ∀ slot ∈ (formOf (layout styles part)).slots, ∃ content,
      bound.lookup (String.ofList slot.1) = some (.plain content) := by
    intro slot member
    obtain ⟨rest, isRest, run, begins, same⟩ := code_of_mem_slots member
    rw [← same]
    exact textual rest isRest run begins
  obtain ⟨after, processed⟩ := legible.process host bound textualSlots name store
  rw [source]
  exact ⟨_, after, processed, filter_isMarkup_fill written _⟩

/-- Values bring no markup: whatever texts the names of a part are given in two renderings, both
succeed, and cutting what they write finds the same markup in the same order. The part is in the
form in which documents are written (`isWritten_pretty`, `Xml.not_mem_pretty`) and holds no mark of
template code, every run is a value, and its code is the name of a variable. -/
theorem process_values_same_markup (written : IsWritten part) (unbroken : '\r' ∉ part)
    (noMark : ¬ "<%".toList <:+: part) (values : ∀ entry ∈ styles, entry.2 = .role .value)
    (named : ∀ rest ∈ (tokenize part).tails, ∀ run, Run.start? styles rest = some run →
      isVariable run.code = true)
    (host other : Host σ) (bound others : List (String × Value))
    (textual : ∀ rest ∈ (tokenize part).tails, ∀ run, Run.start? styles rest = some run →
      (∃ content, bound.lookup (String.ofList run.code) = some (.plain content)) ∧
        ∃ content, others.lookup (String.ofList run.code) = some (.plain content))
    (name : String) (store start : Store σ) :
    ∃ text after otherText otherAfter,
      ((Part.ofSource name (compile styles part).source).process host bound).runFrom store
        = (.ok ⟨(compile styles part).source, name, some text⟩, after) ∧
      ((Part.ofSource name (compile styles part).source).process other others).runFrom start
        = (.ok ⟨(compile styles part).source, name, some otherText⟩, otherAfter) ∧
      (tokenize text).filter Token.isMarkup = (tokenize otherText).filter Token.isMarkup := by
  obtain ⟨text, after, processed, markup⟩ := process_values written unbroken noMark values named
    host (fun rest isRest run begins => (textual rest isRest run begins).1) name store
  obtain ⟨otherText, otherAfter, otherProcessed, otherMarkup⟩ :=
    process_values written unbroken noMark values named other
      (fun rest isRest run begins => (textual rest isRest run begins).2) name start
  exact ⟨text, after, otherText, otherAfter, processed, otherProcessed,
    markup.trans otherMarkup.symm⟩

end

/-- Two values in a paragraph, of which one moves into the span before it. -/
def greeting : List Char :=
  ["<text:p>", "<text:span>", "Dear ", "</text:span>", "<text:span text:style-name=\"V\">", "name",
    "</text:span>", ", ", "<text:span text:style-name=\"V\">", "line", "</text:span>",
    "</text:p>"].flatMap String.toList

/-- Values that look like markup or like template code change nothing. -/
theorem process_values_same_markup_greeting :
    ∃ text after otherText otherAfter,
      ((Part.ofSource "content.xml" (compile [("V", .role .value)] greeting).source).process
          Host.none [("name", .ofString "Ann"), ("line", .ofString "")]).runFrom
        (Store.start false ())
        = (.ok ⟨(compile [("V", .role .value)] greeting).source, "content.xml", some text⟩, after) ∧
      ((Part.ofSource "content.xml" (compile [("V", .role .value)] greeting).source).process
          Host.none [("name", .ofString "</text:p><!--"),
            ("line", .ofString "<% endif %>]]>")]).runFrom (Store.start false ())
        = (.ok ⟨(compile [("V", .role .value)] greeting).source, "content.xml", some otherText⟩,
            otherAfter) ∧
      (tokenize text).filter Token.isMarkup = (tokenize otherText).filter Token.isMarkup := by
  have written : IsWritten greeting := by decide +kernel
  have noMark : ¬ "<%".toList <:+: greeting := by decide +kernel
  have values : ∀ entry ∈ [("V", Mark.role .value)], entry.2 = .role .value := by decide
  have codes : ((tokenize greeting).tails.filterMap
      (Run.start? [("V", .role .value)])).map Run.code = ["name".toList, "line".toList] := by
    decide +kernel
  have code (rest) (isRest : rest ∈ (tokenize greeting).tails) (run)
      (begins : Run.start? [("V", .role .value)] rest = some run) :
      run.code ∈ ["name".toList, "line".toList] := by
    rw [← codes]
    exact List.mem_map_of_mem (List.mem_filterMap.mpr ⟨rest, isRest, begins⟩)
  have names : ∀ code ∈ ["name".toList, "line".toList], isVariable code = true := by
    decide
  refine process_values_same_markup written (by decide) noMark values
    (fun rest isRest run begins => names _ (code rest isRest run begins)) Host.none Host.none
    _ _ (fun rest isRest run begins => ?_) "content.xml" _ _
  have isCode := code rest isRest run begins
  generalize run.code = written at isCode
  simp only [List.mem_cons, List.not_mem_nil, or_false] at isCode
  rcases isCode with rfl | rfl
  · exact ⟨⟨_, rfl⟩, _, rfl⟩
  · exact ⟨⟨_, rfl⟩, _, rfl⟩

end FormLetter
