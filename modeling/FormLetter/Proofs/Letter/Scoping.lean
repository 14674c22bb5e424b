import FormLetter.Proofs.Letter.Repeating
import FormLetter.Proofs.Markup.Outline
import FormLetter.Proofs.Style.Closure
import FormLetter.Proofs.Xml.Indenting

/-!
# Where styles hold

The styles that a part declares hold in that part. A style of the content has the mark to which its
own declarations lead: from parent to parent as long as the content declares them, from there on as
the styles part declares them, until a reserved style is reached. A style of the styles part that
bears the same name by chance has no say in that.

Both parts are classified one after the other, and the marks of the first are the base of the
second, where nothing is ever replaced. So the content follows its own declarations on every chain
on which no style that it declares was marked in the styles part, and may follow the other ones
where one was.
-/

namespace FormLetter

open FormLetter.Script (Store)

namespace Style

open FormLetter.Xml

/-! ## Tags that stay -/

theorem tagIn_iff_exists_mem {tag : Tag} {content : List Node} :
    TagIn tag content ↔ ∃ node ∈ content, TagIn tag [node] := by
  induction content with
  | nil => simp [not_tagIn_nil]
  | cons first rest ih => rw [tagIn_cons_iff, ih, List.exists_mem_cons_iff]

theorem tagIn_append_iff {tag : Tag} {left right : List Node} :
    TagIn tag (left ++ right) ↔ TagIn tag left ∨ TagIn tag right := by
  rw [tagIn_iff_exists_mem, tagIn_iff_exists_mem, tagIn_iff_exists_mem, ← exists_or]
  refine exists_congr fun node => ?_
  rw [List.mem_append, or_and_right]

theorem tagIn_reverse_iff {tag : Tag} {content : List Node} :
    TagIn tag content.reverse ↔ TagIn tag content := by
  rw [tagIn_iff_exists_mem, tagIn_iff_exists_mem]
  simp only [List.mem_reverse]

theorem not_tagIn_text {tag : Tag} {value : List Char} : ¬ TagIn tag [.text value] := by
  rintro (_ | _ | ⟨_, _, found⟩)
  exact not_tagIn_nil found

theorem tagIn_putNode_iff {tag : Tag} {content : List Node} {node : Node} :
    TagIn tag (putNode content node) ↔ TagIn tag content ∨ TagIn tag [node] := by
  unfold putNode
  split
  · simp [not_tagIn_text]
  · rename_i text before rest _
    rw [tagIn_cons_iff, @tagIn_cons_iff _ _ rest]
    simp [not_tagIn_text]
  · rw [tagIn_cons_iff, or_comm]

mutual

/-- Joining texts leaves all tags. -/
theorem tagIn_joined_iff {tag : Tag} : (node : Node) →
    (TagIn tag [node.joined] ↔ TagIn tag [node])
  | .text _ => Iff.rfl
  | .comment _ => Iff.rfl
  | .instruction _ _ => Iff.rfl
  | .element outer content => by
    have inside : TagIn tag (joinedOnto [] content) ↔ TagIn tag [] ∨ TagIn tag content :=
      tagIn_joinedOnto_iff [] content
    rw [Node.joined, tagIn_element_iff, tagIn_element_iff, tagIn_reverse_iff, inside]
    simp [not_tagIn_nil]

theorem tagIn_joinedOnto_iff {tag : Tag} (before : List Node) : (content : List Node) →
    (TagIn tag (joinedOnto before content) ↔ TagIn tag before ∨ TagIn tag content)
  | [] => by simp [joinedOnto, not_tagIn_nil]
  | first :: rest => by
    rw [joinedOnto, tagIn_joinedOnto_iff _ rest, tagIn_putNode_iff, tagIn_joined_iff first,
      @tagIn_cons_iff _ _ rest, or_assoc]

end

mutual

/-- Indentation leaves all tags. -/
theorem tagIn_indentNode_iff {tag : Tag} (depth : Nat) : (node : Node) →
    (TagIn tag [indentNode depth node] ↔ TagIn tag [node])
  | .text _ => Iff.rfl
  | .comment _ => Iff.rfl
  | .instruction _ _ => Iff.rfl
  | .element outer content => by
    have inside : TagIn tag (indentNodes (depth + 1) content) ↔ TagIn tag content :=
      tagIn_indentNodes_iff (depth + 1) content
    rw [indentNode]
    split
    · rw [tagIn_element_iff, tagIn_element_iff, tagIn_append_iff, inside]
      simp [lineBreak, not_tagIn_text]
    · exact Iff.rfl

theorem tagIn_indentNodes_iff {tag : Tag} (depth : Nat) : (content : List Node) →
    (TagIn tag (indentNodes depth content) ↔ TagIn tag content)
  | [] => by simp [indentNodes]
  | node :: rest => by
    have others : TagIn tag (indentNodes depth rest) ↔ TagIn tag rest :=
      tagIn_indentNodes_iff depth rest
    rw [indentNodes, @tagIn_cons_iff _ node]
    cases isText : node.isText with
    | true =>
      cases node with
      | text value => simp [others, not_tagIn_text]
      | _ => cases isText
    | false =>
      rw [if_neg Bool.false_ne_true, tagIn_cons_iff, @tagIn_cons_iff _ (indentNode depth node),
        tagIn_indentNode_iff depth node, others]
      simp [lineBreak, not_tagIn_text]

end

/-- What is read from the indented text of a document has the tags of the document. -/
theorem tagIn_indent_joined_iff {tag : Tag} {document : Document} :
    TagIn tag [.element document.indent.joined.root document.indent.joined.content] ↔
      TagIn tag [.element document.root document.content] := by
  calc TagIn tag [.element document.indent.joined.root document.indent.joined.content]
      ↔ TagIn tag [(Node.element document.indent.root document.indent.content).joined] := by
        rw [Node.joined]
        rfl
    _ ↔ TagIn tag [.element document.indent.root document.indent.content] := tagIn_joined_iff _
    _ ↔ TagIn tag [.element document.root document.content] := by
        rw [(element_indent document).1, tagIn_indentNode_iff]

/-- Indentation leaves all declarations. -/
theorem declares_indent_joined (document : Document) :
    Declares document.indent.joined = Declares document := by
  funext name parent
  exact propext (exists_congr fun tag => and_congr_left fun _ => tagIn_indent_joined_iff)

/-- A document holds a style that bears a name, whether it names a parent or not. -/
def Bears (document : Document) (name : String) : Prop :=
  ∃ tag, TagIn tag [.element document.root document.content] ∧
    tag.name.is styleNamespace "style" = true ∧ tag.attribute? styleNamespace "name" = some name

/-- Indentation leaves the names of all styles. -/
theorem bears_indent_joined (document : Document) :
    Bears document.indent.joined = Bears document := by
  funext name
  exact propext (exists_congr fun tag => and_congr_left fun _ => tagIn_indent_joined_iff)

theorem Declares.bears {document : Document} {name parent : String}
    (declares : Declares document name parent) : Bears document name := by
  obtain ⟨tag, found, isStyle, named, -⟩ := declares
  exact ⟨tag, found, isStyle, named⟩

/-! ## Chains of declarations -/

/-- A chain of declarations leads from a name to one that a table marks, the first such name that
it comes to. -/
inductive Chain (table : Table) (declares : String → String → Prop) : String → Mark → Prop where
  | known {name : String} {mark : Mark} (found : table.find? name = some mark) :
      Chain table declares name mark
  | derived {name parent : String} {mark : Mark} (unknown : table.find? name = none)
      (declared : declares name parent) (rest : Chain table declares parent mark) :
      Chain table declares name mark

/-- No name has two parents. -/
def SingleParents (document : Document) : Prop :=
  ∀ name first second, Declares document name first → Declares document name second →
    first = second

theorem Chain.unique {table : Table} {document : Document} {name : String} {first second : Mark}
    (single : SingleParents document) (left : Chain table (Declares document) name first)
    (right : Chain table (Declares document) name second) : first = second := by
  induction left with
  | known found =>
    cases right with
    | known found' => exact Option.some.inj (found.symm.trans found')
    | derived unknown => exact absurd (unknown.symm.trans found) nofun
  | derived unknown declared _ ih =>
    cases right with
    | known found => exact absurd (unknown.symm.trans found) nofun
    | derived _ declared' rest => exact ih (single _ _ _ declared' declared ▸ rest)

/-- Whatever is marked, a chain leads from it to its mark. -/
theorem chain_of_classify {reserved seed : Table} {document : Document} {name : String}
    {mark : Mark} (found : (classify reserved seed document).find? name = some mark) :
    Chain (Table.base reserved seed) (Declares document) name mark := by
  refine derive_induction (fun _ _ known => known) (fun name mark known => .known known)
    (fun derivation member unknown mark rest => ?_) name mark found
  exact .derived unknown (mem_declared_iff.mp member) rest

/-- Whatever a chain leads from is marked. -/
theorem Chain.isSome_classify {reserved seed : Table} {document : Document} {name : String}
    {mark : Mark} (chain : Chain (Table.base reserved seed) (Declares document) name mark) :
    ((classify reserved seed document).find? name).isSome := by
  induction chain with
  | known found => exact (derive_extends _ _).isSome (Option.isSome_iff_exists.mpr ⟨_, found⟩)
  | derived _ declared _ ih => exact derive_closed (mem_declared_iff.mpr declared) ih

/-- The mark of a style of the content: that of the reserved name which its parents lead to, those
in the content first, and those in the styles part where the content bears none of that name. -/
inductive Scoped (reserved : Table) (styles content : Document) : String → Mark → Prop where
  | reserved {name : String} {mark : Mark} (known : reserved.find? name = some mark) :
      Scoped reserved styles content name mark
  | own {name parent : String} {mark : Mark} (unknown : reserved.find? name = none)
      (declared : Declares content name parent)
      (rest : Scoped reserved styles content parent mark) :
      Scoped reserved styles content name mark
  | other {name : String} {mark : Mark} (unknown : reserved.find? name = none)
      (foreign : ¬ Bears content name) (chain : Chain reserved (Declares styles) name mark) :
      Scoped reserved styles content name mark

/-- Where no name has two parents, a style has at most one mark. -/
theorem Scoped.unique {reserved : Table} {styles content : Document} {name : String}
    {first second : Mark} (single : SingleParents content) (singleStyles : SingleParents styles)
    (left : Scoped reserved styles content name first)
    (right : Scoped reserved styles content name second) : first = second := by
  induction left with
  | reserved known =>
    cases right with
    | reserved known' => exact Option.some.inj (known.symm.trans known')
    | own unknown | other unknown => exact absurd (unknown.symm.trans known) nofun
  | own unknown declared _ ih =>
    cases right with
    | reserved known => exact absurd (unknown.symm.trans known) nofun
    | own _ declared' rest => exact ih (single _ _ _ declared' declared ▸ rest)
    | other _ foreign => exact absurd declared.bears foreign
  | other unknown foreign chain =>
    cases right with
    | reserved known => exact absurd (unknown.symm.trans known) nofun
    | own _ declared => exact absurd declared.bears foreign
    | other _ _ chain' => exact chain.unique singleStyles chain'

/-- On the chains from a name, no style that the content bears is marked in the styles part. -/
def Undisturbed (reserved : Table) (styles content : Document) (name : String) : Prop :=
  ∀ other, Relation.ReflTransGen
      (fun child parent => reserved.find? child = none ∧ Declares content child parent) name other →
    reserved.find? other = none → Bears content other →
    ∀ mark, ¬ Chain reserved (Declares styles) other mark

theorem Undisturbed.parent {reserved : Table} {styles content : Document} {name parent : String}
    (undisturbed : Undisturbed reserved styles content name)
    (unknown : reserved.find? name = none) (declared : Declares content name parent) :
    Undisturbed reserved styles content parent :=
  fun other chain => undisturbed other (.head ⟨unknown, declared⟩ chain)

/-- Nothing but declarations and names counts, and so indentation does not. -/
theorem Scoped.of_indent {reserved : Table} {styles content : Document} {name : String}
    {mark : Mark}
    (inScope : Scoped reserved styles.indent.joined content.indent.joined name mark) :
    Scoped reserved styles content name mark := by
  induction inScope with
  | reserved known => exact .reserved known
  | own unknown declared _ ih =>
    rw [declares_indent_joined] at declared
    exact .own unknown declared ih
  | other unknown foreign chain =>
    rw [bears_indent_joined] at foreign
    rw [declares_indent_joined] at chain
    exact .other unknown foreign chain

theorem Scoped.indent {reserved : Table} {styles content : Document} {name : String} {mark : Mark}
    (inScope : Scoped reserved styles content name mark) :
    Scoped reserved styles.indent.joined content.indent.joined name mark := by
  induction inScope with
  | reserved known => exact .reserved known
  | own unknown declared _ ih =>
    rw [← declares_indent_joined] at declared
    exact .own unknown declared ih
  | other unknown foreign chain =>
    rw [← bears_indent_joined] at foreign
    rw [← declares_indent_joined] at chain
    exact .other unknown foreign chain

theorem Undisturbed.indent {reserved : Table} {styles content : Document} {name : String}
    (undisturbed : Undisturbed reserved styles content name) :
    Undisturbed reserved styles.indent.joined content.indent.joined name := by
  unfold Undisturbed
  rw [declares_indent_joined, declares_indent_joined, bears_indent_joined]
  exact undisturbed

/-! ## The table of the content -/

section

variable {reserved : Table} {styles content : Document}

/-- The table of the content, which starts from that of the styles part. -/
def contentTable (reserved : Table) (styles content : Document) : Table :=
  classify reserved (classify reserved [] styles) content

theorem classify_extends_reserved (reserved : Table) (document : Document) :
    (classify reserved [] document).Extends reserved := derive_extends _ _

theorem distinct_insert {table : Table} (distinct : (Keyed.names table).Nodup) (name : String)
    (mark : Mark) : (Keyed.names (table.insert name mark)).Nodup := Keyed.nodup_names_put distinct

theorem distinct_deriveOnce {table : Table} (distinct : (Keyed.names table).Nodup)
    (pending : List Derivation) : (Keyed.names (deriveOnce table pending).1).Nodup := by
  induction pending generalizing table with
  | nil => exact distinct
  | cons derivation rest ih =>
    rcases deriveOnce_cons table derivation rest with
      ⟨-, round⟩ | ⟨-, -, round⟩ | ⟨mark, -, -, round⟩
    · rw [round]
      exact ih distinct
    · rw [round]
      exact ih distinct
    · rw [round]
      exact ih (distinct_insert distinct _ mark)

theorem distinct_derive {table : Table} (distinct : (Keyed.names table).Nodup)
    (pending : List Derivation) : (Keyed.names (derive table pending)).Nodup := by
  fun_induction derive table pending with
  | case1 table pending round _ ih => exact ih (distinct_deriveOnce distinct pending)
  | case2 table pending => exact distinct_deriveOnce distinct pending

/-- What the table of the content starts from. -/
theorem find?_base_classify (distinct : (Keyed.names reserved).Nodup) (name : String) :
    (Table.base reserved (classify reserved [] styles)).find? name
      = (classify reserved [] styles).find? name := by
  have isDistinct : (Keyed.names (classify reserved [] styles)).Nodup := distinct_derive distinct _
  rw [Table.find?_base _ _ isDistinct]
  cases marked : (classify reserved [] styles).find? name with
  | some mark => rfl
  | none =>
    cases known : reserved.find? name with
    | none => rfl
    | some mark =>
      have found := classify_extends_reserved reserved styles name mark known
      exact absurd (marked.symm.trans found) nofun

/-- A style of the content that is marked has the mark of its scope, if nothing disturbs it. -/
theorem scoped_of_contentTable (distinct : (Keyed.names reserved).Nodup) {name : String}
    {mark : Mark} (undisturbed : Undisturbed reserved styles content name)
    (found : (contentTable reserved styles content).find? name = some mark) :
    Scoped reserved styles content name mark := by
  have chain := chain_of_classify found
  clear found
  induction chain with
  | @known name mark known =>
    rw [find?_base_classify distinct] at known
    cases isReserved : reserved.find? name with
    | some own =>
      have same := classify_extends_reserved reserved styles name own isReserved
      exact .reserved (isReserved.trans (same.symm.trans known))
    | none =>
      have chain : Chain reserved (Declares styles) name mark := chain_of_classify known
      exact .other isReserved
        (fun bears => undisturbed name .refl isReserved bears mark chain) chain
  | @derived name parent mark unknown declared _ ih =>
    have unreserved : reserved.find? name = none := by
      rw [find?_base_classify distinct] at unknown
      cases known : reserved.find? name with
      | none => rfl
      | some own =>
        have marked := classify_extends_reserved reserved styles name own known
        exact absurd (unknown.symm.trans marked) nofun
    exact .own unreserved declared (ih (undisturbed.parent unreserved declared))

/-- A style that has a mark in its scope is marked. -/
theorem Scoped.isSome_contentTable (distinct : (Keyed.names reserved).Nodup) {name : String}
    {mark : Mark} (inScope : Scoped reserved styles content name mark) :
    ((contentTable reserved styles content).find? name).isSome := by
  have extension : (contentTable reserved styles content).Extends
      (classify reserved [] styles) := by
    intro name mark known
    rw [← find?_base_classify distinct] at known
    exact derive_extends _ _ name mark known
  induction inScope with
  | reserved known =>
    exact Option.isSome_iff_exists.mpr
      ⟨_, extension _ _ (classify_extends_reserved reserved styles _ _ known)⟩
  | own _ declared _ ih => exact derive_closed (mem_declared_iff.mpr declared) ih
  | other _ _ chain =>
    have fromReserved : Chain (Table.base reserved []) (Declares styles) _ _ := chain
    exact extension.isSome fromReserved.isSome_classify

end

end Style

namespace Markup

open FormLetter.Style (Table)

/-! ## Spans and matches -/

/-- A run is a span under a style, with text in it. -/
structure Run.IsSpan (name : String) (run : Run) : Prop where
  opening : run.opening.kind = .spanOpen
  named : spanStyle? run.opening.text = some name
  inner : ∀ token ∈ run.inner, Run.isContent token = true
  text : run.inner.any (·.kind == .text) = true
  closing : run.closing.kind = .spanClose

/-- A run begins at a span exactly when its style is marked. -/
theorem Run.IsSpan.start? {styles : Table} {name : String} {run : Run} (span : run.IsSpan name)
    (rest : List Token) :
    Run.start? styles (run.tokens ++ rest)
      = if (styles.find? name).isSome then some run else none := by
  have ends : Run.isContent run.closing = false := by
    simp [Run.isContent, span.closing]
  have inner : (run.inner ++ run.closing :: rest).takeWhile Run.isContent = run.inner := by
    rw [List.takeWhile_append_of_pos span.inner, List.takeWhile_cons_of_neg (by simp [ends]),
      List.append_nil]
  have whole : run.tokens ++ rest = run.opening :: (run.inner ++ run.closing :: rest) := by
    simp [Run.tokens]
  rw [whole]
  simp only [Run.start?, inner, List.drop_left', span.opening, span.named, span.text,
    span.closing]
  simp

/-- A span under a style that is marked is matched with that mark, and no span is matched under a
style that is not. -/
theorem Run.IsSpan.matched {name : String} {run : Run} (span : run.IsSpan name) (styles : Table)
    {part : List Char} {rest : List Token} (stands : run.tokens ++ rest <:+ tokenize part) :
    (∀ mark, styles.find? name = some mark →
      ∃ found, .matched found ∈ pieces styles part ∧ found.run = run ∧ found.mark = mark) ∧
    (styles.find? name = none →
      ∀ found, .matched found ∈ pieces styles part → found.run.style ≠ name) := by
  refine ⟨fun mark marked => ?_, fun unmarked found member same => ?_⟩
  · have begins : Run.start? styles (run.tokens ++ rest) = some run := by
      rw [span.start?, marked]
      rfl
    have isRun : run ∈ (outline styles (tokenize part)).filterMap Place.run? := by
      rw [outline_runs]
      exact List.mem_filterMap.mpr ⟨_, (List.mem_tails _ _).mpr stands, begins⟩
    obtain ⟨place, inOutline, isPlace⟩ := List.mem_filterMap.mp isRun
    rw [← pieces_outline, List.mem_flatMap] at inOutline
    obtain ⟨piece, inPieces, inPiece⟩ := inOutline
    cases piece with
    | copied tokens =>
      obtain ⟨token, -, rfl⟩ := List.mem_map.mp inPiece
      cases isPlace
    | matched found =>
      have isFound : found.run = run := by
        simp only [Piece.outline, List.mem_append, List.mem_cons, List.mem_map] at inPiece
        rcases inPiece with ⟨token, -, rfl⟩ | rfl | ⟨token, -, rfl⟩
        · cases isPlace
        · exact Option.some.inj isPlace
        · cases isPlace
      have style : found.run.style = name := by
        rw [isFound, Run.style, span.named]
        rfl
      exact ⟨found, inPieces, isFound, (pieces_regular inPieces).mark_of_find? (style ▸ marked)⟩
  · have marked := (pieces_regular member).fits.found
    rw [same, unmarked] at marked
    cases marked

end Markup

open FormLetter.Style

/-- A part that can be read is indented, and can be read again. -/
theorem indented_of_read {bytes : ByteArray} {document : Xml.Document}
    (read : Xml.Document.read bytes = .ok document) :
    Work.indented bytes = .ok document.indent.print ∧
      Part.readRendered document.indent.print = .ok document.indent.joined := by
  obtain ⟨isPretty, again⟩ := Xml.read_pretty read
  refine ⟨?_, ?_⟩
  · unfold Work.indented
    rw [isPretty]
  · unfold Part.readRendered
    rw [again]

/-- What is indented could be read. -/
theorem exists_read_of_indented {bytes : ByteArray} {text : List Char}
    (isIndented : Work.indented bytes = .ok text) :
    ∃ document, Xml.Document.read bytes = .ok document ∧ text = document.indent.print := by
  cases read : Xml.Document.read bytes with
  | error malformed =>
    unfold Work.indented Xml.pretty at isIndented
    rw [read] at isIndented
    cases isIndented
  | ok document =>
    exact ⟨document, rfl, Except.ok.inj (isIndented.symm.trans (indented_of_read read).1)⟩

/-- Parts that can be read are compiled, the content under its own table. -/
theorem ofParts_of_read (reserved : Table) {stylesText text : List Char}
    {styles content : Xml.Document} (isStyles : Part.readRendered stylesText = .ok styles)
    (isContent : Part.readRendered text = .ok content) :
    ∃ sources, Sources.ofParts reserved stylesText text = .ok sources ∧
      sources.content = (Markup.compile (contentTable reserved styles content) text).source := by
  unfold Sources.ofParts
  rw [isStyles, isContent]
  exact ⟨_, rfl, rfl⟩

namespace Work

/-- A letter is compiled with styles that hold in their part. Each span of the content, under a
style that nothing disturbs, is matched with the mark to which the style's own declarations lead;
where they lead to none, no span of that style is matched, and it stays text. Where no name has two
parents, there is one such mark at most. -/
theorem compile_scopes_styles {id : Nat} {store after : Store Workspace} {sources : Sources}
    (distinct : (Keyed.names (store.world.letter id).layout.reserved).Nodup)
    (compiled : (compile id).runFrom store = (.ok sources, after)) :
    let letter := store.world.letter id
    let reserved := letter.layout.reserved
    ∃ stylesBytes contentBytes styles content text table,
      letter.package.read letter.layout.stylesPart = .ok stylesBytes ∧
      letter.package.read letter.layout.contentPart = .ok contentBytes ∧
      Xml.Document.read stylesBytes = .ok styles ∧
      Xml.Document.read contentBytes = .ok content ∧
      Xml.pretty contentBytes = .ok text ∧
      sources.content = (Markup.pieces table text).flatMap Markup.Piece.render ∧
      (∀ name, Undisturbed reserved styles content name →
        ∀ (run : Markup.Run) (rest : List Markup.Token), run.IsSpan name →
          run.tokens ++ rest <:+ Markup.tokenize text →
          (∃ mark found, Scoped reserved styles content name mark ∧
            .matched found ∈ Markup.pieces table text ∧ found.run = run ∧ found.mark = mark) ∨
          (¬ ∃ mark, Scoped reserved styles content name mark) ∧
            ∀ found, .matched found ∈ Markup.pieces table text → found.run.style ≠ name) ∧
      (SingleParents content → SingleParents styles → ∀ name first second,
        Scoped reserved styles content name first →
        Scoped reserved styles content name second → first = second) := by
  intro letter reserved
  obtain ⟨⟨stylesText, text, compilesTo⟩, -⟩ := compile_eq_ok compiled
  obtain ⟨stylesBytes, hasStyles, stylesIndented⟩ := compilesTo.isStyles
  obtain ⟨contentBytes, hasContent, contentIndented⟩ := compilesTo.isContent
  obtain ⟨styles, readStyles, rfl⟩ := exists_read_of_indented stylesIndented
  obtain ⟨content, readContent, rfl⟩ := exists_read_of_indented contentIndented
  obtain ⟨made, isMade, source⟩ := ofParts_of_read reserved
    (indented_of_read readStyles).2 (indented_of_read readContent).2
  cases isMade.symm.trans compilesTo.isCompiled
  have isPretty : Xml.pretty contentBytes = .ok content.indent.print :=
    (Xml.read_pretty readContent).1
  refine ⟨stylesBytes, contentBytes, styles, content, _,
    contentTable reserved styles.indent.joined content.indent.joined, hasStyles, hasContent,
    readStyles, readContent, isPretty, source.trans (Markup.compile_pieces _ _),
    fun name undisturbed run rest span stands => ?_,
    fun single singleStyles name first second left right => left.unique single singleStyles right⟩
  obtain ⟨ifMarked, unlessMarked⟩ := span.matched
    (contentTable reserved styles.indent.joined content.indent.joined) stands
  cases marked : (contentTable reserved styles.indent.joined content.indent.joined).find? name with
  | some mark =>
    obtain ⟨found, member, isRun, isMark⟩ := ifMarked mark marked
    have inScope := scoped_of_contentTable distinct undisturbed.indent marked
    exact Or.inl ⟨mark, found, inScope.of_indent, member, isRun, isMark⟩
  | none =>
    refine Or.inr ⟨fun ⟨mark, inScope⟩ => ?_, unlessMarked marked⟩
    have isMarked := inScope.indent.isSome_contentTable distinct
    rw [marked] at isMarked
    cases isMarked

/-! ## One name in both parts -/

/-- A part that declares a style, before all else that it holds. -/
def partWith (parent : String) (content : List Xml.Node) : Xml.Document where
  version := "1.0"
  root := Xml.textTag "a" [⟨some "text", Xml.textNamespace⟩, ⟨some "style", styleNamespace⟩]
  content := .element ⟨⟨some "style", some styleNamespace, "style"⟩, [],
    [⟨⟨some "style", some styleNamespace, "name"⟩, "T1"⟩,
      ⟨⟨some "style", some styleNamespace, "parent-style-name"⟩, parent⟩]⟩ [] :: content

/-- A statement in a span of that style. -/
def styledParagraph : Xml.Node :=
  .element (Xml.textTag "p" []) [.text ['a'],
    .element { Xml.textTag "span" [] with
      attributes := [⟨⟨some "text", some Xml.textNamespace, "style-name"⟩, "T1"⟩] }
      [.text "set x = 1".toList]]

/-- A letter both parts of which declare the style, with these parents. -/
def twinPackage (own other : String) : Package where
  path := ⟨"", ["t.odt"]⟩
  entries := [
    ("content.xml", ⟨(String.ofList (partWith own [styledParagraph]).print).toUTF8, none⟩),
    ("styles.xml", ⟨(String.ofList (partWith other []).print).toUTF8, none⟩)]
  infos := []
  committed := []
  isClosed := false
  made := 0

/-- A store with that letter. -/
def twinStore (own other : String) : Store Workspace :=
  .start false ⟨[], #[.ofPackage {} false (twinPackage own other)]⟩

/-- What the content of that letter is compiled to. -/
def twinSource (own other : String) : List Char :=
  let content := (partWith own [styledParagraph]).indent
  (Markup.compile (contentTable .reserved (partWith other []).indent.joined content.joined)
    content.print).source

theorem twin_content (own other : String) :
    (twinPackage own other).read ({} : Layout).contentPart
      = .ok (String.ofList (partWith own [styledParagraph]).print).toUTF8 := by
  simp [Package.read, Package.content?, twinPackage]

theorem twin_styles (own other : String) :
    (twinPackage own other).read ({} : Layout).stylesPart
      = .ok (String.ofList (partWith other []).print).toUTF8 := by
  simp [Package.read, Package.content?, twinPackage, List.lookup_cons]

/-- The letter is compiled to that if its parts can be read. -/
theorem compile_twin {own other : String} (contentSound : (partWith own [styledParagraph]).Sound)
    (stylesSound : (partWith other []).Sound) :
    ∃ sources after, (compile 0).runFrom (twinStore own other) = (.ok sources, after) ∧
      sources.content = twinSource own other := by
  have readsContent :
      Xml.Document.read (String.ofList (partWith own [styledParagraph]).print).toUTF8
        = .ok (partWith own [styledParagraph]) := Xml.read_print contentSound
  have readsStyles : Xml.Document.read (String.ofList (partWith other []).print).toUTF8
      = .ok (partWith other []) := Xml.read_print stylesSound
  obtain ⟨contentIndented, contentAgain⟩ := indented_of_read readsContent
  obtain ⟨stylesIndented, stylesAgain⟩ := indented_of_read readsStyles
  obtain ⟨made, isMade, source⟩ := ofParts_of_read .reserved stylesAgain contentAgain
  obtain ⟨log, change, ran, -⟩ := @compile_runs 0 (twinStore own other) _ rfl rfl
  have sources : (twinPackage own other).sources = .ok made := by
    unfold Package.sources
    rw [twin_styles, twin_content]
    change (indented _ >>= fun styles => indented _ >>= fun content => _) = _
    rw [stylesIndented, contentIndented]
    exact isMade
  exact ⟨made, _, ran.trans (congrArg (·, _) sources), source⟩

theorem declares_partWith {parent : String} {content : List Xml.Node}
    (only : Style.declared (partWith parent content) = [⟨"T1", parent⟩]) {name other : String} :
    Declares (partWith parent content) name other ↔ name = "T1" ∧ other = parent := by
  rw [← mem_declared_iff, only, List.mem_singleton, Style.Derivation.mk.injEq]

/-- The span of that paragraph. -/
def styledRun : Markup.Run where
  opening := ⟨.spanOpen, "<text:span text:style-name=\"T1\">".toList⟩
  inner := [⟨.text, "set x = 1".toList⟩]
  closing := ⟨.spanClose, "</text:span>".toList⟩

theorem styledRun_isSpan : styledRun.IsSpan "T1" where
  opening := rfl
  named := by decide +kernel
  inner := by decide
  text := rfl
  closing := rfl

/-- The style of the same name in the styles part has no mark, and the span is compiled as its own
style says. -/
theorem compile_scopes_styles_plainElsewhere :
    ∃ sources after table text found,
      (compile 0).runFrom (twinStore "Jinja_20_Code" "Plain") = (.ok sources, after) ∧
      sources.content = (Markup.pieces table text).flatMap Markup.Piece.render ∧
      .matched found ∈ Markup.pieces table text ∧ found.run = styledRun ∧
      found.mark = .role .code := by
  let content := partWith "Jinja_20_Code" [styledParagraph]
  let styles := partWith "Plain" []
  have ownOnly : Style.declared content = [⟨"T1", "Jinja_20_Code"⟩] := by decide
  have otherOnly : Style.declared styles = [⟨"T1", "Plain"⟩] := by decide
  have readsContent : Xml.Document.read (String.ofList content.print).toUTF8 = .ok content :=
    Xml.read_print (by decide)
  have readsStyles : Xml.Document.read (String.ofList styles.print).toUTF8 = .ok styles :=
    Xml.read_print (by decide)
  obtain ⟨sources, after, ran, -⟩ :=
    @compile_twin "Jinja_20_Code" "Plain" (by decide) (by decide)
  obtain ⟨stylesBytes, contentBytes, isStyles, isContent, text, table, hasStyles, hasContent,
    readStyles, readContent, isPretty, rendered, spans, unique⟩ :=
    compile_scopes_styles (by decide) ran
  have sameContent : contentBytes = (String.ofList content.print).toUTF8 :=
    Except.ok.inj (hasContent.symm.trans (twin_content "Jinja_20_Code" "Plain"))
  have sameStyles : stylesBytes = (String.ofList styles.print).toUTF8 :=
    Except.ok.inj (hasStyles.symm.trans (twin_styles "Jinja_20_Code" "Plain"))
  rw [sameContent, readsContent] at readContent
  rw [sameStyles, readsStyles] at readStyles
  cases readContent
  cases readStyles
  rw [sameContent, (Xml.read_pretty readsContent).1] at isPretty
  cases isPretty
  have undisturbed : Undisturbed .reserved styles content "T1" := by
    intro other _ unknown _ mark chain
    cases chain with
    | known found => exact absurd (unknown.symm.trans found) nofun
    | derived _ step rest =>
      obtain ⟨-, rfl⟩ := (declares_partWith otherOnly).mp step
      cases rest with
      | known found =>
        have isPlain : Table.reserved.find? "Plain" = none := by decide
        exact absurd (isPlain.symm.trans found) nofun
      | derived _ further _ =>
        obtain ⟨isT1, -⟩ := (declares_partWith otherOnly).mp further
        exact absurd isT1 (by decide)
  have ownMark : Scoped .reserved styles content "T1" (.role .code) :=
    .own (by decide) ((declares_partWith ownOnly).mpr ⟨rfl, rfl⟩) (.reserved (by decide))
  have stands : styledRun.tokens ++ (Markup.tokenize content.indent.print).drop 11
      <:+ Markup.tokenize content.indent.print := by
    have cut : styledRun.tokens ++ (Markup.tokenize content.indent.print).drop 11
        = (Markup.tokenize content.indent.print).drop 8 := by decide +kernel
    rw [cut]
    exact List.drop_suffix 8 _
  have single {parent : String} {nodes : List Xml.Node}
      (only : Style.declared (partWith parent nodes) = [⟨"T1", parent⟩]) :
      SingleParents (partWith parent nodes) := by
    intro name first second left right
    exact ((declares_partWith only).mp left).2.trans ((declares_partWith only).mp right).2.symm
  rcases spans "T1" undisturbed styledRun _ styledRun_isSpan stands with
    ⟨mark, found, inScope, member, isRun, isMark⟩ | ⟨never, -⟩
  · have same := unique (single ownOnly) (single otherOnly) "T1" _ _ inScope ownMark
    exact ⟨sources, after, table, _, found, ran, rendered, member, isRun, isMark.trans same⟩
  · exact absurd ⟨_, ownMark⟩ never

/-- A style of the content derives from that for statements, and one of the same name in the styles
part from that for values. The span of the content is compiled as a value. -/
theorem compile_mixes_styles :
    Scoped .reserved (partWith "Jinja_20_Value" []) (partWith "Jinja_20_Code" [styledParagraph])
        "T1" (.role .code) ∧
      ∃ sources after,
        (compile 0).runFrom (twinStore "Jinja_20_Code" "Jinja_20_Value") = (.ok sources, after) ∧
        "<text:p>a<%= (set x = 1)|xml %></text:p>\n</text:a>".toList <:+ sources.content := by
  have only : Style.declared (partWith "Jinja_20_Code" [styledParagraph])
      = [⟨"T1", "Jinja_20_Code"⟩] := by decide
  obtain ⟨sources, after, ran, source⟩ := @compile_twin "Jinja_20_Code" "Jinja_20_Value"
    (by decide) (by decide)
  have ends : "<text:p>a<%= (set x = 1)|xml %></text:p>\n</text:a>".toList
      <:+ twinSource "Jinja_20_Code" "Jinja_20_Value" := by decide +kernel
  refine ⟨?_, sources, after, ran, source ▸ ends⟩
  exact .own (by decide) ((declares_partWith only).mpr ⟨rfl, rfl⟩) (.reserved (by decide))

end Work

end FormLetter
