import FormLetter.Proofs.Script.Course
import FormLetter.Proofs.Script.Form

/-!
# The text of a form

A form that is rendered with plain texts for its names comes out as its own texts, with the escaped
texts of the names between them.
-/

namespace FormLetter.Script

open FormLetter.Text

/-! ## Names -/

/-- The text that a name stands for where every name is given plain text. One name always stands
for the template itself. -/
def shownText (bound : List (String × Value)) (name : List Char) : List Char :=
  if String.ofList name == "self" then "<TemplateReference None>".toList
  else
    match bound.lookup (String.ofList name) with
    | some (.text content _) => content
    | _ => []

/-- The text of a form with escaped texts in the place of its names. -/
def Form.fill (form : Form) (shown : List Char → List Char) : List Char :=
  form.start ++ form.slots.flatMap fun (name, text) => Escape.encode (shown name) ++ text

/-! ## The frame -/

namespace Symbols

/-- True for the frame of a template in which every variable is looked up outside. -/
structure LooksUp (symbols : Symbols) : Prop where
  isOutermost : symbols.outer = []
  loads : ∀ entry ∈ symbols.inner.loads, entry.2 = .lookUp

/-- True for a frame that has a variable of a name. -/
def Knows (symbols : Symbols) (name : String) : Prop :=
  (symbols.inner.loads.lookup name).isSome

namespace LooksUp

variable {symbols : Symbols}

theorem find?_eq_some (looksUp : symbols.LooksUp) {name : String} (known : symbols.Knows name) :
    symbols.find? name = some ⟨0, name⟩ := by
  unfold Knows at known
  rw [Symbols.find?, looksUp.isOutermost, findIn?, if_pos known]
  rfl

/-- A name that is read is looked up, unless it is known already. -/
theorem load_eq (looksUp : symbols.LooksUp) (name : String) :
    (symbols.Knows name ∧ symbols.load name = symbols) ∨
      ¬ symbols.Knows name ∧ symbols.load name
        = ⟨{ symbols.inner with loads := symbols.inner.loads ++ [(name, .lookUp)] }, []⟩ := by
  by_cases known : symbols.Knows name
  · rw [Symbols.load, looksUp.find?_eq_some known]
    exact .inl ⟨known, rfl⟩
  · have missing : ¬ (symbols.inner.loads.lookup name).isSome = true := known
    have unknown : symbols.find? name = none := by
      rw [Symbols.find?, looksUp.isOutermost, findIn?, if_neg missing]
      rfl
    rw [Symbols.load, unknown, Layer.define, if_neg missing, looksUp.isOutermost]
    exact .inr ⟨known, rfl⟩

theorem load (looksUp : symbols.LooksUp) (name : String) : (symbols.load name).LooksUp := by
  rcases looksUp.load_eq name with ⟨-, same⟩ | ⟨-, more⟩
  · rw [same]
    exact looksUp
  · rw [more]
    refine ⟨rfl, fun entry member => ?_⟩
    rcases List.mem_append.mp member with old | new
    · exact looksUp.loads entry old
    · rw [List.mem_singleton.mp new]

theorem knows_load (looksUp : symbols.LooksUp) {name other : String}
    (known : other = name ∨ symbols.Knows other) : (symbols.load name).Knows other := by
  rcases looksUp.load_eq name with ⟨same, unchanged⟩ | ⟨-, more⟩
  · rw [unchanged]
    rcases known with rfl | known
    · exact same
    · exact known
  · rw [more]
    unfold Knows at known ⊢
    rw [List.lookup_append, Option.isSome_or]
    rcases known with rfl | known
    · simp
    · rw [known, Bool.true_or]

/-- The outputs of slots make their names known. -/
theorem slots (looksUp : symbols.LooksUp) {slots : List (List Char × List Char)}
    {content : List Statement} (read : ReadAs slots content) :
    (symbols.statements content).LooksUp ∧
      ∀ name, symbols.Knows name ∨ (∃ slot ∈ slots, String.ofList slot.1 = name) →
        (symbols.statements content).Knows name := by
  induction read generalizing symbols with
  | nil =>
    refine ⟨looksUp, ?_⟩
    rintro name (known | ⟨_, member, -⟩)
    · exact known
    · cases member
  | @cons name text rest content line filterLine _ inductionHypothesis =>
    have first : symbols.statements
        (.print (.filter filterLine (.name line (String.ofList name)) "xml" .none)
          :: (dataStatements text ++ content))
        = (symbols.load (String.ofList name)).statements content := by
      unfold dataStatements
      split <;> rfl
    rw [first]
    obtain ⟨later, known⟩ := inductionHypothesis (looksUp.load (String.ofList name))
    refine ⟨later, fun other found => known other ?_⟩
    rcases found with old | ⟨slot, member, same⟩
    · exact .inl (looksUp.knows_load (.inr old))
    · rcases List.mem_cons.mp member with rfl | member
      · exact .inl (looksUp.knows_load (.inl same.symm))
      · exact .inr ⟨slot, member, same⟩

end LooksUp

end Symbols

/-! ## Values of names -/

/-- What a name stands for outside of a template. -/
def outside? (scope : Scope) (name : String) : Option Value :=
  if name == "self" then some (.blocks scope.blocks)
  else
    match scope.bound.lookup name with
    | some value => some value
    | none => if builtinNames.contains name then some (.builtin name) else none

theorem runFrom_lookOutside? {scope : Scope} (noLocals : scope.locals = []) (name : String)
    (outlook : Outlook) {heap : Heap} (noExports : heap.exported = []) :
    (lookOutside? scope name).runFrom outlook heap = (.ok (outside? scope name), heap) := by
  unfold lookOutside? outside?
  split
  · rfl
  · refine Local.runFrom_bind_eq_ok.mpr ⟨heap.exported.lookup name, heap, rfl, ?_⟩
    rw [noLocals, noExports]
    cases scope.bound.lookup name with
    | some value => rfl
    | none => rfl

theorem runFrom_filterMapM {α β : Type} {items : List α} {body : α → Local (Option β)}
    {result : α → Option β} {outlook : Outlook} {heap : Heap}
    (each : ∀ item ∈ items, (body item).runFrom outlook heap = (.ok (result item), heap)) :
    (items.filterMapM body).runFrom outlook heap = (.ok (items.filterMap result), heap) := by
  induction items with
  | nil => rfl
  | cons item rest inductionHypothesis =>
    rw [List.forall_mem_cons] at each
    rw [List.filterMapM_cons]
    refine Local.runFrom_bind_eq_ok.mpr ⟨_, _, each.1, ?_⟩
    have others := inductionHypothesis each.2
    cases found : result item with
    | none =>
      rw [List.filterMap_cons_none found]
      exact others
    | some value =>
      rw [List.filterMap_cons_some found]
      exact Local.runFrom_bind_eq_ok.mpr ⟨_, _, others, rfl⟩

theorem runFrom_variablesAt {place : Address} {entries : List (String × Value)}
    {outlook : Outlook} {heap : Heap} (held : heap.cells[place]? = some (.cell (.frame entries))) :
    (variablesAt place).runFrom outlook heap = (.ok entries, heap) := by
  refine Local.runFrom_bind_eq_ok.mpr ⟨.frame entries, heap, ?_, rfl⟩
  refine Local.runFrom_bind_eq_ok.mpr ⟨heap, heap, rfl, ?_⟩
  rw [held]
  rfl

/-- The variables of a frame in which every name is looked up outside. -/
def Scope.lookedUp (scope : Scope) : List (String × Value) :=
  scope.symbols.inner.loads.filterMap fun (name, _) =>
    (outside? scope name).map fun value => (name, value)

theorem lookup_lookedUp {scope : Scope} {name : String} (known : scope.symbols.Knows name) :
    scope.lookedUp.lookup name = outside? scope name := by
  have lookup (loads : List (String × Load)) :
      (loads.filterMap fun (name, _) => (outside? scope name).map fun value => (name, value)).lookup
        name = if (loads.lookup name).isSome then outside? scope name else none := by
    induction loads with
    | nil => rfl
    | cons entry rest inductionHypothesis =>
      obtain ⟨other, load⟩ := entry
      by_cases same : name = other
      · subst same
        cases found : outside? scope name <;>
          simp [found, inductionHypothesis]
      · have differs : (name == other) = false := beq_eq_false_iff_ne.mpr same
        have later : ((other, load) :: rest).lookup name = rest.lookup name := by
          rw [List.lookup_cons, differs]
        rw [later, ← inductionHypothesis]
        cases found : outside? scope other with
        | none => simp [found]
        | some value => simp [found, List.lookup_cons, differs]
  unfold Symbols.Knows at known
  rw [Scope.lookedUp, lookup, if_pos known]

/-- Entering such a frame gives every name its value from outside. -/
theorem enterFrame_looksUp {scope : Scope} {place : Address} (frames : scope.frames = [place])
    (noLocals : scope.locals = []) (looksUp : scope.symbols.LooksUp) (outlook : Outlook)
    {heap : Heap} (noExports : heap.exported = []) {entries : List (String × Value)}
    (held : heap.cells[place]? = some (.cell (.frame entries))) :
    (enterFrame scope).runFrom outlook heap = (.ok (),
      { heap with cells := heap.cells.modify place (Kept.replace (.frame scope.lookedUp)) }) := by
  unfold enterFrame
  rw [frames]
  refine Local.runFrom_bind_eq_ok.mpr ⟨entries, heap, runFrom_variablesAt held, ?_⟩
  refine Local.runFrom_bind_eq_ok.mpr ⟨_, _, runFrom_filterMapM fun entry member => ?_, rfl⟩
  have looked := looksUp.loads entry member
  obtain ⟨name, load⟩ := entry
  obtain rfl : load = .lookUp := looked
  have value := runFrom_lookOutside? noLocals name outlook noExports
  exact Local.runFrom_bind_eq_ok.mpr ⟨_, _, value, rfl⟩

/-- A value whose escaped form is known. -/
inductive Shows : Value → List Char → Prop
  | text (content : List Char) : Shows (.plain content) content
  | blocks (names : List String) : Shows (.blocks names) "<TemplateReference None>".toList

variable {σ : Type} [World σ]

section

variable {call : Value → Given → M σ Value} {scope : Scope} {place : Address}
  {entries : List (String × Value)}

/-- A name has the value that is kept in the frame. -/
theorem runFrom_readName (frames : scope.frames = [place]) (looksUp : scope.symbols.LooksUp)
    {name : String} (known : scope.symbols.Knows name) {value : Value}
    (found : entries.lookup name = some value) (outlook : Outlook) {heap : Heap}
    (held : heap.cells[place]? = some (.cell (.frame entries))) :
    (readName scope name).runFrom outlook heap = (.ok value, heap) := by
  unfold readName
  rw [looksUp.find?_eq_some known]
  refine Local.runFrom_bind_eq_ok.mpr ⟨some value, heap, ?_, rfl⟩
  unfold slotValue? Scope.frame?
  rw [frames]
  refine Local.runFrom_bind_eq_ok.mpr ⟨entries, heap, runFrom_variablesAt held, ?_⟩
  rw [found]
  rfl

/-- The output of a name writes its text escaped. -/
theorem runFrom_output (frames : scope.frames = [place]) (looksUp : scope.symbols.LooksUp)
    {name : String} {line filterLine : Nat} {value : Value} {text : List Char}
    (known : scope.symbols.Knows name) (found : entries.lookup name = some value)
    (shows : Shows value text) {store : Store σ}
    (held : store.cells[place]? = some (.cell (.frame entries))) :
    (Statement.run call scope
        (.print (.filter filterLine (.name line name) "xml" .none))).runFrom store
      = (.ok (.wrote (Escape.encode text)), { store with line := filterLine }) := by
  let later : Store σ := { store with line := filterLine }
  have held : later.cells[place]? = some (.cell (.frame entries)) := held
  have read : (liftM (readName scope name) : M σ Value).runFrom later = (.ok value, later) := by
    rw [M.runFrom_lift, runFrom_readName frames looksUp known found _ held]
  unfold Statement.run
  refine M.runFrom_bind_eq_ok.mpr ⟨(), later, rfl, ?_⟩
  refine M.runFrom_bind_eq_ok.mpr ⟨.markup (Escape.encode text), later, ?_, rfl⟩
  unfold Expr.evaluate
  refine M.runFrom_bind_eq_ok.mpr ⟨value, later, by unfold Expr.evaluate; exact read, ?_⟩
  refine M.runFrom_bind_eq_ok.mpr ⟨⟨[], []⟩, later, ?_, ?_⟩
  · unfold Arguments.none Arguments.evaluate evaluateAll evaluateOption
    rfl
  · cases shows with
    | text content => rfl
    | blocks names => rfl

/-- A text is written before what comes after it. -/
theorem runAll_text {rest : List Statement} {store after : Store σ} {output : List Char}
    (text : List Char)
    (ran : (runAll call scope rest).runFrom store = (.ok (.wrote output), after)) :
    (runAll call scope (dataStatements text ++ rest)).runFrom store
      = (.ok (.wrote (text ++ output)), after) := by
  unfold dataStatements
  split
  · rename_i empty
    rw [List.isEmpty_iff.mp empty]
    exact ran
  · rw [List.singleton_append, runAll]
    unfold Statement.run
    refine M.runFrom_bind_eq_ok.mpr ⟨.wrote text, store, rfl, ?_⟩
    exact M.runFrom_bind_eq_ok.mpr ⟨_, _, ran, rfl⟩

/-- Slots write the escaped texts of their names, each with the text after it. -/
theorem runAll_slots (frames : scope.frames = [place]) (looksUp : scope.symbols.LooksUp)
    {slots : List (List Char × List Char)} {content : List Statement}
    (read : ReadAs slots content) {shown : List Char → List Char}
    (known : ∀ slot ∈ slots, scope.symbols.Knows (String.ofList slot.1))
    (shows : ∀ slot ∈ slots, ∃ value, entries.lookup (String.ofList slot.1) = some value ∧
      Shows value (shown slot.1))
    {store : Store σ} (held : store.cells[place]? = some (.cell (.frame entries))) :
    ∃ after, (runAll call scope content).runFrom store
      = (.ok (.wrote (slots.flatMap fun (name, text) => Escape.encode (shown name) ++ text)),
        after) := by
  induction read generalizing store with
  | nil =>
    unfold runAll
    exact ⟨store, rfl⟩
  | @cons name text rest content line filterLine _ inductionHypothesis =>
    rw [List.forall_mem_cons] at known shows
    obtain ⟨value, found, showsText⟩ := shows.1
    have output : (Statement.run call scope (.print
        (.filter filterLine (.name line (String.ofList name)) "xml" .none))).runFrom store
        = (.ok (.wrote (Escape.encode (shown name))), { store with line := filterLine }) :=
      runFrom_output frames looksUp known.1 found showsText held
    let later : Store σ := { store with line := filterLine }
    have held : later.cells[place]? = some (.cell (.frame entries)) := held
    obtain ⟨after, ran⟩ := inductionHypothesis known.2 shows.2 held
    refine ⟨after, ?_⟩
    rw [runAll]
    refine M.runFrom_bind_eq_ok.mpr ⟨_, _, output, ?_⟩
    refine M.runFrom_bind_eq_ok.mpr ⟨_, _, runAll_text text ran, ?_⟩
    rw [List.flatMap_cons, List.append_assoc]
    rfl

end

/-- What a name that is given plain text stands for, and what it is written as. -/
theorem shows_outside? {scope : Scope} {name content : List Char}
    (bound : scope.bound.lookup (String.ofList name) = some (.plain content)) :
    ∃ value, outside? scope (String.ofList name) = some value ∧
      Shows value (shownText scope.bound name) := by
  unfold outside? shownText
  split
  · exact ⟨_, rfl, .blocks _⟩
  · rw [bound]
    exact ⟨_, rfl, .text content⟩

/-- A legible form whose names are given plain texts is rendered, and what it is rendered as. -/
theorem Form.Legible.render {form : Form} (legible : form.Legible) (host : Host σ)
    (bound : List (String × Value))
    (textual : ∀ slot ∈ form.slots, ∃ content,
      bound.lookup (String.ofList slot.1) = some (.plain content)) (store : Store σ) :
    ∃ after, (render host bound form.write).runFrom store
      = (.ok (form.fill (shownText bound)), after) := by
  obtain ⟨content, read, loaded⟩ := legible.load
  have noBlock : Check.blocksOfAll (dataStatements form.start ++ content) = [] :=
    ((Unremarkable.of_readAs read).text form.start).noBlock
  have symbols : Symbols.root.statements (dataStatements form.start ++ content)
      = Symbols.root.statements content := by
    unfold dataStatements
    split <;> rfl
  have root : Symbols.LooksUp .root := ⟨rfl, nofun⟩
  obtain ⟨looksUp, known⟩ := root.slots read
  unfold Script.render
  rw [loaded]
  simp only [noBlock, List.map_nil]
  unfold Stage.run
  rw [symbols]
  generalize Symbols.root.statements content = symbols at looksUp known
  -- The frame is the cell behind those that were there.
  let fresh : Store σ :=
    { store with cells := store.cells.push (.cell (.frame [])), exported := [], line := 1 }
  let scope : Scope := Stage.scope ⟨host, bound, []⟩ symbols store.cells.size true
  let inside : Store σ :=
    { fresh with
      cells := fresh.cells.modify store.cells.size (Kept.replace (.frame scope.lookedUp)) }
  have looksUp : scope.symbols.LooksUp := looksUp
  have known (slot) (member : slot ∈ form.slots) : scope.symbols.Knows (String.ofList slot.1) :=
    known _ (.inr ⟨slot, member, rfl⟩)
  have empty : fresh.cells[store.cells.size]? = some (.cell (.frame [])) := Array.getElem?_push_size
  have entered : (liftM (enterFrame scope) : M σ Unit).runFrom fresh = (.ok (), inside) := by
    rw [M.runFrom_lift, enterFrame_looksUp rfl rfl looksUp _ rfl empty]
  have held : inside.cells[store.cells.size]? = some (.cell (.frame scope.lookedUp)) := by
    change (fresh.cells.modify _ _)[store.cells.size]? = _
    rw [Array.getElem?_modify, if_pos rfl, empty]
    rfl
  have shows : ∀ slot ∈ form.slots, ∃ value,
      scope.lookedUp.lookup (String.ofList slot.1) = some value ∧
        Shows value (shownText bound slot.1) := by
    intro slot member
    obtain ⟨content, isBound⟩ := textual slot member
    rw [lookup_lookedUp (known slot member)]
    exact shows_outside? (isBound : scope.bound.lookup _ = _)
  obtain ⟨after, ran⟩ := runAll_slots rfl looksUp read known shows held
  refine ⟨after, ?_⟩
  refine M.runFrom_bind_eq_ok.mpr ⟨(), { store with exported := [], line := 1 }, rfl, ?_⟩
  refine M.runFrom_bind_eq_ok.mpr ⟨store.cells.size, fresh, rfl, ?_⟩
  refine M.runFrom_bind_eq_ok.mpr ⟨(), inside, entered, ?_⟩
  exact M.runFrom_bind_eq_ok.mpr ⟨_, _, runAll_text form.start ran, rfl⟩

/-- A part that is a legible form is processed to the text that the form is rendered as. -/
theorem Form.Legible.process {form : Form} (legible : form.Legible) (host : Host σ)
    (bound : List (String × Value))
    (textual : ∀ slot ∈ form.slots, ∃ content,
      bound.lookup (String.ofList slot.1) = some (.plain content)) (name : String)
    (store : Store σ) :
    ∃ after, ((Part.ofSource name form.write).process host bound).runFrom store
      = (.ok ⟨form.write, name, some (form.fill (shownText bound))⟩, after) := by
  obtain ⟨rendered, ran⟩ := legible.render host bound textual store
  refine ⟨{ rendered with line := store.line, exported := store.exported }, ?_⟩
  unfold Part.process
  refine M.runFrom_bind_eq_ok.mpr ⟨store.toHeap, store, rfl, ?_⟩
  refine M.runFrom_bind_eq_ok.mpr ⟨.ok (form.fill (shownText bound)), rendered, ?_, ?_⟩
  · change (Script.attempt (Script.render host bound form.write)).runFrom store = _
    rw [M.runFrom_attempt, ran]
  · refine M.runFrom_bind_eq_ok.mpr ⟨rendered.toHeap, rendered, rfl, ?_⟩
    exact M.runFrom_bind_eq_ok.mpr ⟨(), _, rfl, rfl⟩

end FormLetter.Script
