import FormLetter.Proofs.Script.Running
import FormLetter.Proofs.Text.Escaping
import FormLetter.Script.Render
import Mathlib.Data.List.Forall2

/-!
# How data is written

Data becomes a value whose lists and dictionaries are kept at addresses, each new one behind those
of its items. The written form of that value is the one that is defined here on the data itself,
without addresses: a list is never found inside of itself, and every address still holds what was
put there.

Integers are written up to a number of digits, and values inside of values up to a depth. Text is
written as it is whatever it holds.
-/

namespace FormLetter

open FormLetter.Script FormLetter.Text

/-! ## The written form of data -/

namespace Json

mutual

/-- The form of data inside of other data: texts are quoted. -/
def quoted : Json → List Char
  | null => "None".toList
  | bool true => "True".toList
  | bool false => "False".toList
  | int value => (toString value).toList
  | float value => (Decimal.render Decimal.documentForm value).toList
  | text value => Quoted.encode value.toList
  | array items => '[' :: commas (quotedItems items) ++ [']']
  | object members => '{' :: commas (quotedMembers members) ++ ['}']

/-- The forms of the items of a list. -/
def quotedItems : List Json → List (List Char)
  | [] => []
  | first :: rest => first.quoted :: quotedItems rest

/-- The forms of the members of an object, each with its name. -/
def quotedMembers : List (String × Json) → List (List Char)
  | [] => []
  | (name, first) :: rest =>
    (Quoted.encode name.toList ++ ": ".toList ++ first.quoted) :: quotedMembers rest

end

/-- The written form of data. -/
def written : Json → List Char
  | text value => value.toList
  | other => other.quoted

/-- Data whose integers have digits up to the limit, and which is nested so deep at most. -/
def FitsWithin : Nat → Json → Prop
  | 0, _ => False
  | _ + 1, int value => value.natAbs < Decimal.tenTo Script.digitLimit
  | depth + 1, array items => ∀ item ∈ items, FitsWithin depth item
  | depth + 1, object members => ∀ member ∈ members, FitsWithin depth member.2
  | _ + 1, _ => True

end Json

namespace Script

variable {outlook : Outlook} {heap : Heap}

/-! ## Steps on the heap -/

/-- Where each step gives a value and leaves the heap, all of them give their values. -/
theorem runFrom_mapM {α β : Type} {items : List α} {step : α → Local β} {values : List β}
    (each : List.Forall₂ (fun item value => (step item).runFrom outlook heap = (.ok value, heap))
      items values) :
    (items.mapM step).runFrom outlook heap = (.ok values, heap) := by
  induction each with
  | nil => rfl
  | cons isFirst _ inductionHypothesis =>
    rw [List.mapM_cons, Local.runFrom_bind, isFirst]
    dsimp only
    rw [Local.runFrom_bind, inductionHypothesis]
    rfl

/-- What is kept at an address is found there when cells have been added. -/
theorem runFrom_fetch {cells : Array Kept} {cell : Cell}
    (kept : (cells.push (.cell cell)).toList <+: heap.cells.toList) :
    (fetch cells.size).runFrom outlook heap = (.ok cell, heap) := by
  obtain ⟨more, parts⟩ := kept
  have found : heap.cells[cells.size]? = some (.cell cell) := by
    rw [← Array.getElem?_toList, ← parts, Array.toList_push, List.append_assoc,
      ← Array.length_toList, List.getElem?_append_right (Nat.le_refl _), Nat.sub_self]
    rfl
  change ((.ok ((heap.cells[cells.size]?.map Kept.content).getD default), heap) :
    Except Fault Cell × Heap) = _
  rw [found]
  rfl

/-! ## Values that show data -/

/-- A value is written as data is, as long as the cells stay that it was made with. The places that
it is written in were made later. -/
def Displays (cells : Array Kept) (value : Value) (data : Json) : Prop :=
  ∀ (outlook : Outlook) {heap : Heap} {depth : Nat} {around : List Address},
    cells.toList <+: heap.cells.toList → data.FitsWithin depth →
    (∀ place ∈ around, cells.size ≤ place) →
    (quoteWithin depth around value).runFrom outlook heap = (.ok data.quoted, heap)

theorem Displays.mono {cells more : Array Kept} {value : Value} {data : Json}
    (displayed : Displays cells value data) (added : cells.toList <+: more.toList) :
    Displays more value data := by
  intro outlook heap depth around kept fits later
  refine displayed outlook (added.trans kept) fits fun place member => ?_
  have fewer : cells.size ≤ more.size := by simpa using added.length_le
  exact Nat.le_trans fewer (later place member)

/-- A value that is whole is written without looking at the cells. -/
theorem displays_whole {value : Value} {data : Json}
    (quotes : ∀ (depth : Nat) (around : List Address) (outlook : Outlook) (heap : Heap),
      data.FitsWithin (depth + 1) →
        (quoteWithin (depth + 1) around value).runFrom outlook heap = (.ok data.quoted, heap))
    (cells : Array Kept) : Displays cells value data := by
  intro outlook heap depth around _ fits _
  cases depth with
  | zero => cases data <;> exact fits.elim
  | succ depth => exact quotes depth around outlook heap fits

theorem displays_none : ∀ cells, Displays cells .none .null :=
  displays_whole fun _ _ _ _ _ => rfl

theorem displays_bool (value : Bool) : ∀ cells, Displays cells (.bool value) (.bool value) :=
  displays_whole fun _ _ _ _ _ => by cases value <;> rfl

theorem displays_float (value : Float) : ∀ cells, Displays cells (.float value) (.float value) :=
  displays_whole fun _ _ _ _ _ => rfl

theorem displays_text (value : String) : ∀ cells, Displays cells (.ofString value) (.text value) :=
  displays_whole fun _ _ _ _ _ => rfl

/-- An integer is written when it has digits up to the limit. -/
theorem displays_int (value : Int) : ∀ cells, Displays cells (.int value) (.int value) :=
  displays_whole fun depth around outlook heap fits => by
    have few : ¬Decimal.tenTo digitLimit ≤ value.natAbs := Nat.not_le_of_lt fits
    rw [quoteWithin, showInt, if_neg few]
    rfl

section

variable {cells : Array Kept} {depth : Nat} {around : List Address}

theorem forall₂_quotedItems (outlook : Outlook) {values : List Value} {items : List Json}
    (each : List.Forall₂ (Displays cells) values items)
    (kept : cells.toList <+: heap.cells.toList)
    (fits : ∀ item ∈ items, item.FitsWithin depth)
    (later : ∀ place ∈ around, cells.size ≤ place) :
    List.Forall₂ (fun value text =>
      (quoteWithin depth around value).runFrom outlook heap = (.ok text, heap))
      values (Json.quotedItems items) := by
  induction each with
  | nil => exact .nil
  | cons displayed _ inductionHypothesis =>
    obtain ⟨fitsFirst, fitsRest⟩ := List.forall_mem_cons.mp fits
    exact .cons (displayed outlook kept fitsFirst later) (inductionHypothesis fitsRest)

/-- An entry of a dictionary that shows a member of an object: its key is the name. -/
def DisplaysMember (cells : Array Kept) (entry : Value × Value) (member : String × Json) : Prop :=
  entry.1 = .ofString member.1 ∧ Displays cells entry.2 member.2

/-- How an entry of a dictionary is written. -/
def quoteEntry (depth : Nat) (around : List Address) (entry : Value × Value) :
    Local (List Char) := do
  let key ← quoteWithin depth around entry.1
  return key ++ ": ".toList ++ (← quoteWithin depth around entry.2)

theorem forall₂_quotedMembers (outlook : Outlook) {entries : List (Value × Value)}
    {members : List (String × Json)}
    (each : List.Forall₂ (DisplaysMember cells) entries members)
    (kept : cells.toList <+: heap.cells.toList)
    (fits : ∀ member ∈ members, member.2.FitsWithin depth)
    (later : ∀ place ∈ around, cells.size ≤ place) :
    List.Forall₂ (fun entry text =>
      (quoteEntry depth around entry).runFrom outlook heap = (.ok text, heap))
      entries (Json.quotedMembers members) := by
  induction each with
  | nil => exact .nil
  | @cons entry member _ _ displayed _ inductionHypothesis =>
    obtain ⟨fitsFirst, fitsRest⟩ := List.forall_mem_cons.mp fits
    refine .cons ?_ (inductionHypothesis fitsRest)
    obtain ⟨isKey, isValue⟩ := displayed
    -- A value that fits leaves room for its key.
    have fitsKey : (Json.text member.1).FitsWithin depth := by
      cases depth with
      | zero => exact fitsFirst.elim
      | succ depth => trivial
    have key := displays_text member.1 cells outlook kept fitsKey later
    have value := isValue outlook kept fitsFirst later
    rw [quoteEntry, isKey, Local.runFrom_bind, key]
    dsimp only
    rw [Local.runFrom_bind, value]
    rfl

end

section

variable {cells : Array Kept} {cell : Kept} {around : List Address}

/-- Cells stay when another one was added. -/
theorem prefix_of_push (kept : (cells.push cell).toList <+: heap.cells.toList) :
    cells.toList <+: heap.cells.toList := by
  rw [Array.toList_push] at kept
  exact (List.prefix_append _ _).trans kept

/-- Places behind a new address are none of it, and are behind the cells before it. -/
theorem later_of_push (later : ∀ place ∈ around, (cells.push cell).size ≤ place) :
    ¬around.contains cells.size = true ∧ ∀ place ∈ cells.size :: around, cells.size ≤ place := by
  rw [Array.size_push] at later
  constructor
  · intro member
    rw [List.contains_iff_mem] at member
    exact absurd (later cells.size member) (Nat.not_succ_le_self cells.size)
  · exact List.forall_mem_cons.mpr
      ⟨Nat.le_refl _, fun place member => Nat.le_of_succ_le (later place member)⟩

end

/-- A new list of values that show items shows the list of them. -/
theorem displays_list {cells : Array Kept} {values : List Value} {items : List Json}
    (each : List.Forall₂ (Displays cells) values items) :
    Displays (cells.push (.cell (.list values))) (.list cells.size) (.array items) := by
  intro outlook heap depth around kept fits later
  cases depth with
  | zero => cases fits
  | succ depth =>
    obtain ⟨isNew, inside⟩ := later_of_push later
    have looked : (listAt cells.size).runFrom outlook heap = (.ok values, heap) := by
      rw [listAt, Local.runFrom_bind, runFrom_fetch kept]
      rfl
    have quotes := runFrom_mapM
      (forall₂_quotedItems outlook each (prefix_of_push kept) fits inside)
    rw [quoteWithin, if_neg isNew, Local.runFrom_bind, looked]
    dsimp only
    rw [Local.runFrom_bind, Local.runFrom_bind, quotes]
    rfl

/-- A new dictionary of entries that show members shows the object of them. -/
theorem displays_dict {cells : Array Kept} {entries : List (Value × Value)}
    {members : List (String × Json)} (each : List.Forall₂ (DisplaysMember cells) entries members) :
    Displays (cells.push (.cell (.dict entries))) (.dict cells.size) (.object members) := by
  intro outlook heap depth around kept fits later
  cases depth with
  | zero => cases fits
  | succ depth =>
    obtain ⟨isNew, inside⟩ := later_of_push later
    have looked : (dictAt cells.size).runFrom outlook heap = (.ok entries, heap) := by
      rw [dictAt, Local.runFrom_bind, runFrom_fetch kept]
      rfl
    have quotes := runFrom_mapM
      (forall₂_quotedMembers outlook each (prefix_of_push kept) fits inside)
    unfold quoteEntry at quotes
    rw [quoteWithin, if_neg isNew, Local.runFrom_bind, looked]
    dsimp only
    rw [Local.runFrom_bind, Local.runFrom_bind, quotes]
    rfl

/-! ## The value of data -/

/-- A value was made of data, and cells were added at most. -/
def Makes {α β : Type} (shows : Array Kept → β → α → Prop) (action : Local β) (data : α) : Prop :=
  ∀ (outlook : Outlook) (heap : Heap), ∃ value after,
    action.runFrom outlook heap = (.ok value, after) ∧
      heap.cells.toList <+: after.cells.toList ∧ shows after.cells value data

mutual

/-- The value of data shows it. -/
theorem ofJson_makes : (data : Json) → Makes Displays (ofJson data) data
  | .null => fun _ heap => ⟨.none, heap, rfl, List.prefix_refl _, displays_none _⟩
  | .bool value => fun _ heap => ⟨.bool value, heap, rfl, List.prefix_refl _, displays_bool value _⟩
  | .int value => fun _ heap => ⟨.int value, heap, rfl, List.prefix_refl _, displays_int value _⟩
  | .float value =>
    fun _ heap => ⟨.float value, heap, rfl, List.prefix_refl _, displays_float value _⟩
  | .text value =>
    fun _ heap => ⟨.ofString value, heap, rfl, List.prefix_refl _, displays_text value _⟩
  | .array items => by
    intro outlook heap
    obtain ⟨values, after, made, kept, each⟩ := ofItems_makes items outlook heap
    refine ⟨.list after.cells.size,
      { after with cells := after.cells.push (.cell (.list values)) }, ?_, ?_, displays_list each⟩
    · rw [ofJson, Local.runFrom_bind, made]
      rfl
    · rw [Array.toList_push]
      exact kept.trans (List.prefix_append _ _)
  | .object members => by
    intro outlook heap
    obtain ⟨entries, after, made, kept, each⟩ := ofMembers_makes members outlook heap
    refine ⟨.dict after.cells.size,
      { after with cells := after.cells.push (.cell (.dict entries)) }, ?_, ?_, displays_dict each⟩
    · rw [ofJson, Local.runFrom_bind, made]
      rfl
    · rw [Array.toList_push]
      exact kept.trans (List.prefix_append _ _)

/-- The values of items show them. -/
theorem ofItems_makes : (items : List Json) →
    Makes (fun cells => List.Forall₂ (Displays cells)) (ofItems items) items
  | [] => fun outlook heap => ⟨[], heap, rfl, List.prefix_refl _, .nil⟩
  | first :: rest => by
    intro outlook heap
    obtain ⟨value, middle, made, kept, displayed⟩ := ofJson_makes first outlook heap
    obtain ⟨values, after, madeRest, keptRest, each⟩ := ofItems_makes rest outlook middle
    refine ⟨value :: values, after, ?_, kept.trans keptRest, .cons (displayed.mono keptRest) each⟩
    rw [ofItems, Local.runFrom_bind, made]
    dsimp only
    rw [Local.runFrom_bind, madeRest]
    rfl

/-- The entries of members show them. -/
theorem ofMembers_makes : (members : List (String × Json)) →
    Makes (fun cells => List.Forall₂ (DisplaysMember cells)) (ofMembers members) members
  | [] => fun outlook heap => ⟨[], heap, rfl, List.prefix_refl _, .nil⟩
  | (name, first) :: rest => by
    intro outlook heap
    obtain ⟨value, middle, made, kept, displayed⟩ := ofJson_makes first outlook heap
    obtain ⟨entries, after, madeRest, keptRest, each⟩ := ofMembers_makes rest outlook middle
    refine ⟨(.ofString name, value) :: entries, after, ?_, kept.trans keptRest,
      .cons ⟨rfl, displayed.mono keptRest⟩ each⟩
    rw [ofMembers, Local.runFrom_bind, made]
    dsimp only
    rw [Local.runFrom_bind, madeRest]
    rfl

end

/-! ## Writing and escaping -/

/-- The text of data. -/
def writeData (data : Json) : Except Fault (List Char) :=
  let action : M Unit (List Char) := do textOf (← ofJson data)
  (action.runFrom (Store.start false ())).1

section

variable {data : Json} {value : Value} {after : Heap}

/-- Only null becomes the value that is none, and no data becomes markup. -/
theorem value_of_ofJson (made : (ofJson data).runFrom outlook heap = (.ok value, after)) :
    (value = .none → data = .null) ∧ ∀ content, value ≠ .text content true := by
  cases data with
  | null | bool | int | float | text =>
    cases made
    simp [Value.ofString]
  | array items | object members =>
    unfold ofJson at made
    obtain ⟨values, middle, -, kept⟩ := Local.runFrom_bind_eq_ok.mp made
    cases kept
    simp

/-- The value of data is written as the data is. -/
theorem runFrom_textOf (made : (ofJson data).runFrom outlook heap = (.ok value, after))
    (fits : data.FitsWithin nestingLimit) :
    (textOf value).runFrom outlook after = (.ok data.written, after) := by
  obtain ⟨other, last, again, -, displayed⟩ := ofJson_makes data outlook heap
  rw [made] at again
  cases again
  have quotes : (quoteValue value).runFrom outlook after = (.ok data.quoted, after) :=
    displayed outlook (List.prefix_refl _) fits (by simp)
  cases data with
  | text content =>
    cases made
    rfl
  | null | bool | int | float =>
    cases made
    exact quotes
  | array items | object members =>
    unfold ofJson at made
    obtain ⟨values, middle, -, kept⟩ := Local.runFrom_bind_eq_ok.mp made
    cases kept
    exact quotes

/-- A value that is no markup is escaped as it is written. -/
theorem runFrom_escaped (plain : ∀ content, value ≠ .text content true) :
    ((escaped value).runFrom outlook heap).1 =
      ((textOf value).runFrom outlook heap).1.map Escape.encode := by
  have steps : escaped value = do return Escape.encode (← textOf value) := by
    unfold escaped
    split
    · exact absurd rfl (plain _)
    · rfl
  rw [steps, Local.runFrom_bind]
  rcases (textOf value).runFrom outlook heap with ⟨fault | text, last⟩
  · rfl
  · rfl

end

section

variable {data : Json} {value : Value} {after : Heap}
  (made : (ofJson data).runFrom (World.outlook ()) (Store.start false ()).toHeap =
    (.ok value, after))

include made

/-- The text of data is that of its value. -/
theorem writeData_eq : writeData data = ((textOf value).runFrom (World.outlook ()) after).1 := by
  have begun : (liftM (ofJson data) : M Unit Value).runFrom (Store.start false ())
      = (.ok value, { Store.start false () with toHeap := after }) :=
    (M.runFrom_lift _ _).trans (by rw [made])
  unfold writeData
  dsimp only
  rw [M.runFrom_bind, begun]
  rfl

/-- Data other than null is escaped as its text. -/
theorem escapeData_eq (some_ : data ≠ .null) :
    escapeData data = (writeData data).map Escape.encode := by
  obtain ⟨isNone, plain⟩ := value_of_ofJson made
  have begun : (liftM (ofJson data) : M Unit Value).runFrom (Store.start false ())
      = (.ok value, { Store.start false () with toHeap := after }) :=
    (M.runFrom_lift _ _).trans (by rw [made])
  have whole : value ≠ .none := fun none_ => some_ (isNone none_)
  rw [writeData_eq made, ← runFrom_escaped plain]
  unfold escapeData
  dsimp only
  rw [M.runFrom_bind, begun]
  dsimp only
  split
  · exact absurd rfl whole
  · rfl

end

/-- What is written of data for markup is decoded to the text of the data.

Data has a text when its integers have digits up to the limit and it is nested so deep at most, and
where it has none, nothing is escaped. Of an escaped text the decoder of references makes the text
again, and so does the reader of typed code. No bracket and no quote stands in it, and each
ampersand in it begins one of the five references. -/
theorem escapeData_undone {data : Json} (some_ : data ≠ .null) :
    (data.FitsWithin nestingLimit → writeData data = .ok data.written) ∧
      (∀ fault, writeData data = .error fault → escapeData data = .error fault) ∧
      ∀ text, writeData data = .ok text → ∃ escaped, escapeData data = .ok escaped ∧
        Entity.decode escaped = text ∧ Markup.typedText escaped = text ∧
        (∀ c ∈ escaped, c ∉ ['<', '>', '"', '\'']) ∧
        ∀ lead rest, escaped = lead ++ '&' :: rest →
          ∃ reference ∈ Escape.references, reference <+: '&' :: rest := by
  obtain ⟨value, after, made, -, -⟩ :=
    ofJson_makes data (World.outlook ()) (Store.start false ()).toHeap
  have escapes := escapeData_eq made some_
  refine ⟨fun fits => ?_, fun fault failed => ?_, fun text done => ?_⟩
  · rw [writeData_eq made, runFrom_textOf made fits]
  · rw [escapes, failed]
    rfl
  · refine ⟨Escape.encode text, ?_, Escape.decode_encode text, Escape.typedText_encode text, ?_,
      fun lead rest parts => Escape.reference_of_ampersand parts⟩
    · rw [escapes, done]
      rfl
    · intro c member isMark
      have escaped : c ∈ Escape.escapedChars := List.mem_cons_of_mem '&' isMark
      rw [Escape.not_mem_encode text c member escaped] at isMark
      exact absurd isMark (by decide)

/-- Data with markup in names and texts, and with texts that look like references. -/
def dataOfMarkup : Json :=
  .array [.text "a<b & \"c\"", .object [("&lt;", .int (-3)), ("'", .null)], .text "&#60&ampx;"]

theorem escapeData_undone_markup :
    dataOfMarkup ≠ .null ∧ dataOfMarkup.FitsWithin nestingLimit ∧
      dataOfMarkup.written =
        "['a<b & \"c\"', \x7b'&lt;': -3, \"'\": None\x7d, '&#60&ampx;']".toList ∧
      ∃ escaped, escapeData dataOfMarkup = .ok escaped ∧
        Entity.decode escaped = dataOfMarkup.written := by
  have some_ : dataOfMarkup ≠ .null := nofun
  have few : 3 < Decimal.tenTo digitLimit := by decide +kernel
  have fits : dataOfMarkup.FitsWithin nestingLimit := by
    simp [dataOfMarkup, nestingLimit, Json.FitsWithin, few]
  refine ⟨some_, fits, by decide, ?_⟩
  obtain ⟨writes, -, undone⟩ := escapeData_undone some_
  obtain ⟨escaped, isEscaped, decoded, -⟩ := undone _ (writes fits)
  exact ⟨escaped, isEscaped, decoded⟩

end Script

end FormLetter
