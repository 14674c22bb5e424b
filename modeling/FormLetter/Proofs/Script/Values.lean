import FormLetter.Proofs.Script.Discipline

/-!
# What is done to values

Taking items, writing values, comparing them and calculating with them obeys every discipline that
the steps on the heap obey. Each function is taken apart as it is defined; a function that goes
into the depth of values does so by its limit.
-/

namespace FormLetter.Script.Obeys

variable {discipline : Discipline}

/-! ## Reading the heap -/

instance listAt (place : Address) : Obeys discipline (listAt place) :=
  andThen fun cell => by cases cell <;> infer_instance

instance dictAt (place : Address) : Obeys discipline (dictAt place) :=
  andThen fun cell => by cases cell <;> infer_instance

instance fieldsAt (place : Address) : Obeys discipline (fieldsAt place) :=
  andThen fun cell => by cases cell <;> infer_instance

instance newList (items : List Value) : Obeys discipline (newList items) :=
  seq

instance newDict (entries : List (Value × Value)) : Obeys discipline (newDict entries) :=
  seq

instance newRecord (kind : RecordKind) (fields : List (String × Value)) :
    Obeys discipline (newRecord kind fields) :=
  seq

mutual

theorem ofJson : (data : Json) → Obeys discipline (Script.ofJson data)
  | .null | .bool _ | .int _ | .float _ | .text _ => by
    unfold Script.ofJson
    infer_instance
  | .array items => by
    unfold Script.ofJson
    exact (ofItems items).bind inferInstance
  | .object members => by
    unfold Script.ofJson
    exact (ofMembers members).bind inferInstance

theorem ofItems : (data : List Json) → Obeys discipline (Script.ofItems data)
  | [] => by
    unfold Script.ofItems
    infer_instance
  | first :: rest => by
    unfold Script.ofItems
    exact (ofJson first).bind fun value => (ofItems rest).bind inferInstance

theorem ofMembers : (data : List (String × Json)) → Obeys discipline (Script.ofMembers data)
  | [] => by
    unfold Script.ofMembers
    infer_instance
  | (name, first) :: rest => by
    unfold Script.ofMembers
    exact (ofJson first).bind fun value => (ofMembers rest).bind inferInstance

end

attribute [instance] ofJson

instance unknownName (name : String) : Obeys discipline (unknownName name) := by
  unfold Script.unknownName
  infer_instance

/-! ## Taking items -/

instance cursorOf (value : Value) : Obeys discipline (cursorOf value) := by
  unfold Script.cursorOf
  cases value <;> dsimp only <;> infer_instance

instance cursorAt (place : Address) : Obeys discipline (cursorAt place) :=
  andThen fun cell => by cases cell <;> infer_instance

instance advance (place : Address) : Obeys discipline (advance place) := by
  refine andThen fun cursor => ?_
  cases cursor with
  | items rest => cases rest <;> infer_instance
  | forward list index => exact andThen fun items => by split <;> infer_instance
  | backward list count => exact andThen fun items => by split <;> infer_instance
  | entries kind dict index size =>
    refine andThen fun entries => ?_
    dsimp only
    split
    · infer_instance
    · split <;> infer_instance
  | counting next step count => cases count <;> infer_instance

instance drain (place : Address) : Obeys discipline (drain place) := by
  refine andThen fun cursor => ?_
  cases cursor with
  | items rest => infer_instance
  | forward list index => infer_instance
  | backward list count => infer_instance
  | entries kind dict index size => infer_instance
  | counting next step count => infer_instance

instance collect (value : Value) : Obeys discipline (collect value) :=
  seq

instance loopAt (place : Address) : Obeys discipline (loopAt place) :=
  andThen fun cell => by cases cell <;> infer_instance

instance lookAhead (place : Address) : Obeys discipline (lookAhead place) :=
  andThen fun state => by split <;> infer_instance

instance nextItem (place : Address) : Obeys discipline (nextItem place) := by
  refine andThen fun state => ?_
  have each (next : Option Value) : Obeys discipline (match next with
      | none => Pure.pure none
      | some item => do
        Script.keep place (.loop
          { state with ahead := none, begun := state.begun + 1, before := state.current,
                       current := some item })
        return some item) := by
    cases next <;> infer_instance
  split <;> infer_instance

instance plainLength? (value : Value) : Obeys discipline (plainLength? value) := by
  unfold Script.plainLength?
  split <;> infer_instance

instance loopLength (place : Address) : Obeys discipline (loopLength place) := by
  refine andThen fun state => ?_
  split
  · infer_instance
  · refine andThen fun length => ?_
    split <;> infer_instance

instance length? (value : Value) : Obeys discipline (length? value) := by
  unfold Script.length?
  split <;> infer_instance

instance lengthOf (value : Value) : Obeys discipline (lengthOf value) :=
  andThen fun length => by split <;> infer_instance

instance isTrue (value : Value) : Obeys discipline (isTrue value) := by
  unfold Script.isTrue
  split <;> try infer_instance
  exact andThen fun length => by split <;> infer_instance

/-! ## Writing -/

instance showInt (value : Int) : Obeys discipline (showInt value) := by
  unfold Script.showInt
  infer_instance

instance showRange (start stop step : Int) : Obeys discipline (showRange start stop step) := by
  unfold Script.showRange
  infer_instance

instance quoteWithin (depth : Nat) (around : List Address) (value : Value) :
    Obeys discipline (quoteWithin depth around value) := by
  induction depth generalizing around value with
  | zero =>
    unfold Script.quoteWithin
    infer_instance
  | succ depth ih =>
    unfold Script.quoteWithin
    dsimp only
    split <;> try infer_instance
    · refine andThen fun fields => ?_
      split <;> infer_instance
    · refine andThen fun cell => ?_
      split <;> infer_instance

instance quoteValue (value : Value) : Obeys discipline (quoteValue value) :=
  quoteWithin nestingLimit [] value

instance textOf (value : Value) : Obeys discipline (textOf value) := by
  unfold Script.textOf
  split <;> infer_instance

instance escaped (value : Value) : Obeys discipline (escaped value) := by
  unfold Script.escaped
  split <;> infer_instance

/-! ## Comparing -/

instance allM' {item : Type} (test : item → Local Bool) [each : ∀ item, Obeys discipline (test item)]
    (items : List item) : Obeys discipline (allM' test items) := by
  induction items with
  | nil =>
    unfold Script.allM'
    infer_instance
  | cons first rest ih =>
    unfold Script.allM'
    infer_instance

instance equalsWithin (depth : Nat) (left right : Value) :
    Obeys discipline (equalsWithin depth left right) := by
  induction depth generalizing left right with
  | zero =>
    unfold Script.equalsWithin
    infer_instance
  | succ depth ih =>
    unfold Script.equalsWithin
    dsimp only
    split <;> try infer_instance
    · refine andThen fun left => andThen fun right => ?_
      refine of_ite inferInstance (of_foldlM fun holds entry => of_ite inferInstance ?_)
      refine (of_foldlM fun found other => ?_).bind fun found => ?_
      · split <;> infer_instance
      · split <;> infer_instance
    · split <;> infer_instance

instance equals (left right : Value) : Obeys discipline (equals left right) :=
  equalsWithin nestingLimit left right

instance matches? (left right : Value) : Obeys discipline (matches? left right) := by
  unfold Script.matches?
  infer_instance

instance dropEqual (left right : List Value) : Obeys discipline (dropEqual left right) := by
  induction left generalizing right with
  | nil =>
    unfold Script.dropEqual
    infer_instance
  | cons first rest ih =>
    cases right <;> unfold Script.dropEqual <;> infer_instance

instance isOrderedWithin (order : Order) (depth : Nat) (left right : Value) :
    Obeys discipline (isOrderedWithin order depth left right) := by
  induction depth generalizing left right with
  | zero =>
    unfold Script.isOrderedWithin
    infer_instance
  | succ depth ih =>
    unfold Script.isOrderedWithin
    dsimp only
    have lists (left right : List Value) : Obeys discipline (do
        match ← Script.dropEqual left right with
        | (left :: _, right :: _) => Script.isOrderedWithin order depth left right
        | (left, right) => return order.holds (compare left.length right.length)) :=
      andThen fun rest => by split <;> infer_instance
    split <;> try infer_instance
    split
    · split <;> infer_instance
    · infer_instance

instance isOrdered (order : Order) (left right : Value) :
    Obeys discipline (isOrdered order left right) :=
  isOrderedWithin order nestingLimit left right

instance insertSorted {item : Type} (key : item → Value) (added : item) (items : List item) :
    Obeys discipline (insertSorted key added items) := by
  induction items with
  | nil =>
    unfold Script.insertSorted
    infer_instance
  | cons last rest ih =>
    unfold Script.insertSorted
    infer_instance

instance sortBy {item : Type} (key : item → Value) (items : List item) :
    Obeys discipline (sortBy key items) := by
  unfold Script.sortBy
  infer_instance

/-! ## Keys and membership -/

instance firstUnhashable? (obstacles : List Obstacle) :
    Obeys discipline (firstUnhashable? obstacles) := by
  induction obstacles with
  | nil =>
    unfold Script.firstUnhashable?
    infer_instance
  | cons first rest ih =>
    cases first <;> unfold Script.firstUnhashable? <;> infer_instance

instance checkKey (value : Value) : Obeys discipline (checkKey value) :=
  andThen fun found => by cases found <;> infer_instance

instance entryOf? (key : Value) (entries : List (Value × Value)) :
    Obeys discipline (entryOf? key entries) := by
  induction entries with
  | nil =>
    unfold Script.entryOf?
    infer_instance
  | cons first rest ih =>
    unfold Script.entryOf?
    infer_instance

instance enterKey (key value : Value) (entries : List (Value × Value)) :
    Obeys discipline (enterKey key value entries) := by
  induction entries with
  | nil =>
    unfold Script.enterKey
    infer_instance
  | cons first rest ih =>
    unfold Script.enterKey
    infer_instance

instance removeKey (key : Value) (entries : List (Value × Value)) :
    Obeys discipline (removeKey key entries) := by
  induction entries with
  | nil =>
    unfold Script.removeKey
    infer_instance
  | cons first rest ih =>
    unfold Script.removeKey
    infer_instance

instance enterAll (entries more : List (Value × Value)) : Obeys discipline (enterAll entries more) := by
  unfold Script.enterAll
  infer_instance

instance isAmong (item : Value) (items : List Value) : Obeys discipline (isAmong item items) := by
  induction items with
  | nil =>
    unfold Script.isAmong
    infer_instance
  | cons first rest ih =>
    unfold Script.isAmong
    infer_instance

instance lengthTo (item : Value) (items : List Value) :
    Obeys discipline (skipTo.lengthTo item items) := by
  induction items with
  | nil =>
    unfold Script.skipTo.lengthTo
    infer_instance
  | cons first rest ih =>
    unfold Script.skipTo.lengthTo
    infer_instance

instance skipTo (item : Value) (place : Address) : Obeys discipline (skipTo item place) := by
  unfold Script.skipTo
  infer_instance

instance holds (container item : Value) : Obeys discipline (holds container item) := by
  unfold Script.holds
  split <;> try infer_instance
  split <;> infer_instance

/-! ## Arithmetic and filling in -/

instance toFloat (number : Number) : Obeys discipline number.toFloat := by
  unfold Number.toFloat
  split
  · infer_instance
  · split <;> infer_instance

instance powerOf (base exponent : Float) : Obeys discipline (powerOf base exponent) := by
  unfold Script.powerOf
  infer_instance

instance operateInts (operation : Arithmetic) (left right : Int) :
    Obeys discipline (operateInts operation left right) := by
  unfold Script.operateInts
  split <;> infer_instance

instance operateFloats (operation : Arithmetic) (left right : Float) :
    Obeys discipline (operateFloats operation left right) := by
  unfold Script.operateFloats
  split <;> infer_instance

instance operateNumbers (operation : Arithmetic) (left right : Number) :
    Obeys discipline (operateNumbers operation left right) := by
  unfold Script.operateNumbers
  split <;> infer_instance

instance repeatItems {item : Type} (isText : Bool) (items : List item) (count : Nat) :
    Obeys discipline (repeatItems isText items count) := by
  unfold Script.repeatItems
  infer_instance

instance repeated? (value : Value) (count : Int) : Obeys discipline (repeated? value count) := by
  unfold Script.repeated?
  dsimp only
  split <;> infer_instance

instance wholeNumber (letter : Char) (value : Value) :
    Obeys discipline (wholeNumber letter value) := by
  unfold Script.wholeNumber
  split <;> try infer_instance
  split <;> infer_instance

instance realNumber (value : Value) : Obeys discipline (realNumber value) := by
  unfold Script.realNumber
  split
  · infer_instance
  · split <;> try infer_instance
    split <;> infer_instance

instance take (supply : Supply) : Obeys discipline supply.take := by
  unfold Supply.take
  split <;> infer_instance

instance writeAt (isMarkup : Bool) (place : Place) (letter : Char) (index : Nat) (value : Value) :
    Obeys discipline (writeAt isMarkup place letter index value) := by
  unfold Script.writeAt
  split <;> try infer_instance
  dsimp only
  split <;> infer_instance

instance valueNamed (whole : Value) (name : List Char) :
    Obeys discipline (valueNamed whole name) := by
  unfold Script.valueNamed
  split <;> try infer_instance
  exact andThen fun entries => andThen fun found => by split <;> infer_instance

instance takeNamed (whole : Value) (text : List Char) : Obeys discipline (takeNamed whole text) := by
  unfold Script.takeNamed
  split
  · dsimp only
    refine of_ite inferInstance ?_
    split <;> infer_instance
  · infer_instance

instance takeWidth (place : Place) (supply : Supply) (text : List Char) :
    Obeys discipline (takeWidth place supply text) := by
  unfold Script.takeWidth
  split <;> infer_instance

instance takePrecision (place : Place) (supply : Supply) (text : List Char) :
    Obeys discipline (takePrecision place supply text) := by
  unfold Script.takePrecision
  split <;> infer_instance

instance valueFor (supply : Supply) (named : Option Value) :
    Obeys discipline (supply.valueFor named) := by
  unfold Supply.valueFor
  split <;> infer_instance

instance fillIn (isMarkup : Bool) (length : Nat) (whole : Value) (fuel : Nat) (supply : Supply)
    (text : List Char) : Obeys discipline (fillIn isMarkup length whole fuel supply text) := by
  induction fuel generalizing supply text with
  | zero =>
    unfold Script.fillIn
    infer_instance
  | succ fuel ih =>
    unfold Script.fillIn
    split
    · infer_instance
    · split <;> infer_instance
    · cases ‹_ + 1 = _›
      infer_instance
    · cases ‹_ + 1 = _›
      refine andThen fun named => andThen fun width => andThen fun precision => ?_
      dsimp only
      split <;> infer_instance
    · cases ‹_ + 1 = _›
      infer_instance

instance formatText (content : List Char) (isMarkup : Bool) (value : Value) :
    Obeys discipline (formatText content isMarkup value) := by
  unfold Script.formatText
  infer_instance

instance multiply (left right : Value) : Obeys discipline (multiply left right) := by
  have times (items other : Value) : Obeys discipline (do
      match other.number? with
      | some (.int count) => Script.repeated? items count
      | _ => do
        match ← Script.repeated? items 0 with
        | some _ => do kindTrouble (.multiplication (← kindOf other))
        | none => return none) := by
    split
    · infer_instance
    · exact andThen fun found => by cases found <;> infer_instance
  refine (times left right).bind fun found => ?_
  split
  · infer_instance
  · refine (times right left).bind fun found => ?_
    split <;> infer_instance

instance operate (operation : Arithmetic) (left right : Value) :
    Obeys discipline (operate operation left right) := by
  unfold Script.operate
  split
  · infer_instance
  · split <;> infer_instance

instance signed (isMinus : Bool) (value : Value) : Obeys discipline (signed isMinus value) := by
  unfold Script.signed
  split
  · infer_instance
  · split <;> infer_instance

end FormLetter.Script.Obeys
