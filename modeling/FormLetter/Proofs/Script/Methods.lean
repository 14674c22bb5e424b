import FormLetter.Proofs.Script.Values
import FormLetter.Script.Filter

/-!
# Members, methods and filters

What a value has under a name, what its methods do and what filters and tests make of it obeys
every discipline that the steps on the heap obey.
-/

namespace FormLetter.Script.Obeys

variable {discipline : Discipline}

/-! ## Members and items -/

instance memberOfLoop? (place : Address) (name : String) :
    Obeys discipline (memberOfLoop? place name) := by
  refine andThen fun state => ?_
  split <;> try infer_instance
  · split <;> infer_instance
  · exact andThen fun next => by split <;> infer_instance

instance memberOf? (value : Value) (name : String) : Obeys discipline (memberOf? value name) := by
  unfold Script.memberOf?
  dsimp only
  split <;> try infer_instance
  · exact andThen fun fields => by split <;> infer_instance
  · exact andThen fun cell => by split <;> infer_instance
  · exact andThen fun outlook => by split <;> infer_instance

instance itemOf? (value index : Value) : Obeys discipline (itemOf? value index) := by
  unfold Script.itemOf?
  dsimp only
  split <;> try infer_instance
  · exact andThen fun kind => by split <;> infer_instance
  · split <;> infer_instance

instance lackingMember (value : Value) (name : String) :
    Obeys discipline (lackingMember value name) := by
  unfold Script.lackingMember
  infer_instance

instance lackingItem (value index : Value) : Obeys discipline (lackingItem value index) := by
  unfold Script.lackingItem
  split <;> infer_instance

instance member (value : Value) (name : String) : Obeys discipline (member value name) := by
  refine andThen fun found => ?_
  split
  · infer_instance
  · exact andThen fun found => by split <;> infer_instance

instance item (value index : Value) : Obeys discipline (item value index) := by
  refine andThen fun found => ?_
  split
  · infer_instance
  · split
    · exact andThen fun found => by split <;> infer_instance
    · infer_instance

instance follow (path : List Value) (value : Value) : Obeys discipline (follow path value) := by
  unfold Script.follow
  infer_instance

instance sliceBound (bound : Value) : Obeys discipline (sliceBound bound) := by
  unfold Script.sliceBound
  split <;> infer_instance

instance slice (value start stop step : Value) : Obeys discipline (slice value start stop step) := by
  unfold Script.slice
  dsimp only
  split <;> infer_instance

/-! ## Arguments -/

instance bindParameters (callee : String) (given : Given) (parameters : List Parameter)
    (own : Nat) : Obeys discipline (bindParameters callee given parameters own) := by
  unfold Script.bindParameters
  infer_instance

/-! ## Methods -/

instance textArgument (callee : String) (value : Value) :
    Obeys discipline (textArgument callee value) := by
  unfold Script.textArgument
  split <;> infer_instance

instance handed (callee : String) (isMarkup : Bool) (value : Value) :
    Obeys discipline (handed callee isMarkup value) := by
  unfold Script.handed
  split <;> infer_instance

instance wholeArgument (value : Value) : Obeys discipline (wholeArgument value) := by
  unfold Script.wholeArgument
  split <;> infer_instance

instance limitArgument (value : Value) : Obeys discipline (limitArgument value) := by
  unfold Script.limitArgument
  infer_instance

instance window (content : List Char) (start stop : Value) :
    Obeys discipline (window content start stop) := by
  unfold Script.window
  infer_instance

instance joinAll (isMarkup : Bool) (separator : List Char) (items : List Value) :
    Obeys discipline (joinAll isMarkup separator items) := by
  unfold Script.joinAll
  refine (of_mapM fun part => ?_).bind inferInstance
  dsimp only
  split <;> infer_instance

instance standsAt (callee : String) (test : List Char → Bool) (wanted : Value) :
    Obeys discipline (standsAt callee test wanted) := by
  unfold Script.standsAt
  split <;> infer_instance

instance stripMethod (content : List Char) (isMarkup : Bool) (name : String) (given : Given)
    (fromLeft fromRight : Bool) :
    Obeys discipline (stripMethod content isMarkup name given fromLeft fromRight) := by
  unfold Script.stripMethod
  refine andThen fun values => ?_
  split
  · dsimp only
    split <;> infer_instance
  · infer_instance

instance searchMethod (content : List Char) (name : String) (given : Given) :
    Obeys discipline (searchMethod content name given) := by
  unfold Script.searchMethod
  exact andThen fun values => by split <;> infer_instance

instance textMethod (content : List Char) (isMarkup : Bool) (name : String) (given : Given) :
    Obeys discipline (textMethod content isMarkup name given) := by
  unfold Script.textMethod
  dsimp only
  split <;> try infer_instance
  all_goals
    refine andThen fun values => ?_
    split <;> try infer_instance
  exact andThen fun limit => by split <;> infer_instance

instance placeOfItem? (wanted : Value) (items : List Value) :
    Obeys discipline (placeOfItem? wanted items) := by
  induction items with
  | nil =>
    unfold Script.placeOfItem?
    infer_instance
  | cons first rest ih =>
    unfold Script.placeOfItem?
    infer_instance

instance countItems (wanted : Value) (items : List Value) :
    Obeys discipline (countItems wanted items) := by
  induction items with
  | nil =>
    unfold Script.countItems
    infer_instance
  | cons first rest ih =>
    unfold Script.countItems
    infer_instance

instance itemsMethod (items : List Value) (name : String) (given : Given) :
    Obeys discipline (itemsMethod items name given) := by
  unfold Script.itemsMethod
  dsimp only
  split
  · exact andThen fun values => by split <;> infer_instance
  · refine andThen fun values => ?_
    split
    · exact andThen fun first => andThen fun last => andThen fun place => by split <;> infer_instance
    · infer_instance

instance listMethod (place : Address) (name : String) (given : Given) :
    Obeys discipline (listMethod place name given) := by
  refine andThen fun items => ?_
  dsimp only
  split <;> try infer_instance
  all_goals
    refine andThen fun values => ?_
    split <;> try infer_instance
  · refine andThen fun index => of_ite inferInstance ?_
    split <;> infer_instance
  · exact andThen fun place => by split <;> infer_instance

instance entriesOf (value : Value) : Obeys discipline (entriesOf value) := by
  unfold Script.entriesOf
  split
  · infer_instance
  · refine andThen fun items => of_mapM fun part => ?_
    dsimp only
    refine andThen fun length => ?_
    split
    · infer_instance
    · exact andThen fun parts => by split <;> infer_instance

instance givenEntries (callee : String) (given : Given) :
    Obeys discipline (givenEntries callee given) := by
  unfold Script.givenEntries
  dsimp only
  split <;> infer_instance

instance dictMethod (place : Address) (name : String) (given : Given) :
    Obeys discipline (dictMethod place name given) := by
  refine andThen fun entries => ?_
  dsimp only
  split <;> try infer_instance
  · exact andThen fun values => by split <;> infer_instance
  · refine andThen fun values => ?_
    split
    · exact andThen fun found => by split <;> infer_instance
    · infer_instance
  · split
    · exact andThen fun found => by split <;> infer_instance
    · exact andThen fun found => by split <;> infer_instance
    · infer_instance
  · exact andThen fun values => by split <;> infer_instance

instance loopMethod (place : Address) (name : String) (given : Given) :
    Obeys discipline (loopMethod place name given) := by
  refine andThen fun state => ?_
  split <;> try infer_instance
  dsimp only
  split <;> infer_instance

instance callBuiltin (name : String) (given : Given) :
    Obeys discipline (callBuiltin name given) := by
  unfold Script.callBuiltin
  split <;> try infer_instance
  exact andThen fun bounds => by split <;> infer_instance

/-! ## Filters -/

instance toInt (value default base : Value) : Obeys discipline (toInt value default base) := by
  unfold Script.toInt
  split
  · exact andThen fun base => by split <;> infer_instance
  · infer_instance
  · split <;> infer_instance

instance scaledBy (value scale : Value) : Obeys discipline (scaledBy value scale) := by
  unfold Script.scaledBy
  split <;> infer_instance

instance wholeBeside (isUp : Bool) (value : Value) : Obeys discipline (wholeBeside isUp value) := by
  unfold Script.wholeBeside
  split
  · split <;> infer_instance
  · infer_instance

instance roundAside (isUp : Bool) (value : Value) (places : Int) :
    Obeys discipline (roundAside isUp value places) := by
  unfold Script.roundAside
  split
  · infer_instance
  · refine andThen fun scale => andThen fun scaled => andThen fun whole => ?_
    split <;> infer_instance

instance roundValue (value places direction : Value) :
    Obeys discipline (roundValue value places direction) := by
  unfold Script.roundValue
  refine andThen fun places => ?_
  split
  · split <;> try infer_instance
    split <;> infer_instance
  · infer_instance

instance followAll (path : Value) (items : List Value) : Obeys discipline (followAll path items) := by
  unfold Script.followAll
  split <;> infer_instance

instance sortKey (keepCase : Bool) (paths : List (List Value)) (item : Value) :
    Obeys discipline (sortKey keepCase paths item) := by
  unfold Script.sortKey
  infer_instance

instance backwards? (value : Value) : Obeys discipline (backwards? value) := by
  unfold Script.backwards?
  dsimp only
  split <;> infer_instance

instance firstOr (place : Address) (message : String) : Obeys discipline (firstOr place message) :=
  andThen fun found => by cases found <;> infer_instance

instance softText (value : Value) : Obeys discipline (softText value) := by
  unfold Script.softText
  split <;> infer_instance

instance applyPlainFilter (name : String) (value : Value) (given : Given) :
    Obeys discipline (applyPlainFilter name value given) := by
  unfold Script.applyPlainFilter
  dsimp only
  split <;> try infer_instance
  -- The last item is the only one for which the arguments are not taken apart.
  case h_17 => exact andThen fun values => andThen fun found => by split <;> infer_instance
  all_goals
    refine andThen fun values => ?_
    split <;> try infer_instance
  · exact andThen fun content => andThen fun old => andThen fun new => by split <;> infer_instance
  · split <;> infer_instance
  · split <;> infer_instance
  · exact andThen fun found => by split <;> infer_instance
  · exact andThen fun items => andThen fun found => by split <;> infer_instance

instance mapItems (value : Value) (given : Given) : Obeys discipline (mapItems value given) := by
  unfold Script.mapItems
  split
  · dsimp only
    split
    · infer_instance
    · refine andThen fun items => andThen fun found => of_mapM fun item => ?_
      split <;> infer_instance
  · infer_instance
  · infer_instance

instance applyFilter (name : String) (value : Value) (given : Given) :
    Obeys discipline (applyFilter name value given) := by
  unfold Script.applyFilter
  infer_instance

/-! ## Tests -/

instance hasRemainder (value divisor : Value) (rest : Int) :
    Obeys discipline (hasRemainder value divisor rest) := by
  unfold Script.hasRemainder
  infer_instance

instance applyTest (name : String) (value : Value) (given : Given) :
    Obeys discipline (applyTest name value given) := by
  unfold Script.applyTest
  dsimp only
  split <;> try infer_instance
  · split <;> infer_instance
  all_goals
    refine andThen fun values => ?_
    split <;> infer_instance

end FormLetter.Script.Obeys
