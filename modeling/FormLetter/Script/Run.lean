import FormLetter.Script.Evaluate

/-!
# Running statements

What statements write, and how they change the variables around them. The line of the store is that
of the statement that is running, so that it tells where a failure arose. Macros are run by a
caller that is handed in; how deep they may call each other is its affair.
-/

namespace FormLetter.Script

open FormLetter.Text

variable {σ : Type} [World σ]

/-- What came of running statements: what they wrote, and whether the body of a loop was left. -/
structure Outcome where
  output : List Char
  leave : Option Leave

namespace Outcome

/-- Text that was written. -/
def wrote (output : List Char) : Outcome := ⟨output, none⟩

/-- Nothing was written. -/
def nothing : Outcome := ⟨[], none⟩

end Outcome

/-- The number of rounds after which a loop is given up. -/
def roundLimit : Nat := 1000000000

/-- What came of the rounds of a loop. -/
structure Rounds where
  /-- The texts that were written, the last one first. -/
  outputs : List (List Char)
  /-- True when a round came to the end of the body. -/
  completed : Bool

/-- Repeats a round until there is none or one is left for good, so many times at most. -/
def repeatRounds (round : M σ (Option Outcome)) : Nat → Rounds → M σ Rounds
  | 0, _ => trouble .recursion
  | limit + 1, rounds => do
    match ← round with
    | none => return rounds
    | some outcome =>
      let outputs := outcome.output :: rounds.outputs
      match outcome.leave with
      | none => repeatRounds round limit ⟨outputs, true⟩
      | some .next => repeatRounds round limit ⟨outputs, rounds.completed⟩
      | some .stop => return ⟨outputs, rounds.completed⟩

/-- Takes items until one passes a test, so many at most. -/
def takeWhere (take : M σ (Option Value)) (test : Value → M σ Bool) : Nat → M σ (Option Value)
  | 0 => trouble .recursion
  | limit + 1 => do
    match ← take with
    | none => return none
    | some item => if ← test item then return some item else takeWhere take test limit

/-! ## Assigning -/

/-- The values that a value is taken apart into. -/
def unpack (count : Nat) (value : Value) : Local (List Value) := do
  let isApart : Bool := match value with
    | .text .. | .tuple _ | .list _ | .dict _ | .view .. | .range .. | .cursor _
    | .undefined _ => true
    | _ => false
  if !isApart then kindTrouble (.notUnpackable (← kindOf value))
  else
    let items ← collect value
    if items.length < count then valueTrouble (.tooFewValues count items.length)
    else if count < items.length then valueTrouble (.tooManyValues count)
    else return items

/-- The frame and the field list of the namespace that a name stands for. -/
def spaceNamed (scope : Scope) (name : String) : Local Address := do
  let found ← match scope.symbols.find? name with
    | some slot => slotValue? scope slot
    | none => lookOutside? scope name
  match found with
  | some (.record .space place) => return place
  | _ => trouble .notNamespace

mutual

/-- Gives a target a value. -/
def Target.assign (scope : Scope) (value : Value) : Target → Local Unit
  | .name word =>
    match scope.frames with
    | [] => return ()
    | place :: _ => setVariable place word value
  | .place space field => do
    let place ← spaceNamed scope space
    let fields ← fieldsAt place
    keep place (.record
      (if (fields.lookup field).isSome then
        fields.map fun (known, old) => (known, if known == field then value else old)
      else fields ++ [(field, value)]))
  | .items parts => do assignAll scope (← unpack parts.length value) parts

/-- Gives several targets their values. -/
def assignAll (scope : Scope) (values : List Value) : List Target → Local Unit
  | [] => return ()
  | first :: rest => do
    match values with
    | [] => return ()
    | value :: values => do
      first.assign scope value
      assignAll scope values rest

end

/-- Makes variables that were set outside of all blocks known everywhere. -/
def exportNames (scope : Scope) (names : List String) : Local Unit := do
  match scope.frames with
  | place :: _ =>
    if scope.isTop then
      let bound ← variablesAt place
      names.forM fun name =>
        match bound.lookup name with
        | some value => exportValue name value
        | none => return ()
  | [] => return ()

namespace Scope

/-- A new scope inside of another one, with a frame of its own. -/
def enter (scope : Scope) (symbols : Symbols) : Local Scope := do
  let place ← allocate (.frame [])
  return { scope with symbols, frames := place :: scope.frames, isTop := false }

/-- The scope of a block, which sees what is known everywhere. With `isScoped`, it sees the
variables around it too. -/
def forBlock (scope : Scope) (isScoped : Bool) (body : List Statement) : Local Scope := do
  let locals ← if !isScoped then pure scope.locals else do
    let frames ← scope.frames.mapM variablesAt
    pure (frames.flatten ++ scope.locals)
  let place ← allocate (.frame [])
  return { scope with
    symbols := Symbols.root.statements body, frames := [place], locals, isTop := false }

end Scope

/-! ## Macros -/

/-- Fails because of the arguments that a macro is called with. -/
def routineTrouble {α : Type} (routine : Routine) (complaint : String) : Local α :=
  kindTrouble (.arguments ("macro " ++ Quoted.quote routine.name) complaint)

/-- The caller of a macro, if its body asks for it. -/
def callerOf (routine : Routine) (named : List (String × Value)) :
    Local (List (String × Value)) := do
  if !routine.special.contains "caller" then return []
  else
    match named.lookup "caller" with
    | some value => return [("caller", value)]
    | none => return [("caller", ← makeMissing (some (.text "caller")) "No caller defined")]

/-- The named arguments of a macro that no parameter has the name of, if its body asks for them. -/
def namedSurplus (routine : Routine) (named : List (String × Value)) :
    Local (List (String × Value)) := do
  if routine.special.contains "kwargs" then
    return [("kwargs", ← newDict (named.map fun (name, value) => (Value.ofString name, value)))]
  else
    match named with
    | [] => return []
    | (name, _) :: _ =>
      if (named.lookup "caller").isSome then
        routineTrouble routine
          (" was invoked with two values for the special caller argument. This is most likely "
            ++ "a bug.")
      else routineTrouble routine (" takes no keyword argument " ++ Quoted.quote name)

/-- The arguments of a macro that no parameter is left for, if its body asks for them. -/
def placedSurplus (routine : Routine) (positional : List Value) :
    Local (List (String × Value)) := do
  let count := routine.parameters.length
  let surplus := positional.drop count
  if routine.special.contains "varargs" then return [("varargs", .tuple surplus)]
  else if surplus.isEmpty then return []
  else routineTrouble routine (" takes not more than " ++ toString count ++ " argument(s)")

/-- The variables of a macro that is called with arguments. Parameters come first, then what the
body asks for of the rest. -/
def bindRoutine (routine : Routine) (given : Given) : Local (List (String × Value)) := do
  let left := routine.parameters.drop given.positional.length
  let byPosition := routine.parameters.zip given.positional
  let byName := left.filterMap fun name => (given.named.lookup name).map fun value => (name, value)
  let named := given.named.filter fun (name, _) => !left.contains name
  let caller ← callerOf routine named
  let rest ← namedSurplus routine
    (if routine.special.contains "caller" then named.filter (·.1 != "caller") else named)
  let more ← placedSurplus routine given.positional
  return byPosition ++ byName ++ caller ++ rest ++ more

section

variable (call : Value → Given → M σ Value)

/-- The value of a parameter of a macro that got no argument. -/
def defaultOf (scope : Scope) (name : String) (default : Option Expr) : M σ Value :=
  match default with
  | some found => found.evaluate call scope
  | none =>
    makeMissing (some (.text name)) ("parameter " ++ Quoted.quote name ++ " was not provided")

/-- Gives the parameters of a macro that got no argument their defaults, in order. -/
def fillDefaults (scope : Scope) (place : Address) (defaults : List (String × Option Expr)) :
    M σ Unit :=
  defaults.forM fun (name, default) => do
    if ((← variablesAt place).lookup name).isSome then return ()
    else setVariable place name (← defaultOf call scope name default)

/-- The value that is made of the text of a block by a filter, if there is one. -/
def throughFilter (scope : Scope) (output : List Char) (filter : Option Expr) : M σ Value :=
  match filter with
  | none => return .plain output
  | some found => found.evaluate call { scope with captured := output }

/-- A macro that is defined in a scope. -/
def routineOf (scope : Scope) (line : Nat) (name : String) (parameters : List String)
    (defaults : List Expr) (body : List Statement) : Local Value := do
  let special := specialNames parameters body
  let symbols := scope.symbols.macroBody parameters defaults special body
  return .routine (← allocate (.routine
    ⟨name, parameters, defaults, special, body, line, symbols, scope.frames⟩))

/-! ## Loops -/

/-- The scope in which the items of a loop are tested, with the test. -/
def guardScope (scope : Scope) (target : Target) :
    Option Expr → Local (Option (Scope × Expr))
  | none => return none
  | some guard => do
    let inner ← scope.enter (scope.symbols.loopGuard target guard)
    enterFrame inner
    return some (inner, guard)

/-- Tests an item of a loop. -/
def passes (target : Target) (inner : Scope) (guard : Expr) (item : Value) : M σ Bool := do
  setLine guard.line
  target.assign inner item
  isTrue (← guard.evaluate call inner)

/-- A round of a loop: its body, run with an item. -/
def enterRound (target : Target) (inner : Scope) (body : M σ Outcome)
    (given : List (String × Value)) (item : Value) : M σ (Option Outcome) := do
  keep (inner.frames.headD 0) (.frame given)
  enterFrame inner
  target.assign inner item
  return some (← body)

/-- What a loop that its body asks about goes through: all items are tested before the first
round. -/
def testedItems (target : Target) (guarded : Option (Scope × Expr)) (source : Value)
    (cursor : Address) : M σ (Value × Address) := do
  match guarded with
  | none => return (source, cursor)
  | some (inner, guard) => do
    let items ← (← drain cursor).filterM (passes call target inner guard)
    let kept ← allocate (.cursor (.items items))
    return (.cursor kept, kept)

/-- The state of a loop that its body asks about, before the first round. -/
def loopOver (source : Value) (cursor : Address) : Local Address :=
  allocate (.loop
    { source, cursor, begun := 0, before := none, current := none, ahead := none, depth := 0,
      length := none, watched := none })

/-- The next round of a loop that its body asks about. -/
def nextAsked (line : Nat) (loop : Address)
    (round : List (String × Value) → Value → M σ (Option Outcome)) : M σ (Option Outcome) := do
  setLine line
  match ← nextItem loop with
  | none => return none
  | some item => round [("loop", .loop loop)] item

/-- The next item of a loop that passes its test. -/
def nextPassing (target : Target) (guarded : Option (Scope × Expr)) (cursor : Address) :
    M σ (Option Value) :=
  match guarded with
  | none => advance cursor
  | some (inner, guard) => takeWhere (advance cursor) (passes call target inner guard) roundLimit

/-- The next round of a loop that nothing asks about. -/
def nextPlain (line : Nat) (target : Target) (guarded : Option (Scope × Expr)) (cursor : Address)
    (round : List (String × Value) → Value → M σ (Option Outcome)) : M σ (Option Outcome) := do
  setLine line
  let next ← nextPassing call target guarded cursor
  setLine line
  match next with
  | none => return none
  | some item => round [] item

/-- All rounds of a loop. -/
def runRounds (isAsked : Bool) (line : Nat) (target : Target) (guarded : Option (Scope × Expr))
    (source : Value) (cursor : Address)
    (round : List (String × Value) → Value → M σ (Option Outcome)) : M σ Rounds :=
  if isAsked then do
    let (source, cursor) ← testedItems call target guarded source cursor
    let loop ← loopOver source cursor
    repeatRounds (nextAsked line loop round) roundLimit ⟨[], false⟩
  else repeatRounds (nextPlain call line target guarded cursor round) roundLimit ⟨[], false⟩

/-! ## Statements -/

mutual

/-- Runs a statement. -/
def Statement.run (scope : Scope) : Statement → M σ Outcome
  | .text content => return .wrote content
  | .print value => do
    setLine value.line
    return .wrote (← textOf (← value.evaluate call scope))
  | .branch line test body orElse => do
    setLine line
    if ← isTrue (← test.evaluate call scope) then runAll scope body else runAll scope orElse
  | .loop line target source guard body orElse => do
    setLine line
    let isAsked := asksForLoop body
    let source ← source.evaluate call scope
    let cursor ← cursorOf source
    let guarded ← guardScope scope target guard
    let inner ← scope.enter (scope.symbols.loopBody target isAsked body)
    let round := enterRound target inner (runAll inner body)
    let rounds ← runRounds call isAsked line target guarded source cursor round
    let output := rounds.outputs.reverse.flatten
    if rounds.completed || orElse.isEmpty then return .wrote output
    else
      let other ← scope.enter (scope.symbols.inside orElse)
      enterFrame other
      let outcome ← runAll other orElse
      return { outcome with output := output ++ outcome.output }
  | .leave _ how => return ⟨[], some how⟩
  | .assign line target value => do
    checkSpaces scope target
    setLine line
    target.assign scope (← value.evaluate call scope)
    exportNames scope (Check.setNames target)
    return .nothing
  | .capture line target filter body => do
    let inner ← scope.enter (scope.symbols.inside body)
    enterFrame inner
    let outcome ← runAll inner body
    setLine line
    target.assign scope (← throughFilter call scope outcome.output filter)
    exportNames scope (Check.setNames target)
    return .nothing
  | .evaluate line value => do
    setLine line
    let _ ← value.evaluate call scope
    return .nothing
  | .bind _ targets values body => do
    let inner ← scope.enter (scope.symbols.bound targets body)
    enterFrame inner
    (targets.zip values).forM fun (target, value) => do
      target.assign inner (← value.evaluate call scope)
    runAll inner body
  | .define line name parameters defaults body => do
    setLine line
    let value ← routineOf scope line name parameters defaults body
    Target.assign scope value (.name name)
    exportNames scope [name]
    return .nothing
  | .wrap line parameters defaults callee body => do
    setLine line
    let caller ← routineOf scope line "caller" parameters defaults body
    match callee with
    | .call _ callee given => do
      let callee ← callee.evaluate call scope
      let given ← given.evaluate call scope
      let result ← call callee { given with named := given.named ++ [("caller", caller)] }
      return .wrote (← textOf result)
    | _ => return .nothing
  | .filtered line filter body => do
    let inner ← scope.enter (scope.symbols.inside body)
    enterFrame inner
    let outcome ← runAll inner body
    setLine line
    return .wrote (← textOf (← throughFilter call inner outcome.output (some filter)))
  | .block line name isScoped isRequired body => do
    setLine line
    if isRequired then trouble (.requiredBlock name)
    else
      let inner ← scope.forBlock isScoped body
      enterFrame inner
      let outcome ← runAll inner body
      return .wrote outcome.output
  | .outside line _ template _ => do
    setLine line
    let _ ← template.evaluate call scope
    kindTrouble .noLoader
where
  /-- Fails unless all places of a target are members of namespaces. -/
  checkSpaces (scope : Scope) (target : Target) : Local Unit :=
    target.names.forM fun (isRead, name) => do
      if isRead then let _ ← spaceNamed scope name

/-- Runs statements in turn, up to one with which the body of a loop is left. -/
def runAll (scope : Scope) : List Statement → M σ Outcome
  | [] => return .nothing
  | first :: rest => do
    let outcome ← first.run scope
    match outcome.leave with
    | some _ => return outcome
    | none => do
      let others ← runAll scope rest
      return { others with output := outcome.output ++ others.output }

end

/-- Runs a macro with arguments. -/
def runRoutine (bound locals : List (String × Value)) (blocks : List String)
    (routine : Routine) (given : Given) : M σ Value := do
  let place ← allocate (.frame (← bindRoutine routine given))
  let scope : Scope :=
    { symbols := routine.symbols, frames := place :: routine.frames, bound, locals, blocks,
      isTop := false, captured := [] }
  let line ← currentLine
  setLine routine.line
  enterFrame scope
  let needed := routine.parameters.length - routine.defaults.length
  let defaults := List.replicate needed none ++ routine.defaults.map some
  fillDefaults call scope place (routine.parameters.zip defaults)
  let outcome ← runAll call scope routine.body
  setLine line
  return .plain outcome.output

end

end FormLetter.Script
