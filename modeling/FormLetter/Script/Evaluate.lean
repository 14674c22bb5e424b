import FormLetter.Script.Check

/-!
# Evaluating expressions

What an expression is worth in a scope. Operands are evaluated from the left, and only as far as
they are needed: a conditional looks at one branch, and a chain of comparisons stops at the first
that fails.
-/

namespace FormLetter.Script

open FormLetter.Text

/-- Where a piece of a template runs. -/
structure Scope where
  symbols : Symbols
  /-- The frames around, the innermost first. -/
  frames : List Address
  /-- The names that the template is rendered with. -/
  bound : List (String × Value)
  /-- The variables of the frames around a block that sees them. -/
  locals : List (String × Value)
  /-- The names of the blocks of the template. -/
  blocks : List String
  /-- True where a variable that is set can be seen from everywhere. -/
  isTop : Bool
  /-- The text of the block that a filter stands at. -/
  captured : List Char

namespace Scope

/-- The frame of a slot. -/
def frame? (scope : Scope) (slot : Slot) : Option Address :=
  scope.frames.reverse[slot.depth]?

end Scope

/-- The variables of a frame. -/
def variablesAt (place : Address) : Local (List (String × Value)) := do
  match ← fetch place with
  | .frame bound => return bound
  | _ => return []

/-- Gives a variable of a frame a value. -/
def setVariable (place : Address) (name : String) (value : Value) : Local Unit := do
  let bound ← variablesAt place
  keep place (.frame ((name, value) :: bound.filter (·.1 != name)))

/-- What a name stands for outside of all frames, if for anything. One name always stands for the
blocks of the template, whatever the template is rendered with. -/
def lookOutside? (scope : Scope) (name : String) : Local (Option Value) := do
  if name == "self" then return some (.blocks scope.blocks)
  else
    match scope.locals.lookup name, ← exported? name, scope.bound.lookup name with
    | some value, _, _ | none, some value, _ | none, none, some value => return some value
    | none, none, none =>
      return if builtinNames.contains name then some (.builtin name) else none

/-- The value of a slot, if it has one. -/
def slotValue? (scope : Scope) (slot : Slot) : Local (Option Value) := do
  match scope.frame? slot with
  | some place => return (← variablesAt place).lookup slot.name
  | none => return none

/-- Gives the variables of the innermost frame their first values. Those that whoever enters it
gives are left as they are. -/
def enterFrame (scope : Scope) : Local Unit := do
  match scope.frames with
  | [] => return ()
  | place :: _ => do
    let given ← variablesAt place
    let entered ← scope.symbols.inner.loads.filterMapM fun (name, load) => do
      let value ← match load with
        | .parameter => pure (given.lookup name)
        | .lookUp => lookOutside? scope name
        | .copy slot => slotValue? scope slot
        | .empty => pure none
      return value.map fun value => (name, value)
    keep place (.frame entered)

/-- The value of a name. -/
def readName (scope : Scope) (name : String) : Local Value := do
  let found ← match scope.symbols.find? name with
    | some slot => slotValue? scope slot
    | none => lookOutside? scope name
  match found with
  | some value => return value
  | none => unknownName name

/-- The value of a constant. -/
def Constant.value : Constant → Value
  | .none => .none
  | .bool value => .bool value
  | .int value => .int value
  | .float value => .float value
  | .text value => .plain value

/-- Keys and values by turns, as pairs. -/
def pairUp : List Value → List (Value × Value)
  | key :: value :: rest => (key, value) :: pairUp rest
  | _ => []

/-- Tells whether a comparison holds. -/
def compareBy (comparison : Comparison) (left right : Value) : Local Bool := do
  match comparison with
  | .eq => equals left right
  | .ne => return !(← equals left right)
  | .lt => isOrdered .lt left right
  | .le => isOrdered .le left right
  | .gt => isOrdered .gt left right
  | .ge => isOrdered .ge left right
  | .isIn => holds right left
  | .notIn => return !(← holds right left)

/-- The texts of values, one after the other. -/
def concatenate (values : List Value) : Local Value := do
  return .plain (← values.mapM textOf).flatten

/-- The named arguments that a value gives. -/
def namedArguments (value : Value) : Local (List (String × Value)) := do
  match value with
  | .none => return []
  | .dict place => do
    (← dictAt place).mapM fun (key, value) => do
      match key with
      | .text name _ => return (String.ofList name, value)
      | _ => argumentTrouble "function" ": keywords must be strings"
  | .undefined missing => refuse missing
  | other => do
    argumentTrouble "function"
      (" argument after ** must be a mapping, not " ++ (← kindOf other))

/-- The arguments of a call as a macro or a method gets them. -/
def givenOf (positional : List Value) (rest : Option Value) (names : List String)
    (values : List Value) (restNamed : Option Value) : Local Given := do
  let more ← match rest with
    | none => pure []
    | some rest => collect rest
  let moreNamed ← match restNamed with
    | none => pure []
    | some rest => namedArguments rest
  let named := names.zip values
  match moreNamed.find? fun (name, _) => (named.lookup name).isSome with
  | some (name, _) =>
    argumentTrouble "function"
      (" got multiple values for keyword argument " ++ Quoted.quote name)
  | none => return ⟨positional ++ more, named ++ moreNamed⟩

section

variable {σ : Type} [World σ] (call : Value → Given → M σ Value)

mutual

/-- The value of an expression. `call` is how values are called. -/
def Expr.evaluate (scope : Scope) : Expr → M σ Value
  | .name _ word => readName scope word
  | .constant _ found => return found.value
  | .tuple _ items => return .tuple (← evaluateAll scope items)
  | .list _ items => do newList (← evaluateAll scope items)
  | .dict _ parts => do newDict (← enterAll [] (pairUp (← evaluateAll scope parts)))
  | .conditional line test body orElse => do
    if ← isTrue (← test.evaluate scope) then body.evaluate scope
    else
      match ← evaluateOption scope orElse with
      | some value => return value
      | none =>
        makeMissing none
          ("the inline if-expression on line " ++ toString line
            ++ " evaluated to false and no else section was defined.") true
  | .either _ left right => do
    let value ← left.evaluate scope
    if ← isTrue value then return value else right.evaluate scope
  | .both _ left right => do
    let value ← left.evaluate scope
    if ← isTrue value then right.evaluate scope else return value
  | .negation _ operand => do return .bool !(← isTrue (← operand.evaluate scope))
  | .compare _ first operators operands => do
    return .bool (← compareAll scope (← first.evaluate scope) operators operands)
  | .arithmetic _ operation left right => do
    let left ← left.evaluate scope
    operate operation left (← right.evaluate scope)
  | .concat _ items => do concatenate (← evaluateAll scope items)
  | .minus _ operand => do signed true (← operand.evaluate scope)
  | .plus _ operand => do signed false (← operand.evaluate scope)
  | .member _ subject name => do Script.member (← subject.evaluate scope) name
  | .item _ subject index => do
    let subject ← subject.evaluate scope
    Script.item subject (← index.evaluate scope)
  | .slice _ subject start stop step => do
    let subject ← subject.evaluate scope
    let start ← evaluateOption scope start
    let stop ← evaluateOption scope stop
    let step ← evaluateOption scope step
    Script.slice subject (start.getD .none) (stop.getD .none) (step.getD .none)
  | .call _ callee given => do
    let callee ← callee.evaluate scope
    call callee (← given.evaluate scope)
  | .filter _ subject name given => do
    let subject ← subject.evaluate scope
    applyFilter name subject (← given.evaluate scope)
  | .test _ subject name given => do
    let subject ← subject.evaluate scope
    return .bool (← applyTest name subject (← given.evaluate scope))
  | .captured _ => return .plain scope.captured
  | .place _ _ _ => return .none

/-- The values of several expressions. -/
def evaluateAll (scope : Scope) : List Expr → M σ (List Value)
  | [] => return []
  | first :: rest => do
    let value ← first.evaluate scope
    return value :: (← evaluateAll scope rest)

/-- The value of an expression, if there is one. -/
def evaluateOption (scope : Scope) : Option Expr → M σ (Option Value)
  | none => return none
  | some found => do return some (← found.evaluate scope)

/-- Tells whether a chain of comparisons holds from a value on. -/
def compareAll (scope : Scope) (left : Value) (operators : List Comparison) :
    List Expr → M σ Bool
  | [] => return true
  | first :: rest => do
    let right ← first.evaluate scope
    match operators with
    | [] => return true
    | operator :: operators => do
      if ← compareBy operator left right then compareAll scope right operators rest
      else return false

/-- The values of the arguments of a call. -/
def Arguments.evaluate (scope : Scope) : Arguments → M σ Given
  | .mk positional names values rest restNamed => do
    let positional ← evaluateAll scope positional
    let rest ← evaluateOption scope rest
    let values ← evaluateAll scope values
    let restNamed ← evaluateOption scope restNamed
    givenOf positional rest names values restNamed

end

end

end FormLetter.Script
