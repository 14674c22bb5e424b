import FormLetter.Script.Value

/-!
# Taking items

How the items of a value are taken one by one. A list is followed as it is, so items that are added
on the way are met too; the entries of a dictionary must not change their number on the way. What
has been taken from a cursor is gone for everyone who holds it.
-/

namespace FormLetter.Script

/-- The number of integers in a range. -/
def rangeLength (start stop step : Int) : Nat :=
  if 0 < step then ((stop - start + step - 1).fdiv step).toNat
  else ((start - stop - step - 1).fdiv (-step)).toNat

/-- What a view shows of an entry. -/
def ViewKind.show (kind : ViewKind) (entry : Value × Value) : Value :=
  match kind with
  | .keys => entry.1
  | .values => entry.2
  | .items => .tuple [entry.1, entry.2]

/-- The cursor over the items of a value: its characters, its items, its keys. -/
def cursorOf (value : Value) : Local Address :=
  let start (cursor : Cursor) : Local Address := allocate (.cursor cursor)
  match value with
  | .text content _ => start (.items (content.map fun c => .plain [c]))
  | .tuple items => start (.items items)
  | .list place => start (.forward place 0)
  | .dict place => do start (.entries .keys place 0 (← dictAt place).length)
  | .view kind place => do start (.entries kind place 0 (← dictAt place).length)
  | .range first stop step => start (.counting first step (rangeLength first stop step))
  | .cursor place => return place
  | .undefined missing => do
    useMissing missing
    start (.items [])
  | other => do kindTrouble (.notIterable (← kindOf other))

/-- The cursor at an address. -/
def cursorAt (place : Address) : Local Cursor := do
  match ← fetch place with
  | .cursor cursor => return cursor
  | _ => return .items []

/-- Takes the next item, if there is one. A cursor that is at its end stays there. -/
def advance (place : Address) : Local (Option Value) := do
  let move (cursor : Cursor) : Local Unit := keep place (.cursor cursor)
  match ← cursorAt place with
  | .items [] => return none
  | .items (first :: rest) => do
    move (.items rest)
    return some first
  | .forward list index => do
    match (← listAt list)[index]? with
    | some item => do
      move (.forward list (index + 1))
      return some item
    | none => do
      move (.items [])
      return none
  | .backward list count => do
    match count, (← listAt list)[count - 1]? with
    | rest + 1, some item => do
      move (.backward list rest)
      return some item
    | _, _ => do
      move (.items [])
      return none
  | .entries kind dict index size => do
    let entries ← dictAt dict
    if entries.length != size then trouble .changedSize
    else
      match entries[index]? with
      | some entry => do
        move (.entries kind dict (index + 1) size)
        return some (kind.show entry)
      | none => do
        move (.items [])
        return none
  | .counting next step count => do
    match count with
    | 0 => return none
    | rest + 1 => do
      move (.counting (next + step) step rest)
      return some (.int next)

/-- Takes all items that are left. -/
def drain (place : Address) : Local (List Value) := do
  let cursor ← cursorAt place
  let rest ← match cursor with
    | .items rest => pure rest
    | .forward list index => return (← listAt list).drop index
    | .backward list count => do
      let items ← listAt list
      pure (if items.length < count then [] else (items.take count).reverse)
    | .entries kind dict index size => do
      let entries ← dictAt dict
      if entries.length != size then trouble .changedSize
      else pure ((entries.drop index).map kind.show)
    | .counting next step count =>
      pure ((List.range count).map fun (n : Nat) => .int (next + step * n))
  keep place (.cursor (.items []))
  return rest

/-- All items of a value. -/
def collect (value : Value) : Local (List Value) := do
  drain (← cursorOf value)

/-! ## Loops -/

/-- The state of a loop. -/
def loopAt (place : Address) : Local LoopState := do
  match ← fetch place with
  | .loop state => return state
  | _ => return default

/-- The item after the current one of a loop, if there is one. It is not lost by being looked
at. -/
def lookAhead (place : Address) : Local (Option Value) := do
  let state ← loopAt place
  match state.ahead with
  | some item => return some item
  | none => do
    let next ← advance state.cursor
    keep place (.loop { state with ahead := next })
    return next

/-- Goes on to the next item of a loop, if there is one. -/
def nextItem (place : Address) : Local (Option Value) := do
  let state ← loopAt place
  let next ← match state.ahead with
    | some item => pure (some item)
    | none => advance state.cursor
  match next with
  | none => return none
  | some item => do
    keep place (.loop
      { state with ahead := none, begun := state.begun + 1, before := state.current,
                   current := some item })
    return some item

/-- The length of a value, unless it is of a kind that has none. -/
def plainLength? (value : Value) : Local (Option Nat) :=
  match value with
  | .text content _ => return some content.length
  | .tuple items => return some items.length
  | .list place => return some (← listAt place).length
  | .dict place | .view _ place => return some (← dictAt place).length
  | .range start stop step => return some (rangeLength start stop step)
  | .undefined missing => do
    passMissing missing
    return some 0
  | _ => return none

/-- The number of items of a loop. Where the source does not tell, its items are counted and
kept. -/
def loopLength (place : Address) : Local Nat := do
  let state ← loopAt place
  match state.length with
  | some length => return length
  | none => do
    let length ← match ← plainLength? state.source with
      | some length => pure length
      | none => do
        let rest ← drain state.cursor
        keep state.cursor (.cursor (.items rest))
        pure (rest.length + state.begun + if state.ahead.isSome then 1 else 0)
    keep place (.loop { state with length := some length })
    return length

/-- The length of a value, unless it is of a kind that has none. -/
def length? (value : Value) : Local (Option Nat) :=
  match value with
  | .loop place => return some (← loopLength place)
  | other => plainLength? other

/-- The length of a value. -/
def lengthOf (value : Value) : Local Nat := do
  match ← length? value with
  | some length => return length
  | none => kindTrouble (.noLength (← kindOf value))

/-- True for a value that counts as true in a condition: any but nothing, zero, what is empty and
what is undefined. -/
def isTrue (value : Value) : Local Bool :=
  match value with
  | .none => return false
  | .bool value => return value
  | .int value => return value != 0
  | .float value => return value != 0.0
  | .undefined missing => do
    useMissing missing
    return false
  | other => do
    match ← length? other with
    | some length => return length != 0
    | none => return true

end FormLetter.Script
