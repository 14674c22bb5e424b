import FormLetter.Decimal.Rounding
import FormLetter.Script.Show
import FormLetter.Text.Search

/-!
# Comparing values

When values are equal, which of two comes first, and what a value holds. Numbers are compared by
what they are worth, whole or not. Inside of lists, a value equals itself without being asked.
-/

namespace FormLetter.Script

open FormLetter.Text

/-- A number, whole or not. -/
inductive Number where
  | int (value : Int)
  | float (value : Float)
  deriving Inhabited

/-- The number that a value is. Truth values are the numbers zero and one. -/
def Value.number? : Value → Option Number
  | .bool value => some (.int (if value then 1 else 0))
  | .int value => some (.int value)
  | .float value => some (.float value)
  | _ => Option.none

/-- The order of two numbers, unless one of them is none at all. -/
def Number.compare? : Number → Number → Option Ordering
  | .int left, .int right => some (compare left right)
  | .int left, .float right => Decimal.compareInt? left right
  | .float left, .int right => (Decimal.compareInt? right left).map Ordering.swap
  | .float left, .float right =>
    if left < right then some .lt
    else if right < left then some .gt
    else if left == right then some .eq else none

/-- True for values that are one and the same. Numbers and texts that are equal count as one. -/
def Value.isSame : Value → Value → Bool
  | .none, .none => true
  | .bool left, .bool right => left == right
  | .int left, .int right => left == right
  | .float left, .float right => left == right
  | .text left leftMarkup, .text right rightMarkup => left == right && leftMarkup == rightMarkup
  | .undefined left, .undefined right => left.identity == right.identity
  | .list left, .list right | .dict left, .dict right | .cursor left, .cursor right
  | .loop left, .loop right | .routine left, .routine right => left == right
  | .record _ left, .record _ right => left == right
  | .builtin left, .builtin right | .block left, .block right => left == right
  | .object left leftKind, .object right rightKind => left == right && leftKind == rightKind
  | .blocks _, .blocks _ => true
  | _, _ => false

/-- Compares an undefined value with another value. Two of them are equal when they are of one
kind. -/
def equalsMissing (missing : Missing) (other : Value) : Local Bool := do
  match other with
  | .undefined found => do
    if !(missing.isPlain && found.isPlain) then
      passMissing (if missing.isPlain then found else missing)
    return missing.isPlain == found.isPlain
  | _ => do
    passMissing missing
    return false

/-- Tells whether all members of a list pass a test, up to the first that does not. -/
def allM' {α : Type} (test : α → Local Bool) : List α → Local Bool
  | [] => return true
  | first :: rest => do
    if ← test first then allM' test rest else return false

/-- Tells whether values are equal, nested so deep at most. -/
def equalsWithin : Nat → Value → Value → Local Bool
  | 0, _, _ => trouble .recursion
  | depth + 1, left, right => do
    let inside (left right : Value) : Local Bool :=
      if left.isSame right then return true else equalsWithin depth left right
    match left, right with
    | .undefined missing, other => equalsMissing missing other
    | other, .undefined missing => equalsMissing missing other
    | .none, .none => return true
    | .text left _, .text right _ => return left == right
    | .tuple left, .tuple right =>
      if ← allM' (fun (left, right) => inside left right) (left.zip right) then
        return left.length == right.length
      else return false
    | .list left, .list right => do
      let left ← listAt left
      let right ← listAt right
      if left.length != right.length then return false
      else allM' (fun (left, right) => inside left right) (left.zip right)
    | .dict left, .dict right => do
      let left ← dictAt left
      let right ← dictAt right
      if left.length != right.length then return false
      else
        left.foldlM (fun (holds : Bool) (key, value) => do
          if !holds then return false
          else
            let found ← right.foldlM (fun (found : Option Value) (other, value) => do
              match found with
              | some _ => return found
              | none => if ← inside key other then return some value else return none) none
            match found with
            | none => return false
            | some other => inside value other) true
    | .range start stop step, .range otherStart otherStop otherStep =>
      let length := rangeLength start stop step
      return length == rangeLength otherStart otherStop otherStep
        && (length == 0 || start == otherStart && (length == 1 || step == otherStep))
    | .method subject name, .method other otherName =>
      return subject.isSame other && name == otherName
    | left, right =>
      match left.number?, right.number? with
      | some left, some right => return left.compare? right == some .eq
      | _, _ => return left.isSame right

/-- Tells whether values are equal. -/
def equals (left right : Value) : Local Bool := equalsWithin nestingLimit left right

/-- Tells whether values are one and the same, or equal. -/
def matches? (left right : Value) : Local Bool :=
  if left.isSame right then return true else equals left right

/-! ## Order -/

/-- The orders that can be asked about. -/
inductive Order where
  | lt | le | gt | ge
  deriving DecidableEq, Repr

namespace Order

/-- The sign of an order. -/
def sign : Order → String
  | lt => "<"
  | le => "<="
  | gt => ">"
  | ge => ">="

/-- True when an order holds of what was found. -/
def holds (order : Order) (found : Ordering) : Bool :=
  match order, found with
  | lt, .lt | gt, .gt => true
  | le, .gt | ge, .lt => false
  | le, _ | ge, _ => true
  | _, _ => false

end Order

/-- The order of two texts, by their characters. -/
def compareText : List Char → List Char → Ordering
  | [], [] => .eq
  | [], _ :: _ => .lt
  | _ :: _, [] => .gt
  | left :: lefts, right :: rights =>
    if left == right then compareText lefts rights else compare left.toNat right.toNat

/-- Drops the members that are equal at the beginning of two lists. -/
def dropEqual : List Value → List Value → Local (List Value × List Value)
  | left :: lefts, right :: rights => do
    if ← matches? left right then dropEqual lefts rights
    else return (left :: lefts, right :: rights)
  | left, right => return (left, right)

/-- Tells whether an order holds between values, nested so deep at most. -/
def isOrderedWithin (order : Order) : Nat → Value → Value → Local Bool
  | 0, _, _ => trouble .recursion
  | depth + 1, left, right => do
    let lists (left right : List Value) : Local Bool := do
      match ← dropEqual left right with
      | (left :: _, right :: _) => isOrderedWithin order depth left right
      | (left, right) => return order.holds (compare left.length right.length)
    match left, right with
    | .undefined missing, _ | _, .undefined missing => refuse missing
    | .text left _, .text right _ => return order.holds (compareText left right)
    | .tuple left, .tuple right => lists left right
    | .list left, .list right => do lists (← listAt left) (← listAt right)
    | left, right =>
      match left.number?, right.number? with
      | some left, some right =>
        match left.compare? right with
        | some found => return order.holds found
        | none => return false
      | _, _ => do kindTrouble (.unordered order.sign (← kindOf left) (← kindOf right))

/-- Tells whether an order holds between values. -/
def isOrdered (order : Order) (left right : Value) : Local Bool :=
  isOrderedWithin order nestingLimit left right

/-- Puts a value into a list after all that it does not come before. -/
def insertSorted {α : Type} (key : α → Value) (item : α) : List α → Local (List α)
  | [] => return [item]
  | last :: rest => do
    if ← isOrdered .lt (key item) (key last) then return last :: (← insertSorted key item rest)
    else return item :: last :: rest

/-- Sorts values by their keys. Those that are not told apart keep their order. -/
def sortBy {α : Type} (key : α → Value) (items : List α) : Local (List α) := do
  let sorted ← items.foldlM (fun sorted item => insertSorted key item sorted) []
  return sorted.reverse

/-! ## Dictionaries -/

/-- What stands against a value as a key. -/
inductive Obstacle where
  | missing (missing : Missing)
  /-- A value of a kind that can be changed. -/
  | kind (kind : String)

mutual

/-- What stands against a value as a key, in the order in which it is met. -/
def Value.obstacles : Value → List Obstacle
  | .undefined missing => [.missing missing]
  | .tuple items => obstaclesIn items
  | .record .space _ => []
  | .record .options _ => [.kind "types.SimpleNamespace"]
  | .view .values _ => []
  | .list _ => [.kind "list"]
  | .dict _ => [.kind "dict"]
  | .record kind _ => [.kind kind.label]
  | .view .keys _ => [.kind "dict_keys"]
  | .view .items _ => [.kind "dict_items"]
  | _ => []

/-- What stands against several values as parts of a key. -/
def obstaclesIn : List Value → List Obstacle
  | [] => []
  | first :: rest => first.obstacles ++ obstaclesIn rest

end

/-- The kind on account of which a value cannot be a key, undefined values left aside. -/
def Value.unhashable? (value : Value) : Option String :=
  value.obstacles.findSome? fun
    | .kind kind => some kind
    | .missing _ => Option.none

/-- The first kind that stands against a key. Undefined values before it must be allowed to be
part of one. -/
def firstUnhashable? : List Obstacle → Local (Option String)
  | [] => return none
  | .kind kind :: _ => return some kind
  | .missing missing :: rest => do
    passMissing missing
    firstUnhashable? rest

/-- Fails for a value that cannot be a key, which is one that can be changed. -/
def checkKey (value : Value) : Local Unit := do
  match ← firstUnhashable? value.obstacles with
  | some kind => kindTrouble (.unhashable kind)
  | none => return ()

/-- The value of a key among entries. -/
def entryOf? (key : Value) : List (Value × Value) → Local (Option Value)
  | [] => return none
  | (known, value) :: rest => do
    if ← matches? known key then return some value else entryOf? key rest

/-- Enters a value under a key. A key that is known keeps its place. -/
def enterKey (key value : Value) : List (Value × Value) → Local (List (Value × Value))
  | [] => return [(key, value)]
  | (known, old) :: rest => do
    if ← matches? known key then return (known, value) :: rest
    else return (known, old) :: (← enterKey key value rest)

/-- Takes a key out of entries. -/
def removeKey (key : Value) : List (Value × Value) → Local (List (Value × Value))
  | [] => return []
  | (known, old) :: rest => do
    if ← matches? known key then return rest else return (known, old) :: (← removeKey key rest)

/-- Enters several values in turn. -/
def enterAll (entries : List (Value × Value)) (more : List (Value × Value)) :
    Local (List (Value × Value)) :=
  more.foldlM (fun entries (key, value) => do
    checkKey key
    enterKey key value entries) entries

/-! ## Membership -/

/-- Tells whether an item is among others. -/
def isAmong (item : Value) : List Value → Local Bool
  | [] => return false
  | first :: rest => do
    if ← matches? first item then return true else isAmong item rest

/-- Takes items from a cursor up to one that is equal to a value. -/
def skipTo (item : Value) (place : Address) : Local Bool := do
  let rest ← drain place
  let found ← isAmong item rest
  let passed ← if found then lengthTo rest else pure rest.length
  keep place (.cursor (.items (rest.drop passed)))
  return found
where
  /-- The number of items up to the first that is equal, which is counted too. -/
  lengthTo : List Value → Local Nat
    | [] => return 0
    | first :: rest => do
      if ← matches? first item then return 1 else return (← lengthTo rest) + 1

/-- Tells whether a value holds an item. -/
def holds (container item : Value) : Local Bool := do
  match container with
  | .text content _ =>
    match item with
    | .text wanted _ => return occursIn wanted content
    | other => do kindTrouble (.textMembership (← kindOf other))
  | .dict place | .view .keys place => do
    checkKey item
    return (← entryOf? item (← dictAt place)).isSome
  | .undefined missing => do
    useMissing missing
    return false
  | .cursor place => skipTo item place
  | .tuple _ | .list _ | .view .. | .range .. => do isAmong item (← collect container)
  | other => do kindTrouble (.notContainer (← kindOf other))

end FormLetter.Script
