import FormLetter.Script.Format

/-!
# Arithmetic

The operations on two values and the signs before one. Whole numbers have no bounds. A sum of texts
of which one is markup is markup, and the other one is escaped on the way.
-/

namespace FormLetter.Script

open FormLetter.Text

/-- The sign of an operation. -/
def Arithmetic.sign : Arithmetic → String
  | .add => "+"
  | .sub => "-"
  | .mul => "*"
  | .div => "/"
  | .floorDiv => "//"
  | .mod => "%"
  | .pow => "** or pow()"

/-- A number as a double. -/
def Number.toFloat : Number → Local Float
  | .float x => return x
  | .int n =>
    match Decimal.ofInt? n with
    | some x => return x
    | none => trouble (.overflow .conversion)

/-- A power of doubles. -/
def powerOf (base exponent : Float) : Local Value := do
  if base == 0.0 && exponent < 0.0 then trouble (.division .zeroPower)
  else
    let result := Float.pow base exponent
    if result.isInf && !base.isInf && !exponent.isInf then trouble (.overflow .result)
    else return .float result

/-- An operation on whole numbers. -/
def operateInts (operation : Arithmetic) (left right : Int) : Local Value := do
  match operation with
  | .add => return .int (left + right)
  | .sub => return .int (left - right)
  | .mul => return .int (left * right)
  | .div =>
    if right == 0 then trouble (.division .quotient)
    else
      let result := Decimal.quotient left right
      if result.isInf then trouble (.overflow .quotient) else return .float result
  | .floorDiv =>
    if right == 0 then trouble (.division .wholeQuotient) else return .int (left.fdiv right)
  | .mod =>
    if right == 0 then trouble (.division .remainder) else return .int (left.fmod right)
  | .pow =>
    if 0 ≤ right then return .int (Int.pow left right.toNat)
    else do powerOf (← (Number.int left).toFloat) (← (Number.int right).toFloat)

/-- An operation on doubles. -/
def operateFloats (operation : Arithmetic) (left right : Float) : Local Value := do
  match operation with
  | .add => return .float (left + right)
  | .sub => return .float (left - right)
  | .mul => return .float (left * right)
  | .div =>
    if right == 0.0 then trouble (.division .floatQuotient) else return .float (left / right)
  | .floorDiv =>
    if right == 0.0 then trouble (.division .floatWholeQuotient)
    else return .float (Decimal.floorDivide left right).1
  | .mod =>
    if right == 0.0 then trouble (.division .floatRemainder)
    else return .float (Decimal.floorDivide left right).2
  | .pow => powerOf left right

/-- An operation on numbers. They are taken as doubles unless both are whole. -/
def operateNumbers (operation : Arithmetic) (left right : Number) : Local Value := do
  match left, right with
  | .int left, .int right => operateInts operation left right
  | left, right => do operateFloats operation (← left.toFloat) (← right.toFloat)

/-- Joins two texts. -/
def joinTexts (left : List Char) (leftMarkup : Bool) (right : List Char) (rightMarkup : Bool) :
    Value :=
  let isMarkup := leftMarkup || rightMarkup
  let part (content : List Char) (isPart : Bool) : List Char :=
    if isMarkup && !isPart then Escape.encode content else content
  .text (part left leftMarkup ++ part right rightMarkup) isMarkup

/-- The greatest number of times that something can be repeated, and the greatest length. -/
def greatestIndex : Nat := Decimal.twoTo 63 - 1

/-- The greatest length for which there is memory. -/
def memoryLimit : Nat := Decimal.twoTo 36

/-- Repeats some items, or refuses to make so many. -/
def repeatItems {α : Type} (isText : Bool) (items : List α) (count : Nat) : Local (List α) := do
  let length := items.length * count
  if isText && greatestIndex < length then trouble (.overflow .length)
  else if memoryLimit < length then trouble .memory
  else return (List.replicate (if items.isEmpty then 0 else count) items).flatten

/-- Repeats what can be repeated: texts, tuples and lists. -/
def repeated? (value : Value) (count : Int) : Local (Option Value) := do
  let repeatChecked {α : Type} (isText : Bool) (items : List α) : Local (List α) :=
    if greatestIndex < count || count < -(greatestIndex + 1 : Int) then
      trouble (.overflow .repetition)
    else repeatItems isText items count.toNat
  match value with
  | .text content isMarkup => return some (.text (← repeatChecked true content) isMarkup)
  | .tuple items => return some (.tuple (← repeatChecked false items))
  | .list place => do
    let items ← repeatChecked false (← listAt place)
    return some (← newList items)
  | _ => return none

/-- The product of two values that are not both numbers. -/
def multiply (left right : Value) : Local Value := do
  let times (items other : Value) : Local (Option Value) :=
    match other.number? with
    | some (.int count) => repeated? items count
    | _ => do
      match ← repeated? items 0 with
      | some _ => do kindTrouble (.multiplication (← kindOf other))
      | none => return none
  match ← times left right with
  | some result => return result
  | none =>
    match ← times right left with
    | some result => return result
    | none => do
      kindTrouble (.operands Arithmetic.mul.sign (← kindOf left) (← kindOf right))

/-- An operation on two values. -/
def operate (operation : Arithmetic) (left right : Value) : Local Value := do
  match left.number?, right.number? with
  | some left, some right => operateNumbers operation left right
  | _, _ =>
    match operation, left, right with
    | .mod, .text content isMarkup, value => formatText content isMarkup value
    | _, .undefined missing, _ | _, _, .undefined missing => refuse missing
    | .add, .text left leftMarkup, .text right rightMarkup =>
      return joinTexts left leftMarkup right rightMarkup
    | .add, .tuple left, .tuple right => return .tuple (left ++ right)
    | .add, .list left, .list right => do newList ((← listAt left) ++ (← listAt right))
    | .add, .text .., other => do kindTrouble (.concatenation "str" (← kindOf other))
    | .add, .tuple _, other => do kindTrouble (.concatenation "tuple" (← kindOf other))
    | .add, .list _, other => do kindTrouble (.concatenation "list" (← kindOf other))
    | .mul, left, right => multiply left right
    | operation, left, right => do
      kindTrouble (.operands operation.sign (← kindOf left) (← kindOf right))

/-- A value with a sign before it. -/
def signed (isMinus : Bool) (value : Value) : Local Value := do
  match value with
  | .undefined missing => refuse missing
  | other =>
    match other.number? with
    | some (.int n) => return .int (if isMinus then -n else n)
    | some (.float x) => return .float (if isMinus then -x else x)
    | none => do kindTrouble (.signed (if isMinus then "-" else "+") (← kindOf other))

end FormLetter.Script
