import FormLetter.Decimal.Shortest

/-!
# Exact arithmetic on doubles

Operations whose result is the double nearest to an exact number: quotients of whole numbers,
remainders, rounding to places of the decimal point, and comparisons between whole numbers and
doubles. Each goes through fractions of whole numbers, so nothing is lost on the way.
-/

namespace FormLetter.Decimal

/-- A fraction rounded to a whole number; a half goes to the even neighbour. -/
def roundHalfEven (numerator denominator : Nat) : Nat :=
  let whole := numerator / denominator
  let twiceRest := 2 * (numerator % denominator)
  if denominator < twiceRest || (twiceRest == denominator && whole % 2 == 1) then whole + 1
  else whole

/-- The double nearest to a fraction. -/
def nearest (ratio : Ratio) : Float :=
  if ratio.numerator == 0 then 0.0
  else
    -- The power of two for which the quotient has 54 or 55 bits before the point.
    let size : Int := (Nat.log2 ratio.numerator : Int) - Nat.log2 ratio.denominator
    let least := max (size - 54) (-1075)
    let scaled : Ratio :=
      if 0 ≤ least then ⟨ratio.numerator, ratio.denominator * twoTo least.toNat⟩
      else ⟨ratio.numerator * twoTo (-least).toNat, ratio.denominator⟩
    let whole := scaled.numerator / scaled.denominator
    let excess := Nat.log2 whole + 1 - 53
    -- At the bottom of the range the last place is fixed.
    let excess := if least == -1075 then max excess 1 else excess
    let mantissa := roundHalfEven scaled.numerator (scaled.denominator * twoTo excess)
    (Float.ofNat mantissa).scaleB (least + excess)

/-- A double as a fraction without its sign. -/
def Ratio.ofFloat (x : Float) : Ratio :=
  .ofBinary (.ofFloat x)

/-- A double with the given sign. -/
def withSign (negative : Bool) (x : Float) : Float :=
  if negative then -x else x

/-- The double nearest to a quotient of whole numbers. -/
def quotient (dividend divisor : Int) : Float :=
  withSign (decide (dividend < 0) != decide (divisor < 0))
    (nearest ⟨dividend.natAbs, divisor.natAbs⟩)

/-- How two fractions with signs compare. -/
def compareSigned (leftNegative : Bool) (left : Ratio) (rightNegative : Bool) (right : Ratio) :
    Ordering :=
  let signed (negative : Bool) (n : Nat) : Int := if negative then -(n : Int) else n
  compare (signed leftNegative (left.numerator * right.denominator))
    (signed rightNegative (right.numerator * left.denominator))

/-- How a whole number and a double compare; `none` for what is no number. -/
def compareInt? (n : Int) (x : Float) : Option Ordering :=
  if x.isNaN then none
  else if x.isInf then some (if isNegative x then .gt else .lt)
  else some (compareSigned (decide (n < 0)) ⟨n.natAbs, 1⟩ (isNegative x) (.ofFloat x))

/-- The remainder of two finite doubles with the sign of the first one. The divisor is not zero. -/
def truncatedRemainder (x y : Float) : Float :=
  let left := Ratio.ofFloat x
  let right := Ratio.ofFloat y
  let rest := left.numerator * right.denominator % (right.numerator * left.denominator)
  withSign (isNegative x) (nearest ⟨rest, left.denominator * right.denominator⟩)

/-- The quotient of two doubles rounded down, and the remainder, which has the sign of the divisor.
The divisor is not zero. -/
def floorDivide (x y : Float) : Float × Float :=
  if x.isNaN || y.isNaN || x.isInf then (0.0 / 0.0, 0.0 / 0.0)
  else
    let rest := if y.isInf then x else truncatedRemainder x y
    let whole := (x - rest) / y
    let (rest, whole) :=
      if rest == 0.0 then (withSign (isNegative y) 0.0, whole)
      else if isNegative y != isNegative rest then (rest + y, whole - 1.0)
      else (rest, whole)
    if whole == 0.0 then (withSign (isNegative x != isNegative y) 0.0, rest)
    else
      let floor := whole.floor
      (if whole - floor > 0.5 then floor + 1.0 else floor, rest)

/-- A finite double rounded to so many places after the point, or before it when the count is
negative; a half goes to the even neighbour. -/
def roundPlaces (x : Float) (places : Int) : Float :=
  if x.isNaN || x.isInf then x
  else
    let scaled := (Ratio.ofFloat x).scale places
    let whole := roundHalfEven scaled.numerator scaled.denominator
    withSign (isNegative x) (nearest (Ratio.scale ⟨whole, 1⟩ (-places)))

/-- A whole number rounded to a power of ten; a half goes to the even neighbour. -/
def roundInt (n : Int) (zeros : Nat) : Int :=
  let unit := tenTo zeros
  let rounded : Int := (roundHalfEven n.natAbs unit * unit : Nat)
  if n < 0 then -rounded else rounded

/-- The digits of a finite double with exactly so many places after the point. -/
def fixedPlaces (x : Float) (places : Nat) : String :=
  let scaled := (Ratio.ofFloat x).scale places
  let written := Nat.toDigits 10 (roundHalfEven scaled.numerator scaled.denominator)
  let written := List.replicate (places + 1 - written.length) '0' ++ written
  let whole := written.length - places
  let fraction := if places == 0 then [] else '.' :: written.drop whole
  (if isNegative x then "-" else "") ++ String.ofList (written.take whole ++ fraction)

/-- A fraction in exactly so many digits; a half goes to the even neighbour. -/
def significant (ratio : Ratio) (count : Nat) : Digits :=
  if ratio.numerator == 0 then ⟨List.replicate count '0', 1⟩
  else
    let scaled := ratio.scale (count - ratio.pointPlace)
    let written := Nat.toDigits 10 (roundHalfEven scaled.numerator scaled.denominator)
    -- Rounding up may have led to one digit more, which is a zero.
    ⟨written.take count, ratio.pointPlace + (written.length - count : Nat)⟩

/-- Digits without the zeros at their end, but with one digit at least. -/
def Digits.trimmed (number : Digits) : Digits :=
  let rest := (number.digits.drop 1).reverse.dropWhile (· == '0')
  { number with digits := number.digits.take 1 ++ rest.reverse }

end FormLetter.Decimal
