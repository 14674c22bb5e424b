import FormLetter.Decimal.Value

/-!
# The shortest decimal of a double

A decimal reads back as a double when it lies in the interval of numbers that round to the double.
For one digit, two digits and so on, the two decimals next to the double are tried; the first
count of digits with a hit wins, and of two hits the nearer one. No decimal with fewer digits reads
back, since the interval holds a decimal of a count of digits only if it holds one of those two.
-/

namespace FormLetter.Decimal

/-- A positive decimal `digits * 10 ^ (point - count)`, where `count` is the number of digits: the
point stands after so many of them. -/
structure Digits where
  digits : List Char
  point : Int
  deriving DecidableEq, Repr

/-- A fraction of whole numbers. -/
structure Ratio where
  numerator : Nat
  denominator : Nat
  deriving DecidableEq, Repr

namespace Ratio

/-- The fraction of a mantissa and a binary exponent. -/
def ofBinary (binary : Binary) : Ratio :=
  if 0 ≤ binary.exponent then ⟨binary.mantissa * twoTo binary.exponent.toNat, 1⟩
  else ⟨binary.mantissa, twoTo (-binary.exponent).toNat⟩

/-- A fraction times a power of ten. -/
def scale (ratio : Ratio) (power : Int) : Ratio :=
  if 0 ≤ power then ⟨ratio.numerator * tenTo power.toNat, ratio.denominator⟩
  else ⟨ratio.numerator, ratio.denominator * tenTo (-power).toNat⟩

/-- True when one fraction is less than another. -/
def isLess (left right : Ratio) : Bool :=
  left.numerator * right.denominator < right.numerator * left.denominator

/-- The number of digits before the point; zero and less for a fraction below one tenth. -/
def pointPlace (ratio : Ratio) : Int :=
  let whole := ratio.numerator / ratio.denominator
  if whole != 0 then (Nat.toDigits 10 whole).length
  else
    let zeros := (Nat.toDigits 10 (ratio.denominator / ratio.numerator)).length
    -- The fraction lies between two neighbouring powers of ten; one comparison settles which.
    if isLess (ratio.scale (zeros - 1)) ⟨1, 1⟩ then 1 - zeros else 2 - zeros

end Ratio

/-- The numbers that round to a double, as the ends of an interval. -/
structure Interval where
  low : Ratio
  high : Ratio
  /-- True when the ends belong to it. -/
  closed : Bool
  deriving Repr

namespace Interval

/-- The interval of a double: half way to its neighbours. The neighbour below a power of two is
only half as far away. -/
def ofBinary (binary : Binary) : Interval :=
  let atPower := binary.mantissa == twoTo 52 && binary.exponent > -1074
  { low := .ofBinary ⟨4 * binary.mantissa - (if atPower then 1 else 2), binary.exponent - 2⟩
    high := .ofBinary ⟨4 * binary.mantissa + 2, binary.exponent - 2⟩
    closed := binary.mantissa % 2 == 0 }

/-- True for a number of the interval. -/
def holds (interval : Interval) (ratio : Ratio) : Bool :=
  if interval.closed then !ratio.isLess interval.low && !interval.high.isLess ratio
  else interval.low.isLess ratio && ratio.isLess interval.high

end Interval

/-- The decimal with the given count of digits that is nearest to a number, if one of the two next
to it lies in the interval. Of two at the same distance the even one is taken. -/
def candidate? (value : Ratio) (interval : Interval) (point : Int) (count : Nat) :
    Option (Nat × Int) :=
  let power : Int := count - point
  let scaled := value.scale power
  let below := scaled.numerator / scaled.denominator
  let hit (digits : Nat) : Bool := digits != 0 && interval.holds (Ratio.scale ⟨digits, 1⟩ (-power))
  let twiceRest := 2 * (scaled.numerator % scaled.denominator)
  let upward :=
    scaled.denominator < twiceRest || (twiceRest == scaled.denominator && below % 2 == 1)
  let (first, second) := if upward then (below + 1, below) else (below, below + 1)
  if hit first then some (first, power) else if hit second then some (second, power) else none

/-- A decimal in its digits, without zeros at the end. -/
def Digits.ofDecimal (digits : Nat) (power : Int) : Digits :=
  let written := Nat.toDigits 10 digits
  ⟨(written.reverse.dropWhile (· == '0')).reverse, written.length - power⟩

/-- The shortest decimal that reads back as a positive finite double. -/
def shortest (binary : Binary) : Digits :=
  let value := Ratio.ofBinary binary
  let interval := Interval.ofBinary binary
  let point := value.pointPlace
  match (List.range 17).findSome? fun count => candidate? value interval point (count + 1) with
  | some (digits, power) => .ofDecimal digits power
  | none => .ofDecimal binary.mantissa 0

/-- How numbers are written. -/
structure Form where
  /-- The least and the greatest place of the point at which a number is written out. -/
  least : Int
  greatest : Int
  /-- What stands after a whole number that is written out. -/
  wholeEnd : String
  exponentMark : String
  exponentWidth : Nat
  infinity : String
  notNumber : String

/-- The digits of a number with its point, or with an exponent. -/
def Digits.render (form : Form) (number : Digits) : String :=
  let zeros (count : Int) : List Char := List.replicate count.toNat '0'
  let count : Int := number.digits.length
  if form.least ≤ number.point && number.point ≤ form.greatest then
    if number.point ≤ 0 then
      String.ofList ("0.".toList ++ zeros (-number.point) ++ number.digits)
    else if count ≤ number.point then
      String.ofList (number.digits ++ zeros (number.point - count)) ++ form.wholeEnd
    else
      let whole := number.point.toNat
      String.ofList (number.digits.take whole ++ '.' :: number.digits.drop whole)
  else
    let exponent := number.point - 1
    let written := Nat.toDigits 10 exponent.natAbs
    let sign := if exponent < 0 then '-' else '+'
    let mantissa := match number.digits with
      | first :: [] => [first]
      | first :: rest => first :: '.' :: rest
      | [] => ['0']
    String.ofList mantissa ++ form.exponentMark
      ++ String.ofList (sign :: zeros (form.exponentWidth - written.length) ++ written)

/-- The text of a double. -/
def render (form : Form) (x : Float) : String :=
  if x.isNaN then form.notNumber
  else
    let sign := if isNegative x then "-" else ""
    let binary := Binary.ofFloat x
    if x.isInf then sign ++ form.infinity
    else if binary.mantissa == 0 then sign ++ "0" ++ form.wholeEnd
    else sign ++ (shortest binary).render form

/-- Numbers in documents: written out from one ten-thousandth up to ten to the sixteenth, whole
ones with a zero after the point, and exponents with two digits at least. -/
def documentForm : Form where
  least := -3
  greatest := 16
  wholeEnd := ".0"
  exponentMark := "e"
  exponentWidth := 2
  infinity := "inf"
  notNumber := "nan"

end FormLetter.Decimal
