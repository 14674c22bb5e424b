/-!
# Decimal numerals as binary fractions

A finite double is `m * 2 ^ e` with whole numbers `m` and `e`. This module takes a double apart into
that form and makes the nearest double of a decimal numeral, ties going to the even neighbour.
-/

namespace FormLetter.Decimal

/-- A power of two. -/
def twoTo (exponent : Nat) : Nat := Nat.pow 2 exponent

/-- A power of ten. -/
def tenTo (exponent : Nat) : Nat := Nat.pow 10 exponent

/-- A finite double without its sign: `mantissa * 2 ^ exponent`. -/
structure Binary where
  mantissa : Nat
  exponent : Int
  deriving DecidableEq, Repr

/-- The parts of the format: sign, exponent field and fraction field. -/
def fields (x : Float) : Bool × Nat × Nat :=
  let bits := x.toBits.toNat
  (bits / twoTo 63 == 1, bits / twoTo 52 % twoTo 11, bits % twoTo 52)

/-- True for a negative double, negative zero included. -/
def isNegative (x : Float) : Bool :=
  (fields x).1

/-- The magnitude of a finite double. -/
def Binary.ofFloat (x : Float) : Binary :=
  let (_, exponent, fraction) := fields x
  if exponent == 0 then ⟨fraction, -1074⟩
  else ⟨twoTo 52 + fraction, (exponent : Int) - 1075⟩

/-- The nearest double of `mantissa * 10 ^ exponent`. Numerals far outside the range of the format
are settled without computing their powers of ten. -/
def toFloat (mantissa : Nat) (exponent : Int) : Float :=
  let digits : Int := (Nat.toDigits 10 mantissa).length
  if mantissa == 0 || digits + exponent < -400 then 0.0
  else if digits + exponent > 400 then 1.0 / 0.0
  else if exponent < 0 then Float.ofScientific mantissa true exponent.natAbs
  else Float.ofScientific (mantissa * tenTo exponent.natAbs) false 0

/-- The nearest double of a whole number; `none` when it lies beyond the range of the format. -/
def ofInt? (n : Int) : Option Float :=
  let magnitude := toFloat n.natAbs 0
  if magnitude.isInf then none else some (if n < 0 then -magnitude else magnitude)

/-- The whole number next to a finite double on the side of zero. -/
def truncate (x : Float) : Int :=
  let binary := Binary.ofFloat x
  let magnitude :=
    if 0 ≤ binary.exponent then binary.mantissa * twoTo binary.exponent.toNat
    else binary.mantissa / twoTo (-binary.exponent).toNat
  if isNegative x then -(magnitude : Int) else magnitude

end FormLetter.Decimal
