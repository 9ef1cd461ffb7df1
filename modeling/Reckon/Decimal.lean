import Reckon.Binary64

/-!
Decimal numbers with as many digits as they need, and their nearest doubles.
-/

namespace Reckon

/-- The number `digits · 10 ^ exponent`. -/
structure Decimal where
  digits : Nat
  exponent : Int
  deriving DecidableEq, Repr

namespace Decimal

/-- The decimal digits of a natural number, the first one first. -/
def figures (number : Nat) : List Char :=
  Nat.toDigits 10 number

def figureValue (figure : Char) : Nat :=
  figure.toNat - '0'.toNat

/-- The number that a list of digits denotes, read on from `start`. -/
def readFigures (start : Nat) (figures : List Char) : Nat :=
  figures.foldl (fun number figure => 10 * number + figureValue figure) start

/-- Beyond this power of ten every number with a digit before the point is infinite, and below its
negation every number is zero. -/
def widest : Int := 400

/-- The bits, its sign aside, of the double nearest to a decimal.  An exponent far outside the range
of doubles is not expanded. -/
def nearestBits (number : Decimal) : Nat :=
  let leading : Int := (figures number.digits).length + number.exponent
  if number.digits = 0 || leading < -widest then 0
  else if widest < leading then Binary64.infiniteBits
  else
    Binary64.nearestBits (number.digits * Nat.pow 10 number.exponent.toNat)
      (Nat.pow 10 (-number.exponent).toNat)

def toFloat (negative : Bool) (number : Decimal) : Float :=
  Binary64.assemble negative number.nearestBits

end Decimal

end Reckon
