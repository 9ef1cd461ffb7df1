import Reckon.Decimal.Shortest

/-!
How a double is written: which magnitudes are positional, what a whole number ends in, and the
texts of zero, of the infinities and of no number.  The digits are always the shortest ones.
-/

namespace Reckon.Decimal

structure Layout where
  /-- Which digits are written when two are equally near. -/
  tie : Tie
  /-- Whether a number whose leading digit has this power of ten is written without an exponent. -/
  positional : Int → Bool
  /-- Whether a whole number in positional form ends in `.0`. -/
  pointZero : Bool
  /-- Whether an exponent that is not negative has a plus sign. -/
  plusSign : Bool
  /-- Whether negative zero keeps its sign. -/
  minusZero : Bool
  infinity : String
  notANumber : String

namespace Layout

/-- The digits with the point in its place and zeros where the digits do not reach. -/
def writePositional (layout : Layout) (digits : List Char) (exponent : Int) : List Char :=
  if 0 ≤ exponent then
    digits ++ List.replicate exponent.toNat '0' ++ (if layout.pointZero then ['.', '0'] else [])
  else
    let places := (-exponent).toNat
    if places < digits.length then
      digits.take (digits.length - places) ++ '.' :: digits.drop (digits.length - places)
    else
      '0' :: '.' :: List.replicate (places - digits.length) '0' ++ digits

def writeScientific (layout : Layout) (digits : List Char) (power : Int) : List Char :=
  let fraction := digits.drop 1
  digits.take 1 ++ (if fraction.isEmpty then [] else '.' :: fraction) ++
    'e' :: (if power < 0 then ['-'] else if layout.plusSign then ['+'] else []) ++
    figures power.natAbs

def writeDecimal (layout : Layout) (decimal : Decimal) : List Char :=
  let digits := figures decimal.digits
  let power : Int := (digits.length : Int) - 1 + decimal.exponent
  if layout.positional power then layout.writePositional digits decimal.exponent
  else layout.writeScientific digits power

def write (layout : Layout) (number : Float) : String :=
  match Binary64.decode number with
  | .nan => layout.notANumber
  | .infinite negative => if negative then "-" ++ layout.infinity else layout.infinity
  | .finite negative mantissa exponent =>
      let signed := negative && (mantissa != 0 || layout.minusZero)
      let digits := layout.writeDecimal (shortest layout.tie mantissa exponent)
      String.ofList (if signed then '-' :: digits else digits)

end Layout

end Reckon.Decimal
