/-!
Doubles as what their bits denote: a sign, a mantissa and a power of two.  Rounding, remainder and
truncation are done here on natural numbers, so each is exact.
-/

namespace Reckon

/-- What the bits of a double denote.  A finite one is `± mantissa · 2 ^ exponent`. -/
inductive Binary64
  | nan
  | infinite (negative : Bool)
  | finite (negative : Bool) (mantissa : Nat) (exponent : Int)
  deriving DecidableEq, Repr

namespace Binary64

def signBit : Nat := 0x8000000000000000

/-- The leading bit of a mantissa of fifty-three bits, which the bits of a double leave out. -/
def hiddenBit : Nat := 0x10000000000000

def leastExponent : Int := -1074

def ofBits (bits : Nat) : Binary64 :=
  let negative := decide (signBit ≤ bits)
  let field : Nat := bits / hiddenBit % 2048
  let fraction : Nat := bits % hiddenBit
  if field = 2047 then
    if fraction = 0 then .infinite negative else .nan
  else if field = 0 then
    .finite negative fraction leastExponent
  else
    .finite negative (hiddenBit + fraction) ((field : Int) - 1075)

def decode (number : Float) : Binary64 :=
  ofBits number.toBits.toNat

def notANumber : Float := Float.ofBits 0x7ff8000000000000

def assemble (negative : Bool) (magnitude : Nat) : Float :=
  Float.ofBits (UInt64.ofNat (if negative then signBit + magnitude else magnitude))

def zero (negative : Bool) : Float :=
  assemble negative 0

def infiniteBits : Nat := 2047 * hiddenBit

def infinity (negative : Bool) : Float :=
  assemble negative infiniteBits

/-- The ratio `top / bottom` with `2 ^ exponent` as its unit, as a ratio of naturals. -/
def scale (top bottom : Nat) (exponent : Int) : Nat × Nat :=
  (top * Nat.pow 2 (-exponent).toNat, bottom * Nat.pow 2 exponent.toNat)

/-- The exponent at which `top / bottom` has fifty-three bits before the point, but never less than
the least one. -/
def unitExponent (top bottom : Nat) : Int :=
  let guess : Int := (top.log2 : Int) - bottom.log2 - 53
  let scaled := scale top bottom guess
  max leastExponent (if scaled.1 / scaled.2 < 2 * hiddenBit then guess else guess + 1)

/-- The natural nearest to `top / bottom`; a tie goes to the even one. -/
def roundHalfEven (top bottom : Nat) : Nat :=
  let below := top / bottom
  let rest := top % bottom
  if bottom < 2 * rest || (bottom == 2 * rest && below % 2 == 1) then below + 1 else below

/-- The bits, its sign aside, of the double nearest to `top / bottom`.  A tie goes to the even
mantissa, and what lies beyond the largest double by half a unit or more is infinite.  A mantissa
that is rounded up to a power of two carries into the exponent. -/
def nearestBits (top bottom : Nat) : Nat :=
  if top = 0 then 0
  else
    let exponent := unitExponent top bottom
    let scaled := scale top bottom exponent
    let mantissa := roundHalfEven scaled.1 scaled.2
    min ((exponent - leastExponent).toNat * hiddenBit + mantissa) infiniteBits

def ofRatio (negative : Bool) (top bottom : Nat) : Float :=
  assemble negative (nearestBits top bottom)

def ofInt (number : Int) : Float :=
  ofRatio (decide (number < 0)) number.natAbs 1

/-- The double nearest to `± mantissa · 2 ^ exponent`. -/
def ofScaled (negative : Bool) (mantissa : Nat) (exponent : Int) : Float :=
  ofRatio negative (mantissa * Nat.pow 2 exponent.toNat) (Nat.pow 2 (-exponent).toNat)

/-- The remainder of a division whose quotient is cut toward zero.  It is exact and has the sign of
the dividend; dividing an infinity or by zero leaves no number. -/
def remainder (dividend divisor : Float) : Float :=
  match decode dividend, decode divisor with
  | .finite negative mantissa exponent, .finite _ other power =>
      if other = 0 then
        notANumber
      else
        let unit := min exponent power
        let rest :=
          mantissa * Nat.pow 2 (exponent - unit).toNat % (other * Nat.pow 2 (power - unit).toNat)
        ofScaled negative rest unit
  | .finite .., .infinite _ => dividend
  | _, _ => notANumber

/-- The largest number of a signed word of sixty-four bits. -/
def maxWord : Int := 0x7fffffffffffffff

def minWord : Int := -0x8000000000000000

/-- The whole part of `± mantissa · 2 ^ exponent`, cut toward zero. -/
def wholePart (negative : Bool) (mantissa : Nat) (exponent : Int) : Int :=
  let magnitude : Nat := mantissa * Nat.pow 2 exponent.toNat / Nat.pow 2 (-exponent).toNat
  if negative then -(magnitude : Int) else magnitude

/-- The whole part of a double, cut toward zero and kept within a signed word; no number counts as
zero. -/
def toWord (number : Float) : Int :=
  match decode number with
  | .nan => 0
  | .infinite negative => if negative then minWord else maxWord
  | .finite negative mantissa exponent =>
      max minWord (min maxWord (wholePart negative mantissa exponent))

def toInt? (number : Float) : Option Int :=
  match decode number with
  | .finite negative mantissa exponent =>
      if mantissa % Nat.pow 2 (-exponent).toNat = 0 then some (wholePart negative mantissa exponent)
      else none
  | _ => none

end Binary64

end Reckon
