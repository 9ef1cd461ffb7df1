import Reckon.Decimal

/-!
The fewest decimal digits that read back as a given double.  For one digit, two digits and so on,
the two decimals of that length beside the double are tried; the first length at which one of them
reads back gives the result, the nearer one if both do.  When both are equally near, a rule for ties
decides.
-/

namespace Reckon.Decimal

/-- Whether `left / right` is less than `10 ^ power`. -/
def below (left right : Nat) (power : Int) : Bool :=
  decide (left * Nat.pow 10 (-power).toNat < right * Nat.pow 10 power.toNat)

/-- The power of ten of the leading digit of the positive ratio `top / bottom`. -/
def leadingPower (top bottom : Nat) : Int :=
  let guess : Int := ((top.log2 : Int) - bottom.log2) * 30103 / 100000
  if below top bottom guess then guess - 1
  else if below top bottom (guess + 1) then guess
  else if below top bottom (guess + 2) then guess + 1
  else guess + 2

/-- Which of two decimals that are equally near is taken. -/
inductive Tie
  /-- The larger one. -/
  | up
  /-- The one whose last digit is even. -/
  | even
  deriving DecidableEq, Repr

/-- The decimals with exponent `power` just below and just above `top / bottom`, the nearer one
first. -/
def neighbours (tie : Tie) (top bottom : Nat) (power : Int) : List Decimal :=
  let scaledTop := top * Nat.pow 10 (-power).toNat
  let scaledBottom := bottom * Nat.pow 10 power.toNat
  let lower := scaledTop / scaledBottom
  let rest := scaledTop % scaledBottom
  let lowerFirst := 2 * rest < scaledBottom ||
    (2 * rest = scaledBottom && tie = .even && lower % 2 = 0)
  if rest = 0 then [⟨lower, power⟩]
  else if lowerFirst then [⟨lower, power⟩, ⟨lower + 1, power⟩]
  else [⟨lower + 1, power⟩, ⟨lower, power⟩]

/-- The longest that a decimal has to be to single out one double. -/
def longest : Nat := 17

/-- The first length, counted from `longest - count + 1`, at which a neighbour passes the test. -/
def firstAccepted (tie : Tie) (accepts : Decimal → Bool) (top bottom : Nat) (leading : Int) :
    Nat → Option Decimal
  | 0 => none
  | count + 1 =>
      let length : Int := longest - count
      match (neighbours tie top bottom (leading - length + 1)).find? accepts with
      | some decimal => some decimal
      | none => firstAccepted tie accepts top bottom leading count

/-- Drop the zeros at the end of the digits; the number stays the same. -/
def trimZeros (number : Decimal) : Nat → Decimal
  | 0 => number
  | fuel + 1 =>
      if number.digits % 10 = 0 then
        trimZeros ⟨number.digits / 10, number.exponent + 1⟩ fuel
      else number

def exact (mantissa : Nat) (exponent : Int) : Decimal :=
  ⟨mantissa * Nat.pow 2 exponent.toNat * Nat.pow 5 (-exponent).toNat, -((-exponent).toNat : Int)⟩

/-- The fewest digits that read back as the double `mantissa · 2 ^ exponent`, and of those the
nearest to it. -/
def shortest (tie : Tie) (mantissa : Nat) (exponent : Int) : Decimal :=
  if mantissa = 0 then
    ⟨0, 0⟩
  else
    let top := mantissa * Nat.pow 2 exponent.toNat
    let bottom := Nat.pow 2 (-exponent).toNat
    let target := Binary64.nearestBits top bottom
    let accepts (decimal : Decimal) : Bool := decimal.nearestBits == target
    let found := firstAccepted tie accepts top bottom (leadingPower top bottom) longest
    let decimal := found.getD (exact mantissa exponent)
    trimZeros decimal (figures decimal.digits).length

end Reckon.Decimal
