import Reckon.Value.Display
import Reckon.Decimal.Numeral
import Reckon.Text.Blank
import Reckon.Text.Hexadecimal

/-!
How values read as truth values and as numbers, and the equality and order that follow from it.
Getters are asked to any depth.
-/

namespace Reckon.Value

/-- Null, false, zero, no number and the empty string are false; all else is true. -/
def isTruthy : Value → Bool
  | .null => false
  | .number value => !(value == 0 || value.isNaN)
  | .string text => !text.isEmpty
  | .boolean value => value
  | .array _ | .object _ | .host .. => true
  | .getter _ yielded => isTruthy yielded

/-- An integer of one hexadecimal digit or more, with or without a sign, that fits a signed
word. -/
def readHexWord? (text : List Char) : Option Int :=
  let (negative, digits) := Numeral.spanSign text
  if digits.isEmpty then none
  else
    (Text.readHex? digits).bind fun magnitude =>
      let integer : Int := if negative then -(magnitude : Int) else magnitude
      if Binary64.minWord ≤ integer ∧ integer ≤ Binary64.maxWord then some integer else none

/-- The number that a text denotes, blanks around it aside: empty is zero, infinities have names,
`0x` starts a hexadecimal integer, and the rest are decimal numerals. -/
def readNumber (text : String) : Float :=
  match Text.trim text.toList with
  | [] => Binary64.zero false
  | '0' :: 'x' :: figures | '0' :: 'X' :: figures =>
      match readHexWord? figures with
      | some integer => Binary64.ofInt integer
      | none => Binary64.notANumber
  | trimmed =>
      if trimmed = "Infinity".toList || trimmed = "+Infinity".toList then Binary64.infinity false
      else if trimmed = "-Infinity".toList then Binary64.infinity true
      else if trimmed.all Numeral.isNumeralChar then
        (Numeral.read? trimmed).getD Binary64.notANumber
      else Binary64.notANumber

/-- The numeric reading.  An array of one element reads as the string form of the element. -/
def toNumber : Value → Float
  | .null => Binary64.zero false
  | .number value => value
  | .boolean value => Binary64.ofInt (if value then 1 else 0)
  | .string text => readNumber text
  | .array [] => Binary64.zero false
  | .array [item] => readNumber (display item)
  | .array _ | .object _ | .host .. => Binary64.notANumber
  | .getter _ yielded => toNumber yielded

/-- Whether two values are scalars of two kinds, which compare by their numeric readings. -/
def mixedScalars : Value → Value → Bool
  | .number _, .string _ | .number _, .boolean _ => true
  | .string _, .number _ | .boolean _, .number _ => true
  | .string _, .boolean _ | .boolean _, .string _ => true
  | _, _ => false

/-- Equality that compares scalars of different kinds as numbers.  A getter is asked, that on the
left first, and what it yields is compared with the other side. -/
def looselyEqual : Value → Value → Bool
  | .getter _ yielded, other => looselyEqual yielded other
  | other, .getter _ yielded => looselyEqual yielded other
  | left, right =>
      if mixedScalars left right then toNumber left == toNumber right else left == right
termination_by left right => sizeOf left + sizeOf right

/-- The order of two doubles, of which neither may be no number. -/
def compareNumbers (left right : Float) : Option Ordering :=
  if left < right then some .lt
  else if left == right then some .eq
  else if right < left then some .gt
  else none

def compareTexts (left right : String) : Ordering :=
  if left < right then .lt else if left = right then .eq else .gt

/-- The order of two values: two strings by their characters, all else by numeric readings. -/
def compare? : Value → Value → Option Ordering
  | .string left, .string right => some (compareTexts left right)
  | left, right => compareNumbers (toNumber left) (toNumber right)

end Reckon.Value
