import Reckon.Decimal

/-!
Decimal numerals: an optional sign, digits with at most one point, and an optional exponent.  There
is a digit before or after the point.
-/

namespace Reckon.Numeral

def spanFigures (text : List Char) : List Char × List Char :=
  (text.takeWhile Char.isDigit, text.dropWhile Char.isDigit)

def readNat? (text : List Char) : Option Nat :=
  if text.isEmpty || !text.all Char.isDigit then none else some (Decimal.readFigures 0 text)

/-- Drop a sign, and tell whether it was a minus. -/
def spanSign : List Char → Bool × List Char
  | '-' :: rest => (true, rest)
  | '+' :: rest => (false, rest)
  | text => (false, text)

/-- The exponent part: nothing, or a mark, an optional sign and digits. -/
def readExponent? : List Char → Option Int
  | [] => some 0
  | mark :: rest =>
      if mark = 'e' || mark = 'E' then
        let (negative, digits) := spanSign rest
        (readNat? digits).map fun power => if negative then -(power : Int) else power
      else none

def readUnsigned? (text : List Char) : Option Decimal :=
  let (whole, afterWhole) := spanFigures text
  let (fraction, afterFraction) :=
    match afterWhole with
    | '.' :: rest => spanFigures rest
    | rest => ([], rest)
  if whole.isEmpty && fraction.isEmpty then none
  else
    (readExponent? afterFraction).map fun power =>
      ⟨Decimal.readFigures 0 (whole ++ fraction), power - fraction.length⟩

/-- The double nearest to the number that the text denotes, if the text is a numeral. -/
def read? (text : List Char) : Option Float :=
  let (negative, magnitude) := spanSign text
  (readUnsigned? magnitude).map (Decimal.toFloat negative)

def isNumeralChar (c : Char) : Bool :=
  c.isDigit || c = '.' || c = 'e' || c = 'E' || c = '+' || c = '-'

end Reckon.Numeral
