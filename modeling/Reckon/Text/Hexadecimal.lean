/-!
Hexadecimal digits.
-/

namespace Reckon.Text

def hexValue? (c : Char) : Option Nat :=
  if c.isDigit then some (c.toNat - '0'.toNat)
  else if 'a' ≤ c ∧ c ≤ 'f' then some (c.toNat - 'a'.toNat + 10)
  else if 'A' ≤ c ∧ c ≤ 'F' then some (c.toNat - 'A'.toNat + 10)
  else none

def readHex? (digits : List Char) : Option Nat :=
  (digits.mapM hexValue?).map (List.foldl (fun total digit => 16 * total + digit) 0)

end Reckon.Text
