import Reckon.Value
import Reckon.Decimal.Layout

/-!
The string form of a value, as concatenation gives it.
-/

namespace Reckon.Value

/-- Numbers in string form: never an exponent, no `.0`, and no sign on zero. -/
def numberLayout : Decimal.Layout where
  tie := .up
  positional _ := true
  pointZero := false
  plusSign := false
  minusZero := false
  infinity := "Infinity"
  notANumber := "NaN"

mutual

/-- The string form: array elements are joined by commas, objects and host values have one fixed
text, and a getter reads as what it yields. -/
def display : Value → String
  | .null => "null"
  | .number value => numberLayout.write value
  | .string text => text
  | .boolean value => if value then "true" else "false"
  | .array items => ",".intercalate (displayItems items)
  | .object _ => "[object Object]"
  | .getter _ yielded => display yielded
  | .host .. => "[object Object]"

/-- The string forms of array elements, in which null is empty. -/
def displayItems : List Value → List String
  | [] => []
  | item :: rest => (if item.isNull then "" else display item) :: displayItems rest

end

end Reckon.Value
