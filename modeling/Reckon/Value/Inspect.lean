import Reckon.Value
import Reckon.Decimal.Layout
import Reckon.Unicode.Word

/-!
The form of a value that shows its kind and its structure.
-/

namespace Reckon.Value

/-- Numbers in inspected form: a point in every finite number, and an exponent from `10^16` up and
below `10^-4`. -/
def inspectLayout : Decimal.Layout where
  tie := .up
  positional power := decide (-5 < power) && decide (power < 16)
  pointZero := true
  plusSign := false
  minusZero := true
  infinity := "inf"
  notANumber := "NaN"

def inspectChar (c : Char) : List Char :=
  if c = '"' then ['\\', '"']
  else if c = '\\' then ['\\', '\\']
  else if c = '\n' then ['\\', 'n']
  else if c = '\r' then ['\\', 'r']
  else if c = '\t' then ['\\', 't']
  else if c.toNat = 0 then ['\\', '0']
  else if Unicode.isPrintable c then [c]
  else ['\\', 'u', '\x7b'] ++ Nat.toDigits 16 c.toNat ++ ['\x7d']

def inspectString (text : String) : String :=
  String.ofList ('"' :: text.toList.flatMap inspectChar ++ ['"'])

mutual

def inspect : Value → String
  | .null => "Null"
  | .number value => "Number(" ++ inspectLayout.write value ++ ")"
  | .string text => "String(" ++ inspectString text ++ ")"
  | .boolean value => "Boolean(" ++ (if value then "true" else "false") ++ ")"
  | .array items => "[" ++ ", ".intercalate (inspectItems items) ++ "]"
  | .object entries => "\x7b" ++ ", ".intercalate (inspectEntries entries) ++ "\x7d"
  | .getter .. => "Lazy(<getter>)"
  | .host .. => "Opaque(<host value>)"

def inspectItems : List Value → List String
  | [] => []
  | item :: rest => inspect item :: inspectItems rest

def inspectEntries : List (String × Value) → List String
  | [] => []
  | (key, item) :: rest => (inspectString key ++ ": " ++ inspect item) :: inspectEntries rest

end

end Reckon.Value
