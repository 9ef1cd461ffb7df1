import Reckon.Table
import Reckon.Decimal.Layout

/-!
JSON documents and their compact text.
-/

namespace Reckon

/-- A JSON document.  A number is an integer or a finite double. -/
inductive Json
  | null
  | boolean (value : Bool)
  | integer (value : Int)
  | real (value : Float)
  | string (text : String)
  | array (items : List Json)
  | object (entries : List (String × Json))
  deriving Inhabited

namespace Json

/-- A double as a document: null unless it is finite. -/
def ofDouble (number : Float) : Json :=
  match Binary64.decode number with
  | .finite .. => .real number
  | _ => .null

/-- Doubles in JSON text: positional from `10^-5` to below `10^16`, with `.0` after a whole number,
and else an exponent with its sign. -/
def numberLayout : Decimal.Layout where
  tie := .even
  positional power := decide (-5 ≤ power) && decide (power < 16)
  pointZero := true
  plusSign := true
  minusZero := true
  infinity := "null"
  notANumber := "null"

def integerText (value : Int) : String :=
  String.ofList (if value < 0 then '-' :: Decimal.figures value.natAbs
    else Decimal.figures value.natAbs)

/-- The characters of a string literal that stand for one character of the string. -/
def escape (c : Char) : List Char :=
  if c = '"' then ['\\', '"']
  else if c = '\\' then ['\\', '\\']
  else if c = '\n' then ['\\', 'n']
  else if c = '\r' then ['\\', 'r']
  else if c = '\t' then ['\\', 't']
  else if c.toNat = 8 then ['\\', 'b']
  else if c.toNat = 12 then ['\\', 'f']
  else if c.toNat < 32 then
    '\\' :: 'u' :: '0' :: '0' :: Nat.digitChar (c.toNat / 16) :: [Nat.digitChar (c.toNat % 16)]
  else [c]

/-- A string literal: quotes, backslashes and control characters are escaped, all else is copied. -/
def quote (text : String) : String :=
  String.ofList ('"' :: text.toList.flatMap escape ++ ['"'])

mutual

def compact : Json → String
  | .null => "null"
  | .boolean value => if value then "true" else "false"
  | .integer value => integerText value
  | .real value => numberLayout.write value
  | .string text => quote text
  | .array items => "[" ++ ",".intercalate (compactItems items) ++ "]"
  | .object entries => "\x7b" ++ ",".intercalate (compactEntries entries) ++ "\x7d"

def compactItems : List Json → List String
  | [] => []
  | item :: rest => compact item :: compactItems rest

def compactEntries : List (String × Json) → List String
  | [] => []
  | (key, item) :: rest => (quote key ++ ":" ++ compact item) :: compactEntries rest

end

end Json

end Reckon
