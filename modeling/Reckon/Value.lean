import Reckon.Table
import Reckon.Binary64

/-!
The values that formulas consume and produce.
-/

namespace Reckon

/-- What tells one getter or host value from another: a number given by the host, or the place in a
running formula at which the value was made. -/
inductive Identity
  | supplied (index : Nat)
  | made (site : List Nat)
  deriving DecidableEq, Repr

/-- A value.  A getter is a binding that yields another value when a bare name resolves to it; a
host value passes through formulas untouched. -/
inductive Value
  | null
  | number (value : Float)
  | string (text : String)
  | boolean (value : Bool)
  | array (items : List Value)
  | object (entries : List (String × Value))
  | getter (identity : Identity) (yielded : Value)
  | host (identity : Identity) (text : String)
  deriving Inhabited

namespace Value

def isNull : Value → Bool
  | .null => true
  | _ => false

def number? : Value → Option Float
  | .number value => some value
  | _ => none

def string? : Value → Option String
  | .string text => some text
  | _ => none

def boolean? : Value → Option Bool
  | .boolean value => some value
  | _ => none

def items? : Value → Option (List Value)
  | .array items => some items
  | _ => none

def entries? : Value → Option (Table Value)
  | .object entries => some entries
  | _ => none

/-- The value that a getter yields; any other value is its own. -/
def force : Value → Value
  | .getter _ yielded => yielded
  | value => value

/-- What is left when every getter around a value has been asked. -/
def resolved : Value → Value
  | .getter _ yielded => resolved yielded
  | value => value

def kindName : Value → String
  | .null => "null"
  | .number _ => "number"
  | .string _ => "string"
  | .boolean _ => "boolean"
  | .array _ => "array"
  | .object _ => "object"
  | .getter .. => "getter"
  | .host .. => "opaque"

def ofNat (count : Nat) : Value :=
  .number (Binary64.ofInt count)

def ofInt (value : Int) : Value :=
  .number (Binary64.ofInt value)

mutual

/-- Equality of values: numbers as doubles, objects without regard to the order of their entries,
getters and host values by identity. -/
def beq : Value → Value → Bool
  | .null, .null => true
  | .number left, .number right => left == right
  | .string left, .string right => left == right
  | .boolean left, .boolean right => left == right
  | .array left, .array right => beqItems left right
  | .object left, .object right => left.length == right.length && beqEntries left right
  | .getter left _, .getter right _ => left == right
  | .host left _, .host right _ => left == right
  | _, _ => false

def beqItems : List Value → List Value → Bool
  | [], [] => true
  | left :: lefts, right :: rights => beq left right && beqItems lefts rights
  | _, _ => false

/-- Each entry on the left has an equal one under the same key on the right. -/
def beqEntries : List (String × Value) → List (String × Value) → Bool
  | [], _ => true
  | (key, left) :: rest, entries =>
      (match Table.get? entries key with
        | some right => beq left right
        | none => false) && beqEntries rest entries

end

instance : BEq Value := ⟨beq⟩

end Value

end Reckon
