import Reckon.Registry
import Reckon.Value.Coercion

/-!
The standard operators.  Both operands have been evaluated before an operator sees them.
-/

namespace Reckon.Standard

def isTextual : Value → Bool
  | .string _ | .array _ | .object _ => true
  | _ => false

/-- Join the string forms if a side is textual, and add numbers otherwise. -/
def add (left right : Value) : Value :=
  let left := left.force
  let right := right.force
  if isTextual left || isTextual right then .string (left.display ++ right.display)
  else .number (left.toNumber + right.toNumber)

def numeric (operation : Float → Float → Float) (left right : Value) : Value :=
  .number (operation left.toNumber right.toNumber)

/-- Whether the order of two values is an accepted one; values without order have none. -/
def ordered (accepts : Ordering → Bool) (left right : Value) : Value :=
  .boolean ((Value.compare? left.force right.force).any accepts)

def conjunction (left right : Value) : Value :=
  .boolean (left.isTruthy && right.isTruthy)

def disjunction (left right : Value) : Value :=
  .boolean (left.isTruthy || right.isTruthy)

def equal (left right : Value) : Value :=
  .boolean (left.looselyEqual right)

def unequal (left right : Value) : Value :=
  .boolean (!left.looselyEqual right)

def binaryOperators : List (String × Precedence × (Value → Value → Value)) := [
  ("or", 1, disjunction),
  ("and", 2, conjunction),
  ("==", 3, equal),
  ("!=", 3, unequal),
  ("<", 4, ordered (· == .lt)),
  (">", 4, ordered (· == .gt)),
  ("<=", 4, ordered (· != .gt)),
  (">=", 4, ordered (· != .lt)),
  ("+", 5, add),
  ("-", 5, numeric (· - ·)),
  ("*", 6, numeric (· * ·)),
  ("/", 6, numeric (· / ·)),
  ("%", 6, numeric Binary64.remainder),
  ("^", 7, numeric Float.pow)]

def complement (operand : Value) : Value :=
  .boolean (!operand.isTruthy)

def negate (operand : Value) : Value :=
  .number (-operand.toNumber)

def unaryOperators : List (String × (Value → Value)) := [("!", complement), ("-", negate)]

def withOperators (registry : Registry) : Registry :=
  let binary := binaryOperators.foldl (fun registry entry =>
    registry.registerOperator entry.1 entry.2.1 fun left right => .ok (entry.2.2 left right))
    registry
  unaryOperators.foldl (fun registry entry =>
    registry.registerUnaryOperator entry.1 fun operand => .ok (entry.2 operand)) binary

end Reckon.Standard
