import Reckon.Value
import Reckon.Decimal.Numeral
import Reckon.Text.Fields

/-!
Paths such as `a.b[0].c`: their segments, and the value that they reach from the bindings.
-/

namespace Reckon.Path

/-- The indices at the front of a text, each between brackets.  One that is not closed runs to the
end, and a text that starts otherwise has none. -/
def indices : Nat → List Char → List (List Char)
  | 0, _ => []
  | fuel + 1, '[' :: inner =>
      inner.takeWhile (· != ']') ::
        match inner.dropWhile (· != ']') with
        | _ :: rest => indices fuel rest
        | [] => []
  | _ + 1, _ => []

def partSegments (part : List Char) : List (List Char) :=
  part.takeWhile (· != '[') :: indices part.length (part.dropWhile (· != '['))

def segments (path : String) : List String :=
  ((Text.fields '.' path.toList).flatMap partSegments).map String.ofList

inductive Step
  | into (value : Value)
  | length (count : Nat)
  | missing

/-- The index that a segment denotes: digits after an optional plus, within a machine word. -/
def index? (segment : String) : Option Nat :=
  let digits := match segment.toList with
    | '+' :: rest => rest
    | text => text
  (Numeral.readNat? digits).filter (· < UInt64.size)

/-- One step: an entry of an object, or an element or the length of an array. -/
def step (current : Value) (segment : String) : Step :=
  match current with
  | .object entries =>
      match Table.get? entries segment with
      | some value => .into value
      | none => .missing
  | .array items =>
      if segment = "length" then .length items.length
      else
        match (index? segment).bind (items[·]?) with
        | some value => .into value
        | none => .missing
  | _ => .missing

/-- Follow segments from a value.  A length ends a path; nothing can be read from it. -/
def follow (current : Value) : List String → Value
  | [] => current
  | segment :: rest =>
      match step current segment with
      | .into value => follow value rest
      | .length count => if rest.isEmpty then .ofNat count else .null
      | .missing => .null

/-- The value that a path reaches, or null.  Getters on the way are not asked. -/
def resolve (bindings : Table Value) (path : String) : Value :=
  match segments path with
  | [] => .null
  | root :: rest =>
      match Table.get? bindings root with
      | some value => follow value rest
      | none => .null

end Reckon.Path
