import Reckon.Value
import Reckon.Json

/-!
Values as JSON documents.  `toJson` always gives a document, with sorted keys; `serialize?` keeps
the order of entries and refuses host values.
-/

namespace Reckon.Value

/-- The value of a document; integers become the nearest doubles. -/
def ofJson : Json → Value
  | .null => .null
  | .boolean value => .boolean value
  | .integer value => ofInt value
  | .real value => .number value
  | .string text => .string text
  | .array items => .array (ofItems items)
  | .object entries => .object (ofEntries entries)
where
  ofItems : List Json → List Value
    | [] => []
    | item :: rest => ofJson item :: ofItems rest
  ofEntries : List (String × Json) → List (String × Value)
    | [] => []
    | (key, item) :: rest => (key, ofJson item) :: ofEntries rest

/-- Whole numbers of less than this magnitude are written as integers. -/
def integerLimit : Nat := 2 * Binary64.hiddenBit

/-- A number as a document: an integer if it is a small enough one, and null unless it is finite. -/
def numberToJson (number : Float) : Json :=
  match (Binary64.toInt? number).filter (·.natAbs < integerLimit) with
  | some whole => .integer whole
  | none => .ofDouble number

mutual

/-- The document of a value: getters are asked and host values become null. -/
def toJson : Value → Json
  | .null | .host .. => .null
  | .number value => numberToJson value
  | .string text => .string text
  | .boolean value => .boolean value
  | .array items => .array (itemsToJson items)
  | .object entries => .object (Table.sorted (entriesToJson entries))
  | .getter _ yielded => toJson yielded

def itemsToJson : List Value → List Json
  | [] => []
  | item :: rest => toJson item :: itemsToJson rest

def entriesToJson : List (String × Value) → List (String × Json)
  | [] => []
  | (key, item) :: rest => (key, toJson item) :: entriesToJson rest

end

def unserializable : String := "opaque host values cannot be serialized"

mutual

/-- The document that keeps the order of entries, if no host value is reached. -/
def serialize? : Value → Option Json
  | .null => some .null
  | .host .. => none
  | .number value => some (numberToJson value)
  | .string text => some (.string text)
  | .boolean value => some (.boolean value)
  | .array items => (serializeItems? items).map .array
  | .object entries => (serializeEntries? entries).map .object
  | .getter _ yielded => serialize? yielded

def serializeItems? : List Value → Option (List Json)
  | [] => some []
  | item :: rest =>
      match serialize? item, serializeItems? rest with
      | some first, some others => some (first :: others)
      | _, _ => none

def serializeEntries? : List (String × Value) → Option (List (String × Json))
  | [] => some []
  | (key, item) :: rest =>
      match serialize? item, serializeEntries? rest with
      | some first, some others => some ((key, first) :: others)
      | _, _ => none

end

end Reckon.Value
