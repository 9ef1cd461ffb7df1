import Reckon.Engine
import Reckon.Value.Json

/-!
Options for building an engine, and their form as a JSON document.
-/

namespace Reckon

structure Options where
  bindings : Table Value := []
  /-- An extra pattern for tokens. -/
  pattern : Option String := none
  precedences : Table Precedence := []
  limit : Option Nat := none
  unaryOperators : Table UnaryOperator := []

namespace Options

def readVariables? : Json → Option (Table Value)
  | .object entries => some (entries.map fun (name, item) => (name, .ofJson item))
  | _ => none

def readPattern? : Json → Option (Option String)
  | .null => some none
  | .string text => some (some text)
  | _ => none

def readPrecedence? : Json → Option Precedence
  | .integer number =>
      if 0 ≤ number ∧ number < UInt32.size then some (UInt32.ofNat number.toNat) else none
  | _ => none

def readPrecedences? : Json → Option (Table Precedence)
  | .object entries =>
      entries.mapM fun (symbol, item) => (readPrecedence? item).map fun level => (symbol, level)
  | _ => none

def readLimit? : Json → Option (Option Nat)
  | .null => some none
  | .integer number =>
      if 0 ≤ number ∧ number < UInt64.size then some (some number.toNat) else none
  | _ => none

/-- Take one field of a document into options; a field of another name is passed over. -/
def readField? (options : Options) (name : String) (item : Json) : Option Options :=
  match name with
  | "variables" => (readVariables? item).map fun bindings => { options with bindings }
  | "pattern" => (readPattern? item).map fun pattern => { options with pattern }
  | "operator_precedence" =>
      (readPrecedences? item).map fun precedences => { options with precedences }
  | "max_depth" => (readLimit? item).map fun limit => { options with limit }
  | _ => some options

/-- The fields in the order in which an array gives them. -/
def fieldNames : List String := ["variables", "pattern", "operator_precedence", "max_depth"]

/-- The options of a document: an object of fields, or an array of the first ones. -/
def ofJson? : Json → Option Options
  | .object entries => entries.foldlM (fun options (name, item) => readField? options name item) {}
  | .array items =>
      if fieldNames.length < items.length then none
      else
        (fieldNames.zip items).foldlM (fun options (name, item) => readField? options name item) {}
  | _ => none

end Options

/-- The engine of a registry and options.  It fails only if the extra pattern is malformed. -/
def Engine.build (registry : Registry) (options : Options) : Except Error Engine :=
  match Lexicon.withPattern? options.pattern with
  | none => .error .invalidPattern
  | some lexicon =>
      .ok
        { defaults := options.bindings
          registry :=
            (registry.setPrecedences options.precedences).setUnaryOperators options.unaryOperators
          lexicon
          limit := options.limit }

end Reckon
