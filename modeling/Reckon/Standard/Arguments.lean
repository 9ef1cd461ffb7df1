import Reckon.Registry
import Reckon.Value.Coercion

/-!
Arguments of functions.  Each is asked for its value once if it is a getter.
-/

namespace Reckon.Standard

/-- The argument at an index; one that was not given is null. -/
def argument (arguments : List Value) (index : Nat) : Value :=
  ((arguments[index]?).getD .null).force

/-- The error of an argument of the wrong kind.  Messages count arguments from one. -/
def wrongKind (name : String) (index : Nat) (wanted : String) (found : Value) : Error :=
  .function name (some ("argument " ++ toString (index + 1) ++ " must be " ++ wanted ++ ", got " ++
    found.kindName))

def stringArgument (name : String) (arguments : List Value) (index : Nat) : Except Error String :=
  match argument arguments index with
  | .string text => .ok text
  | other => .error (wrongKind name index "a string" other)

def numberArgument (name : String) (arguments : List Value) (index : Nat) : Except Error Float :=
  match argument arguments index with
  | .number value => .ok value
  | other => .error (wrongKind name index "a number" other)

def arrayArgument (name : String) (arguments : List Value) (index : Nat) :
    Except Error (List Value) :=
  match argument arguments index with
  | .array items => .ok items
  | other => .error (wrongKind name index "an array" other)

def optionalString (name : String) (arguments : List Value) (index : Nat) :
    Except Error (Option String) :=
  if index < arguments.length then (stringArgument name arguments index).map some else .ok none

def plainFunction (name : String) (least : Nat) (most : Option Nat)
    (body : List Value → Except Error Value) : Callable := fun _ arguments =>
  Outcome.ofExcept do
    checkArity name arguments.length least most
    body arguments

end Reckon.Standard
