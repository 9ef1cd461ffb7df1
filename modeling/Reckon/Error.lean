import Reckon.Value

/-!
What can go wrong in a formula, and the message of each cause.
-/

namespace Reckon

inductive Error
  /-- The grammar is broken at a token, or at the end. -/
  | invalidExpression (near : Option String)
  /-- The grammar of an object literal is broken at a token, or at the end. -/
  | invalidObject (near : Option String)
  /-- A bare name has no value. -/
  | missingVariable (name : String)
  /-- The extra token pattern is no regular expression. -/
  | invalidPattern
  | nestingTooDeep (limit : Nat)
  /-- A function got too few or too many arguments; without a maximum there are never too many. -/
  | invalidArity (name : String) (least : Nat) (most : Option Nat) (actual : Nat)
  /-- A function refused its arguments.  Without a detail the cause is a pattern that is no regular
  expression. -/
  | function (name : String) (detail : Option String)
  | operator (symbol : String) (detail : String)
  deriving DecidableEq, Repr

namespace Error

def nearText : Option String → String
  | none => ""
  | some token => " near '" ++ token ++ "'"

def message : Error → String
  | .invalidExpression near => "Invalid expression" ++ nearText near
  | .invalidObject near => "Invalid object literal" ++ nearText near
  | .missingVariable name => "No value provided for variable " ++ name
  | .invalidPattern => "Invalid tokenizer pattern"
  | .nestingTooDeep limit => "Expression nesting exceeds the limit of " ++ toString limit
  | .invalidArity name least most actual =>
      "Function '" ++ name ++ "' expects " ++ toString least ++ "-" ++
        (match most with
          | some count => toString count
          | none => "∞") ++
        " arguments, got " ++ toString actual
  | .function name none => "Function '" ++ name ++ "' error"
  | .function name (some detail) => "Function '" ++ name ++ "' error: " ++ detail
  | .operator symbol detail => "Operator '" ++ symbol ++ "' error: " ++ detail

/-- Whether the text itself is malformed, whatever the bindings are. -/
def isSyntax : Error → Bool
  | .invalidExpression _ | .invalidObject _ => true
  | _ => false

end Error

/-- How an evaluation ends without a value: by an error of the formula, or because nested
evaluations used up their allowance. -/
inductive Fault
  | raised (error : Error)
  | unfinished
  deriving DecidableEq, Repr

abbrev Outcome := Except Fault Value

namespace Outcome

def raise (error : Error) : Outcome :=
  .error (.raised error)

/-- The outcome of something that cannot run out of its allowance. -/
def ofExcept : Except Error Value → Outcome
  | .ok value => .ok value
  | .error error => .error (.raised error)

end Outcome

end Reckon
