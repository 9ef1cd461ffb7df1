import Reckon.Error

/-!
What a formula may call: functions, binary and unary operators, and the precedences of operators.
-/

namespace Reckon

abbrev Precedence := UInt32

/-- The least precedence above another one; there is none above the last. -/
def Precedence.next (precedence : Precedence) : Precedence :=
  if precedence = 0xffffffff then precedence else precedence + 1

/-- What a function sees of the evaluation that calls it. -/
structure Call where
  tokens : Array String
  /-- How many tokens have been consumed; those of the call are among them. -/
  position : Nat
  bindings : Table Value
  /-- Where the call stands: its position, and the site of the evaluation around it. -/
  site : List Nat
  /-- Evaluate a text with these bindings and further ones, which win.  A function that evaluates
  more than once counts its turns. -/
  evaluate : (turn : Nat) → String → Table Value → Outcome
  /-- Evaluate a text with the default bindings of the engine. -/
  restart : (turn : Nat) → String → Outcome

namespace Call

def current? (call : Call) : Option String :=
  call.tokens[call.position]?

def isAtEnd (call : Call) : Bool :=
  call.tokens.size ≤ call.position

/-- An identity that no other call shares. -/
def identity (call : Call) : Identity :=
  .made call.site

end Call

/-- A function: it gets the arguments in their order. -/
abbrev Callable := Call → List Value → Outcome

abbrev BinaryOperator := Value → Value → Except Error Value

abbrev UnaryOperator := Value → Except Error Value

structure Registry where
  functions : Table Callable
  operators : Table BinaryOperator
  unaryOperators : Table UnaryOperator
  precedences : Table Precedence

namespace Registry

def empty : Registry := ⟨[], [], [], []⟩

def function? (registry : Registry) (name : String) : Option Callable :=
  Table.get? registry.functions name

def operator? (registry : Registry) (symbol : String) : Option BinaryOperator :=
  Table.get? registry.operators symbol

def unaryOperator? (registry : Registry) (symbol : String) : Option UnaryOperator :=
  Table.get? registry.unaryOperators symbol

/-- The precedence of a symbol, zero if none was set. -/
def precedence (registry : Registry) (symbol : String) : Precedence :=
  (Table.get? registry.precedences symbol).getD 0

def registerFunction (registry : Registry) (name : String) (function : Callable) : Registry :=
  { registry with functions := Table.insert registry.functions name function }

def registerOperator (registry : Registry) (symbol : String) (precedence : Precedence)
    (operator : BinaryOperator) : Registry :=
  { registry with
    operators := Table.insert registry.operators symbol operator
    precedences := Table.insert registry.precedences symbol precedence }

def registerUnaryOperator (registry : Registry) (symbol : String) (operator : UnaryOperator) :
    Registry :=
  { registry with unaryOperators := Table.insert registry.unaryOperators symbol operator }

def setFunctions (registry : Registry) (functions : Table Callable) : Registry :=
  { registry with functions := Table.insertAll registry.functions functions }

/-- Replace operators and leave their precedences alone. -/
def setOperators (registry : Registry) (operators : Table BinaryOperator) : Registry :=
  { registry with operators := Table.insertAll registry.operators operators }

def setUnaryOperators (registry : Registry) (operators : Table UnaryOperator) : Registry :=
  { registry with unaryOperators := Table.insertAll registry.unaryOperators operators }

def setPrecedences (registry : Registry) (precedences : Table Precedence) : Registry :=
  { registry with precedences := Table.insertAll registry.precedences precedences }

theorem function?_registerFunction (registry : Registry) (name other : String)
    (function : Callable) :
    (registry.registerFunction name function).function? other =
      if name = other then some function else registry.function? other :=
  Table.get?_insert registry.functions name other function

theorem operator?_registerOperator (registry : Registry) (symbol other : String)
    (precedence : Precedence) (operator : BinaryOperator) :
    (registry.registerOperator symbol precedence operator).operator? other =
      if symbol = other then some operator else registry.operator? other :=
  Table.get?_insert registry.operators symbol other operator

theorem precedence_registerOperator (registry : Registry) (symbol other : String)
    (precedence : Precedence) (operator : BinaryOperator) :
    (registry.registerOperator symbol precedence operator).precedence other =
      if symbol = other then precedence else registry.precedence other := by
  unfold Registry.precedence
  rw [registerOperator, Table.get?_insert]
  split <;> rfl

theorem unaryOperator?_registerUnaryOperator (registry : Registry) (symbol other : String)
    (operator : UnaryOperator) :
    (registry.registerUnaryOperator symbol operator).unaryOperator? other =
      if symbol = other then some operator else registry.unaryOperator? other :=
  Table.get?_insert registry.unaryOperators symbol other operator

@[simp]
theorem precedence_setOperators (registry : Registry) (operators : Table BinaryOperator)
    (symbol : String) :
    (registry.setOperators operators).precedence symbol = registry.precedence symbol := rfl

end Registry

/-- Refuse a call with fewer than `least` or more than `most` arguments. -/
def checkArity (name : String) (count least : Nat) (most : Option Nat) : Except Error Unit :=
  if count < least || most.any (· < count) then .error (.invalidArity name least most count)
  else .ok ()

end Reckon
