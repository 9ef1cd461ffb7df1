import Reckon.Grammar

/-!
The tree of a formula and its value.  Nothing is read here: a tree is evaluated against bindings,
operands before what is applied to them and from left to right, and the first fault ends it.
-/

namespace Reckon

mutual

inductive Formula
  | literal (value : Value)
  | path (token : String)
  /-- A bare name, and whether the token after it is an opening parenthesis. -/
  | name (token : String) (called : Bool)
  | unary (symbol : String) (operand : Formula)
  | binary (symbol : String) (left right : Formula)
  | array (items : List Formula)
  | object (entries : List Formula.Entry)
  /-- A call, and the position behind its closing parenthesis. -/
  | call (function : String) (arguments : List Formula) (stop : Nat)

/-- An entry of an object: a key with its expression, or a token with the operand that it
spreads. -/
inductive Formula.Entry
  | keyed (key : String) (value : Formula)
  | spread (token : String) (operand : Formula)

end

namespace Formula

structure Setting where
  bindings : Table Value
  registry : Registry
  /-- Call a function from a position. -/
  invoke : (stop : Nat) → Callable → List Value → Outcome

namespace Setting

variable (setting : Setting)

/-- The value of a bare name.  One that has no value and stands before a parenthesis is no
function. -/
def name (token : String) (called : Bool) : Outcome :=
  match Grammar.lookup setting.bindings token with
  | .ok value => .ok value
  | .error error =>
      if called then Outcome.raise (.invalidExpression (some token)) else Outcome.raise error

def unary (symbol : String) (operand : Value) : Outcome :=
  match setting.registry.unaryOperator? symbol with
  | some operator => Outcome.ofExcept (operator operand)
  | none => Outcome.raise (.invalidExpression (some symbol))

def binary (symbol : String) (left right : Value) : Outcome :=
  match setting.registry.operator? symbol with
  | some operator => Outcome.ofExcept (operator left right)
  | none => Outcome.raise (.invalidExpression (some symbol))

def call (function : String) (stop : Nat) (arguments : List Value) : Outcome :=
  match setting.registry.function? function with
  | some callee => setting.invoke stop callee arguments
  | none => Outcome.raise (.invalidExpression (some function))

end Setting

def spreadInto (done : Table Value) (token : String) (operand : Value) :
    Except Fault (Table Value) :=
  match Grammar.spreadEntries? operand with
  | some written => .ok (Table.insertAll done written)
  | none => .error (.raised (.invalidObject (some token)))

mutual

def evaluate (setting : Setting) : Formula → Outcome
  | .literal value => .ok value
  | .path token => .ok (Path.resolve setting.bindings token)
  | .name token called => setting.name token called
  | .unary symbol operand => do
      let value ← evaluate setting operand
      setting.unary symbol value
  | .binary symbol left right => do
      let leftValue ← evaluate setting left
      let rightValue ← evaluate setting right
      setting.binary symbol leftValue rightValue
  | .array items => do
      let values ← evaluateAll setting items
      return .array values
  | .object entries => do
      let table ← evaluateEntries setting [] entries
      return .object table
  | .call function arguments stop => do
      let values ← evaluateAll setting arguments
      setting.call function stop values

/-- The values of trees, from left to right. -/
def evaluateAll (setting : Setting) : List Formula → Except Fault (List Value)
  | [] => .ok []
  | formula :: rest => do
      let value ← evaluate setting formula
      let values ← evaluateAll setting rest
      return value :: values

def evaluateEntries (setting : Setting) (done : Table Value) :
    List Entry → Except Fault (Table Value)
  | [] => .ok done
  | entry :: rest => do
      let written ← evaluateEntry setting done entry
      evaluateEntries setting written rest

def evaluateEntry (setting : Setting) (done : Table Value) : Entry → Except Fault (Table Value)
  | .keyed key value => do
      let found ← evaluate setting value
      return Table.insert done key found
  | .spread token operand => do
      let found ← evaluate setting operand
      spreadInto done token found

end

end Formula

def Frame.setting (frame : Frame) : Formula.Setting :=
  ⟨frame.bindings, frame.registry, frame.invoke⟩

end Reckon
