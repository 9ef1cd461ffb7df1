import Reckon.Registry
import Reckon.Path
import Reckon.Unicode.Word

/-!
The grammar.  A formula is evaluated while its tokens are read from left to right, and the next
token alone decides what is read:

    expression := unary (operator expression)*     while the operators bind tight enough
    unary      := operator unary | factor
    factor     := "(" expression ")" | numeral | string | "true" | "false" | array | object
                | path | call | name
    array      := "[" (expression ("," expression)*)? "]"
    object     := "{" entry ("," entry)* "}"
    entry      := name ":" expression | "..." and an operand
    call       := name "(" (expression ","?)* ")"  with no "," right before ")"

`Production.step` is one production, in which those inside it stand for themselves;
`Production.run` ties the knot.
-/

namespace Reckon

/-- What an evaluation reads and does not change. -/
structure Frame where
  tokens : Array String
  bindings : Table Value
  registry : Registry
  /-- How deep expressions may nest. -/
  limit : Option Nat
  /-- Call a function from behind the closing parenthesis at a position. -/
  invoke : (position : Nat) → Callable → List Value → Outcome

/-- A reader of tokens: from a position to a result and a position, which errors keep too. -/
def Parse (α : Type) := Nat → Except Fault α × Nat

namespace Parse

variable {α β : Type}

instance : Monad Parse where
  pure value := fun position => (.ok value, position)
  bind first next := fun position =>
    match first position with
    | (.ok value, reached) => next value reached
    | (.error fault, reached) => (.error fault, reached)

def fail (error : Error) : Parse α := fun position => (.error (.raised error), position)

def lift (result : Except Fault α) : Parse α := fun position => (result, position)

def liftError (result : Except Error α) : Parse α := fun position =>
  match result with
  | .ok value => (.ok value, position)
  | .error error => (.error (.raised error), position)

def position : Parse Nat := fun position => (.ok position, position)

def advance : Parse Unit := fun position => (.ok (), position + 1)

def current (frame : Frame) : Parse (Option String) := fun position =>
  (.ok frame.tokens[position]?, position)

/-- Consume one token, which has to be the given one. -/
def expect (frame : Frame) (token : String) : Parse Unit := do
  let found ← current frame
  if found = some token then advance else fail (.invalidExpression found)

end Parse

namespace Grammar

/-- The number that a token denotes: a decimal numeral that starts with a digit or a point. -/
def numeral? (token : String) : Option Float :=
  match token.toList with
  | [] => none
  | first :: rest =>
      if (first.isDigit || first = '.') && (first :: rest).all Numeral.isNumeralChar then
        Numeral.read? (first :: rest)
      else none

/-- The content of a token between two quotes of one sort, as it is. -/
def unquote? (token : String) : Option String :=
  match token.toList with
  | [] => none
  | quote :: rest =>
      if (quote = '"' || quote = '\'') && rest.getLast? = some quote then
        some (String.ofList rest.dropLast)
      else none

def punctuation : List Char := "-+*/():,<>!=%^[]\x7b\x7d".toList

def isPunctuation (token : String) : Bool :=
  !token.isEmpty && token.toList.all punctuation.contains

def isIdentifier (token : String) : Bool :=
  match token.toList with
  | first :: _ => first = '_' || Unicode.isAlphabetic first
  | [] => false

def isPath (token : String) : Bool :=
  token.toList.any fun c => c = '.' || c = '['

def spreadMark : List Char := ['.', '.', '.']

/-- The operand of a spread token: the token without its first mark.  Other tokens have none. -/
def spreadOperand? (token : String) : Option String :=
  (remove token.toList).map String.ofList
where
  remove : List Char → Option (List Char)
    | [] => none
    | c :: rest =>
        if spreadMark.isPrefixOf (c :: rest) then some ((c :: rest).drop spreadMark.length)
        else (remove rest).map (c :: ·)

/-- The value of a bare name.  A getter is asked once; if it yields null the name has no value. -/
def lookup (bindings : Table Value) (name : String) : Except Error Value :=
  match Table.get? bindings name with
  | none => .error (.missingVariable name)
  | some (.getter _ .null) => .error (.missingVariable name)
  | some (.getter _ yielded) => .ok yielded
  | some value => .ok value

/-- The elements of an array under their indices, counted from `index`. -/
def indexed (index : Nat) : List Value → List (String × Value)
  | [] => []
  | item :: rest => (toString index, item) :: indexed (index + 1) rest

/-- The entries that a spread operand writes, if it may be spread. -/
def spreadEntries? : Value → Option (List (String × Value))
  | .object entries => some entries
  | .array items => some (indexed 0 items)
  | .null => some []
  | _ => none

end Grammar

/-- What can be read at a position, with what was read of it before. -/
inductive Production
  /-- An expression whose operators have at least the given precedence. -/
  | expression (floor : Precedence)
  /-- The current token taken for `token`, as a unary operator or a factor. -/
  | unary (token : String)
  /-- The operators of at least the given precedence after a left operand. -/
  | tail (left : Value) (floor : Precedence)
  /-- The rest of an array, whose elements so far are given last first. -/
  | elements (done : List Value)
  /-- The rest of an object. -/
  | entries (done : Table Value)
  /-- The rest of the arguments of a call, of which those so far are given last first. -/
  | arguments (callee : Callable) (done : List Value)

namespace Production

open Grammar Parse

/-- One level deeper, unless that exceeds the limit. -/
def nested (frame : Frame) (depth : Nat) (inner : Nat → Parse Value) : Parse Value :=
  match frame.limit with
  | some limit => if limit < depth + 1 then fail (.nestingTooDeep limit) else inner (depth + 1)
  | none => inner (depth + 1)

section

variable (frame : Frame) (again : Nat → Production → Parse Value) (depth : Nat)

def operand (depth : Nat) : Parse Value := do
  match ← current frame with
  | some token => again depth (.unary token)
  | none => fail (.invalidExpression none)

def callOf (callee : Callable) : Parse Value := do
  advance
  expect frame "("
  again depth (.arguments callee [])

/-- A bare name.  One that has no value and stands before a parenthesis is no function. -/
def name (token : String) : Parse Value := do
  advance
  match lookup frame.bindings token with
  | .ok value => pure value
  | .error error =>
      match ← current frame with
      | some "(" => fail (.invalidExpression (some token))
      | _ => fail error

def factor (token : String) : Parse Value :=
  if token = "(" then do
    advance
    let value ← again depth (.expression 0)
    expect frame ")"
    pure value
  else
    match numeral? token with
    | some number => do
        advance
        pure (.number number)
    | none =>
        match unquote? token with
        | some text => do
            advance
            pure (.string text)
        | none =>
            if token = "true" || token = "false" then do
              advance
              pure (.boolean (token = "true"))
            else if token = "[" then do
              advance
              again depth (.elements [])
            else if token = "\x7b" then do
              advance
              again depth (.entries [])
            else if isPath token then do
              advance
              pure (Path.resolve frame.bindings token)
            else
              match frame.registry.function? token with
              | some callee => callOf frame again depth callee
              | none =>
                  if (frame.registry.operator? token).isSome || isPunctuation token then
                    fail (.invalidExpression (some token))
                  else name frame token

def unaryOrFactor (token : String) : Parse Value :=
  match frame.registry.unaryOperator? token with
  | some operator => do
      advance
      let value ← nested frame depth fun inner => operand frame again inner
      liftError (operator value)
  | none => factor frame again depth token

/-- Fold operators into the left operand as long as they bind tight enough. -/
def climb (left : Value) (floor : Precedence) : Parse Value := do
  match ← current frame with
  | none => pure left
  | some token =>
      match frame.registry.operator? token with
      | none => pure left
      | some operator =>
          let precedence := frame.registry.precedence token
          if precedence < floor then pure left
          else do
            advance
            let right ← again depth (.expression (Precedence.next precedence))
            let folded ← liftError (operator left right)
            again depth (.tail folded floor)

def restOfArray (done : List Value) : Parse Value := do
  if (← current frame) = some "]" then
    advance
    pure (.array done.reverse)
  else
    let item ← again depth (.expression 0)
    match ← current frame with
    | some "," =>
        advance
        if (← current frame) = some "]" then fail (.invalidExpression (some "]"))
        else again depth (.elements (item :: done))
    | some "]" => again depth (.elements (item :: done))
    | other => fail (.invalidExpression other)

/-- An entry of an object, whose token is `key`: the object with it. -/
def entry (done : Table Value) (key : String) : Parse (Table Value) :=
  match spreadOperand? key with
  | some token => do
      let value ← nested frame depth fun inner => do
        let left ← again inner (.unary token)
        again inner (.tail left 0)
      match spreadEntries? value with
      | some written => pure (Table.insertAll done written)
      | none => fail (.invalidObject (some key))
  | none =>
      if !isIdentifier key then fail (.invalidObject (some key))
      else do
        advance
        let colon ← current frame
        if colon != some ":" then fail (.invalidObject colon)
        else
          advance
          let first ← current frame
          if first = none || first = some "\x7d" || first = some "," then
            fail (.invalidObject first)
          else
            let value ← again depth (.expression 0)
            pure (Table.insert done key value)

/-- The rest of an object: an entry, and more after a comma. -/
def restOfObject (done : Table Value) : Parse Value := do
  match ← current frame with
  | none => fail (.invalidObject none)
  | some key =>
      let done ← entry frame again depth done key
      match ← current frame with
      | some "\x7d" =>
          advance
          pure (.object done)
      | some "," =>
          advance
          again depth (.entries done)
      | other => fail (.invalidObject other)

/-- The rest of the arguments; the call happens behind the closing parenthesis. -/
def restOfArguments (callee : Callable) (done : List Value) : Parse Value := do
  if (← current frame) = some ")" then
    advance
    let position ← position
    lift (frame.invoke position callee done.reverse)
  else
    let argument ← again depth (.expression 0)
    if (← current frame) = some "," then
      advance
      if (← current frame) = some ")" then fail (.invalidExpression (some ")"))
      else again depth (.arguments callee (argument :: done))
    else again depth (.arguments callee (argument :: done))

/-- One production at a depth; `again` reads the productions inside it. -/
def step : Production → Parse Value
  | .expression floor =>
      nested frame depth fun inner => do
        let left ← operand frame again inner
        again inner (.tail left floor)
  | .unary token => unaryOrFactor frame again depth token
  | .tail left floor => climb frame again depth left floor
  | .elements done => restOfArray frame again depth done
  | .entries done => restOfObject frame again depth done
  | .arguments callee done => restOfArguments frame again depth callee done

end

/-- Read a production, with productions inside each other up to `fuel`. -/
def run (frame : Frame) : (fuel depth : Nat) → Production → Parse Value
  | 0, _, _ => lift (.error .unfinished)
  | fuel + 1, depth, production => step frame (run frame fuel) depth production

/-- How far productions can stand inside each other before a token is consumed, for each token. -/
def fuelFor (tokens : Nat) : Nat := 3 * tokens + 4

end Production

namespace Frame

open Parse

def expression (frame : Frame) (depth : Nat) (floor : Precedence) : Parse Value :=
  Production.run frame (Production.fuelFor frame.tokens.size) depth (.expression floor)

def formula (frame : Frame) : Parse Value := do
  let value ← frame.expression 0 0
  match ← current frame with
  | none => pure value
  | some trailing => fail (.invalidExpression (some trailing))

def outcome (frame : Frame) : Outcome :=
  (frame.formula 0).1

end Frame

end Reckon
