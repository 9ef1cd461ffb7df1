import Reckon.Proofs.Formula

/-!
The tree that tokens denote.  The reader follows the grammar and looks at a registry only to see
which tokens are operators and functions and how tight operators bind; it evaluates nothing.
-/

namespace Reckon.Formula

/-- Why tokens are no formula: the error, and what had been read completely before it, in order. -/
structure Rejection where
  error : Error
  completed : List Formula
  malformed : error.isSyntax = true := by rfl

def Rejection.after (parts : List Formula) (rejection : Rejection) : Rejection :=
  { rejection with completed := parts ++ rejection.completed }

/-- A part that was read, and the position behind it. -/
structure Span (α : Type) (least : Nat) where
  part : α
  stop : Nat
  forward : least ≤ stop

variable {α : Type} {least earlier : Nat}

def Span.weaken (span : Span α least) (before : earlier ≤ least) : Span α earlier :=
  ⟨span.part, span.stop, Nat.le_trans before span.forward⟩

/-- The result of reading up to the position `least` or further. -/
abbrev Reading (α : Type) (least : Nat) := Except Rejection (Span α least)

namespace Reading

/-- A rejection at a token, or at the end. -/
def reject (near : Option String) (completed : List Formula) : Reading α least :=
  .error { error := .invalidExpression near, completed }

/-- A rejection at a token of an object, or at the end. -/
def rejectObject (near : Option String) (completed : List Formula) : Reading α least :=
  .error { error := .invalidObject near, completed }

def after (parts : List Formula) (reading : Reading α least) : Reading α least :=
  reading.mapError (·.after parts)

end Reading

def literal? (token : String) : Option Value :=
  match Grammar.numeral? token, Grammar.unquote? token with
  | some number, _ => some (.number number)
  | none, some text => some (.string text)
  | none, none =>
      if token = "true" || token = "false" then some (.boolean (token = "true")) else none

/-- What stands where a unary factor begins. -/
inductive Role
  | unaryOperator
  | parenthesis
  | literal (value : Value)
  | array
  | object
  | path
  | function
  | refused
  | name

def role (registry : Registry) (token : String) : Role :=
  if (registry.unaryOperator? token).isSome then .unaryOperator
  else if token = "(" then .parenthesis
  else
    match literal? token with
    | some value => .literal value
    | none =>
        if token = "[" then .array
        else if token = "\x7b" then .object
        else if Grammar.isPath token then .path
        else if (registry.function? token).isSome then .function
        else if (registry.operator? token).isSome || Grammar.isPunctuation token then .refused
        else .name

section

variable (registry : Registry) (tokens : Array String)

open Reading

mutual

/-- An expression whose operators have at least the given precedence. -/
def readExpression (floor : Precedence) (start : Nat) : Reading Formula (start + 1) :=
  if inside : start < tokens.size then do
    let left ← readUnary tokens[start] start inside
    have := left.forward
    let whole ← readTail left.part floor left.stop
    return whole.weaken (by omega)
  else reject none []
termination_by 3 * (tokens.size - start) + 1

/-- The operators of at least the given precedence after a left operand. -/
def readTail (left : Formula) (floor : Precedence) (start : Nat) : Reading Formula start :=
  if inside : start < tokens.size then
    let symbol := tokens[start]
    let precedence := registry.precedence symbol
    if (registry.operator? symbol).isNone || precedence < floor then
      return ⟨left, start, Nat.le_refl start⟩
    else do
      let right ← after [left] (readExpression precedence.next (start + 1))
      have := right.forward
      let whole ← readTail (.binary symbol left right.part) floor right.stop
      return whole.weaken (by omega)
  else return ⟨left, start, Nat.le_refl start⟩
termination_by 3 * (tokens.size - start)

/-- The token at a position taken for `token`, as a unary operator or a factor. -/
def readUnary (token : String) (start : Nat) (_inside : start < tokens.size) :
    Reading Formula (start + 1) :=
  match role registry token with
  | .unaryOperator =>
      if more : start + 1 < tokens.size then do
        let operand ← readUnary tokens[start + 1] (start + 1) more
        have := operand.forward
        return ⟨.unary token operand.part, operand.stop, by omega⟩
      else reject none []
  | .parenthesis => do
      let inner ← readExpression 0 (start + 1)
      have := inner.forward
      if tokens[inner.stop]? = some ")" then return ⟨inner.part, inner.stop + 1, by omega⟩
      else reject tokens[inner.stop]? [inner.part]
  | .literal value => return ⟨.literal value, start + 1, Nat.le_refl (start + 1)⟩
  | .array => readElements [] (start + 1)
  | .object => readEntries [] (start + 1)
  | .path => return ⟨.path token, start + 1, Nat.le_refl (start + 1)⟩
  | .function =>
      if tokens[start + 1]? = some "(" then do
        let call ← readArguments token [] (start + 2)
        return call.weaken (by omega)
      else reject tokens[start + 1]? []
  | .refused => reject (some token) []
  | .name =>
      return ⟨.name token (tokens[start + 1]? = some "("), start + 1, Nat.le_refl (start + 1)⟩
termination_by 3 * (tokens.size - start)

def readElements (done : List Formula) (start : Nat) : Reading Formula start :=
  if inside : start < tokens.size then
    if tokens[start] = "]" then return ⟨.array done, start + 1, by omega⟩
    else do
      let item ← after done (readExpression 0 start)
      have := item.forward
      let done := done ++ [item.part]
      if tokens[item.stop]? = some "," then
        if tokens[item.stop + 1]? = some "]" then reject (some "]") done
        else
          let whole ← readElements done (item.stop + 1)
          return whole.weaken (by omega)
      else if tokens[item.stop]? = some "]" then
        let whole ← readElements done item.stop
        return whole.weaken (by omega)
      else reject tokens[item.stop]? done
  else reject none done
termination_by 3 * (tokens.size - start) + 2

def readEntries (done : List Entry) (start : Nat) : Reading Formula start :=
  if inside : start < tokens.size then do
    let entry ← after [.object done] (readEntry start inside)
    have := entry.forward
    let done := done ++ [entry.part]
    if tokens[entry.stop]? = some "\x7d" then return ⟨.object done, entry.stop + 1, by omega⟩
    else if tokens[entry.stop]? = some "," then
      let whole ← readEntries done (entry.stop + 1)
      return whole.weaken (by omega)
    else rejectObject tokens[entry.stop]? [.object done]
  else rejectObject none [.object done]
termination_by 3 * (tokens.size - start) + 2

def readEntry (start : Nat) (inside : start < tokens.size) : Reading Entry (start + 1) :=
  let key := tokens[start]
  match Grammar.spreadOperand? key with
  | some token => do
      let left ← readUnary token start inside
      have := left.forward
      let operand ← readTail left.part 0 left.stop
      return ⟨.spread key operand.part, operand.stop, Nat.le_trans left.forward operand.forward⟩
  | none =>
      if !Grammar.isIdentifier key then rejectObject (some key) []
      else if tokens[start + 1]? ≠ some ":" then rejectObject tokens[start + 1]? []
      else
        let first := tokens[start + 2]?
        if first = none || first = some "\x7d" || first = some "," then rejectObject first []
        else do
          let value ← readExpression 0 (start + 2)
          return ⟨.keyed key value.part, value.stop,
            Nat.le_trans (Nat.le_add_right (start + 1) 2) value.forward⟩
termination_by 3 * (tokens.size - start) + 1

def readArguments (function : String) (done : List Formula) (start : Nat) :
    Reading Formula start :=
  if inside : start < tokens.size then
    if tokens[start] = ")" then return ⟨.call function done (start + 1), start + 1, by omega⟩
    else do
      let argument ← after done (readExpression 0 start)
      have := argument.forward
      let done := done ++ [argument.part]
      if tokens[argument.stop]? = some "," then
        if tokens[argument.stop + 1]? = some ")" then reject (some ")") done
        else
          let whole ← readArguments function done (argument.stop + 1)
          return whole.weaken (by omega)
      else
        let whole ← readArguments function done argument.stop
        return whole.weaken (by omega)
  else reject none done
termination_by 3 * (tokens.size - start) + 2

end

def read : Except Rejection Formula := do
  let whole ← readExpression registry tokens 0 0
  match tokens[whole.stop]? with
  | none => return whole.part
  | some trailing =>
      .error { error := .invalidExpression (some trailing), completed := [whole.part] }

end

end Reckon.Formula
