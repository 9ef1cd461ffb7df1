import Reckon.Standard.Arguments

/-!
Functions on arrays that take an expression for each element.  It sees the element and its index,
and in a reduction what was accumulated so far.
-/

namespace Reckon.Standard

/-- Take an error of an argument for the end of the evaluation. -/
def raised {α : Type} : Except Error α → Except Fault α
  | .ok value => .ok value
  | .error error => .error (.raised error)

def itemBindings (index : Nat) (item : Value) : Table Value :=
  [("_item_", item), ("_index_", .ofNat index)]

def evaluateItem (call : Call) (text : String) (index : Nat) (item : Value) : Outcome :=
  call.evaluate index text (itemBindings index item)

/-- The elements, counted from `index`, that pass a test, which may fail. -/
def keepWhere (test : Nat → Value → Outcome) (index : Nat) :
    List Value → Except Fault (List Value)
  | [] => .ok []
  | item :: rest => do
      let verdict ← test index item
      let kept ← keepWhere test (index + 1) rest
      return if verdict.isTruthy then item :: kept else kept

/-- The results for all elements, counted from `index`. -/
def mapItems (transform : Nat → Value → Outcome) (index : Nat) :
    List Value → Except Fault (List Value)
  | [] => .ok []
  | item :: rest => do
      let result ← transform index item
      let results ← mapItems transform (index + 1) rest
      return result :: results

/-- The first element, counted from `index`, whose verdict has the wanted truth. -/
def findWhere (wanted : Bool) (test : Nat → Value → Outcome) (index : Nat) :
    List Value → Except Fault (Option Value)
  | [] => .ok none
  | item :: rest => do
      let verdict ← test index item
      if verdict.isTruthy = wanted then return some item
      else findWhere wanted test (index + 1) rest

/-- The elements, counted from `index`, whose keys equal none of those seen. -/
def keepDistinct (key : Nat → Value → Outcome) (seen : List Value) (index : Nat) :
    List Value → Except Fault (List Value)
  | [] => .ok []
  | item :: rest => do
      let found ← key index item
      if seen.any (· == found) then keepDistinct key seen (index + 1) rest
      else
        let kept ← keepDistinct key (seen ++ [found]) (index + 1) rest
        return item :: kept

/-- The accumulated value after all elements, counted from `index`. -/
def reduceItems (combine : Nat → Value → Value → Outcome) (accumulated : Value) (index : Nat) :
    List Value → Outcome
  | [] => .ok accumulated
  | item :: rest => do
      let next ← combine index item accumulated
      reduceItems combine next (index + 1) rest

def itemArguments (name : String) (arguments : List Value) :
    Except Error (List Value × String) := do
  checkArity name arguments.length 2 (some 2)
  let items ← arrayArgument name arguments 0
  let text ← stringArgument name arguments 1
  return (items, text)

def filterItems : Callable := fun call arguments => do
  let (items, text) ← raised (itemArguments "filter" arguments)
  return .array (← keepWhere (evaluateItem call text) 0 items)

def mapEach : Callable := fun call arguments => do
  let (items, text) ← raised (itemArguments "map" arguments)
  return .array (← mapItems (evaluateItem call text) 0 items)

/-- The first element that passes, or null. -/
def findItem : Callable := fun call arguments => do
  let (items, text) ← raised (itemArguments "find" arguments)
  return (← findWhere true (evaluateItem call text) 0 items).getD .null

def someItem : Callable := fun call arguments => do
  let (items, text) ← raised (itemArguments "some" arguments)
  return .boolean (← findWhere true (evaluateItem call text) 0 items).isSome

def everyItem : Callable := fun call arguments => do
  let (items, text) ← raised (itemArguments "every" arguments)
  return .boolean (← findWhere false (evaluateItem call text) 0 items).isNone

/-- The first of all elements with equal keys; without an expression an element is its own key. -/
def uniqueItems : Callable := fun call arguments => do
  let (items, text?) ← raised do
    checkArity "unique" arguments.length 1 (some 2)
    let items ← arrayArgument "unique" arguments 0
    let text? ← optionalString "unique" arguments 1
    return (items, text?)
  let key := match text? with
    | some text => evaluateItem call text
    | none => fun _ item => .ok item
  return .array (← keepDistinct key [] 0 items)

/-- Fold the elements from the left, the accumulated value under a name of its own. -/
def reduceArray : Callable := fun call arguments => do
  let (items, text) ← raised do
    checkArity "reduce" arguments.length 3 (some 3)
    let items ← arrayArgument "reduce" arguments 0
    let text ← stringArgument "reduce" arguments 1
    return (items, text)
  let combine (index : Nat) (item accumulated : Value) : Outcome :=
    call.evaluate index text (itemBindings index item ++ [("_curr_", accumulated)])
  reduceItems combine (argument arguments 2) 0 items

def arrayFunctions : Table Callable := [
  ("unique", uniqueItems),
  ("filter", filterItems),
  ("map", mapEach),
  ("find", findItem),
  ("some", someItem),
  ("every", everyItem),
  ("reduce", reduceArray)]

end Reckon.Standard
