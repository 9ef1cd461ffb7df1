import Reckon.Proofs.Engine.Names
import Reckon.Proofs.Grammar.Errors

/-!
What the errors of an engine point at, where what it calls ends with no errors of the grammar.
-/

namespace Reckon.Engine

open Outcome

/-- The grammar with a function that fails with this error, whatever its call and arguments. -/
def raising (error : Error) : Engine :=
  core.configure fun registry => registry.registerFunction "refuse" fun _ _ => raise error

theorem eq_of_function?_raising {error : Error} {name : String} {callee : Callable}
    (registered : (raising error).registry.function? name = some callee) :
    callee = fun _ _ => raise error := by
  have found : (if "refuse" = name then some _ else none) = some callee :=
    (core.registry.function?_registerFunction "refuse" name _).symm.trans registered
  split at found
  · exact (Option.some.inj found).symm
  · cases found

theorem eq_of_reports_raising {expected error : Error} {levels : Nat} {site : List Nat}
    {tokens : Array String} {bindings : Table Value}
    (reports : ((raising expected).frame levels site tokens bindings).Reports error) :
    error = expected := by
  cases reports with
  | operator given =>
      generalize result : Except.error error = outcome at given
      cases given with
      | unary registered => cases registered
      | binary registered => cases registered
  | function registered position arguments failed =>
      cases eq_of_function?_raising registered
      cases failed
      rfl

def refusing : Engine := raising (.function "refuse" none)

end Reckon.Engine
