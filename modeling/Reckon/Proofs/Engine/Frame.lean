import Reckon.Engine

/-!
An evaluation of an engine as the outcome of a frame.
-/

namespace Reckon.Engine

variable (engine : Engine) (levels : Nat) (site : List Nat) (tokens : Array String)
  (bindings : Table Value)

/-- What a function sees that is called from a position of an evaluation, with up to `levels`
evaluations inside each other below it. -/
def call (position : Nat) : Call where
  tokens
  position
  bindings
  site := position :: site
  evaluate turn text extra :=
    engine.evaluateIn levels (2 * turn :: position :: site) text (Table.insertAll bindings extra)
  restart turn text :=
    engine.evaluateIn levels ((2 * turn + 1) :: position :: site) text engine.defaults

def frame : Frame where
  tokens
  bindings
  registry := engine.registry
  limit := engine.limit
  invoke position callee arguments :=
    callee (engine.call levels site tokens bindings position) arguments

@[simp]
theorem evaluateIn_zero (text : String) :
    engine.evaluateIn 0 site text bindings = .error .unfinished := rfl

theorem evaluateIn_succ (text : String) :
    engine.evaluateIn (levels + 1) site text bindings =
      (engine.frame levels site (engine.tokens text).toArray bindings).outcome := rfl

end Reckon.Engine
