import Reckon.Grammar
import Reckon.Lexicon
import Reckon.Json

/-!
Engines: default bindings, what formulas may call, and the tokens of formulas.
-/

namespace Reckon

structure Engine where
  /-- Bindings of every evaluation. -/
  defaults : Table Value
  registry : Registry
  lexicon : Lexicon
  /-- How deep expressions may nest; evaluations inside an evaluation count anew. -/
  limit : Option Nat

namespace Engine

def core : Engine := ⟨[], .empty, .builtin, none⟩

def tokens (engine : Engine) (text : String) : List String :=
  engine.lexicon.tokens text

/-- Evaluate a text at a site against bindings, with up to `levels` evaluations inside each
other. -/
def evaluateIn (engine : Engine) :
    (levels : Nat) → (site : List Nat) → String → Table Value → Outcome
  | 0, _, _, _ => .error .unfinished
  | levels + 1, site, text, bindings =>
      let tokens := (engine.tokens text).toArray
      let frame : Frame :=
        { tokens, bindings
          registry := engine.registry
          limit := engine.limit
          invoke := fun position callee arguments =>
            let here := position :: site
            let inner (turn : Nat) := evaluateIn engine levels (turn :: here)
            callee
              { tokens, position, bindings
                site := here
                evaluate := fun turn text extra =>
                  inner (2 * turn) text (Table.insertAll bindings extra)
                restart := fun turn text => inner (2 * turn + 1) text engine.defaults }
              arguments }
      frame.outcome

/-- Evaluations inside each other are given up at this level. -/
def levelAllowance : Nat := 2000

def evaluate (engine : Engine) (text : String) : Outcome :=
  engine.evaluateIn levelAllowance [] text engine.defaults

/-- Evaluate a text with further bindings, which win over the default ones. -/
def evaluateWith (engine : Engine) (text : String) (bindings : Table Value) : Outcome :=
  engine.evaluateIn levelAllowance [] text (Table.insertAll engine.defaults bindings)

def setVariables (engine : Engine) (bindings : Table Value) : Engine :=
  { engine with defaults := Table.insertAll engine.defaults bindings }

def configure (engine : Engine) (change : Registry → Registry) : Engine :=
  { engine with registry := change engine.registry }

end Engine

end Reckon
