/-!
Places in a text.
-/

namespace Reckon.Text

/-- A place in a text: how many characters lie before it, the last of them, and what follows. -/
structure Spot where
  index : Nat
  before : Option Char
  rest : List Char
  deriving DecidableEq, Repr

namespace Spot

def start (text : List Char) : Spot :=
  ⟨0, none, text⟩

def after (spot : Spot) : Option Char :=
  spot.rest.head?

def pass (spot : Spot) (c : Char) : Spot :=
  ⟨spot.index + 1, some c, spot.rest.tail⟩

def onwardFrom (index : Nat) (before : Option Char) : List Char → List Spot
  | [] => [⟨index, before, []⟩]
  | c :: rest => ⟨index, before, c :: rest⟩ :: onwardFrom (index + 1) (some c) rest

def all (text : List Char) : List Spot :=
  onwardFrom 0 none text

end Spot

end Reckon.Text
