import Reckon.Proofs.Pattern.Greedy

/-!
All matches of a pattern in a text, one behind the other.  The next match is the leftmost one from
where the last one ended; an empty match right there is passed over, and the search starts again one
character further on.
-/

namespace Reckon.Pattern

open Text (Spot)
open Text.Spot (Onward)

/-- A match, from its start to its end. -/
structure Match where
  start : Spot
  last : Spot

def Match.text (found : Match) : List Char :=
  found.start.rest.take (found.last.index - found.start.index)

namespace Node

/-- The preferred match from the first place at which there is one. -/
def leftmost? (node : Node) (spot : Spot) : Option Match :=
  (Spot.onwardFrom spot.index spot.before spot.rest).findSome? fun start =>
    (node.firstEnd? start).map fun last => ⟨start, last⟩

/-- The next match from a place on, which may be the end of the last match. -/
def nextMatch? (node : Node) (behindMatch : Bool) (spot : Spot) : Option Match :=
  (node.leftmost? spot).bind fun found =>
    if behindMatch && found.last.index == spot.index then
      match spot.rest with
      | [] => none
      | c :: _ => node.leftmost? (spot.pass c)
    else some found

def matchesFrom (node : Node) : (fuel : Nat) → (behindMatch : Bool) → Spot → List Match
  | 0, _, _ => []
  | fuel + 1, behindMatch, spot =>
      match node.nextMatch? behindMatch spot with
      | some found => found :: matchesFrom node fuel true found.last
      | none => []

/-- The matches in a text.  Two of them are no further apart than a character. -/
def findAll (node : Node) (text : List Char) : List Match :=
  node.matchesFrom (2 * text.length + 2) false (.start text)

/-- What the matches in a text match, empty matches left out. -/
def findTexts (node : Node) (text : String) : List String :=
  (((node.findAll text.toList).map Match.text).filter (!·.isEmpty)).map String.ofList

section

variable {node : Node} {spot last : Spot} {c : Char} {rest : List Char}

theorem leftmost?_of_some (found : node.firstEnd? spot = some last) :
    node.leftmost? spot = some ⟨spot, last⟩ := by
  obtain ⟨index, before, text⟩ := spot
  unfold leftmost?
  cases text <;> simp [Spot.onwardFrom, found]

theorem leftmost?_of_none (unmatched : node.firstEnd? spot = none) (here : spot.rest = c :: rest) :
    node.leftmost? spot = node.leftmost? (spot.pass c) := by
  obtain ⟨index, before, text⟩ := spot
  cases here
  simp [leftmost?, Spot.onwardFrom, Spot.pass, unmatched]

theorem leftmost?_of_end (unmatched : node.firstEnd? spot = none) (here : spot.rest = []) :
    node.leftmost? spot = none := by
  obtain ⟨index, before, text⟩ := spot
  cases here
  simp [leftmost?, Spot.onwardFrom, unmatched]

/-- The end of the leftmost match does not lie before the start of the search. -/
theorem index_le_of_leftmost? {found : Match} (here : node.leftmost? spot = some found) :
    spot.index ≤ found.last.index := by
  generalize size : spot.rest = text
  induction text generalizing spot with
  | nil =>
      cases first : node.firstEnd? spot with
      | none => rw [leftmost?_of_end first size] at here; cases here
      | some last =>
          rw [leftmost?_of_some first] at here
          cases here
          exact (onward_of_firstEnd? first).index_le
  | cons c rest ih =>
      cases first : node.firstEnd? spot with
      | none =>
          rw [leftmost?_of_none first size] at here
          exact Nat.le_of_succ_le (ih here (Spot.rest_pass size))
      | some last =>
          rw [leftmost?_of_some first] at here
          cases here
          exact (onward_of_firstEnd? first).index_le

theorem firstEnd?_of_leftmost? {found : Match} (here : node.leftmost? spot = some found) :
    node.firstEnd? found.start = some found.last := by
  obtain ⟨start, -, same⟩ := List.exists_of_findSome?_eq_some here
  obtain ⟨last, first, rfl⟩ := Option.map_eq_some_iff.mp same
  exact first

variable {fuel : Nat} {behindMatch : Bool}

theorem firstEnd?_of_mem_matchesFrom {found : Match}
    (member : found ∈ node.matchesFrom fuel behindMatch spot) :
    node.firstEnd? found.start = some found.last := by
  induction fuel generalizing behindMatch spot with
  | zero => cases member
  | succ fuel ih =>
      unfold matchesFrom at member
      split at member
      · rename_i next here
        rcases List.mem_cons.mp member with rfl | member
        · obtain ⟨first, leftmost, here⟩ := Option.bind_eq_some_iff.mp here
          split at here
          · split at here
            · cases here
            · exact firstEnd?_of_leftmost? here
          · cases here
            exact firstEnd?_of_leftmost? leftmost
        · exact ih member
      · cases member

theorem matchesFrom_of_none (unmatched : node.firstEnd? spot = none) (here : spot.rest = c :: rest) :
    node.matchesFrom fuel behindMatch spot = node.matchesFrom fuel false (spot.pass c) := by
  cases fuel with
  | zero => rfl
  | succ fuel =>
      have same : node.nextMatch? behindMatch spot = node.nextMatch? false (spot.pass c) := by
        rw [nextMatch?, nextMatch?, leftmost?_of_none unmatched here]
        refine Option.bind_congr fun found leftmost => ?_
        have later := index_le_of_leftmost? leftmost
        have apart : (found.last.index == spot.index) = false := by
          rw [beq_eq_false_iff_ne]
          exact Nat.ne_of_gt later
        rw [apart, Bool.and_false, Bool.false_and]
        rfl
      rw [matchesFrom, matchesFrom, same]

theorem matchesFrom_of_end (unmatched : node.firstEnd? spot = none) (here : spot.rest = []) :
    node.matchesFrom fuel behindMatch spot = [] := by
  cases fuel with
  | zero => rfl
  | succ fuel => rw [matchesFrom, nextMatch?, leftmost?_of_end unmatched here, Option.bind_none]

theorem matchesFrom_of_some (found : node.firstEnd? spot = some last)
    (nonempty : last.index ≠ spot.index) : node.matchesFrom (fuel + 1) behindMatch spot =
      ⟨spot, last⟩ :: node.matchesFrom fuel true last := by
  rw [matchesFrom, nextMatch?, leftmost?_of_some found]
  simp [nonempty]

/-- An empty match is taken, unless the last match ended there. -/
theorem matchesFrom_of_empty (found : node.firstEnd? spot = some spot) :
    node.matchesFrom (fuel + 1) false spot = ⟨spot, spot⟩ :: node.matchesFrom fuel true spot := by
  rw [matchesFrom, nextMatch?, leftmost?_of_some found]
  rfl

theorem matchesFrom_behind (found : node.firstEnd? spot = some spot)
    (here : spot.rest = c :: rest) :
    node.matchesFrom (fuel + 1) true spot = node.matchesFrom (fuel + 1) false (spot.pass c) := by
  have same : node.nextMatch? true spot = node.nextMatch? false (spot.pass c) := by
    rw [nextMatch?, nextMatch?, leftmost?_of_some found]
    simp [here]
  rw [matchesFrom, matchesFrom, same]

theorem matchesFrom_behind_end (found : node.firstEnd? spot = some spot) (here : spot.rest = []) :
    node.matchesFrom fuel true spot = [] := by
  cases fuel with
  | zero => rfl
  | succ fuel =>
      rw [matchesFrom, nextMatch?, leftmost?_of_some found]
      simp [here]

end

end Node

end Reckon.Pattern
