import Reckon.Proofs.Lexicon.Extra

/-!
Which alternative of the regular expression a token comes from.  The alternatives belong to the
kinds of tokens, in the order in which the kinds are tried.  The built-in tokens of a text are the
matches of the expression in it, and the kind of each is that of the first alternative that matches
there.
-/

namespace Reckon.Lexicon

open Text (Spot)
open Pattern Node Lexeme

/-- The kinds of the built-in tokens, in the order in which they are tried. -/
def kinds : List TokenKind := [.comparison, .special, .numeral, .quoted, .path, .spread]

/-- The alternatives of the regular expression for the tokens of a kind. -/
def nodesOf : TokenKind → List Node
  | .comparison => comparisonNodes
  | .special => [specialNode]
  | .numeral => [numeralNode]
  | .quoted => [quotedNode '"', quotedNode '\'']
  | .path => [pathNode]
  | .spread => [spreadNode]
  | .extra => []

/-- The default alternation has just these alternatives, in this order. -/
theorem alternatives_builtinNode : builtinNode.alternatives = kinds.flatMap nodesOf := rfl

/-- Where the preferred match of the alternatives for a kind ends, if one of them matches. -/
def endOf? (kind : TokenKind) (spot : Spot) : Option Spot :=
  (nodesOf kind).findSome? (·.firstEnd? spot)

/-- The kind of the first alternative that matches at a place, and where its match ends. -/
def firstMatch? (spot : Spot) : Option (TokenKind × Spot) :=
  kinds.findSome? fun kind => (endOf? kind spot).map (kind, ·)

/-- A token is a match, and the first alternative that matches there is one for the token's kind. -/
structure Arises (lexeme : Lexeme) (found : Match) : Prop where
  text : found.text = lexeme.text
  first : firstMatch? found.start = some (lexeme.kind, found.last)

variable {spot : Spot}

theorem endOf?_of_mem_candidates :
    ∀ candidate ∈ candidates spot.before spot.rest,
      endOf? candidate.1 spot = endAt? spot candidate.2 := by
  have single (node : Node) : [node].findSome? (·.firstEnd? spot) = node.firstEnd? spot :=
    List.findSome?_singleton ..
  have pair (first second : Node) : [first, second].findSome? (·.firstEnd? spot) =
      (first.firstEnd? spot).or (second.firstEnd? spot) := by
    rw [List.findSome?_cons, single]
    cases first.firstEnd? spot <;> rfl
  simp only [candidates, List.forall_mem_cons, List.not_mem_nil, false_implies, implies_true,
    and_true]
  refine ⟨measures_comparison spot, ?_, ?_, ?_, ?_, ?_⟩
  · exact (single specialNode).trans (measures_special spot)
  · exact (single numeralNode).trans (firstEnd?_numeral spot)
  · exact (pair _ _).trans (firstEnd?_quoted spot)
  · exact (single pathNode).trans (firstEnd?_path spot)
  · exact (single spreadNode).trans (measures_spread spot)

/-- The first alternative that matches at a place is one for the token that starts there. -/
theorem firstMatch?_eq (spot : Spot) : firstMatch? spot =
    (builtin? spot.before spot.rest).map fun found => (found.1, spot.advance found.2) := by
  have known : kinds = (candidates spot.before spot.rest).map Prod.fst := rfl
  have ends := @endOf?_of_mem_candidates spot
  rw [firstMatch?, known, List.findSome?_map, builtin?]
  generalize candidates spot.before spot.rest = tried at ends
  induction tried with
  | nil => rfl
  | cons candidate others ih =>
      obtain ⟨here, later⟩ := List.forall_mem_cons.mp ends
      rw [List.findSome?_cons, List.find?_cons, Function.comp_apply, here, ih later]
      by_cases zero : candidate.2 = 0
      · simp [zero, endAt?]
      · have chosen : (candidate.2 != 0) = true := by simpa using zero
        rw [endAt?_of_ne_zero zero, chosen]
        rfl

theorem arises_of_builtin? {kind : TokenKind} {length : Nat}
    (found : builtin? spot.before spot.rest = some (kind, length)) :
    Arises ⟨kind, spot.rest.take length⟩ ⟨spot, spot.advance length⟩ := by
  constructor
  · rw [Match.text, Spot.index_advance spot (builtin?_bounds found).2, Nat.add_sub_cancel_left]
  · rw [firstMatch?_eq, found]
    rfl

/-- From a place on the tokens are the matches, one by one.  The alternation has no empty matches,
so that it makes no difference whether the last match ended at the place. -/
theorem arises_scanFrom {fuel : Nat} {behindMatch : Bool} (enough : spot.rest.length < fuel) :
    List.Forall₂ Arises (builtin.scanFrom spot)
      (builtinNode.matchesFrom fuel behindMatch spot) := by
  -- a character that is passed over and a token both leave less of the text
  generalize size : spot.rest.length = count at enough
  induction count using Nat.strong_induction_on generalizing fuel behindMatch spot with
  | _ count ih =>
    have first := firstEnd?_builtinNode spot
    have token := token?_builtin spot
    cases found : builtin? spot.before spot.rest with
    | none =>
        rw [found] at first token
        cases here : spot.rest with
        | nil =>
            rw [scanFrom_of_end here, matchesFrom_of_end first here]
            exact .nil
        | cons c rest =>
            have shorter : (spot.pass c).rest.length < count := by
              rw [Spot.rest_pass here, ← size, here, List.length_cons]
              exact Nat.lt_succ_self _
            rw [scanFrom_of_none token here, matchesFrom_of_none first here]
            exact ih _ shorter rfl (Nat.lt_trans shorter enough)
    | some pair =>
        obtain ⟨kind, length⟩ := pair
        obtain ⟨positive, inside⟩ := builtin?_bounds found
        obtain ⟨c, rest, here⟩ :=
          List.exists_cons_of_length_pos (Nat.lt_of_lt_of_le positive inside)
        have shorter : (spot.advance length).rest.length < count := by
          rw [Spot.rest_advance, List.length_drop]
          omega
        have further : (spot.advance length).index ≠ spot.index := by
          rw [Spot.index_advance spot inside]
          omega
        obtain ⟨before, rfl⟩ := Nat.exists_eq_add_one_of_ne_zero (Nat.ne_of_gt positive)
        obtain ⟨fuel, rfl⟩ := Nat.exists_eq_add_one_of_ne_zero (Nat.ne_zero_of_lt enough)
        rw [found] at first token
        rw [scanFrom_of_some token here, matchesFrom_of_some first further]
        exact .cons (arises_of_builtin? found) (ih _ shorter rfl (by omega))

/-- The built-in tokens of a text are the matches of the regular expression. -/
theorem arises_lexemes (text : String) :
    List.Forall₂ Arises (builtin.lexemes text) (builtinNode.findAll text.toList) :=
  @arises_scanFrom (.start text.toList) _ _ (show text.toList.length < _ by omega)

end Reckon.Lexicon
