import Mathlib.Data.List.TakeWhile
import Reckon.Lexicon

/-!
The built-in tokens of a text, one at a time: the front of a text is a token or a character that no
token starts with, and the rest is split in the same way.
-/

namespace Reckon

namespace Lexeme

/-- The character behind which a text goes on after `front`. -/
def behind (before : Option Char) (front : List Char) : Option Char :=
  front.getLast?.or before

@[simp]
theorem behind_nil (before : Option Char) : behind before [] = before := rfl

@[simp]
theorem behind_cons (before : Option Char) (c : Char) (front : List Char) :
    behind before (c :: front) = behind (some c) front := by
  unfold behind
  rw [List.getLast?_cons]
  cases front.getLast? <;> rfl

theorem behind_append (before : Option Char) (front back : List Char) :
    behind before (front ++ back) = behind (behind before front) back := by
  induction front generalizing before with
  | nil => rfl
  | cons c rest ih => simp [ih]

section

variable (test : Char → Bool) (fuel : Nat) (before : Option Char) (text : List Char)

theorem runLength_le : runLength test text ≤ text.length :=
  (List.takeWhile_sublist test).length_le

theorem fractionLength_le : fractionLength text ≤ text.length := by
  unfold fractionLength
  split
  · rename_i rest
    have := runLength_le Char.isDigit rest
    dsimp only
    split <;> simp only [List.length_cons] <;> omega
  · exact Nat.zero_le _

theorem numeralLength_le : numeralLength before text ≤ text.length := by
  unfold numeralLength
  have run := runLength_le Char.isDigit text
  have fraction := fractionLength_le (text.drop (runLength Char.isDigit text))
  rw [List.length_drop] at fraction
  split
  · exact Nat.zero_le _
  · dsimp only
    split <;> omega

theorem quotedLength_le : quotedLength text ≤ text.length := by
  unfold quotedLength
  split
  · rename_i quote rest
    split
    · rename_i closes
      have inside : quote ∈ rest := by
        simp only [Bool.and_eq_true, List.contains_iff_mem] at closes
        exact closes.2
      have shorter : runLength (· != quote) rest < rest.length := by
        refine Nat.lt_of_le_of_ne (runLength_le _ rest) fun same => ?_
        have whole := (List.takeWhile_sublist (· != quote)).eq_of_length same
        have passes := List.takeWhile_eq_self_iff.mp whole quote inside
        simp at passes
      simp only [List.length_cons]
      omega
    · exact Nat.zero_le _
  · exact Nat.zero_le _

theorem dottedLength_le : dottedLength fuel text ≤ text.length := by
  induction fuel generalizing text with
  | zero => simp [dottedLength]
  | succ fuel ih =>
      unfold dottedLength
      split
      · rename_i _ _ rest equal
        have run := runLength_le isWord rest
        have more := ih (rest.drop (runLength isWord rest))
        cases equal
        rw [List.length_drop] at more
        dsimp only
        split <;> simp only [List.length_cons] <;> omega
      · exact Nat.zero_le _

theorem indexedLength_le : indexedLength fuel text ≤ text.length := by
  induction fuel generalizing text with
  | zero => simp [indexedLength]
  | succ fuel ih =>
      unfold indexedLength
      split
      · rename_i _ _ rest equal
        cases equal
        have run := runLength_le Char.isDigit rest
        dsimp only
        split
        · rename_i digits more count closed
          have inner := ih more
          have shorter := congrArg List.length closed
          rw [List.length_drop, List.length_cons] at shorter
          simp only [List.length_cons]
          omega
        · exact Nat.zero_le _
      · exact Nat.zero_le _

theorem pathLength_le : pathLength text ≤ text.length := by
  unfold pathLength
  have word := runLength_le isWord text
  dsimp only
  split
  · exact Nat.zero_le _
  · generalize runLength isWord text = count at word ⊢
    have dotted := dottedLength_le (text.drop count).length (text.drop count)
    generalize dottedLength (text.drop count).length (text.drop count) = points at dotted ⊢
    have indexed := indexedLength_le ((text.drop count).drop points).length
      ((text.drop count).drop points)
    simp only [List.length_drop] at dotted indexed ⊢
    omega

theorem spreadLength_le : spreadLength text ≤ text.length := by
  unfold spreadLength
  split
  · rename_i rest
    have word := runLength_le isWord rest
    dsimp only
    split <;> simp only [List.length_cons] <;> omega
  · exact Nat.zero_le _

end

variable {before : Option Char} {text : List Char} {kind : TokenKind} {length : Nat}

/-- The length of a token is that of its kind, and it is a path only where no number starts. -/
@[elab_as_elim]
theorem builtin?_cases {motive : TokenKind → Nat → Prop}
    (found : builtin? before text = some (kind, length))
    (comparison : comparisonLength text ≠ 0 → motive .comparison (comparisonLength text))
    (special : specialLength text ≠ 0 → motive .special (specialLength text))
    (numeral : numeralLength before text ≠ 0 → motive .numeral (numeralLength before text))
    (quoted : quotedLength text ≠ 0 → motive .quoted (quotedLength text))
    (path : pathLength text ≠ 0 → numeralLength before text = 0 → motive .path (pathLength text))
    (spread : spreadLength text ≠ 0 → motive .spread (spreadLength text)) :
    motive kind length := by
  have member := List.mem_of_find?_eq_some found
  have nonzero : length ≠ 0 := by simpa using List.find?_some found
  simp only [candidates, List.mem_cons, Prod.mk.injEq, List.not_mem_nil, or_false] at member
  rcases member with ⟨rfl, rfl⟩ | ⟨rfl, rfl⟩ | ⟨rfl, rfl⟩ | ⟨rfl, rfl⟩ | ⟨rfl, rfl⟩ | ⟨rfl, rfl⟩
  · exact comparison nonzero
  · exact special nonzero
  · exact numeral nonzero
  · exact quoted nonzero
  · apply path nonzero
    by_contra first
    have earlier : (numeralLength before text != 0) = true := by simpa using first
    unfold builtin? candidates at found
    simp only [List.find?_cons, earlier] at found
    split at found
    · cases found
    · split at found <;> cases found
  · exact spread nonzero

/-- Where no token starts, none of any kind does. -/
theorem length_of_none (unmatched : builtin? before text = none) (candidate : TokenKind × Nat)
    (member : candidate ∈ candidates before text) : candidate.2 = 0 := by
  have zero := List.find?_eq_none.mp unmatched candidate member
  simpa using zero

theorem builtin?_bounds (found : builtin? before text = some (kind, length)) :
    0 < length ∧ length ≤ text.length := by
  refine ⟨?_, ?_⟩
  · exact Nat.pos_of_ne_zero (by simpa using List.find?_some found)
  · refine builtin?_cases found ?_ ?_ ?_ ?_ ?_ ?_
    · intro nonzero
      unfold comparisonLength at nonzero ⊢
      split at nonzero
      · simp only [List.length_cons]
        split <;> omega
      · exact absurd rfl nonzero
    · intro nonzero
      unfold specialLength at nonzero ⊢
      split at nonzero
      · simp only [List.length_cons]
        split <;> omega
      · exact absurd rfl nonzero
    · exact fun _ => numeralLength_le before text
    · exact fun _ => quotedLength_le text
    · exact fun _ _ => pathLength_le text
    · exact fun _ => spreadLength_le text

end Lexeme

open Lexeme

variable {before : Option Char} {text : List Char}

theorem Lexicon.token?_builtin (spot : Text.Spot) :
    builtin.token? spot = builtin? spot.before spot.rest := by
  unfold Lexicon.token? extraLength builtin
  cases builtin? spot.before spot.rest <;> rfl

/-- The built-in tokens do not depend on how far a text is from the start. -/
theorem Lexicon.scan_index (skipped first second : Nat) (before : Option Char)
    (text : List Char) :
    builtin.scan skipped first before text = builtin.scan skipped second before text := by
  induction text generalizing skipped first second before with
  | nil => cases skipped <;> rfl
  | cons c rest ih =>
      cases skipped with
      | succ skipped => exact ih skipped _ _ _
      | zero =>
          unfold Lexicon.scan
          simp only [token?_builtin]
          cases builtin? before (c :: rest) with
          | none => exact ih 0 _ _ _
          | some found => exact congrArg _ (ih _ _ _ _)

namespace Lexeme

def split (before : Option Char) (text : List Char) : List Lexeme :=
  Lexicon.builtin.scan 0 0 before text

theorem scan_eq_split (skipped index : Nat) (inside : skipped ≤ text.length) :
    Lexicon.builtin.scan skipped index before text =
      split (behind before (text.take skipped)) (text.drop skipped) := by
  induction skipped generalizing index before text with
  | zero => exact Lexicon.scan_index 0 index 0 before text
  | succ skipped ih =>
      cases text with
      | nil => simp at inside
      | cons c rest =>
          have more := @ih (some c) rest (index + 1) (by simpa using inside)
          simpa [Lexicon.scan] using more

@[simp]
theorem split_nil : split before [] = [] := rfl

theorem split_of_none {c : Char} {rest : List Char} (unmatched : builtin? before (c :: rest) = none) :
    split before (c :: rest) = split (some c) rest := by
  unfold split
  rw [Lexicon.scan]
  simp only [Lexicon.token?_builtin, unmatched]
  exact Lexicon.scan_index 0 _ _ _ _

theorem split_of_some {kind : TokenKind} {length : Nat}
    (found : builtin? before text = some (kind, length)) :
    split before text =
      ⟨kind, text.take length⟩ :: split (behind before (text.take length)) (text.drop length) := by
  have bounds := builtin?_bounds found
  cases text with
  | nil => simp at bounds; omega
  | cons c rest =>
      obtain ⟨length, rfl⟩ := Nat.exists_eq_add_of_lt bounds.1
      have inside : length ≤ rest.length := by simpa using bounds.2
      change Lexicon.builtin.scan 0 0 before (c :: rest) = _
      rw [Lexicon.scan]
      simp only [Lexicon.token?_builtin, found]
      refine congrArg _ ?_
      simpa using scan_eq_split length 1 inside

theorem lexemes_builtin (text : String) :
    Lexicon.builtin.lexemes text = split none text.toList := rfl

/-- Induction over a text, at each place over a token or a character that no token starts with. -/
@[elab_as_elim]
theorem split_induction {motive : Option Char → List Char → Prop}
    (nil : ∀ before, motive before [])
    (skip : ∀ before c rest, builtin? before (c :: rest) = none → motive (some c) rest →
      motive before (c :: rest))
    (token : ∀ before text kind length, builtin? before text = some (kind, length) →
      motive (behind before (text.take length)) (text.drop length) → motive before text)
    (before : Option Char) (text : List Char) : motive before text := by
  induction count : text.length using Nat.strongRecOn generalizing before text with
  | ind bound ih =>
    cases text with
    | nil => exact nil before
    | cons c rest =>
        rcases found : builtin? before (c :: rest) with _ | ⟨kind, length⟩
        · exact skip before c rest found (ih _ (by simp at count; omega) _ rest rfl)
        · have bounds := builtin?_bounds found
          refine token before (c :: rest) kind length found (ih _ ?_ _ _ rfl)
          rw [List.length_drop]
          omega

theorem mem_of_mem_split {lexeme : Lexeme} {c : Char} (member : lexeme ∈ split before text)
    (inside : c ∈ lexeme.text) : c ∈ text := by
  induction before, text using split_induction with
  | nil before => simp at member
  | skip before d rest found ih =>
      rw [split_of_none found] at member
      exact List.mem_cons_of_mem _ (ih member)
  | token before text kind length found ih =>
      rw [split_of_some found] at member
      rcases List.mem_cons.mp member with rfl | member
      · exact List.mem_of_mem_take inside
      · exact List.mem_of_mem_drop (ih member)

end Lexeme

end Reckon
