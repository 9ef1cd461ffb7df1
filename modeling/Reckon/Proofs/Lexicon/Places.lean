import Reckon.Proofs.Lexicon.Concatenation

/-!
Where the tokens of a text are.
-/

namespace Reckon

open Lexeme

namespace Lexicon

/-- The tokens from a place on with the positions at which they start. -/
def places (lexicon : Lexicon) :
    (skipped index : Nat) → Option Char → List Char → List (Nat × Lexeme)
  | _, _, _, [] => []
  | skipped + 1, index, _, c :: rest => places lexicon skipped (index + 1) (some c) rest
  | 0, index, before, c :: rest =>
      match lexicon.token? ⟨index, before, c :: rest⟩ with
      | some (kind, length) =>
          (index, ⟨kind, (c :: rest).take length⟩) ::
            places lexicon (length - 1) (index + 1) (some c) rest
      | none => places lexicon 0 (index + 1) (some c) rest

variable (lexicon : Lexicon) {skipped index : Nat} {before : Option Char} {text : List Char}

theorem places_map_snd (skipped index : Nat) (before : Option Char) (text : List Char) :
    (lexicon.places skipped index before text).map Prod.snd =
      lexicon.scan skipped index before text := by
  induction text generalizing skipped index before with
  | nil => cases skipped <;> rfl
  | cons c rest ih =>
      cases skipped with
      | succ skipped => exact ih skipped _ _
      | zero =>
          unfold places scan
          cases lexicon.token? ⟨index, before, c :: rest⟩ with
          | none => exact ih 0 _ _
          | some found => exact congrArg _ (ih _ _ _)

/-- Whether each quote in a text is part of a string token. -/
def QuotesQuoted (text : String) : Prop :=
  ∀ index c, text.toList[index]? = some c → isQuote c = true →
    ∃ place ∈ lexicon.places 0 0 none text.toList, place.2.kind = .quoted ∧
      place.1 ≤ index ∧ index < place.1 + place.2.text.length

variable {lexicon}

theorem le_of_mem_places {place : Nat × Lexeme}
    (member : place ∈ lexicon.places skipped index before text) : index + skipped ≤ place.1 := by
  induction text generalizing skipped index before with
  | nil => cases skipped <;> cases member
  | cons c rest ih =>
      cases skipped with
      | succ skipped =>
          have := @ih skipped _ _ member
          omega
      | zero =>
          unfold places at member
          split at member
          · rcases List.mem_cons.mp member with rfl | member
            · exact Nat.le_refl _
            · have := ih member
              omega
          · have := ih member
            omega

def Covers (place : Nat × Lexeme) (position : Nat) : Prop :=
  place.1 ≤ position ∧ position < place.1 + place.2.text.length

theorem places_of_none {c : Char} {rest : List Char} (unmatched : builtin? before (c :: rest) = none) :
    builtin.places 0 index before (c :: rest) = builtin.places 0 (index + 1) (some c) rest := by
  simp [places, token?_builtin, unmatched]

theorem places_skip (skipped : Nat) (inside : skipped ≤ text.length) :
    builtin.places skipped index before text =
      builtin.places 0 (index + skipped) (behind before (text.take skipped))
        (text.drop skipped) := by
  induction skipped generalizing index before text with
  | zero => rfl
  | succ skipped ih =>
      cases text with
      | nil => simp at inside
      | cons c rest =>
          have more := @ih (index + 1) (some c) rest (by simpa using inside)
          rw [Nat.add_right_comm, Nat.add_assoc] at more
          simpa [places] using more

theorem places_of_some {kind : TokenKind} {length : Nat}
    (found : builtin? before text = some (kind, length)) :
    builtin.places 0 index before text =
      (index, ⟨kind, text.take length⟩) ::
        builtin.places 0 (index + length) (behind before (text.take length))
          (text.drop length) := by
  obtain ⟨positive, most⟩ := builtin?_bounds found
  obtain ⟨length, rfl⟩ := Nat.exists_eq_add_of_lt positive
  cases text with
  | nil => simp at most
  | cons c rest =>
      have more := @places_skip (index + 1) (some c) rest length (by simpa using most)
      rw [Nat.add_right_comm, Nat.add_assoc] at more
      simp [places, token?_builtin, found, more]

theorem tidy_of_places
    (covered : ∀ position c, text[position]? = some c → isQuote c = true →
      ∃ place ∈ builtin.places 0 index before text, Covers place (index + position)) :
    Tidy before text := by
  induction before, text using split_induction generalizing index with
  | nil before => exact .nil
  | skip before c rest found ih =>
      rw [places_of_none found] at covered
      refine .other found ?_ (@ih (index + 1) ?_)
      · by_contra quote
        obtain ⟨place, member, front, -⟩ := covered 0 c rfl (Bool.not_eq_false _ ▸ quote)
        have later := le_of_mem_places member
        omega
      · intro position d here quote
        rw [Nat.add_right_comm, Nat.add_assoc]
        exact covered (position + 1) d here quote
  | token before text kind length found ih =>
      rw [places_of_some found] at covered
      refine .token found (@ih (index + length) ?_)
      intro position d here quote
      rw [List.getElem?_drop] at here
      rw [Nat.add_assoc]
      obtain ⟨place, member, covers⟩ := covered (length + position) d here quote
      rcases List.mem_cons.mp member with rfl | member
      · have beyond := covers.2
        rw [List.length_take_of_le (builtin?_bounds found).2] at beyond
        omega
      · exact ⟨place, member, covers⟩

theorem QuotesQuoted.tidy {text : String} (quoted : builtin.QuotesQuoted text) :
    Tidy none text.toList := by
  refine @tidy_of_places 0 none text.toList ?_
  intro position c here quote
  obtain ⟨place, member, -, covers⟩ := quoted position c here quote
  rw [Nat.zero_add]
  exact ⟨place, member, covers⟩

end Lexicon

end Reckon
