import Reckon.Proofs.Lexicon.Places
import Reckon.Proofs.Lexicon.Shape

/-!
What the built-in tokens cover.  They are slices of a text one behind the other; outside them there
is no word, no special character and no quote that is closed later.
-/

namespace Reckon

open Lexeme

namespace Lexeme

variable {before : Option Char} {c : Char} {rest text : List Char} {kind other : TokenKind}

theorem not_isSpecial_of_none (unmatched : builtin? before (c :: rest) = none) :
    isSpecial c = false := by
  have zero : specialLength (c :: rest) = 0 :=
    length_of_none unmatched (.special, specialLength (c :: rest)) (by simp [candidates])
  by_contra special
  simp [specialLength, special] at zero

theorem not_mem_of_none (unmatched : builtin? before (c :: rest) = none) (quote : isQuote c = true) :
    c ∉ rest := by
  have zero : quotedLength (c :: rest) = 0 :=
    length_of_none unmatched (.quoted, quotedLength (c :: rest)) (by simp [candidates])
  have opens : (c = '"' || c = '\'') = true := quote
  intro closes
  simp [quotedLength, opens, closes] at zero

theorem Shape.kind_eq (first : Shape kind text) (second : Shape other text) : other = kind := by
  have same := (builtin?_of_shape second).symm.trans (builtin?_of_shape first)
  exact congrArg Prod.fst (Option.some.inj same)

end Lexeme

namespace Lexicon

variable {before : Option Char} {text : List Char} {index : Nat}

theorem append_of_mem_places {place : Nat × Lexeme}
    (member : place ∈ builtin.places 0 index before text) :
    place.2.text ≠ [] ∧
      ∃ front back, text = front ++ (place.2.text ++ back) ∧ place.1 = index + front.length := by
  induction before, text using split_induction generalizing index with
  | nil before => cases member
  | skip before c rest found ih =>
      rw [places_of_none found] at member
      obtain ⟨nonempty, front, back, rfl, start⟩ := ih member
      refine ⟨nonempty, c :: front, back, rfl, ?_⟩
      rw [start, List.length_cons, Nat.add_right_comm, Nat.add_assoc]
  | token before text kind length found ih =>
      obtain ⟨positive, most⟩ := builtin?_bounds found
      rw [places_of_some found] at member
      rcases List.mem_cons.mp member with rfl | member
      · refine ⟨?_, [], text.drop length, by simp, rfl⟩
        apply List.ne_nil_of_length_pos
        rw [List.length_take_of_le most]
        exact positive
      · obtain ⟨nonempty, front, back, rest, start⟩ := ih member
        refine ⟨nonempty, text.take length ++ front, back, ?_, ?_⟩
        · rw [List.append_assoc, ← rest, List.take_append_drop]
        · rw [start, List.length_append, List.length_take_of_le most, Nat.add_assoc]

theorem pairwise_places :
    (builtin.places 0 index before text).Pairwise
      fun first second => first.1 + first.2.text.length ≤ second.1 := by
  induction before, text using split_induction generalizing index with
  | nil before => exact .nil
  | skip before c rest found ih =>
      rw [places_of_none found]
      exact ih
  | token before text kind length found ih =>
      rw [places_of_some found]
      refine .cons ?_ ih
      intro later member
      have start := le_of_mem_places member
      rw [List.length_take_of_le (builtin?_bounds found).2]
      exact start

/-- At a position that no token covers, no token starts. -/
theorem builtin?_of_uncovered {position : Nat} (inside : position < text.length)
    (uncovered : ∀ place ∈ builtin.places 0 index before text,
      ¬Covers place (index + position)) :
    builtin? (behind before (text.take position)) (text.drop position) = none := by
  induction before, text using split_induction generalizing index position with
  | nil before => simp at inside
  | skip before c rest found ih =>
      rw [places_of_none found] at uncovered
      cases position with
      | zero => exact found
      | succ position =>
          have unmatched := @ih (index + 1) position (by simpa using inside) (by
            rwa [Nat.add_right_comm, Nat.add_assoc])
          simpa using unmatched
  | token before text kind length found ih =>
      obtain ⟨positive, most⟩ := builtin?_bounds found
      rw [places_of_some found] at uncovered
      -- within the token the position would be covered, behind it the rest of the text decides
      rcases Nat.lt_or_ge position length with covered | after
      · have here := uncovered _ (List.mem_cons_self ..)
        rw [Covers, List.length_take_of_le most] at here
        exact absurd ⟨Nat.le_add_right .., Nat.add_lt_add_left covered index⟩ here
      · obtain ⟨more, rfl⟩ := Nat.exists_eq_add_of_le after
        have unmatched := @ih (index + length) more (by rw [List.length_drop]; omega) (by
          intro place member
          rw [Nat.add_assoc]
          exact uncovered place (List.mem_cons_of_mem _ member))
        rwa [List.drop_drop, ← behind_append, ← List.take_add] at unmatched

theorem builtin?_at {position : Nat} {c : Char} (here : text[position]? = some c)
    (uncovered : ∀ place ∈ builtin.places 0 0 none text, ¬Covers place position) :
    builtin? (behind none (text.take position)) (c :: text.drop (position + 1)) = none := by
  obtain ⟨inside, rfl⟩ := List.getElem?_eq_some_iff.mp here
  rw [← List.drop_eq_getElem_cons inside]
  refine @builtin?_of_uncovered _ _ 0 _ inside ?_
  simpa using uncovered

/-- The built-in tokens of a text are slices of it that are not empty, one behind the other.  They
cover each character of a word and each special character, and a quote that they leave out has no
partner behind it.  Each of them has one of the shapes and only that one. -/
theorem places_cover (text : String) :
    let places := builtin.places 0 0 none text.toList
    builtin.tokens text = places.map (fun place => String.ofList place.2.text) ∧
      (∀ place ∈ places, place.2.text ≠ [] ∧
        (text.toList.drop place.1).take place.2.text.length = place.2.text) ∧
      places.Pairwise (fun first second => first.1 + first.2.text.length ≤ second.1) ∧
      (∀ position c, text.toList[position]? = some c → isWord c = true ∨ isSpecial c = true →
        ∃ place ∈ places, Covers place position) ∧
      (∀ position quote, text.toList[position]? = some quote → isQuote quote = true →
        (∀ place ∈ places, ¬Covers place position) →
        ∀ later, position < later → text.toList[later]? ≠ some quote) ∧
      ∀ place ∈ places, ∀ kind, Shape kind place.2.text ↔ kind = place.2.kind := by
  intro places
  have lexemes : places.map Prod.snd = builtin.lexemes text := builtin.places_map_snd 0 0 none _
  refine ⟨?_, ?_, pairwise_places, ?_, ?_, ?_⟩
  · rw [tokens, ← lexemes, List.map_map]
    rfl
  · intro place member
    obtain ⟨nonempty, front, back, whole, start⟩ := append_of_mem_places member
    refine ⟨nonempty, ?_⟩
    rw [whole, start, Nat.zero_add, List.drop_left, List.take_left]
  · intro position c here significant
    by_contra uncovered
    have unmatched := builtin?_at here fun place member covers => uncovered ⟨place, member, covers⟩
    rcases significant with word | special
    · rw [not_isWord_of_none unmatched] at word
      cases word
    · rw [not_isSpecial_of_none unmatched] at special
      cases special
  · intro position quote here opens uncovered later behind again
    have missing := not_mem_of_none (builtin?_at here uncovered) opens
    obtain ⟨more, rfl⟩ := Nat.exists_eq_add_of_lt behind
    apply missing
    refine @List.mem_of_getElem? _ _ more _ ?_
    rw [List.getElem?_drop, Nat.add_right_comm]
    exact again
  · intro place member kind
    have shape : Shape place.2.kind place.2.text := by
      have listed : place.2 ∈ builtin.lexemes text := by
        rw [← lexemes]
        exact List.mem_map_of_mem member
      exact shape_of_mem_lexemes listed
    constructor
    · exact shape.kind_eq
    · rintro rfl
      exact shape

end Lexicon

end Reckon
