import Mathlib.Data.List.Infix
import Reckon.Text.Fields

/-!
Texts cut at a separator of any length and put together again.  Cutting takes the leftmost
occurrences, so nothing of the separator is left in the pieces, also where it overlaps itself.
-/

namespace Reckon.Text

/-- How a text is cut from its front: an occurrence of the separator ends a piece, and a character
that starts none goes to the piece it stands in. -/
inductive Cut (separator : List Char) : List Char → List (List Char) → Prop
  | finished : Cut separator [] [[]]
  | separator {rest : List Char} {others : List (List Char)} :
      Cut separator rest others → Cut separator (separator ++ rest) ([] :: others)
  | character {c : Char} {rest first : List Char} {others : List (List Char)} :
      ¬separator <+: c :: rest → Cut separator rest (first :: others) →
        Cut separator (c :: rest) ((c :: first) :: others)

namespace Cut

variable {separator text first : List Char} {cut others : List (List Char)}

theorem ne_nil (cuts : Cut separator text cut) : cut ≠ [] := by
  cases cuts <;> exact List.cons_ne_nil _ _

theorem intercalate (cuts : Cut separator text cut) : List.intercalate separator cut = text := by
  induction cuts with
  | finished => rfl
  | separator cuts ih =>
      obtain ⟨first, others, rfl⟩ := List.exists_cons_of_ne_nil cuts.ne_nil
      rw [List.intercalate_cons_cons, List.nil_append, ih]
  | @character c rest first others _ _ ih =>
      rw [← ih]
      cases others <;> simp

theorem isPrefix (cuts : Cut separator text (first :: others)) : first <+: text := by
  generalize named : first :: others = cut at cuts
  induction cuts generalizing first others with
  | finished =>
      cases named
      exact List.prefix_rfl
  | separator cuts ih =>
      cases named
      exact List.nil_prefix
  | character _ _ ih =>
      cases named
      exact (List.prefix_cons_inj _).mpr (ih rfl)

/-- No piece contains the separator: an occurrence in a piece would start an occurrence in the text,
since a piece goes on as the text does. -/
theorem not_infix (cuts : Cut separator text cut) (nonempty : separator ≠ []) :
    ∀ piece ∈ cut, ¬separator <:+: piece := by
  induction cuts with
  | finished =>
      rintro piece member occurs
      cases List.mem_singleton.mp member
      exact nonempty (List.infix_nil.mp occurs)
  | separator _ ih =>
      rintro piece member occurs
      rcases List.mem_cons.mp member with rfl | member
      · exact nonempty (List.infix_nil.mp occurs)
      · exact ih piece member occurs
  | character fresh cuts ih =>
      rintro piece member occurs
      rcases List.mem_cons.mp member with rfl | member
      · rcases List.infix_cons_iff.mp occurs with here | behind
        · exact fresh (here.trans ((List.prefix_cons_inj _).mpr cuts.isPrefix))
        · exact ih _ List.mem_cons_self behind
      · exact ih piece (List.mem_cons_of_mem _ member) occurs

end Cut

/-- The pieces after some characters have been passed over are those of the rest of the text. -/
theorem cut_piecesFrom {separator : List Char} (nonempty : separator ≠ []) (skipped : Nat)
    (text : List Char) : Cut separator (text.drop skipped) (piecesFrom separator skipped text) := by
  induction text generalizing skipped with
  | nil =>
      rw [List.drop_nil, piecesFrom]
      exact .finished
  | cons c rest ih =>
      cases skipped with
      | succ skipped => exact ih skipped
      | zero =>
          rw [List.drop_zero, piecesFrom]
          by_cases starts : separator <+: c :: rest
          · rw [if_pos (List.isPrefixOf_iff_prefix.mpr starts)]
            obtain ⟨behind, same⟩ := starts
            obtain ⟨head, tail, rfl⟩ := List.exists_cons_of_ne_nil nonempty
            rw [List.cons_append, List.cons.injEq] at same
            obtain ⟨rfl, rfl⟩ := same
            have cuts := ih tail.length
            rw [List.drop_left] at cuts
            exact .separator cuts
          · rw [if_neg (mt List.isPrefixOf_iff_prefix.mp starts)]
            have cuts := ih 0
            obtain ⟨first, others, parts⟩ := List.exists_cons_of_ne_nil cuts.ne_nil
            rw [parts] at cuts ⊢
            exact .character starts cuts

theorem intercalate_singletons (text : List Char) :
    List.intercalate [] (text.map fun c => [c]) = text := by
  induction text with
  | nil => rfl
  | cons c rest ih => cases rest <;> simp_all

/-- Joining the pieces of a text gives it back, also those cut by no separator at all. -/
theorem intercalate_pieces (separator text : List Char) :
    List.intercalate separator (pieces separator text) = text := by
  unfold pieces
  cases separator with
  | nil => exact intercalate_singletons text
  | cons head tail => exact (cut_piecesFrom (List.cons_ne_nil head tail) 0 text).intercalate

theorem cut_pieces {separator : List Char} (nonempty : separator ≠ []) (text : List Char) :
    Cut separator text (pieces separator text) := by
  rw [pieces, if_neg (mt List.isEmpty_iff.mp nonempty)]
  exact cut_piecesFrom nonempty 0 text

end Reckon.Text
