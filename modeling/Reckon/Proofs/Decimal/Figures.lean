import Mathlib.Data.Nat.Digits.Lemmas
import Reckon.Decimal
import Reckon.Proofs.Lexicon.Shape

/-!
The figures of natural numbers and what they are read as, with zeros in front of them and behind.
-/

namespace Reckon.Decimal

open Lexeme (Run)

theorem lt_pow_figures (number : Nat) : number < 10 ^ (figures number).length :=
  (Nat.length_toDigits_le_iff (by decide) Nat.length_toDigits_pos).mp le_rfl

theorem pow_figures_le {number : Nat} (nonzero : number ≠ 0) :
    10 ^ ((figures number).length - 1) ≤ number := by
  rcases Nat.eq_zero_or_pos ((figures number).length - 1) with single | more
  · rw [single]
    exact Nat.one_le_iff_ne_zero.mpr nonzero
  · by_contra less
    have shorter := (Nat.length_toDigits_le_iff (by decide) more).mpr (Nat.lt_of_not_le less)
    unfold figures at *
    omega

theorem readFigures_eq (start : Nat) (text : List Char) :
    readFigures start text = Nat.ofDigitChars 10 text start := rfl

theorem readFigures_figures (number : Nat) : readFigures 0 (figures number) = number :=
  Nat.ofDigitChars_ten_toDigits

theorem readFigures_zeros (count : Nat) (text : List Char) :
    readFigures 0 (List.replicate count '0' ++ text) = readFigures 0 text := by
  rw [readFigures_eq, Nat.ofDigitChars_append, Nat.ofDigitChars_replicate_zero, Nat.mul_zero]
  rfl

theorem readFigures_shifted (text : List Char) (count : Nat) :
    readFigures 0 (text ++ List.replicate count '0') = 10 ^ count * readFigures 0 text := by
  rw [readFigures_eq, Nat.ofDigitChars_append, Nat.ofDigitChars_replicate_zero]
  rfl

theorem run_figures (number : Nat) : Run Char.isDigit (figures number) :=
  ⟨Nat.toDigits_ne_nil, fun _ member =>
    Nat.isDigit_of_mem_toDigits (by decide) (by decide) member⟩

theorem isDigit_of_mem_replicate {count : Nat} {c : Char} (member : c ∈ List.replicate count '0') :
    c.isDigit = true := by
  rw [List.eq_of_mem_replicate member]
  decide

theorem run_append_zeros {text : List Char} (run : Run Char.isDigit text) (count : Nat) :
    Run Char.isDigit (text ++ List.replicate count '0') :=
  ⟨by simp [run.nonempty], fun c member =>
    (List.mem_append.mp member).elim (run.all c) isDigit_of_mem_replicate⟩

theorem readFigures_lt {text : List Char} (digits : ∀ c ∈ text, c.isDigit = true) :
    readFigures 0 text < 10 ^ text.length := by
  induction text using List.reverseRecOn with
  | nil => decide
  | append_singleton text c ih =>
      have front := ih fun other member => digits other (List.mem_append_left _ member)
      have last : figureValue c < 10 := by
        have digit := digits c (by simp)
        simp only [Char.isDigit, ge_iff_le, Bool.and_eq_true, decide_eq_true_eq] at digit
        have below : c.toNat ≤ 57 := digit.2
        unfold figureValue
        change c.toNat - 48 < 10
        omega
      have value : readFigures 0 (text ++ [c]) = 10 * readFigures 0 text + figureValue c := by
        rw [readFigures, List.foldl_append]
        rfl
      rw [value, List.length_append, List.length_singleton, Nat.pow_succ]
      omega

end Reckon.Decimal
