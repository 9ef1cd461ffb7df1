import Reckon.Decimal.Layout
import Reckon.Proofs.Decimal.Figures
import Reckon.Proofs.Decimal.Numeral
import Reckon.Proofs.Decimal.Shortest

/-!
Positional forms read back.  The reader takes the point at any place and any zeros around the
digits, so what is read has the amount of what was written, and a double written by its shortest
digits is read as the double of its bits.
-/

namespace Reckon

open Lexeme (Run)

namespace Decimal.Layout

open Numeral

variable (layout : Layout) (digits : Nat) {exponent : Int}

/-! ## Positional forms -/

theorem readUnsigned?_whole (whole : 0 ≤ exponent) :
    ∃ number, readUnsigned? (layout.writePositional (figures digits) exponent) = some number ∧
      number.amount = digits * 10 ^ exponent := by
  obtain ⟨count, rfl⟩ := Int.eq_ofNat_of_zero_le whole
  have run := run_append_zeros (run_figures digits) count
  have value : readFigures 0 (figures digits ++ List.replicate count '0') =
      10 ^ count * digits := by
    rw [readFigures_shifted, readFigures_figures]
  rw [writePositional, if_pos whole, Int.toNat_natCast]
  split
  · have zero : Run Char.isDigit ['0'] := .single (by decide)
    refine ⟨_, readUnsigned?_of_fraction run zero, ?_⟩
    rw [amount, ← List.replicate_one, readFigures_shifted, value]
    simp
    ring
  · rw [List.append_nil]
    refine ⟨_, readUnsigned?_of_run run, ?_⟩
    rw [amount, value]
    simp
    ring

theorem readUnsigned?_point (fraction : ¬0 ≤ exponent) :
    readUnsigned? (layout.writePositional (figures digits) exponent) = some ⟨digits, exponent⟩ := by
  obtain ⟨places, rfl⟩ := Int.exists_eq_neg_ofNat (Int.le_of_not_le fraction)
  have positive : 0 < places := by omega
  have run := run_figures digits
  rw [writePositional, if_neg fraction, Int.neg_neg, Int.toNat_natCast]
  dsimp only
  split
  · rename_i inside
    have front : Run Char.isDigit ((figures digits).take ((figures digits).length - places)) :=
      ⟨List.ne_nil_of_length_pos (by rw [List.length_take]; omega),
        fun c member => run.all c (List.mem_of_mem_take member)⟩
    have back : Run Char.isDigit ((figures digits).drop ((figures digits).length - places)) :=
      ⟨List.ne_nil_of_length_pos (by rw [List.length_drop]; omega),
        fun c member => run.all c (List.mem_of_mem_drop member)⟩
    rw [readUnsigned?_of_fraction front back, List.take_append_drop, readFigures_figures,
      List.length_drop, Nat.sub_sub_self inside.le]
  · rename_i outside
    have zero : Run Char.isDigit ['0'] := .single (by decide)
    have back : Run Char.isDigit
        (List.replicate (places - (figures digits).length) '0' ++ figures digits) :=
      ⟨by simp [run.nonempty], fun c member =>
        (List.mem_append.mp member).elim isDigit_of_mem_replicate (run.all c)⟩
    have value : readFigures 0 (['0'] ++
        (List.replicate (places - (figures digits).length) '0' ++ figures digits)) = digits := by
      rw [← List.replicate_one, readFigures_zeros, readFigures_zeros, readFigures_figures]
    refine (readUnsigned?_of_fraction zero back).trans ?_
    rw [value, List.length_append, List.length_replicate,
      Nat.sub_add_cancel (Nat.le_of_not_lt outside)]

theorem readUnsigned?_writePositional (digits : Nat) (exponent : Int) :
    ∃ number, readUnsigned? (layout.writePositional (figures digits) exponent) = some number ∧
      number.amount = digits * 10 ^ exponent := by
  by_cases whole : 0 ≤ exponent
  · exact readUnsigned?_whole layout digits whole
  · exact ⟨_, readUnsigned?_point layout digits whole, rfl⟩

/-! ## Doubles -/

theorem read?_signed (signed : Bool) {text : List Char} {number : Decimal}
    (read : readUnsigned? text = some number) :
    read? (if signed then '-' :: text else text) = some (toFloat signed number) := by
  cases signed with
  | true => exact congrArg (Option.map (toFloat true)) read
  | false =>
      obtain ⟨mantissa, exponent, written, -, rfl⟩ := exists_mantissa (Option.isSome_of_mem read)
      have plain : spanSign (mantissa ++ exponent) = (false, mantissa ++ exponent) :=
        spanSign_append .none (written.stops exponent)
      rw [if_neg Bool.false_ne_true, Numeral.read?, plain]
      exact congrArg (Option.map (toFloat false)) read

/-- A double written in positional form is read as the double of its bits, with the sign that was
written. -/
theorem read?_write (positional : ∀ power, layout.positional power = true) {number : Float}
    {negative : Bool} {mantissa : Nat} {exponent : Int}
    (decoded : Binary64.decode number = .finite negative mantissa exponent) :
    read? (layout.write number).toList =
      some (Binary64.assemble (negative && (mantissa != 0 || layout.minusZero))
        (Binary64.magnitude number)) := by
  obtain ⟨decimal, read, same⟩ := readUnsigned?_writePositional layout
    (shortest layout.tie mantissa exponent).digits (shortest layout.tie mantissa exponent).exponent
  have bits : decimal.nearestBits = Binary64.magnitude number := by
    rw [← nearestBits_shortest layout.tie decoded]
    exact nearestBits_congr same
  unfold write
  rw [decoded]
  dsimp only
  rw [String.toList_ofList, writeDecimal, positional, if_pos rfl, read?_signed _ read, ← bits]
  rfl

end Decimal.Layout

end Reckon
