import Reckon.Proofs.Binary64.Special
import Reckon.Proofs.Decimal.Layout
import Reckon.Proofs.Value.Numbers

/-!
String forms read as numbers.  The string form of a number reads as that number again, but for the
sign of zero; and an array reads as its string form does, unless it is null alone.
-/

namespace Reckon

open Numeral (isNumeralChar)

namespace Value

/-! ## Numbers -/

theorem not_isBlank_of_isNumeralChar {c : Char} (numeral : isNumeralChar c = true) :
    Text.isBlank c = false := by
  simp only [isNumeralChar, Bool.or_eq_true, decide_eq_true_eq] at numeral
  rcases numeral with ((((digit | rfl) | rfl) | rfl) | rfl) | rfl
  · exact Lexeme.not_isBlank_of_isWord (Lexeme.isWord_of_isDigit digit)
  · decide
  · decide
  · decide
  · decide
  · decide

theorem readNumber_of_read? {text : String} {number : Float}
    (read : Numeral.read? text.toList = some number) : readNumber text = number := by
  have written := Numeral.isSome_read?_iff.mp (Option.isSome_of_mem read)
  have trims : Text.trim text.toList = text.toList :=
    Text.trim_of_not_blank fun c member => not_isBlank_of_isNumeralChar (written.all c member)
  rw [← Option.some_inj, readNumber_decimal written trims, read]

/-- The string form of a finite double reads as that double, and of either zero as zero. -/
theorem readNumber_display_of_decode {number : Float} {negative : Bool} {mantissa : Nat}
    {exponent : Int} (decoded : Binary64.decode number = .finite negative mantissa exponent) :
    (readNumber (display (.number number)) == number) = true := by
  have parts := Binary64.parts_of_decode decoded
  have read := readNumber_of_read? (numberLayout.read?_write (fun _ => rfl) decoded)
  rw [display, read]
  by_cases nothing : mantissa = 0
  · have least : exponent = Binary64.leastExponent :=
      parts.normal.resolve_left (by rw [nothing]; decide)
    have bits : Binary64.magnitude number = 0 := by
      rw [parts.bits, nothing, least, Int.sub_self]
      rfl
    rw [bits, nothing]
    rcases parts.eq_zero nothing with rfl | rfl <;> cases negative <;> rfl
  · have sign : (negative && (mantissa != 0 || numberLayout.minusZero)) =
        Binary64.isSigned number := by
      rw [parts.sign, bne_iff_ne.mpr nothing, Bool.true_or, Bool.and_true]
    rw [sign, Binary64.assemble_magnitude]
    exact Binary64.IsFinite.beq_self ⟨_, _, _, decoded⟩

theorem readNumber_display_infinity (negative : Bool) :
    readNumber (display (.number (Binary64.infinity negative))) = Binary64.infinity negative := by
  cases negative <;> rfl

theorem readNumber_display_nan : readNumber (display (.number Float.nan)) = Float.nan := by
  rfl

/-- Reading the string form of a number gives a number equal to it, and none where there is none. -/
theorem readNumber_display_number (number : Float) :
    (readNumber (display (.number number)) == number) = !number.isNaN ∧
      (readNumber (display (.number number))).isNaN = number.isNaN := by
  cases decoded : Binary64.decode number with
  | nan =>
      obtain rfl := Binary64.eq_nan_of_decode decoded
      rw [readNumber_display_nan, Float.beq_nan_eq_false, Binary64.isNaN_iff_decode.mpr decoded]
      exact ⟨rfl, rfl⟩
  | infinite negative =>
      obtain rfl := Binary64.eq_infinity_of_decode decoded
      rw [readNumber_display_infinity]
      exact ⟨Binary64.beq_self_eq_not_isNaN _, rfl⟩
  | finite negative mantissa exponent =>
      have same := readNumber_display_of_decode decoded
      have read : readNumber (display (.number number)) ≠ Float.nan :=
        (Float.beq_iff_ne_nan_and_eq.mp same).1
      have finite : Binary64.IsFinite number := ⟨_, _, _, decoded⟩
      rw [finite.isNaN, same, Float.isNaN_eq_decide_eq_nan, decide_eq_false read]
      exact ⟨rfl, rfl⟩

/-! ## Arrays -/

theorem not_mem_of_numeric {text : List Char} (numeric : Numeric FitsWord text) : ',' ∉ text := by
  have unsigned : ∀ sign negative, Numeral.Sign sign negative → ',' ∉ sign := by
    rintro sign negative ⟨⟩ <;> decide
  cases numeric with
  | empty => exact List.not_mem_nil
  | infinity sign =>
      rw [List.mem_append, not_or]
      exact ⟨unsigned _ _ sign, by decide⟩
  | hexadecimal marked fits =>
      obtain ⟨integer, ⟨sign, written⟩, -⟩ := fits
      intro member
      rcases List.mem_cons.mp member with zero | behind
      · exact absurd zero (by decide)
      · rcases List.mem_cons.mp behind with rfl | figures
        · exact absurd marked (by decide)
        · rcases List.mem_append.mp figures with front | back
          · exact unsigned _ _ sign front
          · exact absurd (written.all ',' back) (by decide)
  | decimal written =>
      intro member
      exact absurd (written.all ',' member) (by decide)

theorem readNumber_eq_nan_of_comma {text : String} (comma : ',' ∈ text.toList) :
    readNumber text = Float.nan := by
  by_contra number
  have read : (readNumber text).isNaN = false := by
    rw [Float.isNaN_eq_decide_eq_nan, decide_eq_false number]
  exact not_mem_of_numeric (numeric_of_isNaN_readNumber read rfl)
    (Text.mem_trim comma (by decide))

theorem display_singleton (item : Value) :
    display (.array [item]) = if item.isNull then "" else display item := by
  rw [display, displayItems, displayItems, String.intercalate_singleton]

theorem comma_mem_display (first second : Value) (rest : List Value) :
    ',' ∈ (display (.array (first :: second :: rest))).toList := by
  rw [display, displayItems, displayItems, String.intercalate_cons_cons]
  simp

theorem toNumber_null_singleton :
    toNumber (.array [.null]) = Float.nan ∧
      toNumber (.string (display (.array [.null]))) = Binary64.zero false :=
  ⟨rfl, rfl⟩

theorem zero_ne_nan : Binary64.zero false ≠ Float.nan := by
  decide

/-- An array reads as a number the way its string form does, unless its one element is null; with
two elements or more it reads as no number, and so does its string form. -/
theorem reading_of_array (items : List Value) :
    (toNumber (.array items) = toNumber (.string (display (.array items))) ↔ items ≠ [.null]) ∧
      (2 ≤ items.length → (toNumber (.array items)).isNaN = true ∧
        (toNumber (.string (display (.array items)))).isNaN = true) := by
  match items with
  | [] =>
      exact ⟨⟨fun _ => nofun, fun _ => rfl⟩, nofun⟩
  | [item] =>
      refine ⟨⟨?_, fun other => ?_⟩, fun more => absurd more (by simp)⟩
      · rintro same ⟨⟩
        rw [toNumber_null_singleton.1, toNumber_null_singleton.2] at same
        exact zero_ne_nan same.symm
      · have present : item.isNull = false := by
          cases item with
          | null => exact absurd rfl other
          | _ => rfl
        rw [toNumber, toNumber, display_singleton, present, if_neg Bool.false_ne_true]
  | first :: second :: rest =>
      have missing : toNumber (.array (first :: second :: rest)) = Float.nan := by
        rfl
      have read : toNumber (.string (display (.array (first :: second :: rest)))) = Float.nan :=
        readNumber_eq_nan_of_comma (comma_mem_display first second rest)
      rw [missing, read]
      exact ⟨iff_of_true rfl nofun, fun _ => ⟨rfl, rfl⟩⟩

/-- Null inside an inner array is empty to both sides, and an element behind the comma may be empty
as well. -/
theorem reading_of_array_nested :
    let nested : List Value := [.array [.null]]
    let several : List Value := [.string "7", .null]
    nested ≠ [.null] ∧ display (.array nested) = "" ∧
      toNumber (.array nested) = toNumber (.string (display (.array nested))) ∧
    2 ≤ several.length ∧ display (.array several) = "7," ∧
      (toNumber (.array several)).isNaN = true ∧
        (toNumber (.string (display (.array several)))).isNaN = true := by
  intro nested several
  have other : nested ≠ [.null] := by simp [nested]
  refine ⟨other, rfl, (reading_of_array nested).1.mpr other, le_rfl, rfl, ?_⟩
  exact (reading_of_array several).2 le_rfl

/-- Null alone prints as nothing, which reads as zero, but the array of it reads as no number. -/
theorem reading_of_null_element :
    display (.array [.null]) = "" ∧ toNumber (.string "") = Binary64.zero false ∧
      (toNumber (.array [.null])).isNaN = true ∧
      toNumber (.array [.null]) ≠ toNumber (.string (display (.array [.null]))) := by
  obtain ⟨element, whole⟩ := toNumber_null_singleton
  refine ⟨rfl, whole, ?_, ?_⟩
  · rw [element]
    rfl
  · rw [element, whole]
    exact zero_ne_nan.symm

end Value

end Reckon
