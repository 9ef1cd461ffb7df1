import Reckon.Proofs.Binary64
import Reckon.Proofs.Literal

/-!
The texts that are decimal numerals: a sign, digits with at most one point, and an exponent, of
which only one digit has to be there.
-/

namespace Reckon.Numeral

open Lexeme (Run Stops)

/-- An optional sign, and whether it is a minus. -/
inductive Sign : List Char → Bool → Prop
  | none : Sign [] false
  | plus : Sign ['+'] false
  | minus : Sign ['-'] true

/-- Digits with at most one point, and at least one digit before or after it. -/
inductive Mantissa : List Char → Prop
  | whole {figures : List Char} : Run Char.isDigit figures → Mantissa figures
  | point {whole fraction : List Char} :
      Run Char.isDigit (whole ++ fraction) → Mantissa (whole ++ '.' :: fraction)

/-- An optional exponent: a mark, an optional sign and one digit or more. -/
inductive Exponent : List Char → Prop
  | none : Exponent []
  | power {mark : Char} {sign figures : List Char} {negative : Bool} :
      mark = 'e' ∨ mark = 'E' → Sign sign negative → Run Char.isDigit figures →
        Exponent (mark :: (sign ++ figures))

inductive Written : List Char → Prop
  | parts {sign mantissa exponent : List Char} {negative : Bool} :
      Sign sign negative → Mantissa mantissa → Exponent exponent →
        Written (sign ++ (mantissa ++ exponent))

/-! ## Signs -/

def isSign (c : Char) : Bool :=
  c == '+' || c == '-'

theorem exists_sign (text : List Char) :
    ∃ sign, Sign sign (spanSign text).1 ∧ text = sign ++ (spanSign text).2 := by
  unfold spanSign
  split
  · exact ⟨['-'], .minus, rfl⟩
  · exact ⟨['+'], .plus, rfl⟩
  · exact ⟨[], .none, rfl⟩

theorem spanSign_append {sign rest : List Char} {negative : Bool} (written : Sign sign negative)
    (unsigned : Stops isSign rest) : spanSign (sign ++ rest) = (negative, rest) := by
  cases written with
  | plus => rfl
  | minus => rfl
  | none =>
      rw [List.nil_append]
      unfold spanSign
      split
      · exact absurd (unsigned '-' rfl) (by decide)
      · exact absurd (unsigned '+' rfl) (by decide)
      · rfl

theorem not_isSign_of_isDigit {c : Char} (digit : c.isDigit = true) : isSign c = false := by
  have range := Lexeme.range_of_isDigit digit
  simp only [isSign, Bool.or_eq_false_iff, beq_eq_false_iff_ne, ne_eq]
  constructor <;> rintro rfl <;> revert range <;> decide

/-! ## Exponents -/

theorem isSome_readNat?_iff {text : List Char} :
    (readNat? text).isSome = true ↔ Run Char.isDigit text := by
  unfold readNat?
  constructor
  · intro read
    split at read
    · cases read
    · rename_i digits
      simp only [Bool.or_eq_true, Bool.not_eq_true', not_or, Bool.not_eq_true,
        Bool.not_eq_false, List.isEmpty_eq_false_iff, List.all_eq_true] at digits
      exact ⟨digits.1, digits.2⟩
  · intro run
    have all := List.all_eq_true.mpr run.all
    simp [run.nonempty, all]

theorem isSome_readExponent?_cons (mark : Char) (rest : List Char) :
    (readExponent? (mark :: rest)).isSome =
      (decide (mark = 'e' ∨ mark = 'E') && (readNat? (spanSign rest).2).isSome) := by
  unfold readExponent?
  by_cases marked : mark = 'e' ∨ mark = 'E'
  · cases read : readNat? (spanSign rest).2 <;> simp [marked, read]
  · simp [marked]

theorem isSome_readExponent?_iff {text : List Char} :
    (readExponent? text).isSome = true ↔ Exponent text := by
  constructor
  · intro read
    cases text with
    | nil => exact .none
    | cons mark rest =>
        rw [isSome_readExponent?_cons, Bool.and_eq_true, decide_eq_true_eq] at read
        obtain ⟨sign, written, behind⟩ := exists_sign rest
        rw [behind]
        exact .power read.1 written (isSome_readNat?_iff.mp read.2)
  · intro written
    cases written with
    | none => rfl
    | @power mark sign figures negative marked sign run =>
        have unsigned : Stops isSign figures := fun c found =>
          not_isSign_of_isDigit (run.all c (List.mem_of_mem_head? found))
        rw [isSome_readExponent?_cons, spanSign_append sign unsigned, Bool.and_eq_true,
          decide_eq_true_eq]
        exact ⟨marked, isSome_readNat?_iff.mpr run⟩

/-! ## Numerals -/

theorem Exponent.stops {exponent : List Char} (written : Exponent exponent) :
    Stops Char.isDigit exponent := by
  cases written with
  | none => exact .nil
  | power marked =>
      apply Stops.cons
      rcases marked with rfl | rfl <;> decide

theorem Mantissa.stops {mantissa : List Char} (written : Mantissa mantissa) (exponent : List Char) :
    Stops isSign (mantissa ++ exponent) := by
  cases written with
  | whole run =>
      obtain ⟨first, others, rfl⟩ := List.exists_cons_of_ne_nil run.nonempty
      exact .cons (not_isSign_of_isDigit (run.all first List.mem_cons_self))
  | @point whole fraction run =>
      cases whole with
      | nil => exact .cons (by decide)
      | cons first others =>
          exact .cons (not_isSign_of_isDigit (run.all first List.mem_cons_self))

theorem exists_mantissa {text : List Char} (read : (readUnsigned? text).isSome = true) :
    ∃ mantissa exponent, Mantissa mantissa ∧ Exponent exponent ∧ text = mantissa ++ exponent := by
  have digits : ∀ text : List Char, ∀ c ∈ text.takeWhile Char.isDigit, c.isDigit = true :=
    fun text c member => List.mem_takeWhile_imp member
  have parts := fun text => List.takeWhile_append_dropWhile (p := Char.isDigit) (l := text)
  unfold readUnsigned? spanFigures at read
  dsimp only at read
  split at read
  · rename_i rest behind
    split at read
    · cases read
    · rename_i nonempty
      rw [Option.isSome_map, isSome_readExponent?_iff] at read
      refine ⟨text.takeWhile Char.isDigit ++ '.' :: rest.takeWhile Char.isDigit,
        rest.dropWhile Char.isDigit, .point ⟨?_, ?_⟩, read, ?_⟩
      · simpa using nonempty
      · exact fun c member => (List.mem_append.mp member).elim (digits text c) (digits rest c)
      · rw [List.append_assoc, List.cons_append, parts, ← behind, parts]
  · split at read
    · cases read
    · rename_i nonempty
      rw [Option.isSome_map, isSome_readExponent?_iff] at read
      refine ⟨_, _, .whole ⟨by simpa using nonempty, digits text⟩, read, (parts text).symm⟩

theorem isSome_readUnsigned? {mantissa exponent : List Char} (digits : Mantissa mantissa)
    (power : Exponent exponent) : (readUnsigned? (mantissa ++ exponent)).isSome = true := by
  have read := isSome_readExponent?_iff.mpr power
  cases digits with
  | whole run =>
      have nonempty : mantissa.isEmpty = false := by simpa using run.nonempty
      have front := spanFigures_append run.all power.stops
      cases power with
      | none =>
          rw [List.append_nil] at front ⊢
          simpa [readUnsigned?, front, nonempty] using read
      | power marked =>
          rcases marked with rfl | rfl <;> simpa [readUnsigned?, front, nonempty] using read
  | @point whole fraction run =>
      have pointed : Stops Char.isDigit ('.' :: (fraction ++ exponent)) := .cons (by decide)
      have front := spanFigures_append
        (fun c member => run.all c (List.mem_append_left _ member)) pointed
      have back := spanFigures_append
        (fun c member => run.all c (List.mem_append_right _ member)) power.stops
      have nonempty : (whole.isEmpty && fraction.isEmpty) = false := by
        simpa using run.nonempty
      rw [List.append_assoc, List.cons_append]
      simpa [readUnsigned?, front, back, nonempty] using read

theorem isSome_read?_iff {text : List Char} : (read? text).isSome = true ↔ Written text := by
  unfold read?
  rw [Option.isSome_map]
  constructor
  · intro read
    obtain ⟨mantissa, exponent, digits, power, behind⟩ := exists_mantissa read
    obtain ⟨sign, written, whole⟩ := exists_sign text
    rw [whole, behind]
    exact .parts written digits power
  · rintro ⟨sign, mantissa, exponent⟩
    rw [spanSign_append sign (mantissa.stops _)]
    exact isSome_readUnsigned? mantissa exponent

/-! ## Characters and values of numerals -/

theorem isNumeralChar_of_isDigit {c : Char} (digit : c.isDigit = true) :
    isNumeralChar c = true := by
  simp [isNumeralChar, digit]

theorem Sign.all {sign : List Char} {negative : Bool} (written : Sign sign negative) :
    ∀ c ∈ sign, isNumeralChar c = true := by
  cases written <;> simp [isNumeralChar]

theorem Mantissa.all {mantissa : List Char} (written : Mantissa mantissa) :
    ∀ c ∈ mantissa, isNumeralChar c = true := by
  intro c member
  cases written with
  | whole run => exact isNumeralChar_of_isDigit (run.all c member)
  | point run =>
      rcases List.mem_append.mp member with front | behind
      · exact isNumeralChar_of_isDigit (run.all c (List.mem_append_left _ front))
      · rcases List.mem_cons.mp behind with rfl | back
        · decide
        · exact isNumeralChar_of_isDigit (run.all c (List.mem_append_right _ back))

theorem Exponent.all {exponent : List Char} (written : Exponent exponent) :
    ∀ c ∈ exponent, isNumeralChar c = true := by
  intro c member
  cases written with
  | none => cases member
  | power marked sign run =>
      rcases List.mem_cons.mp member with rfl | behind
      · rcases marked with rfl | rfl <;> decide
      · rcases List.mem_append.mp behind with signed | figure
        · exact sign.all c signed
        · exact isNumeralChar_of_isDigit (run.all c figure)

theorem Written.all {text : List Char} (written : Written text) :
    ∀ c ∈ text, isNumeralChar c = true := by
  intro c member
  obtain ⟨sign, mantissa, exponent⟩ := written
  rcases List.mem_append.mp member with signed | behind
  · exact sign.all c signed
  · exact (List.mem_append.mp behind).elim (mantissa.all c) (exponent.all c)

theorem isNaN_toFloat (negative : Bool) (number : Decimal) :
    (Decimal.toFloat negative number).isNaN = false := by
  apply Binary64.isNaN_assemble
  unfold Decimal.nearestBits
  dsimp only
  split
  · exact Nat.zero_le _
  · split
    · exact Nat.le_refl _
    · unfold Binary64.nearestBits
      split
      · exact Nat.zero_le _
      · exact Nat.min_le_right ..

theorem isNaN_of_read? {text : List Char} {number : Float} (read : read? text = some number) :
    number.isNaN = false := by
  obtain ⟨decimal, -, rfl⟩ := Option.map_eq_some_iff.mp read
  exact isNaN_toFloat _ decimal

end Reckon.Numeral
