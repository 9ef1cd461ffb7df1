import Reckon.Proofs.Binary64.Nearest
import Reckon.Proofs.Decimal.Numeral
import Reckon.Proofs.Text.Blank
import Reckon.Value.Coercion

/-!
The texts that read as numbers.  Blanks around them aside, these are the empty text, the names of
the infinities, hexadecimal integers that fit a signed word, and decimal numerals.
-/

namespace Reckon

open Lexeme (Stops)

/-- Hexadecimal figures and what they denote: each figure counts sixteen times the one behind it. -/
inductive Hexadecimal : List Char → Nat → Prop
  | figure {c : Char} {value : Nat} : Text.hexValue? c = some value → Hexadecimal [c] value
  | further {front : List Char} {number : Nat} {c : Char} {value : Nat} :
      Hexadecimal front number → Text.hexValue? c = some value →
        Hexadecimal (front ++ [c]) (16 * number + value)

namespace Hexadecimal

variable {figures : List Char} {number : Nat}

theorem readHex?_concat (front : List Char) (c : Char) :
    Text.readHex? (front ++ [c]) =
      (Text.readHex? front).bind fun number =>
        (Text.hexValue? c).map fun value => 16 * number + value := by
  unfold Text.readHex?
  rw [List.mapM_append]
  cases front.mapM Text.hexValue? <;> cases read : Text.hexValue? c <;> simp [read]

theorem of_readHex? (nonempty : figures ≠ []) (read : Text.readHex? figures = some number) :
    Hexadecimal figures number := by
  induction figures using List.reverseRecOn generalizing number with
  | nil => exact absurd rfl nonempty
  | append_singleton front c ih =>
      rw [readHex?_concat] at read
      obtain ⟨before, first, read⟩ := Option.bind_eq_some_iff.mp read
      obtain ⟨value, last, rfl⟩ := Option.map_eq_some_iff.mp read
      by_cases alone : front = []
      · subst alone
        cases first
        exact (Nat.zero_add value).symm ▸ .figure last
      · exact .further (ih alone first) last

theorem readHex? (written : Hexadecimal figures number) :
    Text.readHex? figures = some number := by
  induction written with
  | figure last =>
      rw [← List.nil_append [_], readHex?_concat, last]
      exact congrArg some (Nat.zero_add _)
  | further _ last ih =>
      rw [readHex?_concat, ih, last]
      rfl

theorem ne_nil (written : Hexadecimal figures number) : figures ≠ [] := by
  cases written <;> simp

theorem stops (written : Hexadecimal figures number) : Stops Numeral.isSign figures := by
  have unsigned : ∀ c value, Text.hexValue? c = some value → Numeral.isSign c = false := by
    intro c value read
    by_contra sign
    simp only [Numeral.isSign, Bool.not_eq_false, Bool.or_eq_true, beq_iff_eq] at sign
    rcases sign with rfl | rfl <;> revert read <;> simp [Text.hexValue?]
  induction written with
  | figure read => exact .cons (unsigned _ _ read)
  | further front _ ih =>
      obtain ⟨first, rest, rfl⟩ := List.exists_cons_of_ne_nil front.ne_nil
      exact .cons (ih first rfl)

theorem all (written : Hexadecimal figures number) :
    ∀ c ∈ figures, (Text.hexValue? c).isSome = true := by
  induction written with
  | figure read => simp [read]
  | further _ read ih =>
      intro c member
      rcases List.mem_append.mp member with front | last
      · exact ih c front
      · rw [List.mem_singleton.mp last, read, Option.isSome_some]

end Hexadecimal

/-- A hexadecimal integer, with or without a sign. -/
inductive SignedHexadecimal : List Char → Int → Prop
  | parts {sign figures : List Char} {negative : Bool} {number : Nat} :
      Numeral.Sign sign negative → Hexadecimal figures number →
        SignedHexadecimal (sign ++ figures) (if negative then -(number : Int) else number)

def FitsWord (figures : List Char) : Prop :=
  ∃ integer, SignedHexadecimal figures integer ∧
    Binary64.minWord ≤ integer ∧ integer ≤ Binary64.maxWord

theorem natAbs_lt_of_word {integer : Int}
    (fits : Binary64.minWord ≤ integer ∧ integer ≤ Binary64.maxWord) :
    integer.natAbs < 2 ^ 64 := by
  unfold Binary64.minWord Binary64.maxWord at fits
  omega

/-- The texts without blanks around them that read as numbers, given what may stand behind `0x`. -/
inductive Numeric (hexadecimal : List Char → Prop) : List Char → Prop
  | empty : Numeric hexadecimal []
  | infinity {sign : List Char} {negative : Bool} :
      Numeral.Sign sign negative → Numeric hexadecimal (sign ++ "Infinity".toList)
  | hexadecimal {mark : Char} {figures : List Char} :
      mark = 'x' ∨ mark = 'X' → hexadecimal figures → Numeric hexadecimal ('0' :: mark :: figures)
  | decimal {text : List Char} : Numeral.Written text → Numeric hexadecimal text

/-- A text that starts like a hexadecimal integer is numeric as one or not at all. -/
theorem numeric_hexadecimal_iff {hexadecimal : List Char → Prop} {mark : Char} {figures : List Char}
    (marked : mark = 'x' ∨ mark = 'X') :
    Numeric hexadecimal ('0' :: mark :: figures) ↔ hexadecimal figures := by
  refine ⟨fun numeric => ?_, fun written => .hexadecimal marked written⟩
  generalize whole : '0' :: mark :: figures = text at numeric
  cases numeric with
  | empty => cases whole
  | infinity sign => cases sign <;> simp at whole
  | hexadecimal _ written =>
      cases whole
      exact written
  | decimal written =>
      subst whole
      have numeral := written.all mark (by simp)
      rcases marked with rfl | rfl <;> exact absurd numeral (by decide)

namespace Value

theorem readHexWord?_eq_some_iff {figures : List Char} {integer : Int} :
    readHexWord? figures = some integer ↔
      SignedHexadecimal figures integer ∧
        Binary64.minWord ≤ integer ∧ integer ≤ Binary64.maxWord := by
  unfold readHexWord?
  constructor
  · intro read
    obtain ⟨sign, written, whole⟩ := Numeral.exists_sign figures
    generalize Numeral.spanSign figures = parts at *
    subst whole
    dsimp only at read
    rw [Option.ite_none_left_eq_some] at read
    obtain ⟨nonempty, read⟩ := read
    obtain ⟨number, figures, read⟩ := Option.bind_eq_some_iff.mp read
    rw [Option.ite_none_right_eq_some] at read
    obtain ⟨fits, read⟩ := read
    cases read
    exact ⟨.parts written (.of_readHex? (by simpa using nonempty) figures), fits⟩
  · rintro ⟨⟨sign, written⟩, fits⟩
    have nonempty := written.ne_nil
    rw [Numeral.spanSign_append sign written.stops]
    simp [written.readHex?, nonempty, fits]

section

variable {text : String} {trimmed : List Char}

theorem readNumber_hexadecimal {mark : Char} {figures : List Char}
    (marked : mark = 'x' ∨ mark = 'X')
    (trims : Text.trim text.toList = '0' :: mark :: figures) :
    readNumber text = (readHexWord? figures).elim Binary64.notANumber Binary64.ofInt := by
  unfold readNumber
  rw [trims]
  rcases marked with rfl | rfl <;> cases read : readHexWord? figures <;> simp [read]

theorem readNumber_decimal (written : Numeral.Written trimmed)
    (trims : Text.trim text.toList = trimmed) :
    some (readNumber text) = Numeral.read? trimmed := by
  have all := written.all
  obtain ⟨number, read⟩ := Option.isSome_iff_exists.mp (Numeral.isSome_read?_iff.mpr written)
  unfold readNumber
  rw [trims, read]
  split
  · cases read
  · exact absurd (all 'x' (by simp)) (by decide)
  · exact absurd (all 'X' (by simp)) (by decide)
  · have unnamed : ∀ name, 'I' ∈ name → trimmed ≠ name := by
      rintro name member rfl
      exact absurd (all 'I' member) (by decide)
    simp [unnamed, List.all_eq_true.mpr all, read]

theorem isNaN_readNumber_of_numeric (numeric : Numeric FitsWord trimmed)
    (trims : Text.trim text.toList = trimmed) : (readNumber text).isNaN = false := by
  cases numeric with
  | empty =>
      unfold readNumber
      rw [trims]
      decide +kernel
  | infinity sign =>
      unfold readNumber
      rw [trims]
      cases sign <;> decide +kernel
  | hexadecimal marked fits =>
      obtain ⟨integer, written⟩ := fits
      rw [readNumber_hexadecimal marked trims, readHexWord?_eq_some_iff.mpr written]
      exact (Binary64.isFinite_ofInt (natAbs_lt_of_word written.2)).isNaN
  | decimal written =>
      exact Numeral.isNaN_of_read? (readNumber_decimal written trims).symm

theorem numeric_of_isNaN_readNumber (number : (readNumber text).isNaN = false)
    (trims : Text.trim text.toList = trimmed) : Numeric FitsWord trimmed := by
  have missing : ¬Binary64.notANumber.isNaN = false := by decide +kernel
  by_cases hexadecimal : ∃ mark figures, (mark = 'x' ∨ mark = 'X') ∧
      trimmed = '0' :: mark :: figures
  · obtain ⟨mark, figures, marked, rfl⟩ := hexadecimal
    rw [readNumber_hexadecimal marked trims] at number
    cases read : readHexWord? figures with
    | none =>
        rw [read] at number
        exact absurd number missing
    | some integer => exact .hexadecimal marked ⟨integer, readHexWord?_eq_some_iff.mp read⟩
  · unfold readNumber at number
    rw [trims] at number
    split at number
    · exact .empty
    · exact absurd ⟨_, _, .inl rfl, rfl⟩ hexadecimal
    · exact absurd ⟨_, _, .inr rfl, rfl⟩ hexadecimal
    · split at number
      · rename_i name
        rw [Bool.or_eq_true, decide_eq_true_eq, decide_eq_true_eq] at name
        rcases name with rfl | rfl
        · exact .infinity .none
        · exact .infinity .plus
      · split at number
        · rename_i name
          subst name
          exact .infinity .minus
        · split at number
          · cases read : Numeral.read? trimmed with
            | none =>
                rw [read] at number
                exact absurd number missing
            | some value =>
                exact .decimal (Numeral.isSome_read?_iff.mp (by rw [read, Option.isSome_some]))
          · exact absurd number missing

end

/-- A text reads as a number exactly if it is numeric, where only an integer of a signed word, with
or without a sign, may stand behind `0x`; what is read then is the double nearest to the integer. -/
theorem reading_of_text {text : String} {trimmed : List Char}
    (trims : Text.Trims text.toList trimmed) :
    ((toNumber (.string text)).isNaN = false ↔ Numeric FitsWord trimmed) ∧
      ∀ mark figures integer, mark = 'x' ∨ mark = 'X' → trimmed = '0' :: mark :: figures →
        SignedHexadecimal figures integer → Binary64.minWord ≤ integer →
          integer ≤ Binary64.maxWord → Binary64.IsNearest (toNumber (.string text)) integer := by
  have trims := trims.eq_trim.symm
  refine ⟨⟨fun number => numeric_of_isNaN_readNumber number trims,
    fun numeric => isNaN_readNumber_of_numeric numeric trims⟩, ?_⟩
  rintro mark figures integer marked rfl written low high
  have read := readHexWord?_eq_some_iff.mpr ⟨written, low, high⟩
  change Binary64.IsNearest (readNumber text) integer
  rw [readNumber_hexadecimal marked trims, read]
  exact Binary64.isNearest_ofInt (natAbs_lt_of_word ⟨low, high⟩)

theorem reading_of_text_figures :
    Text.Trims " 0x1F\n".toList "0x1F".toList ∧ SignedHexadecimal "1F".toList 31 ∧
      (toNumber (.string " 0x1F\n")).isNaN = false ∧
        Binary64.IsNearest (toNumber (.string " 0x1F\n")) 31 := by
  have trims : Text.Trims " 0x1F\n".toList "0x1F".toList := Text.trims_trim _
  have written : SignedHexadecimal "1F".toList 31 :=
    @SignedHexadecimal.parts [] _ _ 31 .none (.of_readHex? (by decide) (by decide))
  obtain ⟨numeric, nearest⟩ := reading_of_text trims
  refine ⟨trims, written, numeric.mpr (.hexadecimal (.inl rfl) ⟨31, written, ?_⟩), ?_⟩
  · decide
  · exact_mod_cast nearest 'x' _ 31 (.inl rfl) rfl written (by decide) (by decide)

/-- A sign behind `0x` is taken, and an integer beyond a signed word is not. -/
theorem reading_of_sign_and_length :
    Text.Trims "0x-5".toList "0x-5".toList ∧ (toNumber (.string "0x-5")).isNaN = false ∧
      ¬Numeric (fun figures => ∃ number, Hexadecimal figures number) "0x-5".toList ∧
    Text.Trims "0xFFFFFFFFFFFFFFFF".toList "0xFFFFFFFFFFFFFFFF".toList ∧
      (toNumber (.string "0xFFFFFFFFFFFFFFFF")).isNaN = true ∧
      Numeric (fun figures => ∃ number, Hexadecimal figures number)
        "0xFFFFFFFFFFFFFFFF".toList := by
  refine ⟨Text.trims_trim _, by decide +kernel, ?_, Text.trims_trim _, by decide +kernel, ?_⟩
  · intro numeric
    obtain ⟨number, written⟩ := (numeric_hexadecimal_iff (.inl rfl)).mp numeric
    exact absurd (written.stops '-' rfl) (by decide)
  · exact .hexadecimal (.inl rfl) ⟨0xFFFFFFFFFFFFFFFF, .of_readHex? (by decide) (by decide)⟩

end Value

end Reckon
