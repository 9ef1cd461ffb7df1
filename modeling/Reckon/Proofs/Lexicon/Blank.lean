import Reckon.Proofs.Lexicon.Concatenation
import Reckon.Text.Blank

/-!
Blanks between tokens: no token starts with one, and none goes on across one unless it is a string.
-/

namespace Reckon.Lexeme

open Text (isBlank)

variable {c : Char}

theorem range_of_isDigit (digit : c.isDigit = true) : 48 ≤ c.toNat ∧ c.toNat ≤ 57 := by
  obtain ⟨first, last⟩ := Bool.and_eq_true_iff.mp digit
  exact ⟨UInt32.le_iff_toNat_le.mp (of_decide_eq_true first),
    UInt32.le_iff_toNat_le.mp (of_decide_eq_true last)⟩

theorem range_of_isAlpha (letter : c.isAlpha = true) : 65 ≤ c.toNat ∧ c.toNat ≤ 122 := by
  rcases Bool.or_eq_true_iff.mp letter with upper | lower
  · obtain ⟨first, last⟩ : 'A'.val ≤ c.val ∧ c.val ≤ 'Z'.val := of_decide_eq_true upper
    exact ⟨UInt32.le_iff_toNat_le.mp first,
      Nat.le_trans (UInt32.le_iff_toNat_le.mp last) (by decide)⟩
  · obtain ⟨first, last⟩ := Bool.and_eq_true_iff.mp lower
    exact ⟨Nat.le_trans (by decide) (UInt32.le_iff_toNat_le.mp (of_decide_eq_true first)),
      UInt32.le_iff_toNat_le.mp (of_decide_eq_true last)⟩

theorem isWord_of_isDigit (digit : c.isDigit = true) : isWord c = true := by
  simp [isWord, Unicode.isAsciiWord, Char.isAlphanum, digit]

theorem range_of_isWord (word : isWord c = true) : 48 ≤ c.toNat ∧ c.toNat ≤ 122 := by
  simp only [isWord, Unicode.isAsciiWord, Char.isAlphanum, Bool.or_eq_true,
    decide_eq_true_eq] at word
  rcases word with (letter | digit) | rfl
  · have range := range_of_isAlpha letter
    omega
  · have range := range_of_isDigit digit
    omega
  · decide

theorem not_isBlank_of_isWord (word : isWord c = true) : isBlank c = false := by
  have range := range_of_isWord word
  simp only [isBlank, Bool.or_eq_false_iff, Bool.and_eq_false_iff, decide_eq_false_iff_not,
    beq_eq_false_iff_ne, ne_eq]
  omega

section

variable (blank : isBlank c = true)

include blank

theorem ne_of_isBlank {d : Char} (other : isBlank d = false) : c ≠ d := by
  rintro rfl
  rw [blank] at other
  cases other

theorem not_isWord_of_isBlank : isWord c = false := by
  by_contra word
  rw [not_isBlank_of_isWord (Bool.not_eq_false _ ▸ word)] at blank
  cases blank

theorem Seam.of_isBlank : Seam c where
  word := not_isWord_of_isBlank blank
  digit := by
    by_contra digit
    have word := isWord_of_isDigit (Bool.not_eq_false _ ▸ digit)
    rw [not_isWord_of_isBlank blank] at word
    cases word
  point := ne_of_isBlank blank (by decide)
  equal := ne_of_isBlank blank (by decide)
  bracket := ne_of_isBlank blank (by decide)

theorem not_isSpecial_of_isBlank : isSpecial c = false := by
  have all : ("-+*/():,<>!=%^[]\x7b\x7d".toList.all fun other => !isBlank other) = true := by decide
  by_contra special
  have member : c ∈ "-+*/():,<>!=%^[]\x7b\x7d".toList :=
    List.contains_iff_mem.mp (Bool.not_eq_false _ ▸ special)
  have other := List.all_eq_true.mp all c member
  simp [blank] at other

theorem builtin?_blank (before : Option Char) (rest : List Char) :
    builtin? before (c :: rest) = none := by
  have unlike : ∀ d, isBlank d = false → c ≠ d := fun d => ne_of_isBlank blank
  have comparison : comparisonLength (c :: rest) = 0 := comparisonLength_of_ne
    ⟨unlike _ (by decide), unlike _ (by decide), unlike _ (by decide), unlike _ (by decide)⟩
  have special : specialLength (c :: rest) = 0 := by
    simp [specialLength, not_isSpecial_of_isBlank blank]
  have quoted : quotedLength (c :: rest) = 0 := by
    simp [quotedLength, unlike '"' (by decide), unlike '\'' (by decide)]
  have spread : spreadLength (c :: rest) = 0 :=
    spreadLength_of_ne fun word equal => unlike '.' (by decide) (List.cons.inj equal).1
  unfold builtin? candidates
  rw [comparison, special, numeralLength_of_not_digit (Seam.of_isBlank blank).digit, quoted,
    pathLength_of_not_word (not_isWord_of_isBlank blank), spread]
  rfl

theorem split_blank (rest : List Char) : split none (c :: rest) = split none rest := by
  rw [split_of_none (builtin?_blank blank none rest)]
  exact split_of_apart (not_isWord_of_isBlank blank)

end

theorem Seam.space : Seam ' ' := .of_isBlank rfl

theorem split_space (rest : List Char) : split none (' ' :: rest) = split none rest :=
  split_blank rfl rest

theorem tokenTexts_space {rest : List Char} : tokenTexts (' ' :: rest) = tokenTexts rest :=
  congrArg texts (split_space rest)

end Reckon.Lexeme
