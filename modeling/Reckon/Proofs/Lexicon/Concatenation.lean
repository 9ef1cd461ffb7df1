import Reckon.Proofs.Lexicon.Split

/-!
The tokens of a concatenation, where no token reaches across the seam.
-/

namespace Reckon.Lexeme

def isQuote (c : Char) : Bool :=
  c = '"' || c = '\''

/-- A character that goes on with no token, unless it closes an index. -/
structure Seam (c : Char) : Prop where
  word : isWord c = false
  digit : c.isDigit = false
  point : c ≠ '.'
  equal : c ≠ '='
  bracket : c ≠ '['

theorem Seam.comma : Seam ',' := by
  constructor <;> decide

theorem Seam.parenthesis : Seam ')' := by
  constructor <;> decide

theorem Seam.closing : Seam ']' := by
  constructor <;> decide

theorem Seam.opening : Seam '(' := by
  constructor <;> decide

theorem Seam.colon : Seam ':' := by
  constructor <;> decide

section

variable {test : Char → Bool} {c : Char} (seam : Seam c) (front rest : List Char)

theorem runLength_seam (stops : test c = false) :
    runLength test (front ++ c :: rest) = runLength test front := by
  unfold runLength
  rw [List.takeWhile_append]
  split
  · rename_i whole
    simp [stops, whole]
  · rfl

theorem drop_seam {count : Nat} (inside : count ≤ front.length) :
    (front ++ c :: rest).drop count = front.drop count ++ c :: rest :=
  List.drop_append_of_le_length inside

include seam

theorem comparisonLength_seam (nonempty : front ≠ []) :
    comparisonLength (front ++ c :: rest) = comparisonLength front := by
  match front, nonempty with
  | [first], _ =>
      unfold comparisonLength
      split
      · rename_i equal
        simp only [List.cons_append, List.nil_append, List.cons.injEq] at equal
        exact absurd equal.2.1 seam.equal
      · rfl
  | first :: second :: more, _ =>
      by_cases equal : second = '='
      · subst equal
        rfl
      · simp [comparisonLength, equal]

theorem fractionLength_seam : fractionLength (front ++ c :: rest) = fractionLength front := by
  cases front with
  | nil => simp [fractionLength, seam.point]
  | cons first more =>
      by_cases point : first = '.'
      · subst point
        simp [fractionLength, runLength_seam more rest seam.digit]
      · simp [fractionLength, point]

theorem numeralLength_seam (before : Option Char) :
    numeralLength before (front ++ c :: rest) = numeralLength before front := by
  unfold numeralLength
  dsimp only
  rw [runLength_seam front rest seam.digit, drop_seam front rest (runLength_le _ _),
    fractionLength_seam seam]

theorem dottedLength_seam (fuel more : Nat) (enough : front.length ≤ fuel)
    (plenty : front.length ≤ more) :
    dottedLength more (front ++ c :: rest) = dottedLength fuel front := by
  induction fuel generalizing front more with
  | zero =>
      have empty : front = [] := List.length_eq_zero_iff.mp (by omega)
      subst empty
      cases more <;> simp [dottedLength, seam.point]
  | succ fuel ih =>
      cases front with
      | nil => cases more <;> simp [dottedLength, seam.point]
      | cons first tail =>
          obtain ⟨more, rfl⟩ := Nat.exists_eq_succ_of_ne_zero (n := more) (by
            simp at plenty
            omega)
          by_cases point : first = '.'
          · subst point
            have inner := ih (tail.drop (runLength isWord tail)) more
              (by simp at enough ⊢; omega) (by simp at plenty ⊢; omega)
            simp only [List.cons_append, dottedLength, runLength_seam tail rest seam.word,
              drop_seam tail rest (runLength_le _ _), inner]
          · simp [dottedLength, point]

omit seam in
theorem quotedLength_seam {quote : Char} {more : List Char}
    (closed : isQuote quote = true → quote ∈ more) :
    quotedLength (quote :: more ++ c :: rest) = quotedLength (quote :: more) := by
  unfold quotedLength
  simp only [List.cons_append]
  by_cases opens : isQuote quote = true
  · have inside := closed opens
    have run : runLength (· != quote) (more ++ c :: rest) = runLength (· != quote) more := by
      unfold runLength
      rw [List.takeWhile_append, if_neg]
      intro whole
      have same := (List.takeWhile_sublist (· != quote)).eq_of_length whole
      simpa using List.takeWhile_eq_self_iff.mp same quote inside
    simp [inside, run]
  · have plain : (decide (quote = '"') || decide (quote = '\'')) = false := by
      simpa [isQuote] using opens
    simp only [plain, Bool.false_and, Bool.false_eq_true, if_false]

omit seam in
theorem spreadLength_of_ne {text : List Char} (other : ∀ word, text ≠ '.' :: '.' :: '.' :: word) :
    spreadLength text = 0 := by
  unfold spreadLength
  split
  · exact absurd rfl (other _)
  · rfl

theorem spreadLength_seam : spreadLength (front ++ c :: rest) = spreadLength front := by
  by_cases points : ∃ word, front = '.' :: '.' :: '.' :: word
  · obtain ⟨word, rfl⟩ := points
    simp [spreadLength, runLength_seam word rest seam.word]
  · rw [spreadLength_of_ne fun word equal => points ⟨word, equal⟩, spreadLength_of_ne]
    intro word equal
    -- of the three points at most those before the seam can be there
    rcases front with _ | ⟨x, _ | ⟨y, _ | ⟨z, front⟩⟩⟩ <;>
      simp only [List.cons_append, List.nil_append, List.cons.injEq] at equal
    · exact seam.point equal.1
    · exact seam.point equal.2.1
    · exact seam.point equal.2.2.1
    · obtain ⟨rfl, rfl, rfl, -⟩ := equal
      exact points ⟨front, rfl⟩

/-- An index at the end of a text that is not closed. -/
def OpenIndex (text : List Char) : Prop :=
  ∃ digits, digits ≠ [] ∧ (∀ digit ∈ digits, digit.isDigit = true) ∧ text = '[' :: digits

theorem indexedLength_seam (fuel more : Nat) (enough : front.length ≤ fuel)
    (plenty : front.length ≤ more) :
    indexedLength more (front ++ c :: rest) = indexedLength fuel front ∨
      c = ']' ∧ OpenIndex (front.drop (indexedLength fuel front)) := by
  induction fuel generalizing front more with
  | zero =>
      have empty : front = [] := List.length_eq_zero_iff.mp (by omega)
      subst empty
      left
      cases more <;> simp [indexedLength, seam.bracket]
  | succ fuel ih =>
      cases front with
      | nil =>
          left
          cases more <;> simp [indexedLength, seam.bracket]
      | cons first tail =>
          obtain ⟨more, rfl⟩ := Nat.exists_eq_succ_of_ne_zero (n := more) (by
            simp at plenty
            omega)
          by_cases bracket : first = '['
          · subst bracket
            simp only [List.cons_append, indexedLength, runLength_seam tail rest seam.digit,
              drop_seam tail rest (runLength_le _ _)]
            rcases digits : runLength Char.isDigit tail with _ | count
            · exact .inl rfl
            · have run : count + 1 ≤ tail.length := digits ▸ runLength_le _ _
              rcases remains : tail.drop (count + 1) with _ | ⟨next, others⟩
              · by_cases closes : c = ']'
                · refine .inr ⟨closes, tail, ?_, ?_, rfl⟩
                  · rintro rfl
                    simp at run
                  · have whole : tail.length ≤ count + 1 := by simpa using remains
                    have same := (List.takeWhile_sublist Char.isDigit).eq_of_length
                      (digits.trans (Nat.le_antisymm run whole))
                    exact List.takeWhile_eq_self_iff.mp same
                · left
                  simp [closes]
              · by_cases closed : next = ']'
                · subst closed
                  have split := List.take_append_drop (count + 1) tail
                  rw [remains] at split
                  have shorter := congrArg List.length split
                  simp only [List.length_append, List.length_cons] at shorter enough plenty
                  rcases ih others more (by omega) (by omega) with same | ⟨closes, opened⟩
                  · exact .inl (congrArg (count + 3 + ·) same)
                  · right
                    refine ⟨closes, ?_⟩
                    have dropped : ('[' :: tail).drop (count + 3 + indexedLength fuel others) =
                        others.drop (indexedLength fuel others) := by
                      have reordered : count + 3 + indexedLength fuel others =
                          count + 1 + (indexedLength fuel others + 1) + 1 := by omega
                      rw [reordered, List.drop_succ_cons, ← List.drop_drop, remains,
                        List.drop_succ_cons]
                    exact dropped ▸ opened
                · left
                  simp [closed]
          · left
            simp [indexedLength, bracket]

theorem pathLength_seam :
    pathLength (front ++ c :: rest) = pathLength front ∨
      c = ']' ∧ OpenIndex (front.drop (pathLength front)) ∧ pathLength front ≠ 0 := by
  unfold pathLength
  dsimp only
  rw [runLength_seam front rest seam.word, drop_seam front rest (runLength_le _ _)]
  by_cases wordless : runLength isWord front = 0
  · exact .inl (by simp [wordless])
  · simp only [if_neg wordless]
    generalize runLength isWord front = word at wordless
    generalize behindWord : front.drop word = afterWord
    rw [dottedLength_seam seam afterWord rest afterWord.length _ (Nat.le_refl _) (by simp),
      drop_seam afterWord rest (dottedLength_le _ _)]
    generalize dottedLength afterWord.length afterWord = dotted
    rcases indexedLength_seam seam (afterWord.drop dotted) rest (afterWord.drop dotted).length
        (afterWord.drop dotted ++ c :: rest).length (Nat.le_refl _) (by simp) with
      same | ⟨closes, opened⟩
    · exact .inl (by rw [same])
    · right
      simp only [← behindWord, List.drop_drop, Nat.add_assoc] at opened ⊢
      exact ⟨closes, opened, by omega⟩

variable {front}

/-- A token before a seam is the same without what follows, unless the seam closes its index. -/
theorem builtin?_seam {before : Option Char} {first : Char} {more : List Char}
    (closed : isQuote first = true → first ∈ more) :
    builtin? before (first :: more ++ c :: rest) = builtin? before (first :: more) ∨
      c = ']' ∧ ∃ length, builtin? before (first :: more) = some (.path, length) ∧
        OpenIndex ((first :: more).drop length) := by
  have special : specialLength (first :: more ++ c :: rest) = specialLength (first :: more) := rfl
  unfold builtin? candidates
  rw [comparisonLength_seam seam (first :: more) rest (by simp), special,
    numeralLength_seam seam, quotedLength_seam rest closed, spreadLength_seam seam]
  rcases pathLength_seam seam (first :: more) rest with same | ⟨closes, opened, nonzero⟩
  · exact .inl (by rw [same])
  · by_cases earlier : comparisonLength (first :: more) = 0 ∧ specialLength (first :: more) = 0 ∧
        numeralLength before (first :: more) = 0 ∧ quotedLength (first :: more) = 0
    · have found : (pathLength (first :: more) != 0) = true := by simpa using nonzero
      refine .inr ⟨closes, _, ?_, opened⟩
      simp [List.find?, earlier, found]
    · left
      generalize comparisonLength (first :: more) = comparison at earlier ⊢
      generalize specialLength (first :: more) = special at earlier ⊢
      generalize numeralLength before (first :: more) = numeral at earlier ⊢
      generalize quotedLength (first :: more) = quoted at earlier ⊢
      simp only [List.find?_cons]
      cases comparison <;> cases special <;> cases numeral <;> cases quoted <;> simp_all

end

/-- A text in which each quote is part of a token. -/
inductive Tidy : Option Char → List Char → Prop
  | nil {before : Option Char} : Tidy before []
  | token {before : Option Char} {text : List Char} {kind : TokenKind} {length : Nat}
      (found : builtin? before text = some (kind, length))
      (rest : Tidy (behind before (text.take length)) (text.drop length)) : Tidy before text
  | other {before : Option Char} {c : Char} {text : List Char}
      (unmatched : builtin? before (c :: text) = none) (plain : isQuote c = false)
      (rest : Tidy (some c) text) : Tidy before (c :: text)

def Shuts (tokens : List String) : Prop :=
  ∀ front back, tokens = front ++ "[" :: back → "]" ∈ back

theorem Shuts.tail {token : String} {tokens : List String} (shuts : Shuts (token :: tokens)) :
    Shuts tokens := by
  intro front back equal
  exact shuts (token :: front) back (by rw [equal]; rfl)

def texts (lexemes : List Lexeme) : List String :=
  lexemes.map fun lexeme => String.ofList lexeme.text

theorem pathLength_of_not_word {first : Char} {more : List Char} (other : isWord first = false) :
    pathLength (first :: more) = 0 := by
  simp [pathLength, runLength, other]

theorem numeralLength_of_not_digit {before : Option Char} {first : Char} {more : List Char}
    (other : first.isDigit = false) : numeralLength before (first :: more) = 0 := by
  simp [numeralLength, runLength, other]

theorem comparisonLength_of_ne {c : Char} {rest : List Char}
    (other : c ≠ '<' ∧ c ≠ '>' ∧ c ≠ '=' ∧ c ≠ '!') : comparisonLength (c :: rest) = 0 := by
  unfold comparisonLength
  split
  · rename_i first _ equal
    cases equal
    simp [other]
  · rfl

theorem lengths_of_isQuote {quote : Char} (opens : isQuote quote = true) (before : Option Char)
    (more : List Char) :
    comparisonLength (quote :: more) = 0 ∧ specialLength (quote :: more) = 0 ∧
      numeralLength before (quote :: more) = 0 ∧ pathLength (quote :: more) = 0 ∧
      spreadLength (quote :: more) = 0 := by
  have quotes : quote = '"' ∨ quote = '\'' := by simpa [isQuote] using opens
  have spread : ∀ other : Char, other ≠ '.' → spreadLength (other :: more) = 0 :=
    fun other point => spreadLength_of_ne fun word equal => point (List.cons.inj equal).1
  rcases quotes with rfl | rfl <;>
    exact ⟨comparisonLength_of_ne (by decide), rfl, numeralLength_of_not_digit (by decide),
      pathLength_of_not_word (by decide), spread _ (by decide)⟩

theorem builtin?_open {before : Option Char} {quote : Char} {more : List Char}
    (opens : isQuote quote = true) (missing : quote ∉ more) :
    builtin? before (quote :: more) = none := by
  have quoted : quotedLength (quote :: more) = 0 := by simp [quotedLength, missing]
  obtain ⟨comparison, special, numeral, path, spread⟩ := lengths_of_isQuote opens before more
  unfold builtin? candidates
  simp [comparison, special, numeral, quoted, path, spread]

theorem builtin?_special {before : Option Char} {c : Char} {rest : List Char}
    (special : isSpecial c = true) (alone : comparisonLength (c :: rest) = 0) :
    builtin? before (c :: rest) = some (.special, 1) := by
  unfold builtin? candidates
  simp [alone, specialLength, special]

theorem split_special {before : Option Char} {c : Char} {rest : List Char}
    (special : isSpecial c = true) (alone : comparisonLength (c :: rest) = 0) :
    split before (c :: rest) = ⟨.special, [c]⟩ :: split (some c) rest :=
  split_of_some (builtin?_special special alone)

theorem not_shuts_split_of_openIndex {before : Option Char} {text : List Char}
    (opened : OpenIndex text) : ¬Shuts (texts (split before text)) := by
  obtain ⟨digits, -, all, rfl⟩ := opened
  intro shuts
  rw [split_special (by decide) (comparisonLength_of_ne (by decide))] at shuts
  have closed := shuts [] _ rfl
  obtain ⟨lexeme, member, same⟩ := List.mem_map.mp closed
  have text : lexeme.text = [']'] := by
    rw [← String.toList_ofList (l := lexeme.text), same]
    rfl
  have inside := mem_of_mem_split member (text ▸ List.mem_singleton_self ']')
  exact absurd (all ']' inside) (by decide)

theorem split_append {before : Option Char} {front : List Char} (tidy : Tidy before front)
    {c : Char} (seam : Seam c) (rest : List Char)
    (shuts : c = ']' → Shuts (texts (split before front))) :
    split before (front ++ c :: rest) =
      split before front ++ split (behind before front) (c :: rest) := by
  induction tidy with
  | nil => rfl
  | @token before text kind length found more ih =>
      have bounds := builtin?_bounds found
      obtain ⟨first, others, rfl⟩ :=
        List.exists_cons_of_length_pos (Nat.lt_of_lt_of_le bounds.1 bounds.2)
      have closed : isQuote first = true → first ∈ others := by
        intro opens
        by_contra missing
        rw [builtin?_open opens missing] at found
        cases found
      rw [split_of_some found] at shuts ⊢
      rcases builtin?_seam seam rest closed with same | ⟨closes, _, path, opened⟩
      · rw [found] at same
        rw [split_of_some same, drop_seam _ rest bounds.2, List.take_append_of_le_length bounds.2,
          ih fun closes => (shuts closes).tail, ← behind_append, List.take_append_drop]
        rfl
      · rw [found] at path
        cases path
        exact absurd (shuts closes).tail (not_shuts_split_of_openIndex opened)
  | @other before first text unmatched plain more ih =>
      have closed : isQuote first = true → first ∈ text := by simp [plain]
      rcases builtin?_seam seam rest closed with same | ⟨_, _, path, _⟩
      · rw [unmatched] at same
        rw [split_of_none unmatched] at shuts ⊢
        have joined : split before (first :: text ++ c :: rest) =
            split (some first) (text ++ c :: rest) := split_of_none same
        rw [joined, ih shuts, behind_cons]
      · rw [unmatched] at path
        cases path

theorem split_congr {before other : Option Char} {text : List Char}
    (same : builtin? before text = builtin? other text) : split before text = split other text := by
  cases text with
  | nil => rfl
  | cons c rest =>
      rcases found : builtin? other (c :: rest) with _ | ⟨kind, length⟩
      · rw [split_of_none found, split_of_none (same.trans found)]
      · have bounds := builtin?_bounds found
        obtain ⟨length, rfl⟩ := Nat.exists_eq_add_of_lt bounds.1
        rw [split_of_some found, split_of_some (same.trans found)]
        simp

/-- What stands before a text matters to its tokens only if it is part of a word. -/
theorem split_of_apart {before : Option Char} {text : List Char}
    (apart : before.any isWord = false) : split before text = split none text :=
  split_congr (by simp [builtin?, candidates, numeralLength, apart])

/-- What stands before a text matters to its tokens only if it starts with a digit. -/
theorem split_of_not_digit {before : Option Char} {c : Char} {rest : List Char}
    (other : c.isDigit = false) : split before (c :: rest) = split none (c :: rest) :=
  split_congr (by simp [builtin?, candidates, numeralLength_of_not_digit other])

theorem not_isWord_of_special {c : Char} (special : isSpecial c = true) : isWord c = false := by
  have all : ("-+*/():,<>!=%^[]\x7b\x7d".toList.all fun other => !isWord other) = true := by decide
  have plain := List.all_eq_true.mp all c (List.contains_iff_mem.mp special)
  simpa using plain

theorem ne_of_isWord {c d : Char} (word : isWord c = true) (other : isWord d = false) : c ≠ d := by
  rintro rfl
  rw [word] at other
  cases other

/-- Where a word starts there is no comparison, no special character and no string. -/
theorem lengths_of_isWord {first : Char} {more : List Char} (word : isWord first = true) :
    comparisonLength (first :: more) = 0 ∧ specialLength (first :: more) = 0 ∧
      quotedLength (first :: more) = 0 := by
  have unlike : ∀ d, isWord d = false → first ≠ d := fun d => ne_of_isWord word
  refine ⟨?_, ?_, ?_⟩
  · exact comparisonLength_of_ne ⟨unlike _ (by decide), unlike _ (by decide), unlike _ (by decide),
      unlike _ (by decide)⟩
  · by_cases found : isSpecial first = true
    · exact absurd rfl (unlike first (not_isWord_of_special found))
    · simp [specialLength, found]
  · have double := unlike '"' (by decide)
    have single := unlike '\'' (by decide)
    simp [quotedLength, double, single]

theorem split_word {before : Option Char} {first : Char} {more : List Char}
    (word : ∀ c ∈ first :: more, isWord c = true) (letter : first.isDigit = false) {c : Char}
    (stops : isWord c = false) (point : c ≠ '.') (bracket : c ≠ '[') (rest : List Char) :
    split before (first :: more ++ c :: rest) =
      ⟨.path, first :: more⟩ :: split (behind before (first :: more)) (c :: rest) := by
  obtain ⟨comparison, special, quoted⟩ :=
    @lengths_of_isWord first (more ++ c :: rest) (word first (List.mem_cons_self ..))
  have numeral : numeralLength before (first :: more ++ c :: rest) = 0 :=
    numeralLength_of_not_digit letter
  have run : runLength isWord (first :: more ++ c :: rest) = (first :: more).length := by
    rw [runLength_seam _ _ stops, runLength, List.takeWhile_eq_self_iff.mpr word]
  have path : pathLength (first :: more ++ c :: rest) = (first :: more).length := by
    unfold pathLength
    rw [run]
    simp [dottedLength, indexedLength, point, bracket]
  have found : builtin? before (first :: more ++ c :: rest) =
      some (.path, (first :: more).length) := by
    unfold builtin? candidates
    rw [List.cons_append] at numeral path ⊢
    rw [comparison, special, numeral, quoted, path]
    rfl
  rw [split_of_some found, List.take_left, List.drop_left]

def tokenTexts (text : List Char) : List String :=
  texts (split none text)

@[simp]
theorem tokenTexts_nil : tokenTexts [] = [] := rfl

theorem tokenTexts_special {c : Char} {rest : List Char} (special : isSpecial c = true)
    (alone : comparisonLength (c :: rest) = 0) :
    tokenTexts (c :: rest) = String.ofList [c] :: tokenTexts rest := by
  have apart : (some c).any isWord = false := not_isWord_of_special special
  unfold tokenTexts
  rw [split_special special alone, split_of_apart apart]
  rfl

theorem tokenTexts_append {front rest : List Char} {c : Char} (tidy : Tidy none front)
    (seam : Seam c)
    (shuts : c = ']' → Shuts (tokenTexts front)) :
    tokenTexts (front ++ c :: rest) = tokenTexts front ++ tokenTexts (c :: rest) := by
  unfold tokenTexts
  rw [split_append tidy seam rest shuts, split_of_not_digit seam.digit]
  exact List.map_append

def isName : List Char → Bool
  | [] => false
  | first :: more => (first :: more).all isWord && !first.isDigit

theorem isName_iff {text : List Char} :
    isName text = true ↔ ∃ first more, text = first :: more ∧ first.isDigit = false ∧
      ∀ c ∈ first :: more, isWord c = true := by
  constructor
  · intro name
    match text, name with
    | first :: more, name =>
        rw [isName, Bool.and_eq_true, List.all_eq_true, Bool.not_eq_true'] at name
        exact ⟨first, more, rfl, name.2, name.1⟩
  · rintro ⟨first, more, rfl, letter, word⟩
    rw [isName, Bool.and_eq_true, List.all_eq_true, Bool.not_eq_true']
    exact ⟨word, letter⟩

theorem tokenTexts_name {name : String} (named : isName name.toList = true) {c : Char}
    (seam : Seam c) (rest : List Char) :
    tokenTexts (name.toList ++ c :: rest) = name :: tokenTexts (c :: rest) := by
  obtain ⟨first, more, equal, letter, word⟩ := isName_iff.mp named
  unfold tokenTexts
  rw [equal, split_word word letter seam.word seam.point seam.bracket,
    split_of_not_digit seam.digit]
  change String.ofList (first :: more) :: _ = _
  rw [← equal, String.ofList_toList]
  rfl

/-- A text before a closing token, and that token. -/
theorem tokenTexts_closed {front rest : List Char} {c : Char} (tidy : Tidy none front)
    (seam : Seam c) (special : isSpecial c = true) (alone : comparisonLength (c :: rest) = 0)
    (shuts : c = ']' → Shuts (tokenTexts front)) :
    tokenTexts (front ++ c :: rest) = tokenTexts front ++ String.ofList [c] :: tokenTexts rest := by
  rw [tokenTexts_append tidy seam shuts, tokenTexts_special special alone]

end Reckon.Lexeme
