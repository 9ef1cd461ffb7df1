import Reckon.Proofs.Lexicon.Blank

/-!
What the built-in tokens look like.  A token of a text has the shape of its kind, and a text of such
a shape is one token of that kind by itself.
-/

namespace Reckon.Lexeme

structure Run (test : Char → Bool) (text : List Char) : Prop where
  nonempty : text ≠ []
  all : ∀ c ∈ text, test c = true

theorem Run.single {test : Char → Bool} {c : Char} (passes : test c = true) : Run test [c] :=
  ⟨List.cons_ne_nil c [], List.forall_mem_singleton.mpr passes⟩

/-- A point and digits, or nothing. -/
inductive Fraction : List Char → Prop
  | none : Fraction []
  | point {digits : List Char} (run : Run Char.isDigit digits) : Fraction ('.' :: digits)

/-- Points, each with a word after it. -/
inductive Dotted : List Char → Prop
  | nil : Dotted []
  | cons {word rest : List Char} (run : Run isWord word) (more : Dotted rest) :
      Dotted ('.' :: (word ++ rest))

/-- Digits between brackets, any number of times. -/
inductive Indexed : List Char → Prop
  | nil : Indexed []
  | cons {digits rest : List Char} (run : Run Char.isDigit digits) (more : Indexed rest) :
      Indexed ('[' :: (digits ++ ']' :: rest))

/-- The texts of each kind of built-in tokens. -/
inductive Shape : TokenKind → List Char → Prop
  | comparison {c : Char} (first : c = '<' ∨ c = '>' ∨ c = '=' ∨ c = '!') :
      Shape .comparison [c, '=']
  | special {c : Char} (special : isSpecial c = true) : Shape .special [c]
  | numeral {digits fraction : List Char} (run : Run Char.isDigit digits)
      (more : Fraction fraction) : Shape .numeral (digits ++ fraction)
  | quoted {quote : Char} {inner : List Char} (opens : isQuote quote = true)
      (free : quote ∉ inner) : Shape .quoted (quote :: (inner ++ [quote]))
  | path {word dotted indexed : List Char} (named : isName word = true) (points : Dotted dotted)
      (indices : Indexed indexed) : Shape .path (word ++ dotted ++ indexed)
  | spread {word : List Char} (run : Run isWord word) :
      Shape .spread ('.' :: '.' :: '.' :: word)

/-- The character at the front of a text, if there is one, does not pass a test. -/
def Stops (test : Char → Bool) (text : List Char) : Prop :=
  ∀ c, text.head? = some c → test c = false

section

variable {test : Char → Bool} {run text rest : List Char}

theorem Stops.nil : Stops test [] := nofun

theorem Stops.cons {c : Char} (stops : test c = false) : Stops test (c :: rest) := by
  intro other found
  cases found
  exact stops

theorem Stops.digit (stops : Stops isWord text) : Stops Char.isDigit text := by
  intro c found
  by_contra digit
  have word := isWord_of_isDigit (Bool.not_eq_false _ ▸ digit)
  rw [stops c found] at word
  cases word

theorem take_runLength (test : Char → Bool) (text : List Char) :
    text.take (runLength test text) = text.takeWhile test :=
  (List.prefix_iff_eq_take.mp (List.takeWhile_prefix test)).symm

theorem drop_runLength (test : Char → Bool) (text : List Char) :
    text.drop (runLength test text) = text.dropWhile test := by
  have parts := List.takeWhile_append_dropWhile (p := test) (l := text)
  rw [← take_runLength] at parts
  exact (List.append_cancel_left (parts.trans (List.take_append_drop _ text).symm)).symm

theorem stops_drop_runLength (test : Char → Bool) (text : List Char) :
    Stops test (text.drop (runLength test text)) := by
  intro c found
  rw [drop_runLength] at found
  have fails := List.head?_dropWhile_not test text
  rw [found] at fails
  simpa using fails

theorem stops_of_runLength (zero : runLength test text = 0) : Stops test text := by
  have stops := stops_drop_runLength test text
  rwa [zero] at stops

theorem run_take (nonzero : runLength test text ≠ 0) :
    Run test (text.take (runLength test text)) := by
  rw [take_runLength]
  refine ⟨?_, fun c member => List.mem_takeWhile_imp member⟩
  intro empty
  exact nonzero (congrArg List.length empty)

theorem runLength_append (all : ∀ c ∈ run, test c = true) (stops : Stops test rest) :
    runLength test (run ++ rest) = run.length := by
  have stopped : rest.takeWhile test = [] := by
    cases rest with
    | nil => rfl
    | cons c rest => simp [stops c rfl]
  rw [runLength, List.takeWhile_append_of_pos all, stopped, List.append_nil]

end

section

variable (text : List Char)

theorem fraction_take : Fraction (text.take (fractionLength text)) := by
  unfold fractionLength
  split
  · rename_i rest
    dsimp only
    split
    · exact .none
    · rename_i nonzero
      exact .point (run_take nonzero)
  · exact .none

theorem stops_drop_fraction (stops : Stops Char.isDigit text) :
    Stops Char.isDigit (text.drop (fractionLength text)) := by
  unfold fractionLength
  split
  · rename_i rest
    dsimp only
    split
    · exact stops
    · exact stops_drop_runLength Char.isDigit rest
  · exact stops

variable (fuel : Nat)

theorem dotted_take : Dotted (text.take (dottedLength fuel text)) := by
  induction fuel generalizing text with
  | zero => exact .nil
  | succ fuel ih =>
      unfold dottedLength
      split
      · rename_i _ _ rest equal
        cases equal
        dsimp only
        split
        · exact .nil
        · rename_i nonzero
          rw [Nat.add_assoc, Nat.add_comm 1, List.take_succ_cons, List.take_add]
          exact .cons (run_take nonzero) (ih _)
      · exact .nil

theorem stops_drop_dotted (stops : Stops isWord text) :
    Stops isWord (text.drop (dottedLength fuel text)) := by
  induction fuel generalizing text with
  | zero => exact stops
  | succ fuel ih =>
      unfold dottedLength
      split
      · rename_i _ _ rest equal
        cases equal
        dsimp only
        split
        · exact stops
        · rw [Nat.add_assoc, Nat.add_comm 1, List.drop_succ_cons, ← List.drop_drop]
          exact ih _ (stops_drop_runLength isWord rest)
      · exact stops

theorem indexed_take : Indexed (text.take (indexedLength fuel text)) := by
  induction fuel generalizing text with
  | zero => exact .nil
  | succ fuel ih =>
      unfold indexedLength
      split
      · rename_i _ _ rest equal
        cases equal
        dsimp only
        split
        · rename_i digits more count closed
          have run := @run_take Char.isDigit rest (by omega)
          have reordered : digits + 3 + indexedLength fuel more =
              (digits + 1) + (indexedLength fuel more + 1) + 1 := by omega
          rw [count] at closed run
          rw [reordered, List.take_succ_cons, List.take_add, closed, List.take_succ_cons]
          exact .cons run (ih more)
        · exact .nil
      · exact .nil

theorem Indexed.behind {text : List Char} (indexed : Indexed text) :
    text = [] ∨ ∀ before, behind before text = some ']' := by
  induction indexed with
  | nil => exact .inl rfl
  | @cons digits rest run more ih =>
      right
      intro before
      rw [behind_cons, behind_append, behind_cons]
      rcases ih with rfl | closes
      · rfl
      · exact closes _

end

/-- No word goes on with a digit. -/
def Boundary (before : Option Char) (text : List Char) : Prop :=
  before.any isWord = true → Stops Char.isDigit text

section

variable {before : Option Char} {text : List Char} {kind : TokenKind} {length : Nat}

theorem Boundary.of_apart (apart : before.any isWord = false) : Boundary before text := by
  intro word
  rw [apart] at word
  cases word

theorem Boundary.of_stops (stops : Stops Char.isDigit text) : Boundary before text :=
  fun _ => stops

theorem Boundary.stops (boundary : Boundary before text) (zero : numeralLength before text = 0) :
    Stops Char.isDigit text := by
  unfold numeralLength at zero
  split at zero
  · rename_i word
    exact boundary word
  · dsimp only at zero
    split at zero
    · rename_i digitless
      exact stops_of_runLength digitless
    · omega

theorem isName_of_run (run : Run isWord text) (letter : Stops Char.isDigit text) :
    isName text = true := by
  cases text with
  | nil => exact absurd rfl run.nonempty
  | cons first more => exact isName_iff.mpr ⟨first, more, rfl, letter first rfl, run.all⟩

theorem comparison_take (nonzero : comparisonLength text ≠ 0) :
    Shape .comparison (text.take (comparisonLength text)) := by
  unfold comparisonLength at nonzero ⊢
  split at nonzero
  · rename_i c rest
    split at nonzero
    · rename_i first
      simp only [if_pos first]
      exact .comparison (by simpa [or_assoc] using first)
    · exact absurd rfl nonzero
  · exact absurd rfl nonzero

theorem special_take (nonzero : specialLength text ≠ 0) :
    Shape .special (text.take (specialLength text)) := by
  unfold specialLength at nonzero ⊢
  split at nonzero
  · rename_i c rest
    split at nonzero
    · rename_i special
      simp only [special, if_true]
      exact .special special
    · exact absurd rfl nonzero
  · exact absurd rfl nonzero

theorem numeral_take (nonzero : numeralLength before text ≠ 0) :
    Shape .numeral (text.take (numeralLength before text)) ∧
      Stops Char.isDigit (text.drop (numeralLength before text)) := by
  unfold numeralLength at nonzero ⊢
  split at nonzero
  · exact absurd rfl nonzero
  · rename_i apart
    dsimp only at nonzero ⊢
    split at nonzero
    · exact absurd rfl nonzero
    · rename_i digits
      rw [if_neg apart, if_neg digits, List.take_add, ← List.drop_drop]
      refine ⟨.numeral (run_take digits) (fraction_take _), stops_drop_fraction _ ?_⟩
      exact stops_drop_runLength Char.isDigit text

theorem quoted_take (nonzero : quotedLength text ≠ 0) :
    Shape .quoted (text.take (quotedLength text)) := by
  unfold quotedLength at nonzero ⊢
  split at nonzero
  · rename_i quote rest
    split at nonzero
    · rename_i closes
      simp only [Bool.and_eq_true, List.contains_iff_mem] at closes
      have stops := stops_drop_runLength (· != quote) rest
      have inner := take_runLength (· != quote) rest
      have whole := List.take_append_drop (runLength (· != quote) rest) rest
      simp only [closes.1, List.contains_iff_mem.mpr closes.2, Bool.and_self, if_true]
      rcases behind : rest.drop (runLength (· != quote) rest) with _ | ⟨c, more⟩
      · rw [behind, List.append_nil, inner] at whole
        have passes := List.takeWhile_eq_self_iff.mp whole quote closes.2
        simp at passes
      · rw [behind] at stops
        have same : c = quote := by simpa using stops c rfl
        subst same
        rw [List.take_succ_cons, List.take_add, behind, inner]
        refine .quoted closes.1 ?_
        intro inside
        have passes := List.mem_takeWhile_imp inside
        simp at passes
    · exact absurd rfl nonzero
  · exact absurd rfl nonzero

theorem path_take (nonzero : pathLength text ≠ 0) (letter : Stops Char.isDigit text) :
    Shape .path (text.take (pathLength text)) := by
  unfold pathLength at nonzero ⊢
  dsimp only at nonzero ⊢
  split at nonzero
  · exact absurd rfl nonzero
  · rename_i word
    rw [if_neg word, List.take_add, List.take_add, ← List.drop_drop]
    refine .path (isName_of_run (run_take word) ?_) (dotted_take _ _) (indexed_take _ _)
    intro c found
    rw [List.head?_take, if_neg word] at found
    exact letter c found

theorem boundary_drop_path (nonzero : pathLength text ≠ 0) :
    Boundary (behind before (text.take (pathLength text))) (text.drop (pathLength text)) := by
  unfold pathLength at nonzero ⊢
  dsimp only at nonzero ⊢
  split at nonzero
  · exact absurd rfl nonzero
  · rename_i word
    rw [if_neg word, List.take_add, ← List.drop_drop, behind_append, ← List.drop_drop]
    have stops := stops_drop_dotted _ (text.drop (runLength isWord text)).length
      (stops_drop_runLength isWord text)
    rw [← List.drop_drop]
    generalize (text.drop (runLength isWord text)).drop
      (dottedLength (text.drop (runLength isWord text)).length
        (text.drop (runLength isWord text))) = rest at stops ⊢
    rcases (indexed_take rest rest.length).behind with empty | closes
    · rcases List.take_eq_nil_iff.mp empty with zero | nil
      · rw [zero]
        exact .of_stops stops.digit
      · subst nil
        exact .of_stops Stops.nil.digit
    · rw [closes]
      exact .of_apart rfl

theorem spread_take (nonzero : spreadLength text ≠ 0) :
    Shape .spread (text.take (spreadLength text)) ∧
      Stops isWord (text.drop (spreadLength text)) := by
  unfold spreadLength at nonzero ⊢
  split at nonzero
  · rename_i rest
    dsimp only at nonzero ⊢
    split at nonzero
    · exact absurd rfl nonzero
    · rename_i word
      rw [if_neg word]
      exact ⟨.spread (run_take word), stops_drop_runLength isWord rest⟩
  · exact absurd rfl nonzero

theorem shape_take (boundary : Boundary before text)
    (found : builtin? before text = some (kind, length)) : Shape kind (text.take length) := by
  refine builtin?_cases found ?_ ?_ ?_ ?_ ?_ ?_
  · exact comparison_take
  · exact special_take
  · exact fun nonzero => (numeral_take nonzero).1
  · exact quoted_take
  · exact fun nonzero zero => path_take nonzero (boundary.stops zero)
  · exact fun nonzero => (spread_take nonzero).1

theorem not_isWord_of_isQuote {c : Char} (quote : isQuote c = true) : isWord c = false := by
  have quotes : c = '"' ∨ c = '\'' := by simpa [isQuote] using quote
  rcases quotes with rfl | rfl <;> decide

/-- Behind a comparison, a special character or a string there is no word to go on with. -/
theorem Shape.apart (shape : Shape kind text)
    (closed : kind = .comparison ∨ kind = .special ∨ kind = .quoted) (before : Option Char) :
    (behind before text).any isWord = false := by
  cases shape with
  | comparison first => rfl
  | special special => exact not_isWord_of_special special
  | quoted opens free =>
      rw [behind_cons, behind_append]
      exact not_isWord_of_isQuote opens
  | numeral => simp at closed
  | path => simp at closed
  | spread => simp at closed

theorem boundary_drop (found : builtin? before text = some (kind, length)) :
    Boundary (behind before (text.take length)) (text.drop length) := by
  refine builtin?_cases found ?_ ?_ ?_ ?_ ?_ ?_
  · exact fun nonzero => .of_apart ((comparison_take nonzero).apart (by simp) before)
  · exact fun nonzero => .of_apart ((special_take nonzero).apart (by simp) before)
  · exact fun nonzero => .of_stops (numeral_take nonzero).2
  · exact fun nonzero => .of_apart ((quoted_take nonzero).apart (by simp) before)
  · exact fun nonzero _ => boundary_drop_path nonzero
  · exact fun nonzero => .of_stops (spread_take nonzero).2.digit

theorem not_isWord_of_none {c : Char} {rest : List Char}
    (unmatched : builtin? before (c :: rest) = none) : isWord c = false := by
  have zero : pathLength (c :: rest) = 0 :=
    length_of_none unmatched (.path, pathLength (c :: rest)) (by simp [candidates])
  by_contra word
  simp [pathLength, runLength, word] at zero

theorem boundary_of_none {c : Char} {rest : List Char}
    (unmatched : builtin? before (c :: rest) = none) : Boundary (some c) rest :=
  .of_apart (not_isWord_of_none unmatched)

theorem shape_of_mem_split (boundary : Boundary before text) {lexeme : Lexeme}
    (member : lexeme ∈ split before text) : Shape lexeme.kind lexeme.text := by
  induction before, text using split_induction with
  | nil before => simp at member
  | skip before c rest found ih =>
      rw [split_of_none found] at member
      exact ih (boundary_of_none found) member
  | token before text kind length found ih =>
      rw [split_of_some found] at member
      rcases List.mem_cons.mp member with rfl | member
      · exact shape_take boundary found
      · exact ih (boundary_drop found) member

theorem shape_of_mem_lexemes {text : String} {lexeme : Lexeme}
    (member : lexeme ∈ Lexicon.builtin.lexemes text) : Shape lexeme.kind lexeme.text := by
  rw [lexemes_builtin] at member
  exact shape_of_mem_split (.of_apart rfl) member

end

section

variable {text rest : List Char}

theorem Fraction.stops (fraction : Fraction text) : Stops Char.isDigit text := by
  cases fraction with
  | none => exact .nil
  | point run => exact .cons (by decide)

theorem Run.length_ne_zero {test : Char → Bool} (run : Run test text) : text.length ≠ 0 :=
  fun zero => run.nonempty (List.length_eq_zero_iff.mp zero)

theorem Run.runLength {test : Char → Bool} (run : Run test text) :
    runLength test text = text.length := by
  have whole := runLength_append run.all Stops.nil
  rwa [List.append_nil] at whole

theorem Fraction.fractionLength (fraction : Fraction text) : fractionLength text = text.length := by
  cases fraction with
  | none => rfl
  | @point digits run =>
      simp [Lexeme.fractionLength, run.runLength, run.length_ne_zero]

theorem Dotted.stops (dotted : Dotted text) (indexed : Indexed rest) :
    Stops isWord (text ++ rest) := by
  cases dotted with
  | cons run more => exact .cons (by decide)
  | nil =>
      cases indexed with
      | nil => exact .nil
      | cons run more => exact .cons (by decide)

theorem Dotted.dottedLength (dotted : Dotted text) (indexed : Indexed rest) {fuel : Nat}
    (enough : text.length ≤ fuel) : dottedLength fuel (text ++ rest) = text.length := by
  induction dotted generalizing fuel with
  | nil =>
      cases indexed with
      | nil => cases fuel <;> rfl
      | cons run more => cases fuel <;> simp [Lexeme.dottedLength]
  | @cons word others run more ih =>
      obtain ⟨fuel, rfl⟩ := Nat.exists_eq_succ_of_ne_zero (n := fuel) (by
        simp at enough
        omega)
      have count := runLength_append run.all (more.stops indexed)
      have inner := @ih fuel (by simp at enough; omega)
      simp only [List.cons_append, List.append_assoc, Lexeme.dottedLength, count,
        if_neg run.length_ne_zero, List.drop_left, inner, List.length_cons, List.length_append]
      omega

theorem Indexed.indexedLength (indexed : Indexed text) {fuel : Nat} (enough : text.length ≤ fuel) :
    indexedLength fuel text = text.length := by
  induction indexed generalizing fuel with
  | nil => cases fuel <;> rfl
  | @cons digits others run more ih =>
      obtain ⟨fuel, rfl⟩ := Nat.exists_eq_succ_of_ne_zero (n := fuel) (by
        simp at enough
        omega)
      have closes : Stops Char.isDigit (']' :: others) := .cons (by decide)
      have count := runLength_append run.all closes
      have inner := @ih fuel (by simp at enough; omega)
      obtain ⟨last, counted⟩ := Nat.exists_eq_succ_of_ne_zero run.length_ne_zero
      simp only [Lexeme.indexedLength, count, List.drop_left]
      simp only [counted, inner, List.length_cons, List.length_append]
      omega

theorem numeralLength_of_run {digits fraction : List Char} (run : Run Char.isDigit digits)
    (more : Fraction fraction) :
    numeralLength none (digits ++ fraction) = (digits ++ fraction).length := by
  have count := runLength_append run.all more.stops
  unfold numeralLength
  simp only [count, if_neg run.length_ne_zero, List.drop_left, more.fractionLength,
    List.length_append]
  rfl

theorem pathLength_of_run {word dotted indexed : List Char} (run : Run isWord word)
    (points : Dotted dotted) (indices : Indexed indexed) :
    pathLength (word ++ dotted ++ indexed) = (word ++ dotted ++ indexed).length := by
  have count : runLength isWord (word ++ dotted ++ indexed) = word.length := by
    rw [List.append_assoc]
    exact runLength_append run.all (points.stops indices)
  have behindWord : (word ++ dotted ++ indexed).drop word.length = dotted ++ indexed := by
    rw [List.append_assoc, List.drop_left]
  have behindDotted := @Dotted.dottedLength _ _ points indices (dotted ++ indexed).length (by simp)
  unfold pathLength
  simp only [count, if_neg run.length_ne_zero, behindWord, behindDotted, List.drop_left,
    indices.indexedLength (Nat.le_refl _)]
  simp only [List.length_append]

theorem quotedLength_of_free {quote : Char} {inner : List Char} (opens : isQuote quote = true)
    (free : quote ∉ inner) : quotedLength (quote :: (inner ++ [quote])) = inner.length + 2 := by
  have passes : ∀ c ∈ inner, (c != quote) = true := by
    intro c member
    simp only [bne_iff_ne, ne_eq]
    rintro rfl
    exact free member
  have stops : Stops (· != quote) [quote] := .cons (by simp)
  have quotes : (quote = '"' || quote = '\'') = true := opens
  simp [quotedLength, quotes, runLength_append passes stops]

theorem builtin?_of_shape {kind : TokenKind} (shape : Shape kind text) :
    builtin? none text = some (kind, text.length) := by
  cases shape with
  | comparison first => rcases first with rfl | rfl | rfl | rfl <;> rfl
  | special special => exact builtin?_special special rfl
  | @numeral digits fraction run more =>
      have numeral := numeralLength_of_run run more
      obtain ⟨first, others, rfl⟩ := List.exists_cons_of_ne_nil run.nonempty
      have word := isWord_of_isDigit (run.all first (List.mem_cons_self ..))
      obtain ⟨comparison, special, -⟩ := @lengths_of_isWord first (others ++ fraction) word
      unfold builtin? candidates
      simp only [List.cons_append] at numeral ⊢
      rw [comparison, special, numeral]
      rfl
  | @quoted quote inner opens free =>
      obtain ⟨comparison, special, numeral, -⟩ := lengths_of_isQuote opens none (inner ++ [quote])
      unfold builtin? candidates
      rw [comparison, special, numeral, quotedLength_of_free opens free]
      simp
  | @path word dotted indexed named points indices =>
      obtain ⟨first, others, rfl, letter, all⟩ := isName_iff.mp named
      have path := pathLength_of_run ⟨List.cons_ne_nil _ _, all⟩ points indices
      obtain ⟨comparison, special, quoted⟩ :=
        @lengths_of_isWord first (others ++ dotted ++ indexed) (all first (List.mem_cons_self ..))
      have numeral : numeralLength none (first :: (others ++ dotted ++ indexed)) = 0 :=
        numeralLength_of_not_digit letter
      unfold builtin? candidates
      simp only [List.cons_append] at path ⊢
      rw [comparison, special, numeral, quoted, path]
      rfl
  | @spread word run =>
      have numeral : numeralLength none ('.' :: '.' :: '.' :: word) = 0 :=
        numeralLength_of_not_digit (by decide)
      have path : pathLength ('.' :: '.' :: '.' :: word) = 0 := pathLength_of_not_word (by decide)
      have spread : spreadLength ('.' :: '.' :: '.' :: word) = word.length + 3 := by
        simp only [spreadLength, run.runLength, if_neg run.length_ne_zero]
      unfold builtin? candidates
      rw [numeral, path, spread]
      rfl

theorem split_of_shape {kind : TokenKind} (shape : Shape kind text) :
    split none text = [⟨kind, text⟩] := by
  rw [split_of_some (builtin?_of_shape shape), List.take_length, List.drop_length]
  rfl

theorem Tidy.of_shape {kind : TokenKind} (shape : Shape kind text) : Tidy none text := by
  refine .token (builtin?_of_shape shape) ?_
  rw [List.drop_length]
  exact .nil

/-- A token is the first one of a text that goes on behind it with no token. -/
theorem split_shape {kind : TokenKind} (shape : Shape kind text)
    (seam : ∀ c, rest.head? = some c → Seam c) (other : rest.head? = some ']' → text ≠ ['[']) :
    split none (text ++ rest) = ⟨kind, text⟩ :: split none rest := by
  cases rest with
  | nil => simpa using split_of_shape shape
  | cons c rest =>
      have shuts : c = ']' → Shuts (texts (split none text)) := by
        rintro rfl front back equal
        rw [split_of_shape shape] at equal
        have opened : "[" ∈ [String.ofList text] := by
          rw [show [String.ofList text] = _ from equal]
          simp
        have same := congrArg String.toList (List.mem_singleton.mp opened)
        exact absurd (same.trans String.toList_ofList).symm (other rfl)
      rw [split_append (.of_shape shape) (seam c rfl) rest shuts, split_of_shape shape,
        split_of_not_digit (seam c rfl).digit]
      rfl

theorem split_intercalate {lexemes : List Lexeme}
    (shapes : ∀ lexeme ∈ lexemes, Shape lexeme.kind lexeme.text) :
    split none ([' '].intercalate (lexemes.map Lexeme.text)) = lexemes := by
  induction lexemes with
  | nil => rfl
  | cons lexeme others ih =>
      have shape := shapes lexeme (List.mem_cons_self ..)
      have more := ih fun other member => shapes other (List.mem_cons_of_mem _ member)
      cases others with
      | nil => simpa using split_of_shape shape
      | cons next others =>
          simp only [List.map_cons, List.intercalate_cons_cons] at more ⊢
          have chars : ∀ tail, lexeme.text ++ [' '] ++ tail = lexeme.text ++ ' ' :: tail := by simp
          have seam : ∀ tail c, (' ' :: tail).head? = some c → Seam c := by
            rintro tail _ ⟨⟩
            exact Seam.space
          rw [chars, split_shape shape (seam _) (by simp), split_space, more]

end

end Reckon.Lexeme
