import Reckon.Proofs.Lexicon.Shape
import Reckon.Proofs.Pattern.Greedy

/-!
The built-in tokens as a regular expression.  At each place of a text the preferred match of the
expression is the built-in token that starts there.
-/

namespace Reckon

open Text (Spot)

namespace Unicode.CharSet

theorem contains_singleton {c d : Char} : (singleton c).contains d = decide (d = c) := by
  change (if d.toNat < c.toNat then false else if d.toNat ≤ c.toNat then true else false) = _
  by_cases same : d = c
  · simp [same]
  · have codes : d.toNat ≠ c.toNat := fun equal => same (Char.toNat_inj.mp equal)
    rw [decide_eq_false same]
    split
    · rfl
    · rw [if_neg (by omega)]

theorem toNat_le_lastCode (c : Char) : c.toNat ≤ lastCode := by
  have valid : c.toNat < 0xd800 ∨ (0xdfff < c.toNat ∧ c.toNat < 0x110000) := c.valid
  have code : lastCode = 0x10ffff := rfl
  omega

theorem contains_complement_singleton (c d : Char) :
    (singleton c).complement.contains d = decide (d ≠ c) := by
  have most := toNat_le_lastCode d
  have same : d = c ↔ d.toNat = c.toNat := Char.toNat_inj.symm
  have behind : within (gaps (c.toNat + 1) []) d.toNat = true ↔ c.toNat < d.toNat := by
    unfold gaps
    split
    · simp only [within]
      split_ifs <;> simp <;> omega
    · simp only [within]
      simp
      omega
  change within (gaps 0 [(c.toNat, c.toNat)]) d.toNat = _
  rw [Bool.eq_iff_iff, decide_eq_true_iff, ne_eq, same, gaps]
  split
  · rw [within]
    split_ifs
    · omega
    · simp
      omega
    · rw [behind]
      omega
  · rw [behind]
    omega

end Unicode.CharSet

namespace Lexicon

open Pattern Node Lexeme
open Unicode (CharSet)

/-! ## Sets of characters -/

def symbol (c : Char) : CharSet := .singleton c

def others (c : Char) : CharSet := (CharSet.singleton c).complement

def digits : CharSet := ⟨[(0x30, 0x39)]⟩

def words : CharSet := ⟨[(0x30, 0x39), (0x41, 0x5a), (0x5f, 0x5f), (0x61, 0x7a)]⟩

def specials : CharSet :=
  ⟨[(0x21, 0x21), (0x25, 0x25), (0x28, 0x2d), (0x2f, 0x2f), (0x3a, 0x3a), (0x3c, 0x3e),
    (0x5b, 0x5b), (0x5d, 0x5e), (0x7b, 0x7b), (0x7d, 0x7d)]⟩

def angles : CharSet := ⟨[(0x3c, 0x3c), (0x3e, 0x3e)]⟩

theorem contains_eq_of_ascii {set : CharSet} {test : Char → Bool}
    (ascii : ∀ code < 128, set.contains (Char.ofNat code) = test (Char.ofNat code))
    (set_le : ∀ c, set.contains c = true → c.toNat < 128)
    (test_le : ∀ c, test c = true → c.toNat < 128) : set.contains = test := by
  funext c
  by_cases small : c.toNat < 128
  · have same := ascii c.toNat small
    rwa [Char.ofNat_toNat] at same
  · rw [Bool.eq_false_iff.mpr (mt (set_le c) small), Bool.eq_false_iff.mpr (mt (test_le c) small)]

theorem lt_of_contains {set : CharSet} (small : set.isAscii = true) {c : Char}
    (holds : set.contains c = true) : c.toNat < 128 := by
  obtain ⟨ranges⟩ := set
  simp only [CharSet.isAscii, List.all_eq_true, decide_eq_true_eq] at small
  simp only [CharSet.contains] at holds
  induction ranges with
  | nil => cases holds
  | cons range rest ih =>
      obtain ⟨first, others⟩ := List.forall_mem_cons.mp small
      unfold CharSet.within at holds
      split at holds
      · cases holds
      · split at holds
        · omega
        · exact ih holds others

theorem contains_digits : digits.contains = Char.isDigit := by
  refine contains_eq_of_ascii (by decide) (fun c => lt_of_contains rfl) fun c digit => ?_
  have range := range_of_isDigit digit
  omega

theorem contains_words : words.contains = isWord := by
  refine contains_eq_of_ascii (by decide) (fun c => lt_of_contains rfl) fun c word => ?_
  have range := range_of_isWord word
  omega

theorem contains_specials : specials.contains = isSpecial := by
  refine contains_eq_of_ascii (by decide) (fun c => lt_of_contains rfl) fun c special => ?_
  have listed : "-+*/():,<>!=%^[]\x7b\x7d".toList.all (·.toNat < 128) = true := by decide
  exact of_decide_eq_true (List.all_eq_true.mp listed c (List.contains_iff_mem.mp special))

theorem contains_angles : angles.contains = fun c => c == '<' || c == '>' := by
  refine contains_eq_of_ascii (by decide) (fun c => lt_of_contains rfl) fun c angle => ?_
  rcases Bool.or_eq_true_iff.mp angle with less | greater
  · exact eq_of_beq less ▸ by decide
  · exact eq_of_beq greater ▸ by decide

theorem contains_symbol (d : Char) : (symbol d).contains = (· == d) :=
  funext fun _ => CharSet.contains_singleton

theorem contains_others (quote : Char) : (others quote).contains = (· != quote) := by
  funext c
  rw [others, CharSet.contains_complement_singleton]
  by_cases same : c = quote <;> simp [same]

/-! ## Lengths of preferred matches -/

/-- The place where a token of a length ends.  There is no empty token. -/
def endAt? (spot : Spot) (length : Nat) : Option Spot :=
  if length = 0 then none else some (spot.advance length)

/-- The preferred match of a node is as long as a function of the text behind its start says. -/
def Measures (node : Node) (length : List Char → Nat) : Prop :=
  ∀ spot, node.firstEnd? spot = endAt? spot (length spot.rest)

theorem endAt?_succ (spot : Spot) (length : Nat) :
    endAt? spot (length + 1) = some (spot.advance (length + 1)) := rfl

theorem endAt?_of_ne_zero {spot : Spot} {length : Nat} (nonzero : length ≠ 0) :
    endAt? spot length = some (spot.advance length) := if_neg nonzero

section

variable {node : Node} {length : List Char → Nat} {test : Char → Bool} {chars : CharSet}

theorem Measures.seq_empty (measures : Measures node length) :
    Measures (seq node .empty) length := by
  intro spot
  rw [firstEnd?, ends_seq_empty]
  exact measures spot

/-- The length of a character that passes a test and of what follows it. -/
def withFirst (test : Char → Bool) (length : List Char → Nat) : List Char → Nat
  | c :: rest => if test c && length rest != 0 then length rest + 1 else 0
  | [] => 0

theorem withFirst_self (d : Char) (rest : List Char) : withFirst (· == d) length (d :: rest) =
    if length rest = 0 then 0 else length rest + 1 := by
  by_cases zero : length rest = 0 <;> simp [withFirst, zero]

theorem withFirst_other {d : Char} {text : List Char} (other : text.head? ≠ some d) :
    withFirst (· == d) length text = 0 := by
  cases text with
  | nil => rfl
  | cons c rest =>
      have apart : c ≠ d := fun same => other (congrArg some same)
      simp [withFirst, apart]

theorem Measures.set_seq (measures : Measures node length) (holds : chars.contains = test) :
    Measures (seq (set chars) node) (withFirst test length) := by
  intro spot
  cases here : spot.rest with
  | nil => rw [firstEnd?_set_seq_of_nil here]; rfl
  | cons c rest =>
      rw [firstEnd?_set_seq_of_cons here, holds, withFirst]
      by_cases passes : test c = true
      · rw [if_pos passes, measures, Spot.rest_pass here, passes, Bool.true_and]
        by_cases zero : length rest = 0
        · simp [zero, endAt?]
        · rw [endAt?_of_ne_zero zero, if_pos (by simpa using zero), endAt?_succ,
            Spot.advance_succ here]
      · simp [passes, endAt?]

def headLength (test : Char → Bool) : List Char → Nat
  | c :: _ => if test c then 1 else 0
  | [] => 0

theorem measures_set (holds : chars.contains = test) :
    Measures (set chars) (headLength test) := by
  intro spot
  cases here : spot.rest with
  | nil => rw [firstEnd?, ends_set_nil here]; rfl
  | cons c rest =>
      rw [firstEnd?, ends_set here, holds]
      by_cases passes : test c = true
      · simp [passes, headLength, endAt?, Spot.advance, here]
      · simp [passes, headLength, endAt?]

theorem measures_run (holds : chars.contains = test) :
    Measures (repeated 1 none true (set chars)) (runLength test) := by
  intro spot
  rw [firstEnd?_some_set, runOf, holds]
  rfl

/-- The length of a run of characters, not too short, and of the one character that ends it. -/
def closedLength (least : Nat) (test : Char → Bool) (stop : Char) (text : List Char) : Nat :=
  if least ≤ runLength test text ∧ (text.drop (runLength test text)).head? = some stop then
    runLength test text + 1
  else 0

theorem measures_closed {least : Nat} {stop : Char} (holds : chars.contains = test)
    (apart : test stop = false)
    (found : ∀ spot, (repeated least none true (set chars)).firstEnd? spot =
      if least ≤ runOf chars spot then some (spot.advance (runOf chars spot)) else none) :
    Measures (seq (repeated least none true (set chars)) (seq (set (symbol stop)) .empty))
      (closedLength least test stop) := by
  intro spot
  have run : runOf chars spot = runLength test spot.rest := by
    rw [runOf, holds]
    rfl
  have first := found spot
  unfold closedLength
  split at first
  · rename_i enough
    have other : ∀ c, chars.contains c = true → (symbol stop).contains c = false := by
      intro c inside
      rw [contains_symbol]
      rw [holds] at inside
      by_contra same
      have equal : c = stop := by simpa using same
      rw [equal, apart] at inside
      cases inside
    rw [firstEnd?_run_seq .empty other first, run,
      (measures_set (contains_symbol stop)).seq_empty, Spot.rest_advance]
    cases behind : spot.rest.drop (runLength test spot.rest) with
    | nil => simp [headLength, endAt?]
    | cons c rest =>
        by_cases same : c = stop
        · rw [if_pos ⟨run ▸ enough, by rw [same]; rfl⟩, endAt?_succ, Spot.advance_add]
          simp [headLength, same, endAt?]
        · simp [headLength, same, endAt?]
  · rename_i few
    rw [firstEnd?_seq_of_none first, if_neg (fun both => few (run ▸ both.1))]
    rfl

/-- One piece after another, as long as there is one, is what the preferred matches climb. -/
theorem Measures.climbs {total : Nat → List Char → Nat} (measures : Measures node length)
    (empty : length [] = 0) (nothing : total 0 [] = 0)
    (step : ∀ fuel text, total (fuel + 1) text =
      if length text = 0 then 0 else length text + total fuel (text.drop (length text)))
    {fuel : Nat} {spot : Spot} (enough : spot.rest.length ≤ fuel) :
    Climbs node.ends spot (spot.advance (total fuel spot.rest)) := by
  have stop {spot : Spot} (zero : length spot.rest = 0) : Climbs node.ends spot spot := by
    have measured := measures spot
    rw [zero] at measured
    exact .stop (firstEnd?_eq_none_iff.mp measured)
  induction fuel generalizing spot with
  | zero =>
      have here := List.length_eq_zero_iff.mp (Nat.le_zero.mp enough)
      rw [here, nothing]
      exact stop (by rw [here, empty])
  | succ fuel ih =>
      rw [step]
      split
      · exact stop ‹_›
      · rename_i nonzero
        have found := measures spot
        rw [endAt?_of_ne_zero nonzero] at found
        obtain ⟨others, here⟩ := List.head?_eq_some_iff.mp found
        rw [Spot.advance_add]
        refine .step here ?_
        have more := @ih (spot.advance (length spot.rest))
        rw [Spot.rest_advance] at more
        refine more ?_
        have nonempty : spot.rest ≠ [] := by
          intro nil
          rw [nil] at nonzero
          exact nonzero empty
        have positive := List.length_pos_iff.mpr nonempty
        rw [List.length_drop]
        omega

end

/-! ## The kinds of tokens -/

def digitRun : Node := .repeated 1 none true (.set digits)

def wordRun : Node := .repeated 1 none true (.set words)

/-- A character and, after it, another one. -/
def pair (first : CharSet) (second : Char) : Node :=
  .seq (.set first) (.seq (.set (symbol second)) .empty)

def pointed (run : Node) : Node := .seq (.set (symbol '.')) (.seq run .empty)

def index : Node :=
  .seq (.set (symbol '[')) (.seq digitRun (.seq (.set (symbol ']')) .empty))

def comparisonNodes : List Node := [pair angles '=', pair (symbol '=') '=', pair (symbol '!') '=']

def specialNode : Node := .set specials

def numeralNode : Node :=
  .seq (.look (.word .wordBoundary false))
    (.seq digitRun (.seq (.repeated 0 (some 1) true (pointed digitRun)) .empty))

def quotedNode (quote : Char) : Node :=
  .seq (.set (symbol quote))
    (.seq (.repeated 0 none true (.set (others quote))) (.seq (.set (symbol quote)) .empty))

def pathNode : Node :=
  .seq wordRun (.seq (.repeated 0 none true (pointed wordRun))
    (.seq (.repeated 0 none true index) .empty))

def spreadNode : Node :=
  .seq (.set (symbol '.')) (.seq (.set (symbol '.')) (pointed wordRun))

theorem measures_digitRun : Measures digitRun (runLength Char.isDigit) :=
  measures_run contains_digits

theorem measures_wordRun : Measures wordRun (runLength isWord) :=
  measures_run contains_words

theorem measures_pair {first : CharSet} {test : Char → Bool} (holds : first.contains = test)
    (second : Char) :
    Measures (pair first second) (withFirst test (headLength (· == second))) :=
  ((measures_set (contains_symbol second)).seq_empty).set_seq holds

theorem measures_comparison (spot : Spot) :
    comparisonNodes.findSome? (·.firstEnd? spot) = endAt? spot (comparisonLength spot.rest) := by
  simp only [comparisonNodes, List.findSome?, measures_pair contains_angles '=' spot,
    measures_pair (contains_symbol _) '=' spot]
  match spot.rest with
  | [] => rfl
  | [c] => simp [withFirst, headLength, comparisonLength, endAt?]
  | c :: d :: rest =>
    by_cases equal : d = '='
    · subst equal
      simp only [withFirst, headLength, comparisonLength, endAt?]
      by_cases less : c = '<'
      · simp [less]
      by_cases greater : c = '>'
      · simp [greater]
      by_cases same : c = '='
      · simp [same]
      by_cases bang : c = '!'
      · simp [bang]
      · simp [less, greater, same, bang]
    · have zero : comparisonLength (c :: d :: rest) = 0 := by
        unfold comparisonLength
        split
        · rename_i found
          simp_all
        · rfl
      simp [withFirst, headLength, endAt?, equal, zero]

theorem measures_special : Measures specialNode specialLength := by
  intro spot
  rw [specialNode, measures_set contains_specials]
  cases spot.rest <;> rfl

theorem measures_pointed {run : Node} {test : Char → Bool}
    (measures : Measures run (runLength test)) :
    Measures (pointed run) (withFirst (· == '.') (runLength test)) :=
  measures.seq_empty.set_seq (contains_symbol '.')

theorem fractionLength_eq (text : List Char) :
    fractionLength text = withFirst (· == '.') (runLength Char.isDigit) text := by
  unfold fractionLength
  split
  · exact (withFirst_self '.' _).symm
  · rename_i other
    refine (withFirst_other fun found => ?_).symm
    obtain ⟨rest, rfl⟩ := List.head?_eq_some_iff.mp found
    exact other rest rfl

/-- The length of digits and an optional fraction, whatever comes before. -/
def figuresLength (text : List Char) : Nat :=
  let digits := runLength Char.isDigit text
  if digits = 0 then 0 else digits + fractionLength (text.drop digits)

theorem measures_figures :
    Measures (seq digitRun (seq (.repeated 0 (some 1) true (pointed digitRun)) .empty))
      figuresLength := by
  intro spot
  have first := measures_digitRun spot
  unfold figuresLength
  dsimp only
  split
  · rename_i zero
    rw [zero] at first
    exact firstEnd?_seq_of_none first _
  · rename_i nonzero
    rw [endAt?_of_ne_zero nonzero] at first
    rw [endAt?_of_ne_zero (by omega), Spot.advance_add]
    refine firstEnd?_seq_of_some first ?_
    rw [firstEnd?, ends_seq_empty]
    refine (firstEnd?_optional _ _).trans ?_
    rw [measures_pointed measures_digitRun, Spot.rest_advance, ← fractionLength_eq]
    by_cases zero : fractionLength (spot.rest.drop (runLength Char.isDigit spot.rest)) = 0
    · rw [zero]
      rfl
    · rw [endAt?_of_ne_zero zero]
      rfl

theorem holds_wordBoundary (spot : Spot) : Look.holds (.word .wordBoundary false) spot =
    (spot.before.any isWord != spot.rest.head?.any isWord) := rfl

/-- Digits are word characters, so a boundary before them is one behind no word character. -/
theorem firstEnd?_numeral (spot : Spot) :
    numeralNode.firstEnd? spot = endAt? spot (numeralLength spot.before spot.rest) := by
  have whole : numeralNode.firstEnd? spot =
      if Look.holds (.word .wordBoundary false) spot then endAt? spot (figuresLength spot.rest)
      else none := by
    rw [numeralNode, firstEnd?_seq, ends]
    split
    · exact (List.findSome?_singleton ..).trans (measures_figures spot)
    · rfl
  have digits (nonzero : runLength Char.isDigit spot.rest ≠ 0) :
      spot.rest.head?.any isWord = true := by
    cases here : spot.rest with
    | nil => rw [here] at nonzero; exact absurd rfl nonzero
    | cons c rest =>
        by_contra other
        refine nonzero ?_
        have digit : c.isDigit = false := by
          by_contra digit
          exact other (isWord_of_isDigit (Bool.not_eq_false _ ▸ digit))
        simp [runLength, here, digit]
  rw [whole, holds_wordBoundary, numeralLength]
  by_cases zero : runLength Char.isDigit spot.rest = 0
  · have figureless : figuresLength spot.rest = 0 := by simp [figuresLength, zero]
    simp [figureless, zero, endAt?]
  · rw [digits zero]
    cases before : spot.before.any isWord
    · rfl
    · rfl

theorem measures_quoted (quote : Char) : Measures (quotedNode quote)
    (withFirst (· == quote) (closedLength 0 (· != quote) quote)) := by
  refine (measures_closed (contains_others quote) (by simp) fun spot => ?_).set_seq
    (contains_symbol quote)
  rw [if_pos (Nat.zero_le _)]
  exact firstEnd?_many_set

/-- A text goes on with a quote behind the characters that are none, if it has one. -/
theorem head?_drop_runLength (quote : Char) (text : List Char) :
    (text.drop (runLength (· != quote) text)).head? = some quote ↔ quote ∈ text := by
  rw [drop_runLength]
  induction text with
  | nil => simp
  | cons c rest ih =>
      by_cases same : c = quote
      · simp [same]
      · simp [same, Ne.symm same, ih]

theorem quotedLength_cons {quote : Char} (quoted : isQuote quote = true) (rest : List Char) :
    quotedLength (quote :: rest) =
      withFirst (· == quote) (closedLength 0 (· != quote) quote) (quote :: rest) := by
  have opens : (decide (quote = '"') || decide (quote = '\'')) = true := quoted
  have closing : closedLength 0 (· != quote) quote rest =
      if quote ∈ rest then runLength (· != quote) rest + 1 else 0 := by
    simp only [closedLength, head?_drop_runLength, Nat.zero_le, true_and]
  rw [withFirst_self, closing, quotedLength, opens, Bool.true_and]
  by_cases closed : quote ∈ rest <;> simp [closed]

theorem firstEnd?_quoted (spot : Spot) :
    ((quotedNode '"').firstEnd? spot).or ((quotedNode '\'').firstEnd? spot) =
      endAt? spot (quotedLength spot.rest) := by
  rw [measures_quoted, measures_quoted]
  cases spot.rest with
  | nil => rfl
  | cons c rest =>
      by_cases double : c = '"'
      · rw [double, quotedLength_cons (by decide), withFirst_other (d := '\'') (by simp)]
        exact Option.or_none
      by_cases single : c = '\''
      · rw [single, quotedLength_cons (by decide), withFirst_other (d := '"') (by simp)]
        exact Option.none_or
      · rw [withFirst_other (by simpa using double), withFirst_other (by simpa using single)]
        simp [quotedLength, double, single, endAt?]

theorem measures_index : Measures index
    (withFirst (· == '[') (closedLength 1 Char.isDigit ']')) := by
  refine (measures_closed contains_digits (by decide) fun spot => ?_).set_seq (contains_symbol '[')
  rw [firstEnd?_some_set]
  by_cases zero : runOf digits spot = 0
  · simp [zero]
  · rw [if_neg zero, if_pos (Nat.one_le_iff_ne_zero.mpr zero)]

theorem dottedLength_succ (fuel : Nat) (text : List Char) :
    let length := withFirst (· == '.') (runLength isWord) text
    dottedLength (fuel + 1) text =
      if length = 0 then 0 else length + dottedLength fuel (text.drop length) := by
  cases text with
  | nil => rfl
  | cons c rest =>
      by_cases point : c = '.'
      · subst point
        dsimp only
        rw [withFirst_self, dottedLength]
        by_cases zero : runLength isWord rest = 0
        · simp [zero]
        · simp [zero, Nat.add_comm 1]
      · dsimp only
        rw [withFirst_other (by simpa using point)]
        simp [dottedLength, point]

theorem indexedLength_succ (fuel : Nat) (text : List Char) :
    let length := withFirst (· == '[') (closedLength 1 Char.isDigit ']') text
    indexedLength (fuel + 1) text =
      if length = 0 then 0 else length + indexedLength fuel (text.drop length) := by
  cases text with
  | nil => rfl
  | cons c rest =>
      by_cases opens : c = '['
      · subst opens
        dsimp only
        rw [withFirst_self, indexedLength, closedLength]
        by_cases both : 1 ≤ runLength Char.isDigit rest ∧
            (rest.drop (runLength Char.isDigit rest)).head? = some ']'
        · rw [if_pos both]
          obtain ⟨positive, closing⟩ := both
          obtain ⟨count, length⟩ := Nat.exists_eq_add_of_le' positive
          obtain ⟨last, behind⟩ := List.head?_eq_some_iff.mp closing
          rw [length] at behind ⊢
          have after : rest.drop (count + 2) = last := by
            rw [← List.tail_drop, behind, List.tail_cons]
          simp [behind, after]
        · rw [if_neg both]
          split
          · rename_i count last length behind
            exact absurd ⟨by omega, by rw [behind]; rfl⟩ both
          · rfl
      · dsimp only
        rw [withFirst_other (by simpa using opens)]
        simp [indexedLength, opens]

theorem firstEnd?_path (spot : Spot) :
    pathNode.firstEnd? spot = endAt? spot (pathLength spot.rest) := by
  have first := measures_wordRun spot
  unfold pathLength
  dsimp only
  split
  · rename_i zero
    rw [zero] at first
    exact firstEnd?_seq_of_none first _
  · rename_i nonzero
    rw [endAt?_of_ne_zero nonzero] at first
    rw [endAt?_of_ne_zero (by omega), Spot.advance_add, Spot.advance_add]
    refine firstEnd?_seq_of_some first ?_
    generalize middle : spot.advance (runLength isWord spot.rest) = word
    have behind : spot.rest.drop (runLength isWord spot.rest) = word.rest := by
      rw [← middle, Spot.rest_advance]
    rw [behind]
    have dotted := (measures_pointed measures_wordRun).climbs rfl rfl dottedLength_succ
      (Nat.le_refl word.rest.length)
    refine firstEnd?_seq_of_some (firstEnd?_many (advances_seq (advances_set _) _) dotted) ?_
    rw [firstEnd?, ends_seq_empty, ← Spot.rest_advance]
    exact firstEnd?_many (advances_seq (advances_set _) _)
      (measures_index.climbs rfl rfl indexedLength_succ (Nat.le_refl _))

theorem spreadLength_eq (text : List Char) : spreadLength text =
    withFirst (· == '.') (withFirst (· == '.') (withFirst (· == '.') (runLength isWord))) text := by
  unfold spreadLength
  split
  · rename_i rest
    rw [withFirst_self, withFirst_self, withFirst_self]
    by_cases zero : runLength isWord rest = 0 <;> simp [zero]
  · rename_i other
    have point {length : List Char → Nat} {text : List Char}
        (nonzero : withFirst (· == '.') length text ≠ 0) :
        ∃ rest, text = '.' :: rest ∧ length rest ≠ 0 := by
      have head := not_imp_comm.mp withFirst_other nonzero
      obtain ⟨rest, rfl⟩ := List.head?_eq_some_iff.mp head
      refine ⟨rest, rfl, fun zero => nonzero ?_⟩
      rw [withFirst_self, if_pos zero]
    by_contra nonzero
    obtain ⟨second, rfl, first⟩ := point (Ne.symm nonzero)
    obtain ⟨third, rfl, behind⟩ := point first
    obtain ⟨last, rfl, -⟩ := point behind
    exact other last rfl

theorem measures_spread : Measures spreadNode spreadLength := by
  intro spot
  have measures := ((measures_pointed measures_wordRun).set_seq (contains_symbol '.')).set_seq
    (contains_symbol '.') spot
  rw [spreadLength_eq]
  exact measures

/-! ## The built-in tokens -/

/-- The built-in tokens but the last kind, in the order in which they are tried. -/
def earlierNodes : List Node :=
  comparisonNodes ++ [specialNode, numeralNode, quotedNode '"', quotedNode '\'', pathNode]

/-- The regular expression of the built-in tokens finds the built-in token that starts at a
place. -/
theorem firstEnd?_builtin (spot : Spot) :
    (earlierNodes ++ [spreadNode]).findSome? (·.firstEnd? spot) =
      (builtin? spot.before spot.rest).map fun found => spot.advance found.2 := by
  have node (first : Node) (others : List Node) : (first :: others).findSome? (·.firstEnd? spot) =
      (first.firstEnd? spot).or (others.findSome? (·.firstEnd? spot)) := by
    rw [List.findSome?_cons]
    cases first.firstEnd? spot <;> rfl
  have candidate (kind : TokenKind) (length : Nat) (others : List (TokenKind × Nat)) :
      (((kind, length) :: others).find? (·.2 != 0)).map (fun found => spot.advance found.2) =
        (endAt? spot length).or
          ((others.find? (·.2 != 0)).map fun found => spot.advance found.2) := by
    by_cases zero : length = 0 <;> simp [zero, endAt?]
  rw [earlierNodes, List.append_assoc, List.findSome?_append, measures_comparison]
  simp only [List.cons_append, List.nil_append, node, builtin?, candidates, candidate]
  rw [measures_special, firstEnd?_numeral, firstEnd?_path, measures_spread, ← firstEnd?_quoted,
    Option.or_assoc]
  rfl

end Lexicon

end Reckon
