import Reckon.Proofs.Lexicon.Shape

/-!
Names joined by points.  By themselves they are one token; the mark of a spread takes only the first
of them, and the others are a token of their own behind the point.
-/

namespace Reckon.Lexeme

section

variable {names : List String} (named : ∀ name ∈ names, isName name.toList = true)

include named

theorem dotted_of_names : Dotted (names.flatMap fun name => '.' :: name.toList) := by
  induction names with
  | nil => exact .nil
  | cons name names ih =>
      obtain ⟨here, others⟩ := List.forall_mem_cons.mp named
      obtain ⟨first, more, equal, -, word⟩ := isName_iff.mp here
      rw [List.flatMap_cons, List.cons_append]
      exact .cons ⟨equal ▸ List.cons_ne_nil first more, equal ▸ word⟩ (ih others)

omit named in
theorem toList_joined (first : String) (names : List String) :
    (".".intercalate (first :: names)).toList =
      first.toList ++ names.flatMap fun name => '.' :: name.toList := by
  induction names generalizing first with
  | nil => simp
  | cons name names ih =>
      rw [String.intercalate_cons_cons, String.toList_append, String.toList_append, ih name]
      simp

theorem shape_joined {first : String} (starts : isName first.toList = true) :
    Shape .path (".".intercalate (first :: names)).toList := by
  have path := Shape.path starts (dotted_of_names named) .nil
  rwa [List.append_nil, ← toList_joined] at path

end

theorem Shape.behind_name {name : String} (named : isName name.toList = true) {text : List Char}
    (shape : Shape .path text) : Shape .path (name.toList ++ '.' :: text) := by
  cases shape with
  | @path word dotted indexed starts points indices =>
      obtain ⟨first, more, equal, -, words⟩ := isName_iff.mp starts
      have run : Run isWord word := ⟨equal ▸ List.cons_ne_nil first more, equal ▸ words⟩
      have path := Shape.path named (.cons run points) indices
      simpa using path

variable {before : Option Char} {word rest : List Char}

theorem builtin?_spread (run : Run isWord word) (stops : Stops isWord rest) :
    builtin? before ('.' :: '.' :: '.' :: (word ++ rest)) = some (.spread, word.length + 3) := by
  have numeral : numeralLength before ('.' :: '.' :: '.' :: (word ++ rest)) = 0 :=
    numeralLength_of_not_digit (by decide)
  have path : pathLength ('.' :: '.' :: '.' :: (word ++ rest)) = 0 :=
    pathLength_of_not_word (by decide)
  have spread : spreadLength ('.' :: '.' :: '.' :: (word ++ rest)) = word.length + 3 := by
    simp only [spreadLength, runLength_append run.all stops, if_neg run.length_ne_zero]
  unfold builtin? candidates
  rw [numeral, path, spread]
  rfl

theorem builtin?_point (other : rest.head? ≠ some '.') : builtin? before ('.' :: rest) = none := by
  have comparison : comparisonLength ('.' :: rest) = 0 :=
    comparisonLength_of_ne ⟨by decide, by decide, by decide, by decide⟩
  have numeral : numeralLength before ('.' :: rest) = 0 := numeralLength_of_not_digit (by decide)
  have path : pathLength ('.' :: rest) = 0 := pathLength_of_not_word (by decide)
  have spread : spreadLength ('.' :: rest) = 0 := by
    apply spreadLength_of_ne
    rintro word ⟨⟩
    exact other rfl
  unfold builtin? candidates
  rw [comparison, numeral, path, spread]
  rfl

/-- A spread token ends before a point, which is left out. -/
theorem split_spread_point (run : Run isWord word) (other : rest.head? ≠ some '.') :
    split before ('.' :: '.' :: '.' :: (word ++ '.' :: rest)) =
      ⟨.spread, '.' :: '.' :: '.' :: word⟩ :: split none rest := by
  have stops : Stops isWord ('.' :: rest) := .cons (by decide)
  have count : word.length + 3 = ('.' :: '.' :: '.' :: word).length := rfl
  have front : '.' :: '.' :: '.' :: (word ++ '.' :: rest) =
      ('.' :: '.' :: '.' :: word) ++ '.' :: rest := rfl
  rw [split_of_some (builtin?_spread run stops), count, front, List.take_left, List.drop_left,
    split_of_none (builtin?_point other)]
  exact congrArg _ (split_of_apart (by decide))

/-- In braces the mark of a spread and names joined by points are two tokens: the mark with the
first name, and the other names. -/
theorem tokenTexts_spread_joined {first second : String} {names : List String}
    (named : ∀ name ∈ first :: second :: names, isName name.toList = true) :
    tokenTexts ("\x7b ..." ++ ".".intercalate (first :: second :: names) ++ " \x7d").toList =
      ["\x7b", "..." ++ first, ".".intercalate (second :: names), "\x7d"] := by
  obtain ⟨starts, others⟩ := List.forall_mem_cons.mp named
  obtain ⟨next, others⟩ := List.forall_mem_cons.mp others
  obtain ⟨_, _, equal, -, word⟩ := isName_iff.mp starts
  have run : Run isWord first.toList := ⟨equal ▸ List.cons_ne_nil _ _, equal ▸ word⟩
  have shape := shape_joined others next
  have chars : ("\x7b ..." ++ ".".intercalate (first :: second :: names) ++ " \x7d").toList =
      '\x7b' :: ' ' :: '.' :: '.' :: '.' :: (first.toList ++ '.' ::
        ((".".intercalate (second :: names)).toList ++ [' ', '\x7d'])) := by
    rw [String.intercalate_cons_cons]
    simp
  have other : ((".".intercalate (second :: names)).toList ++ [' ', '\x7d']).head? ≠ some '.' := by
    obtain ⟨c, more, front, -, letters⟩ := isName_iff.mp next
    have point : c ≠ '.' := ne_of_isWord (letters c List.mem_cons_self) (by decide)
    simp [front, point]
  have spread := @split_spread_point none first.toList _ run other
  have seam : ∀ c, [' ', '\x7d'].head? = some c → Seam c := by
    rintro _ ⟨⟩
    exact Seam.space
  rw [split_shape shape seam (by simp)] at spread
  rw [chars, tokenTexts_special rfl rfl, tokenTexts_space, tokenTexts, spread]
  have marked : String.ofList ('.' :: '.' :: '.' :: first.toList) = "..." ++ first := by
    rw [← String.toList_inj]
    simp
  have last : tokenTexts [' ', '\x7d'] = ["\x7d"] := rfl
  change _ :: String.ofList ('.' :: '.' :: '.' :: first.toList) ::
    String.ofList (".".intercalate (second :: names)).toList :: tokenTexts [' ', '\x7d'] = _
  rw [marked, String.ofList_toList, last]

end Reckon.Lexeme
