import Reckon.Standard.TextFunctions
import Reckon.Proofs.Pattern.Fronts

/-!
The flags of the test against a regular expression.  They are read as a set.  The flag for a match
that starts where the text does puts a group around the pattern as it is written, so that it only
anchors where the group holds the whole pattern.
-/

namespace Reckon.Standard

open Pattern (Node Flags Switching TooLarge Unopened EndsInComment anchored anchoredText flagsOf
  switchLetters switchText unlimited?)
open Text (Spot)

def flagLetters : List Char := ['i', 'm', 's', 'g', 'u', 'y']

structure Spells (letters : List Char) (flags : PatternFlags) : Prop where
  once : flags.inner.Nodup
  inner : ∀ c, c ∈ flags.inner ↔ c ∈ letters ∧ c ∈ switchLetters
  sticky : flags.sticky = letters.contains 'y'

namespace Spells

variable {letters : List Char} {flags : PatternFlags}

theorem known (spells : Spells letters flags) : ∀ c ∈ flags.inner, c ∈ switchLetters :=
  fun c member => ((spells.inner c).mp member).2

theorem switch (spells : Spells letters flags) {c : Char} (known : c ∈ switchLetters) :
    Spells (letters ++ [c])
      (if flags.inner.contains c then flags else { flags with inner := flags.inner ++ [c] }) := by
  have other : c ≠ 'y' := by
    rintro rfl
    exact absurd known (by decide)
  have sticky : flags.sticky = (letters ++ [c]).contains 'y' := by
    rw [spells.sticky]
    simp [Ne.symm other]
  split
  · rename_i written
    have before := (spells.inner c).mp (List.contains_iff_mem.mp written)
    refine ⟨spells.once, fun d => ?_, sticky⟩
    rw [spells.inner, List.mem_append, List.mem_singleton]
    constructor
    · exact fun member => ⟨.inl member.1, member.2⟩
    · rintro ⟨member | rfl, switch⟩
      · exact ⟨member, switch⟩
      · exact before
  · rename_i new
    rw [List.contains_iff_mem] at new
    refine ⟨?_, fun d => ?_, sticky⟩
    · rw [List.nodup_append]
      refine ⟨spells.once, List.pairwise_singleton _ _, ?_⟩
      rintro d member e last rfl
      exact new (List.mem_singleton.mp last ▸ member)
    · simp only [List.mem_append, List.mem_singleton, spells.inner]
      constructor
      · rintro (member | rfl)
        · exact ⟨.inl member.1, member.2⟩
        · exact ⟨.inr rfl, known⟩
      · rintro ⟨member | rfl, switch⟩
        · exact .inl ⟨member, switch⟩
        · exact .inr rfl

/-- Any other letter changes nothing but whether a match has to start where the text does. -/
theorem other (spells : Spells letters flags) {c : Char} (plain : c ∉ switchLetters) {sticky : Bool}
    (start : sticky = (flags.sticky || decide ('y' = c))) :
    Spells (letters ++ [c]) { flags with sticky } := by
  refine ⟨spells.once, fun d => ?_, ?_⟩
  · simp only [List.mem_append, List.mem_singleton, spells.inner]
    constructor
    · exact fun member => ⟨.inl member.1, member.2⟩
    · rintro ⟨member | rfl, switch⟩
      · exact ⟨member, switch⟩
      · exact absurd switch plain
  · dsimp only
    rw [start, spells.sticky]
    simp

theorem nil : Spells [] ⟨[], false⟩ :=
  ⟨List.nodup_nil, by simp, rfl⟩

end Spells

theorem readPatternFlags_spells {before letters : List Char} {flags : PatternFlags}
    (spells : Spells before flags) (known : ∀ c ∈ letters, c ∈ flagLetters) :
    ∃ found, readPatternFlags flags letters = .ok found ∧ Spells (before ++ letters) found := by
  induction letters generalizing before flags with
  | nil => exact ⟨flags, rfl, (List.append_nil before).symm ▸ spells⟩
  | cons c letters ih =>
      obtain ⟨here, later⟩ := List.forall_mem_cons.mp known
      rw [List.append_cons]
      simp only [flagLetters, List.mem_cons, List.not_mem_nil, or_false] at here
      rcases here with rfl | rfl | rfl | rfl | rfl | rfl
      · exact ih (spells.switch (by decide)) later
      · exact ih (spells.switch (by decide)) later
      · exact ih (spells.switch (by decide)) later
      · exact ih (spells.other (by decide) (Bool.or_false _).symm) later
      · exact ih (spells.other (by decide) (Bool.or_false _).symm) later
      · exact ih (spells.other (by decide) (Bool.or_true _).symm) later

theorem readPatternFlags_known {letters : String} (known : ∀ c ∈ letters.toList, c ∈ flagLetters) :
    ∃ flags, readPatternFlags ⟨[], false⟩ letters.toList = .ok flags ∧
      Spells letters.toList flags :=
  readPatternFlags_spells .nil known

/-! ## The text of a pattern with its flags -/

/-- A pattern without its switches. -/
def unswitched (pattern : String) (sticky : Bool) : String :=
  if sticky then anchoredText pattern else pattern

section

variable {letters others : List Char} {flags further : PatternFlags}

theorem Spells.switching (spells : Spells letters flags) (nonempty : flags.inner ≠ []) :
    Switching flags.inner :=
  ⟨spells.known, spells.once, nonempty⟩

theorem Spells.flagsOf_eq (spells : Spells letters flags) :
    flagsOf flags.inner = flagsOf letters := by
  refine Pattern.flagsOf_congr fun c known => ?_
  rw [spells.inner]
  exact and_iff_left known

theorem patternSource_nil (pattern : String) (empty : flags.inner = []) :
    patternSource pattern flags = unswitched pattern flags.sticky := by
  rw [patternSource, empty]
  rfl

theorem patternSource_cons (pattern : String) (nonempty : flags.inner ≠ []) :
    patternSource pattern flags = switchText flags.inner ++ unswitched pattern flags.sticky := by
  rw [patternSource, if_neg (by simpa using nonempty)]
  rfl

/-- What the text of a pattern with its flags matches is what the pattern matches under them. -/
theorem ends_patternSource (pattern : String) (spells : Spells letters flags) :
    (unlimited? {} (patternSource pattern flags)).map (fun found => found.2.ends) =
      (unlimited? (flagsOf letters) (unswitched pattern flags.sticky)).map
        fun found => found.2.ends := by
  rw [← spells.flagsOf_eq]
  by_cases empty : flags.inner = []
  · rw [patternSource_nil pattern empty, empty]
    rfl
  · obtain ⟨depth, behind, same, meaning⟩ :=
      Pattern.unlimited?_switches (unswitched pattern flags.sticky)
    rw [patternSource_cons pattern empty, meaning _ (spells.switching empty), Option.map_map]
    exact Option.map_congr fun found _ => same found.2

theorem unlimited?_patternSource_congr (pattern : String) (spells : Spells letters flags)
    (spelt : Spells others further)
    (same : ∀ c ∈ ['i', 'm', 's', 'y'], c ∈ letters ↔ c ∈ others) :
    unlimited? {} (patternSource pattern flags) =
      unlimited? {} (patternSource pattern further) := by
  have switched (c : Char) (known : c ∈ switchLetters) : c ∈ letters ↔ c ∈ others :=
    same c (List.mem_append_left ['y'] known)
  have inner (c : Char) : c ∈ flags.inner ↔ c ∈ further.inner := by
    rw [spells.inner, spelt.inner]
    exact and_congr_left (switched c)
  have sticky : flags.sticky = further.sticky := by
    rw [spells.sticky, spelt.sticky, Bool.eq_iff_iff, List.contains_iff_mem, List.contains_iff_mem]
    exact same 'y' (by decide)
  by_cases empty : flags.inner = []
  · have absent : further.inner = [] :=
      List.eq_nil_iff_forall_not_mem.mpr fun c member => by simpa [empty] using (inner c).mpr member
    rw [patternSource_nil pattern empty, patternSource_nil pattern absent, sticky]
  · have present : further.inner ≠ [] := by
      intro absent
      exact empty (List.eq_nil_iff_forall_not_mem.mpr fun c member => by
        simpa [absent] using (inner c).mp member)
    obtain ⟨depth, behind, -, meaning⟩ :=
      Pattern.unlimited?_switches (unswitched pattern flags.sticky)
    rw [patternSource_cons pattern empty, patternSource_cons pattern present, ← sticky,
      meaning _ (spells.switching empty), meaning _ (spelt.switching present), spells.flagsOf_eq,
      spelt.flagsOf_eq, Pattern.flagsOf_congr switched]

end

/-! ## The test -/

def Fails (outcome : Except Error Value) : Prop :=
  ∃ error, outcome = .error error

/-- The text of the pattern with its flags is well formed, but too deep or in need of too much
room. -/
def Oversized (pattern letters : String) : Prop :=
  ∃ flags, readPatternFlags ⟨[], false⟩ letters.toList = .ok flags ∧
    TooLarge (patternSource pattern flags)

/-- The test of a text against a pattern, from what the pattern matches. -/
def testNode (text : String) : Option Node → Except Error Value
  | some node => .ok (.boolean (node.matchesIn text.toList))
  | none => .error (.function "regex" none)

theorem regex_eq (text pattern : String) {letters : String} {flags : PatternFlags}
    (read : readPatternFlags ⟨[], false⟩ letters.toList = .ok flags) :
    regex [.string text, .string pattern, .string letters] =
      testNode text ((Pattern.compile? (patternSource pattern flags)).map Pattern.node) := by
  change (compilePattern pattern letters >>= fun compiled =>
    pure (Value.boolean (compiled.isMatch text))) = _
  rw [compilePattern, read]
  dsimp only [bind, Except.bind]
  cases Pattern.compile? (patternSource pattern flags) <;> rfl

section

variable {letters : String} {sticky : Bool} (known : ∀ c ∈ letters.toList, c ∈ flagLetters)
  (start : letters.toList.contains 'y' = sticky)

include known start

/-- The test fails where the pattern means nothing under the flags, and beyond the limits. -/
theorem fails_regex_iff (text pattern : String) :
    Fails (regex [.string text, .string pattern, .string letters]) ↔
      unlimited? (flagsOf letters.toList) (unswitched pattern sticky) = none ∨
        Oversized pattern letters := by
  obtain ⟨flags, read, spells⟩ := readPatternFlags_known known
  have large : Oversized pattern letters ↔ TooLarge (patternSource pattern flags) := by
    constructor
    · rintro ⟨found, again, large⟩
      cases read.symm.trans again
      exact large
    · exact fun large => ⟨flags, read, large⟩
  have meaning := ends_patternSource pattern spells
  rw [spells.sticky, start] at meaning
  have malformed : unlimited? {} (patternSource pattern flags) = none ↔
      unlimited? (flagsOf letters.toList) (unswitched pattern sticky) = none := by
    rw [← Option.map_eq_none_iff, meaning, Option.map_eq_none_iff]
  rw [regex_eq text pattern read, large, ← malformed, ← Pattern.compile?_eq_none_iff]
  cases Pattern.compile? (patternSource pattern flags) with
  | none => exact ⟨fun _ => rfl, fun _ => ⟨_, rfl⟩⟩
  | some compiled =>
      constructor
      · rintro ⟨error, failed⟩
        cases failed
      · nofun

/-- Where the test has a value, that is whether there is a match. -/
theorem regex_of_ok {text pattern : String} {result : Value}
    (succeeds : regex [.string text, .string pattern, .string letters] = .ok result) :
    ∃ depth node,
      unlimited? (flagsOf letters.toList) (unswitched pattern sticky) = some (depth, node) ∧
        result = .boolean (node.matchesIn text.toList) := by
  obtain ⟨flags, read, spells⟩ := readPatternFlags_known known
  have meaning := ends_patternSource pattern spells
  rw [spells.sticky, start] at meaning
  rw [regex_eq text pattern read] at succeeds
  cases compiled : Pattern.compile? (patternSource pattern flags) with
  | none =>
      rw [compiled] at succeeds
      cases succeeds
  | some found =>
      obtain ⟨deep, source⟩ := Pattern.unlimited?_of_compile? compiled
      rw [source, Option.map_some] at meaning
      obtain ⟨⟨depth, node⟩, here, same⟩ := Option.map_eq_some_iff.mp meaning.symm
      rw [compiled] at succeeds
      cases succeeds
      exact ⟨depth, node, here, congrArg Value.boolean (Pattern.matchesIn_congr same.symm _)⟩

end

/-- With the flag `y` or without it a pattern is refused if it is malformed or beyond the limits for
its text with the flags.  With the flag it matches from the start of the text, without it from any
place. -/
structure OnlyAnchors (text pattern letters : String) : Prop where
  refused : Fails (regex [.string text, .string pattern, .string letters]) ↔
    unlimited? (flagsOf letters.toList) pattern = none ∨ Oversized pattern letters
  refused_sticky : Fails (regex [.string text, .string pattern, .string (letters ++ "y")]) ↔
    unlimited? (flagsOf letters.toList) pattern = none ∨ Oversized pattern (letters ++ "y")
  matched : ∀ result, regex [.string text, .string pattern, .string letters] = .ok result →
    ∃ depth node, unlimited? (flagsOf letters.toList) pattern = some (depth, node) ∧
      result = .boolean (node.matchesIn text.toList)
  matched_sticky : ∀ result,
    regex [.string text, .string pattern, .string (letters ++ "y")] = .ok result →
      ∃ depth node, unlimited? (flagsOf letters.toList) pattern = some (depth, node) ∧
        result = .boolean (node.firstEnd? (Spot.start text.toList)).isSome

/-- The result depends only on which switches are among the flags, and on whether `y` is.  That flag
only anchors the pattern, unless the pattern closes a group that it does not open, which is an error
without the flag, or ends in a comment, which is an error with it. -/
theorem regex_sticky (text pattern : String) :
    (∀ first second : String, (∀ c ∈ first.toList, c ∈ flagLetters) →
      (∀ c ∈ second.toList, c ∈ flagLetters) →
      (∀ c ∈ ['i', 'm', 's', 'y'], c ∈ first.toList ↔ c ∈ second.toList) →
      regex [.string text, .string pattern, .string first] =
        regex [.string text, .string pattern, .string second]) ∧
    ∀ letters : String, (∀ c ∈ letters.toList, c ∈ ['i', 'm', 's', 'g', 'u']) →
      (Unopened pattern → Fails (regex [.string text, .string pattern, .string letters])) ∧
      (EndsInComment pattern →
        Fails (regex [.string text, .string pattern, .string (letters ++ "y")])) ∧
      (¬Unopened pattern → ¬EndsInComment pattern → OnlyAnchors text pattern letters) := by
  constructor
  · intro first second known others same
    obtain ⟨flags, read, spells⟩ := readPatternFlags_known known
    obtain ⟨further, again, spelt⟩ := readPatternFlags_known others
    rw [regex_eq text pattern read, regex_eq text pattern again, Pattern.node_compile?,
      Pattern.node_compile?, unlimited?_patternSource_congr pattern spells spelt same]
  · intro letters plain
    have absent : letters.toList.contains 'y' = false := by
      rw [← Bool.not_eq_true, List.contains_iff_mem]
      exact fun member => absurd (plain 'y' member) (by decide)
    have known : ∀ c ∈ letters.toList, c ∈ flagLetters :=
      fun c member => List.mem_append_left ['y'] (plain c member)
    have spelt : (letters ++ "y").toList = letters.toList ++ ['y'] := by simp
    have present : (letters ++ "y").toList.contains 'y' = true := by simp
    have knownSticky : ∀ c ∈ (letters ++ "y").toList, c ∈ flagLetters := by
      rw [spelt]
      intro c member
      rcases List.mem_append.mp member with member | last
      · exact known c member
      · exact List.mem_singleton.mp last ▸ by decide
    have same : flagsOf (letters ++ "y").toList = flagsOf letters.toList := by
      refine Pattern.flagsOf_congr fun c switch => ?_
      have other : c ≠ 'y' := by
        rintro rfl
        exact absurd switch (by decide)
      simp [spelt, other]
    have refused := fails_regex_iff known absent text pattern
    have refusedSticky := fails_regex_iff knownSticky present text pattern
    rw [same] at refusedSticky
    refine ⟨fun unopened => ?_, fun comment => ?_, fun opened uncommented => ?_⟩
    · exact refused.mpr (.inl (Pattern.unlimited?_of_unopened unopened _))
    · exact refusedSticky.mpr (.inl (Pattern.unlimited?_anchoredText_of_comment comment _))
    · have anchors := Pattern.unlimited?_anchoredText opened uncommented (flagsOf letters.toList)
      refine ⟨refused, refusedSticky.trans ?_, fun _ => regex_of_ok known absent, ?_⟩
      · change unlimited? _ (anchoredText pattern) = none ∨ _ ↔ _
        rw [anchors, Option.map_eq_none_iff]
      · intro result succeeds
        obtain ⟨depth, node, meaning, matched⟩ := regex_of_ok knownSticky present succeeds
        rw [same] at meaning
        obtain ⟨⟨inner, body⟩, here, found⟩ :=
          Option.map_eq_some_iff.mp (anchors.symm.trans meaning)
        cases found
        exact ⟨inner, body, here, matched.trans
          (congrArg Value.boolean (Pattern.matchesIn_anchored body text.toList))⟩

/-- Letters in another order and number, a pattern that is enclosed in the anchored group, one that
closes the group, and one that comments its parenthesis out. -/
theorem regex_sticky_branches :
    regex [.string "zB", .string "b|a", .string "gyi"] =
        regex [.string "zB", .string "b|a", .string "iyi"] ∧
      OnlyAnchors "zB" "b|a" "i" ∧
      Fails (regex [.string "zb", .string "a)|(?:b", .string "i"]) ∧
      Fails (regex [.string "a", .string "(?x)a #c", .string ("i" ++ "y")]) :=
  ⟨(regex_sticky "zB" "b|a").1 "gyi" "iyi" (by simp [flagLetters]) (by simp [flagLetters])
      (by simp),
    ((regex_sticky "zB" "b|a").2 "i" (by simp)).2.2 (by decide +kernel) (by decide +kernel),
    ((regex_sticky "zb" "a)|(?:b").2 "i" (by simp)).1 (by decide +kernel),
    ((regex_sticky "a" "(?x)a #c").2 "i" (by simp)).2.1 (by decide +kernel)⟩

/-- With the flag `y` a pattern that closes the group is accepted, and not anchored; a pattern that
ends in a comment is refused. -/
theorem regex_sticky_group :
    regex [.string "zb", .string "a)|(?:b", .string "y"] = .ok (.boolean true) ∧
      regex [.string "zb", .string "a)|(?:b", .string ""] = .error (.function "regex" none) ∧
      regex [.string "a", .string "(?x)a #c", .string "y"] = .error (.function "regex" none) ∧
      regex [.string "a", .string "(?x)a #c", .string ""] = .ok (.boolean true) :=
  ⟨rfl, rfl, rfl, rfl⟩

end Reckon.Standard
