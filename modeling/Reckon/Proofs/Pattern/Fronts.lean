import Reckon.Proofs.Pattern.Meaning
import Reckon.Proofs.Pattern.ShutBranches

/-!
Patterns with switches in front of them, and patterns in a group that is anchored at the start of
the text.  Switches are read apart from what follows them.  A group is read apart from what it holds
unless the pattern within it closes a group that it does not open, or ends in a comment.
-/

namespace Reckon.Pattern

open Text (Spot)
open Node

/-! ## Patterns of any size -/

/-- The tree of a text up to a parenthesis that it does not open, and what is left. -/
def parse? (text : String) : Taken Tree :=
  readBranches (2 * text.toList.length + 2) [] [] ⟨text.toList, false, []⟩

/-- How deep a tree is that was read to the end of its text, and what it means. -/
def meaningOfRead? (flags : Flags) : Taken Tree → Option (Nat × Node)
  | none => none
  | some (tree, after) =>
      if after.rest.isEmpty then
        (tree.meaning? flags).map fun (node, _) => (tree.depth, node)
      else none

/-- How deep the tree of a text is and what it means under flags, whatever its size. -/
def unlimited? (flags : Flags) (text : String) : Option (Nat × Node) :=
  meaningOfRead? flags (parse? text)

/-- A text that is well formed, but too deep or in need of too much room. -/
def TooLarge (text : String) : Prop :=
  ∃ depth node, unlimited? {} text = some (depth, node) ∧
    (nestingLimit < depth ∨ node.fits = false)

/-- The text is read to its end. -/
def Whole (text : String) : Prop :=
  ∃ tree after, parse? text = some (tree, after) ∧ after.rest = []

/-- The text closes a group that it does not open. -/
def Unopened (text : String) : Prop :=
  ∃ tree after, parse? text = some (tree, after) ∧ after.rest ≠ []

/-- The text ends in a comment, which goes on over a parenthesis behind it. -/
def EndsInComment (text : String) : Prop :=
  Whole text ∧ Whole (text ++ ")")

instance (text : String) : Decidable (Whole text) :=
  decidable_of_iff ((parse? text).any (·.2.rest.isEmpty) = true)
    (by unfold Whole; rcases parse? text with _ | ⟨tree, after⟩ <;> simp)

instance (text : String) : Decidable (Unopened text) :=
  decidable_of_iff ((parse? text).any (!·.2.rest.isEmpty) = true)
    (by unfold Unopened; rcases parse? text with _ | ⟨tree, after⟩ <;> simp)

instance (text : String) : Decidable (EndsInComment text) :=
  inferInstanceAs (Decidable (_ ∧ _))

/-- The limits are all that `compile?` adds. -/
theorem node_compile? (text : String) : (compile? text).map Pattern.node =
    (unlimited? {} text).bind fun (depth, node) =>
      if depth ≤ nestingLimit ∧ node.fits then some node else none := by
  unfold compile? Tree.read? unlimited? parse?
  dsimp only
  cases readBranches (2 * text.toList.length + 2) [] [] ⟨text.toList, false, []⟩ with
  | none => rfl
  | some found =>
      obtain ⟨tree, after⟩ := found
      by_cases whole : after.rest.isEmpty
      · by_cases shallow : tree.depth ≤ nestingLimit
        · simp only [meaningOfRead?, whole, shallow, decide_true, Bool.and_true, if_true,
            Option.bind_some]
          cases tree.meaning? {} with
          | none => rfl
          | some meaning =>
              dsimp only [Option.bind_some, Option.map_some]
              split <;> simp [*]
        · simp only [meaningOfRead?, whole, shallow, decide_false, Bool.and_false, if_true]
          cases tree.meaning? {} <;> simp [shallow]
      · simp [meaningOfRead?, whole]

theorem compile?_eq_none_iff {text : String} :
    compile? text = none ↔ unlimited? {} text = none ∨ TooLarge text := by
  rw [← Option.map_eq_none_iff (f := Pattern.node), node_compile?]
  unfold TooLarge
  cases unlimited? {} text with
  | none => simp
  | some meaning =>
      obtain ⟨depth, node⟩ := meaning
      simp only [Option.bind_some, ite_eq_right_iff, reduceCtorEq, imp_false, not_and_or,
        Nat.not_le, Bool.not_eq_true, false_or, Option.some.injEq, Prod.mk.injEq]
      constructor
      · exact fun large => ⟨depth, node, ⟨rfl, rfl⟩, large⟩
      · rintro ⟨_, _, ⟨rfl, rfl⟩, large⟩
        exact large

theorem unlimited?_of_compile? {text : String} {pattern : Pattern}
    (compiled : compile? text = some pattern) :
    ∃ depth, unlimited? {} text = some (depth, pattern.node) := by
  have found := congrArg (Option.map Pattern.node) compiled
  rw [node_compile?, Option.map_some, Option.bind_eq_some_iff] at found
  obtain ⟨⟨depth, node⟩, meaning, fits⟩ := found
  have same : node = pattern.node := by
    dsimp only at fits
    split at fits
    · exact Option.some.inj fits
    · cases fits
  exact ⟨depth, same ▸ meaning⟩

/-! ## Nodes with the same matches -/

theorem matchesIn_congr {node other : Node} (same : node.ends = other.ends) (text : List Char) :
    node.matchesIn text = other.matchesIn text := by
  unfold matchesIn firstEnd?
  rw [same]

theorem ends_seq_congr (first : Node) {node other : Node} (same : node.ends = other.ends) :
    (seq first node).ends = (seq first other).ends := by
  funext spot
  change endsOfAll (ends node) _ = endsOfAll (ends other) _
  rw [same]

theorem ends_either_congr {node other : Node} (same : node.ends = other.ends) (last : Node) :
    (either node last).ends = (either other last).ends := by
  funext spot
  change distinctSpots [] (ends node spot ++ _) = distinctSpots [] (ends other spot ++ _)
  rw [same]

theorem firstEnd?_look_seq (condition : Look) (node : Node) (spot : Spot) :
    (seq (look condition) node).firstEnd? spot =
      if condition.holds spot then node.firstEnd? spot else none := by
  change (distinctSpots []
    ((if condition.holds spot then [spot] else []).flatMap (ends node))).head? = _
  rw [head?_distinctSpots]
  split
  · rw [List.flatMap_singleton]
    rfl
  · rfl

theorem before_of_mem_onwardFrom {index : Nat} {before : Char} {text : List Char} {spot : Spot}
    (member : spot ∈ Spot.onwardFrom index (some before) text) : spot.before.isNone = false := by
  induction text generalizing index before with
  | nil => exact List.mem_singleton.mp member ▸ rfl
  | cons c rest ih =>
      rcases List.mem_cons.mp member with rfl | member
      · rfl
      · exact ih member

/-- What is anchored at the start of a text matches it where it matches from there. -/
theorem matchesIn_textStart (node : Node) (text : List Char) :
    (seq (look .textStart) node).matchesIn text = (node.firstEnd? (Spot.start text)).isSome := by
  unfold matchesIn
  simp only [firstEnd?_look_seq]
  cases text with
  | nil => exact Bool.or_false _
  | cons c rest =>
      rw [Spot.all, Spot.onwardFrom, List.any_cons, Spot.start]
      have later : ((Spot.onwardFrom 1 (some c) rest).any fun spot =>
          (if Look.textStart.holds spot then node.firstEnd? spot else none).isSome) = false := by
        refine List.any_eq_false.mpr fun spot member => ?_
        rw [Look.holds, before_of_mem_onwardFrom member]
        exact Bool.false_ne_true
      rw [later, Bool.or_false]
      rfl

/-! ## Switches in front -/

/-- The letters of the flags that may be written in front of a pattern. -/
def switchLetters : List Char := ['i', 'm', 's']

def switches (letters : List Char) : FlagChanges :=
  letters.filterMap fun c => (flagOfChar? c).map (·, true)

def flagsOf (letters : List Char) : Flags where
  ignoreCase := letters.contains 'i'
  multiLine := letters.contains 'm'
  dotAll := letters.contains 's'

def switchText (letters : List Char) : String :=
  "(?" ++ String.ofList letters ++ ")"

section

variable {letters : List Char}

theorem switches_cons {c : Char} {flag : Flag} (known : flagOfChar? c = some flag) :
    switches (c :: letters) = (flag, true) :: switches letters := by
  unfold switches
  rw [List.filterMap_cons, known]
  rfl

theorem apply_switches (known : ∀ c ∈ letters, c ∈ switchLetters) (flags : Flags) :
    flags.apply (switches letters) = { flags with
      ignoreCase := flags.ignoreCase || letters.contains 'i'
      multiLine := flags.multiLine || letters.contains 'm'
      dotAll := flags.dotAll || letters.contains 's' } := by
  induction letters generalizing flags with
  | nil => simp [switches, Flags.apply]
  | cons c letters ih =>
      obtain ⟨here, known⟩ := List.forall_mem_cons.mp known
      have further (flag : Flag) := ih known (flags.switch (flag, true))
      simp only [switchLetters, List.mem_cons, List.not_mem_nil, or_false] at here
      rcases here with rfl | rfl | rfl
      · rw [switches_cons (show flagOfChar? 'i' = some .ignoreCase from rfl)]
        refine (further .ignoreCase).trans ?_
        simp [Flags.switch]
      · rw [switches_cons (show flagOfChar? 'm' = some .multiLine from rfl)]
        refine (further .multiLine).trans ?_
        simp [Flags.switch]
      · rw [switches_cons (show flagOfChar? 's' = some .dotAll from rfl)]
        refine (further .dotAll).trans ?_
        simp [Flags.switch]

theorem apply_switches_default (known : ∀ c ∈ letters, c ∈ switchLetters) :
    ({} : Flags).apply (switches letters) = flagsOf letters := by
  rw [apply_switches known]
  simp [flagsOf]

theorem flagsOf_congr {others : List Char} (same : ∀ c ∈ switchLetters, c ∈ letters ↔ c ∈ others) :
    flagsOf letters = flagsOf others := by
  have test (c : Char) (member : c ∈ switchLetters) : letters.contains c = others.contains c := by
    rw [Bool.eq_iff_iff, List.contains_iff_mem, List.contains_iff_mem]
    exact same c member
  unfold flagsOf
  rw [test 'i' (by decide), test 'm' (by decide), test 's' (by decide)]

theorem flagOfChar?_eq_some {c : Char} (known : c ∈ switchLetters) : ∃ flag,
    flagOfChar? c = some flag ∧ flag ≠ .verbose ∧ c ≠ ':' ∧ c ≠ ')' ∧ c ≠ '-' := by
  simp only [switchLetters, List.mem_cons, List.not_mem_nil, or_false] at known
  rcases known with rfl | rfl | rfl
  · exact ⟨.ignoreCase, rfl, by decide⟩
  · exact ⟨.multiLine, rfl, by decide⟩
  · exact ⟨.dotAll, rfl, by decide⟩

theorem flagOfChar?_inj {c d : Char} (known : c ∈ switchLetters) (other : d ∈ switchLetters)
    (same : flagOfChar? c = flagOfChar? d) : c = d := by
  simp only [switchLetters, List.mem_cons, List.not_mem_nil, or_false] at known other
  rcases known with rfl | rfl | rfl <;> rcases other with rfl | rfl | rfl <;>
    first | rfl | cases same

theorem verboseAfter_switches (known : ∀ c ∈ letters, c ∈ switchLetters) (current : Bool) :
    verboseAfter (switches letters) current = current := by
  have unasked : (switches letters).find? (·.1 = .verbose) = none := by
    refine List.find?_eq_none.mpr ?_
    rintro ⟨flag, on⟩ member
    obtain ⟨c, inside, asked⟩ := List.mem_filterMap.mp member
    obtain ⟨found, read, other, -⟩ := flagOfChar?_eq_some (known c inside)
    rw [read] at asked
    cases asked
    simpa using other
  rw [verboseAfter, unasked]
  rfl

/-- Letters up to a parenthesis, each of them once, are read one by one. -/
theorem readFlags_switches (known : ∀ c ∈ letters, c ∈ switchLetters) (once : letters.Nodup)
    (changes : FlagChanges)
    (new : ∀ c ∈ letters, ∀ change ∈ changes, flagOfChar? c ≠ some change.1) (rest : List Char) :
    readFlags (letters ++ ')' :: rest) false false changes =
      some (changes.reverse ++ switches letters, ')' :: rest) := by
  induction letters generalizing changes with
  | nil => simp [readFlags, switches]
  | cons c letters ih =>
      obtain ⟨here, known⟩ := List.forall_mem_cons.mp known
      obtain ⟨fresh, once⟩ := List.nodup_cons.mp once
      obtain ⟨notYet, new⟩ := List.forall_mem_cons.mp new
      obtain ⟨flag, read, -, colon, closing, minus⟩ := flagOfChar?_eq_some here
      have unused : changes.any (·.1 = flag) = false := by
        refine List.any_eq_false.mpr fun change member => ?_
        have other := notYet change member
        rw [read, Ne, Option.some.injEq] at other
        simpa using Ne.symm other
      have later : ∀ d ∈ letters, ∀ change ∈ (flag, true) :: changes,
          flagOfChar? d ≠ some change.1 := by
        intro d member change
        refine List.forall_mem_cons.mpr ⟨?_, new d member⟩ change
        intro same
        exact fresh (flagOfChar?_inj (known d member) here (same.trans read.symm) ▸ member)
      rw [List.cons_append, readFlags, if_neg (by simp [colon, closing]), if_neg minus, read,
        Option.bind_some, if_neg (by simp [unused])]
      rw [Bool.not_false, ih known once _ later, switches_cons read]
      simp

structure Switching (letters : List Char) : Prop where
  known : ∀ c ∈ letters, c ∈ switchLetters
  once : letters.Nodup
  nonempty : letters ≠ []

theorem readOpening_switches (switching : Switching letters) (rest : List Char) :
    readOpening ⟨'?' :: (letters ++ ')' :: rest), false, []⟩ =
      some (.switch (switches letters), ⟨rest, false, []⟩) := by
  obtain ⟨known, once, nonempty⟩ := switching
  have read := readFlags_switches known once [] nofun rest
  obtain ⟨c, others, rfl⟩ := List.exists_cons_of_ne_nil nonempty
  have here := known c List.mem_cons_self
  obtain ⟨flag, letter, -⟩ := flagOfChar?_eq_some here
  -- no other opening goes on with one of the letters
  have other (text : String) (d : Char) (tail : List Char) (spelt : text.toList = '?' :: d :: tail)
      (mark : d ∉ switchLetters) :
      (Source.mk ('?' :: (c :: others ++ ')' :: rest)) false []).drop? text = none := by
    have differs : d ≠ c := fun same => mark (same ▸ here)
    simp [Source.drop?, spelt, List.isPrefixOf, differs]
  have ahead := other "?=" '=' [] rfl (by decide)
  have notAhead := other "?!" '!' [] rfl (by decide)
  have behind := other "?<=" '<' ['='] rfl (by decide)
  have notBehind := other "?<!" '<' ['!'] rfl (by decide)
  have pythonName := other "?P<" 'P' ['<'] rfl (by decide)
  have name := other "?<" '<' [] rfl (by decide)
  have mark : (Source.mk ('?' :: (c :: others ++ ')' :: rest)) false []).drop? "?" =
      some ⟨c :: others ++ ')' :: rest, false, []⟩ := rfl
  have changed : switches (c :: others) ≠ [] := by
    rw [switches_cons letter]
    exact List.cons_ne_nil _ _
  have skip : (Source.mk ('?' :: (c :: others ++ ')' :: rest)) false []).skip =
      ⟨'?' :: (c :: others ++ ')' :: rest), false, []⟩ := rfl
  unfold readOpening
  simp only [skip, ahead, notAhead, behind, notBehind, pythonName, name, mark, read]
  simp [changed]

theorem readMove_switches (switching : Switching letters) (rest : List Char) :
    readMove ⟨'(' :: '?' :: (letters ++ ')' :: rest), false, []⟩ =
      some (.switch (switches letters), ⟨rest, false, []⟩) := by
  change Option.map _ (readOpening ⟨'?' :: (letters ++ ')' :: rest), false, []⟩) = _
  rw [readOpening_switches switching, Option.map_some]
  dsimp only
  rw [verboseAfter_switches switching.known]

theorem toList_switchText_append (letters : List Char) (text : String) :
    (switchText letters ++ text).toList = '(' :: '?' :: (letters ++ ')' :: text.toList) := by
  simp [switchText]

theorem parse?_switchText_append (switching : Switching letters) (text : String) :
    parse? (switchText letters ++ text) =
      readBranches (2 * text.toList.length + 2) [] [.flags (switches letters)]
        ⟨text.toList, false, []⟩ := by
  have skip : (Source.mk ('(' :: '?' :: (letters ++ ')' :: text.toList)) false []).skip =
      ⟨'(' :: '?' :: (letters ++ ')' :: text.toList), false, []⟩ := rfl
  unfold parse?
  rw [toList_switchText_append, readBranches_succ, skip, readMove_switches switching]
  refine readBranches_fuel _ ?_ ?_ _ _
  · simp only [List.length_cons, List.length_append]
    omega
  · dsimp only
    omega

/-- The tree of branches, of which the first is a row of terms and the others are given last
first. -/
def branching (row later : List Tree) : Tree :=
  alternationOf (later ++ [Tree.ofTerms row])

theorem parse?_cases (text : String) :
    (parse? text = none ∧
        ∀ letters, Switching letters → parse? (switchText letters ++ text) = none) ∨
      ∃ row later after, parse? text = some (branching row later, after) ∧
        ∀ letters, Switching letters → parse? (switchText letters ++ text) =
          some (branching (.flags (switches letters) :: row) later, after) := by
  rcases readBranches_frame (2 * text.toList.length + 2) [] ⟨text.toList, false, []⟩ with
    unread | ⟨later, first, after, read⟩
  · refine .inl ⟨unread [] [] bare_nil, fun letters switching => ?_⟩
    rw [parse?_switchText_append switching]
    exact unread [] _ (bare_flags _ _)
  · refine .inr ⟨first.reverse, later, after, ?_, fun letters switching => ?_⟩
    · refine (read [] [] bare_nil).trans ?_
      rw [List.append_nil]
      rfl
    · rw [parse?_switchText_append switching]
      refine (read [] _ (bare_flags (switches letters) [])).trans ?_
      rw [List.reverse_append]
      rfl

theorem meaning_branching (flags : Flags) (row later : List Tree) :
    (branching row later).meaning? flags =
      Tree.meaningOfBranches? flags (Tree.ofTerms row :: later.reverse) := by
  rw [branching, meaning_alternationOf flags (by simp), List.reverse_append]
  rfl

def behindSwitch (row : List Tree) (node : Node) : Node :=
  match row with
  | [] => node
  | [_] => .seq .empty (.seq node .empty)
  | _ => .seq .empty node

def behindSwitches (row later : List Tree) (node : Node) : Node :=
  match later, node with
  | [], node => behindSwitch row node
  | _ :: _, .either first others => .either (behindSwitch row first) others
  | _, node => node

theorem ends_behindSwitch (row : List Tree) (node : Node) :
    (behindSwitch row node).ends = node.ends := by
  match row with
  | [] => rfl
  | [_] => exact (ends_empty_seq _).trans (ends_seq_empty node)
  | _ :: _ :: _ => exact ends_empty_seq node

theorem ends_behindSwitches (row later : List Tree) (node : Node) :
    (behindSwitches row later node).ends = node.ends := by
  unfold behindSwitches
  split
  · exact ends_behindSwitch row _
  · exact ends_either_congr (ends_behindSwitch row _) _
  · rfl

theorem meaning_ofTerms_flags (start : Flags) (changes : FlagChanges) (row : List Tree) :
    (Tree.ofTerms (.flags changes :: row)).meaning? start =
      ((Tree.ofTerms row).meaning? (start.apply changes)).map fun (node, flags) =>
        (behindSwitch row node, flags) := by
  match row with
  | [] => rfl
  | [term] =>
      simp only [Tree.ofTerms, Tree.meaning?, Tree.meaningOfTerms?, Option.bind_some]
      cases term.meaning? (start.apply changes) <;> rfl
  | first :: second :: terms =>
      simp only [Tree.ofTerms, Tree.meaning?, Tree.meaningOfTerms?, Option.bind_some]
      rfl

theorem meaning_branching_flags (start : Flags) (changes : FlagChanges) (row later : List Tree) :
    (branching (.flags changes :: row) later).meaning? start =
      ((branching row later).meaning? (start.apply changes)).map fun (node, flags) =>
        (behindSwitches row later node, flags) := by
  rw [meaning_branching, meaning_branching]
  cases later with
  | nil => exact meaning_ofTerms_flags start changes row
  | cons branch later =>
      obtain ⟨next, others, whole⟩ := List.exists_cons_of_ne_nil
        (show (branch :: later).reverse ≠ [] by simp)
      simp only [whole, Tree.meaningOfBranches?, meaning_ofTerms_flags]
      cases (Tree.ofTerms row).meaning? (start.apply changes) with
      | none => rfl
      | some meaning =>
          dsimp only [Option.map_some, Option.bind_some]
          rw [Option.map_map]
          rfl

theorem depth_branching_flags (changes other : FlagChanges) (row later : List Tree) :
    (branching (.flags changes :: row) later).depth =
      (branching (.flags other :: row) later).depth := by
  have first : (Tree.ofTerms (.flags changes :: row)).depth =
      (Tree.ofTerms (.flags other :: row)).depth := by
    cases row <;> rfl
  cases later with
  | nil => exact first
  | cons branch later =>
      have apart (tree : Tree) : (alternationOf (branch :: later ++ [tree])).depth =
          max tree.depth (Tree.deepest (branch :: later).reverse) + 1 := by
        have several : alternationOf (branch :: later ++ [tree]) =
            .alternation (branch :: later ++ [tree]).reverse := by
          cases later <;> rfl
        rw [several, List.reverse_append]
        rfl
      rw [branching, branching, apart, apart, first]

/-- Behind switches a text means what it means under the flags they switch on. -/
theorem unlimited?_switches (text : String) : ∃ (depth : Nat) (behind : Node → Node),
    (∀ node, (behind node).ends = node.ends) ∧ ∀ letters, Switching letters →
      unlimited? {} (switchText letters ++ text) =
        (unlimited? (flagsOf letters) text).map fun (_, node) => (depth, behind node) := by
  rcases parse?_cases text with ⟨plain, switched⟩ | ⟨row, later, after, plain, switched⟩
  · refine ⟨0, id, fun _ => rfl, fun letters switching => ?_⟩
    rw [unlimited?, unlimited?, plain, switched letters switching]
    rfl
  · refine ⟨(branching (.flags [] :: row) later).depth, behindSwitches row later,
      ends_behindSwitches row later, fun letters switching => ?_⟩
    rw [unlimited?, unlimited?, plain, switched letters switching, meaningOfRead?, meaningOfRead?,
      meaning_branching_flags, apply_switches_default switching.known]
    split
    · rw [Option.map_map, Option.map_map, depth_branching_flags (switches letters) []]
      rfl
    · rfl

end

/-! ## A group behind an anchor -/

/-- A pattern within a group that has to match from the start of the text. -/
def anchoredText (text : String) : String :=
  "\\A(?:" ++ text ++ ")"

theorem toList_anchoredText (text : String) : (anchoredText text).toList =
    '\\' :: 'A' :: '(' :: '?' :: ':' :: (text.toList ++ [')']) := by
  simp [anchoredText]

theorem readMove_anchor (text : List Char) :
    readMove ⟨'\\' :: 'A' :: text, false, []⟩ =
      some (.term (.assertion .textStart), ⟨text, false, []⟩) := rfl

theorem readMove_group (text : List Char) :
    readMove ⟨'(' :: '?' :: ':' :: text, false, []⟩ =
      some (.enter false [], ⟨text, false, []⟩) := rfl

/-- The group is entered, and closed where what it holds stops. -/
theorem parse?_anchoredText (text : String) : parse? (anchoredText text) =
    (parse? (text ++ ")")).bind fun (body, closed) =>
      if closed.head? = some ')' then
        readBranches (2 * closed.next.rest.length + 2) []
          [.group false [] body, .assertion .textStart] { closed.next with verbose := false }
      else none := by
  have skip (text : List Char) : (Source.mk text false []).skip = ⟨text, false, []⟩ := rfl
  have inner : (text ++ ")").toList = text.toList ++ [')'] := by simp
  have more : (text.toList ++ [')']).length < 2 * (text.toList ++ [')']).length + 2 := by omega
  unfold parse?
  rw [toList_anchoredText, readBranches_succ, skip, readMove_anchor, Option.bind_some]
  dsimp only [proceed]
  rw [readBranches_succ, skip, readMove_group, Option.bind_some]
  dsimp only [proceed]
  rw [inner, readBranches_fuel ⟨text.toList ++ [')'], false, []⟩ ?_ more]
  · refine Option.bind_congr fun found read => ?_
    obtain ⟨body, closed⟩ := found
    have inside := readBranches_leaves _ _ _ _ body closed read
    by_cases closing : closed.head? = some ')'
    · obtain ⟨rest, here⟩ := List.head?_eq_some_iff.mp closing
      rw [leaveGroup_closing here, if_pos closing]
      simp only [Source.next, here, List.tail_cons, List.length_append,
        List.length_cons] at inside ⊢
      refine readBranches_fuel _ ?_ ?_ _ _ <;> dsimp only <;> omega
    · rw [leaveGroup_other closing, if_neg closing]
  · simp only [List.length_cons]
    omega

def anchored (node : Node) : Node :=
  .seq (.look .textStart) (.seq node .empty)

theorem matchesIn_anchored (node : Node) (text : List Char) :
    (anchored node).matchesIn text = (node.firstEnd? (Spot.start text)).isSome := by
  rw [← matchesIn_textStart]
  exact matchesIn_congr (ends_seq_congr _ (ends_seq_empty node)) text

/-- The tree of an anchored group means what the group means, behind the anchor. -/
theorem meaning_anchoredTree (flags : Flags) (tree : Tree) (names : List String) :
    meaningOfRead? flags (readBranches 2 [] [.group false [] tree, .assertion .textStart]
        ⟨[], false, names⟩) =
      (tree.meaning? flags).map fun (node, _) => (tree.depth + 2, anchored node) := by
  have read : readBranches 2 [] [.group false [] tree, .assertion .textStart] ⟨[], false, names⟩ =
      some (.sequence [.assertion .textStart, .group false [] tree], ⟨[], false, names⟩) := rfl
  have depth : (Tree.sequence [.assertion .textStart, .group false [] tree]).depth =
      tree.depth + 2 := by
    simp [Tree.depth, Tree.deepest]
  rw [read, meaningOfRead?, if_pos List.isEmpty_nil, depth]
  simp only [Tree.meaning?, Tree.meaningOfTerms?, Option.bind_some]
  change (Option.map _ (Option.bind (Option.map _ (tree.meaning? flags)) _)).map _ = _
  cases tree.meaning? flags <;> rfl

theorem parse?_shut (text : String) : Agree AtEnd (parse? text) (parse? (text ++ ")")) := by
  have shut : (⟨(text ++ ")").toList, false, []⟩ : Source) =
      Source.shut ⟨text.toList, false, []⟩ := by
    simp [Source.shut]
  unfold parse?
  rw [shut]
  refine readBranches_shut (.inl rfl) ?_ ?_ [] []
  · dsimp only
    omega
  · have length : (text ++ ")").toList.length = text.toList.length + 1 := by simp
    simp only [Source.shut, length, List.length_append, List.length_singleton]
    omega

theorem unlimited?_of_unopened {text : String} (unopened : Unopened text) (flags : Flags) :
    unlimited? flags text = none := by
  obtain ⟨tree, after, read, more⟩ := unopened
  rw [unlimited?, read, meaningOfRead?, if_neg (by simpa using more)]

theorem unlimited?_anchoredText_of_comment {text : String} (comment : EndsInComment text)
    (flags : Flags) : unlimited? flags (anchoredText text) = none := by
  obtain ⟨-, tree, closed, read, nothing⟩ := comment
  rw [unlimited?, parse?_anchoredText, read, Option.bind_some]
  dsimp only
  rw [if_neg (by simp [Source.head?, nothing])]
  rfl

/-- A pattern that closes all its groups and does not end in a comment may be anchored as a
group. -/
theorem unlimited?_anchoredText {text : String} (opened : ¬Unopened text)
    (uncommented : ¬EndsInComment text) (flags : Flags) : unlimited? flags (anchoredText text) =
      (unlimited? flags text).map fun (depth, node) => (depth + 2, anchored node) := by
  have agree := parse?_shut text
  unfold unlimited?
  rw [parse?_anchoredText]
  cases read : parse? text with
  | none =>
      rw [read] at agree
      generalize parse? (text ++ ")") = found at agree ⊢
      cases agree with
      | none => rfl
      -- the parenthesis went into the pattern, and none is left to close the group
      | @late body closed ends =>
          rw [Option.bind_some]
          dsimp only
          rw [if_neg (by simp [Source.head?, show closed.rest = [] from ends])]
          rfl
  | some found =>
      obtain ⟨tree, after⟩ := found
      have whole : after.rest = [] := by
        by_contra more
        exact opened ⟨tree, after, read, more⟩
      rw [read] at agree
      cases shut : parse? (text ++ ")") with
      | none =>
          rw [shut] at agree
          cases agree
      | some found =>
          rw [shut] at agree
          cases agree with
          | @some _ _ closed alike =>
              rcases alike with rfl | ⟨-, rfl⟩
              · have last : (Source.shut after).rest = [')'] := rest_shut_nil whole
                rw [Option.bind_some]
                dsimp only
                rw [if_pos (by rw [Source.head?, last, List.head?_cons])]
                simp only [Source.next, last, List.tail_cons, List.length_nil]
                refine (meaning_anchoredTree flags tree _).trans ?_
                rw [meaningOfRead?, whole]
                cases tree.meaning? flags <;> rfl
              · exact absurd ⟨⟨tree, _, read, whole⟩, tree, _, shut, whole⟩ uncommented

end Reckon.Pattern
