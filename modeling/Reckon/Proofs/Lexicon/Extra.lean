import Reckon.Proofs.Lexicon.Source
import Reckon.Proofs.Pattern.Matches
import Reckon.Proofs.Pattern.Meaning

/-!
Tokens as matches of a regular expression.
-/

namespace Reckon

open Text (Spot)
open Pattern Node Lexeme

namespace Lexicon

/-! ## One token after another -/

section

variable {lexicon : Lexicon} {spot : Spot} {c : Char} {rest : List Char}

def scanFrom (lexicon : Lexicon) (spot : Spot) : List Lexeme :=
  lexicon.scan 0 spot.index spot.before spot.rest

theorem scanFrom_of_end (here : spot.rest = []) : lexicon.scanFrom spot = [] := by
  rw [scanFrom, here, scan]

theorem scan_skip (lexicon : Lexicon) (skipped : Nat) (spot : Spot) :
    lexicon.scan skipped spot.index spot.before spot.rest =
      lexicon.scanFrom (spot.advance skipped) := by
  induction skipped generalizing spot with
  | zero => rfl
  | succ skipped ih =>
      obtain ⟨index, before, text⟩ := spot
      cases text with
      | nil => rfl
      | cons c rest => exact ih (Spot.pass ⟨index, before, c :: rest⟩ c)

theorem scanFrom_of_none (unmatched : lexicon.token? spot = none) (here : spot.rest = c :: rest) :
    lexicon.scanFrom spot = lexicon.scanFrom (spot.pass c) := by
  obtain ⟨index, before, text⟩ := spot
  cases here
  rw [scanFrom, scan, unmatched]
  rfl

theorem scanFrom_of_some {kind : TokenKind} {length : Nat}
    (found : lexicon.token? spot = some (kind, length + 1)) (here : spot.rest = c :: rest) :
    lexicon.scanFrom spot =
      ⟨kind, spot.rest.take (length + 1)⟩ :: lexicon.scanFrom (spot.advance (length + 1)) := by
  obtain ⟨index, before, text⟩ := spot
  cases here
  rw [scanFrom, scan, found, Spot.advance_succ rfl, ← scan_skip]
  rfl

end

/-! ## Tokens and matches -/

/-- The length of the preferred match from a place, unless it is empty. -/
def width? (node : Node) (spot : Spot) : Option Nat :=
  (node.firstEnd? spot).bind fun last =>
    if last.index = spot.index then none else some (last.index - spot.index)

/-- Empty matches between the tokens neither swallow nor split a token: where the preferred match is
the token that starts there, the matches that are not empty are the tokens. -/
theorem filter_matchesFrom {lexicon : Lexicon} {node : Node}
    (agree : ∀ spot, (lexicon.token? spot).map Prod.snd = width? node spot) {fuel : Nat}
    {behindMatch : Bool} {spot : Spot}
    (enough : 2 * spot.rest.length + (if behindMatch then 0 else 1) < fuel) :
    ((node.matchesFrom fuel behindMatch spot).map Match.text).filter (!·.isEmpty) =
      (lexicon.scanFrom spot).map Lexeme.text := by
  -- the second number tells whether an empty match may still come at this place
  generalize measure : 2 * spot.rest.length + (if behindMatch then 0 else 1) = size at enough
  induction size using Nat.strong_induction_on generalizing fuel behindMatch spot with
  | _ size ih =>
    have onPass {c : Char} {rest : List Char} (here : spot.rest = c :: rest) :
        (((node.matchesFrom fuel false (spot.pass c)).map Match.text).filter (!·.isEmpty)) =
          (lexicon.scanFrom (spot.pass c)).map Lexeme.text := by
      have lengths : spot.rest.length = (spot.pass c).rest.length + 1 := by
        rw [Spot.rest_pass here, here, List.length_cons]
      refine ih (2 * (spot.pass c).rest.length + 1) ?_ rfl ?_ <;> split at measure <;> omega
    have token := agree spot
    unfold width? at token
    obtain ⟨fuel, rfl⟩ := Nat.exists_eq_add_one_of_ne_zero (Nat.ne_zero_of_lt enough)
    cases first : node.firstEnd? spot with
    | none =>
        rw [first, Option.bind_none, Option.map_eq_none_iff] at token
        cases here : spot.rest with
        | nil => rw [matchesFrom_of_end first here, scanFrom_of_end here]; rfl
        | cons c rest =>
            rw [matchesFrom_of_none first here, scanFrom_of_none token here]
            exact onPass here
    | some last =>
        have onward := onward_of_firstEnd? first
        rw [first, Option.bind_some] at token
        by_cases empty : last.index = spot.index
        · rw [if_pos empty, Option.map_eq_none_iff] at token
          cases onward.eq_of_index (.refl spot) empty
          cases behindMatch with
          | false =>
              have one : 2 * spot.rest.length + 1 = size := measure
              rw [matchesFrom_of_empty first, List.map_cons,
                List.filter_cons_of_neg (by simp [Match.text])]
              exact ih (2 * spot.rest.length) (by omega) rfl (by omega)
          | true =>
              cases here : spot.rest with
              | nil => rw [matchesFrom_behind_end first here, scanFrom_of_end here]; rfl
              | cons c rest =>
                  rw [matchesFrom_behind first here, scanFrom_of_none token here]
                  exact onPass here
        · rw [if_neg empty] at token
          obtain ⟨⟨kind, length⟩, found, same⟩ := Option.map_eq_some_iff.mp token
          have forward := onward.index_le
          have lengths := onward.index_add_length
          obtain ⟨count, positive⟩ := Nat.exists_eq_add_one_of_ne_zero
            (Nat.sub_ne_zero_of_lt (Nat.lt_of_le_of_ne forward (Ne.symm empty)))
          have behind := onward.eq_advance
          have long : length = count + 1 := same.trans positive
          rw [long] at found
          rw [positive] at behind
          obtain ⟨c, rest, here⟩ := List.exists_cons_of_length_pos
            (show 0 < spot.rest.length by omega)
          have further := @ih (2 * last.rest.length) (by omega) fuel true last rfl (by omega)
          rw [matchesFrom_of_some first empty, scanFrom_of_some found here, ← behind, List.map_cons,
            List.map_cons, ← further]
          refine List.filter_cons_of_pos ?_ |>.trans ?_
          · simp [Match.text, positive, here]
          · simp [Match.text, positive]

/-! ## The default alternation and an extra pattern behind it -/

def builtinNodes : List Node := earlierNodes ++ [spreadNode]

def builtinNode : Node := firstOf earlierNodes spreadNode

theorem read?_builtinSource :
    Tree.read? builtinSource =
      some (alternationOf (Written.spread :: Written.earlier.reverse)) := by
  have whole := Written.toList_builtinSource
  generalize builtinSource = text at whole
  obtain ⟨fuel, enough⟩ : ∃ fuel, 2 * text.toList.length + 2 = fuel + 40 := by
    have front := Written.length_earlierText
    rw [whole, List.length_append]
    exact Nat.exists_eq_add_of_le' (by omega)
  have read : readBranches (2 * text.toList.length + 2) [] [] ⟨text.toList, false, []⟩ =
      some (alternationOf (Written.spread :: Written.earlier.reverse), ⟨[], false, []⟩) := by
    rw [enough, whole]
    exact (Written.read_earlier fuel _).trans (Written.read_spread_end fuel _)
  exact read?_eq_some_iff.mpr ⟨_, read, rfl, by decide⟩

theorem compile?_builtinSource :
    Pattern.compile? builtinSource = some ⟨builtinSource, builtinNode⟩ := by
  refine compile?_eq_some_iff.mpr ⟨_, {}, read?_builtinSource, ?_, by decide +kernel, rfl⟩
  rw [meaning_alternationOf _ (List.cons_ne_nil _ _), List.reverse_cons, List.reverse_reverse,
    meaningOfBranches?_append Written.meaning_earlier (List.cons_ne_nil _ _),
    Tree.meaningOfBranches?, Written.meaning_spread]
  rfl

/-- An extra pattern becomes the last alternative, whatever it is. -/
theorem meaning_sourceWith {extra : String} {tree branch : Tree}
    (whole : Tree.read? (sourceWith extra) = some tree) (alone : Tree.read? extra = some branch) :
    tree.meaning? {} =
      (branch.meaning? {}).map fun (node, flags) => (firstOf builtinNodes node, flags) := by
  obtain ⟨after, whole, -, -⟩ := read?_eq_some_iff.mp whole
  obtain ⟨behind, alone, -, -⟩ := read?_eq_some_iff.mp alone
  have text : (sourceWith extra).toList =
      Written.earlierText ++ (Written.spreadText ++ '|' :: extra.toList) := by
    simp [sourceWith, Written.toList_builtinSource]
  have front := Written.length_earlierText
  obtain ⟨fuel, enough⟩ : ∃ fuel, 2 * (sourceWith extra).toList.length + 2 = fuel + 40 := by
    refine Nat.exists_eq_add_of_le' ?_
    rw [text, List.length_append]
    omega
  have long : extra.toList.length < fuel := by
    rw [text, List.length_append, List.length_append, List.length_cons] at enough
    omega
  have short : extra.toList.length < 2 * extra.toList.length + 2 := by omega
  rw [enough, text, Written.read_builtin] at whole
  rw [readBranches_fuel ⟨extra.toList, false, []⟩ short long] at alone
  have known : (Written.earlier ++ [Written.spread]).map (Tree.meaning? {}) =
      builtinNodes.map fun node => some (node, {}) := by
    rw [List.map_append, Written.meaning_earlier, builtinNodes, List.map_append, List.map_singleton,
      Written.meaning_spread, List.map_singleton]
  rcases readBranches_frame fuel [] ⟨extra.toList, false, []⟩ with unread | ⟨later, first, last, read⟩
  · cases alone.symm.trans (unread [] [] bare_nil)
  · cases alone.symm.trans (read [] [] bare_nil)
    cases whole.symm.trans (read _ [] bare_nil)
    rw [meaning_alternationOf _ (by simp), meaning_alternationOf _ (by simp)]
    have parts : (later ++ Tree.ofTerms (first ++ []).reverse :: Written.spread ::
        Written.earlier.reverse).reverse = (Written.earlier ++ [Written.spread]) ++
          (later ++ [Tree.ofTerms (first ++ []).reverse]).reverse := by simp
    rw [parts, meaningOfBranches?_append known (by simp)]

theorem node_of_compile? {extra : String} {composed pattern : Pattern}
    (whole : Pattern.compile? (sourceWith extra) = some composed)
    (alone : Pattern.compile? extra = some pattern) :
    composed.node = firstOf builtinNodes pattern.node := by
  obtain ⟨tree, flags, whole, meaning, -, -⟩ := compile?_eq_some_iff.mp whole
  obtain ⟨branch, last, alone, inside, -, -⟩ := compile?_eq_some_iff.mp alone
  rw [meaning_sourceWith whole alone, inside] at meaning
  exact (congrArg Prod.fst (Option.some.inj meaning)).symm

/-- An extra pattern is accepted if it is well formed behind the built-in tokens and neither too
large with them nor without them. -/
theorem withPattern?_of_fits {extra : String} {branch : Tree} {node : Node} {flags : Flags}
    (whole : (Tree.read? (sourceWith extra)).isSome = true) (alone : Tree.read? extra = some branch)
    (meaning : branch.meaning? {} = some (node, flags)) (fits : node.fits = true)
    (small : (firstOf builtinNodes node).fits = true) :
    withPattern? (some extra) = some ⟨some ⟨extra, node⟩⟩ := by
  obtain ⟨tree, whole⟩ := Option.isSome_iff_exists.mp whole
  have composed : Pattern.compile? (sourceWith extra) =
      some ⟨sourceWith extra, firstOf builtinNodes node⟩ := by
    refine compile?_eq_some_iff.mpr ⟨tree, flags, whole, ?_, small, rfl⟩
    rw [meaning_sourceWith whole alone, meaning]
    rfl
  have pattern : Pattern.compile? extra = some ⟨extra, node⟩ :=
    compile?_eq_some_iff.mpr ⟨branch, flags, alone, meaning, fits, rfl⟩
  rw [withPattern?, composed, pattern]
  rfl

theorem firstEnd?_builtinNode (spot : Spot) : builtinNode.firstEnd? spot =
    (builtin? spot.before spot.rest).map fun found => spot.advance found.2 := by
  rw [← firstEnd?_builtin, builtinNode, firstEnd?_firstOf, List.findSome?_append]
  congr 1
  rw [List.findSome?_cons]
  cases spreadNode.firstEnd? spot <;> rfl

theorem firstEnd?_composed (node : Node) (spot : Spot) :
    (firstOf builtinNodes node).firstEnd? spot =
      (builtinNode.firstEnd? spot).or (node.firstEnd? spot) := by
  rw [firstEnd?_firstOf, builtinNodes, firstEnd?_builtin, firstEnd?_builtinNode]

theorem width?_advance {node : Node} {spot : Spot} {kind : TokenKind} {length : Nat}
    (found : builtin? spot.before spot.rest = some (kind, length))
    (first : node.firstEnd? spot = some (spot.advance length)) :
    width? node spot = some length := by
  obtain ⟨positive, inside⟩ := builtin?_bounds found
  rw [width?, first, Option.bind_some, Spot.index_advance spot inside, if_neg (by omega),
    Nat.add_sub_cancel_left]

theorem token?_builtin_eq (spot : Spot) :
    (builtin.token? spot).map Prod.snd = width? builtinNode spot := by
  have first := firstEnd?_builtinNode spot
  cases found : builtin? spot.before spot.rest with
  | some token =>
      rw [found] at first
      rw [width?_advance found first, token?, found]
      rfl
  | none =>
      rw [found] at first
      rw [width?, first, token?, found]
      rfl

/-- The token that starts at a place is the preferred match there, unless that is empty. -/
theorem token?_extra_eq (pattern : Pattern) (spot : Spot) :
    ((Lexicon.mk (some pattern)).token? spot).map Prod.snd =
      width? (firstOf builtinNodes pattern.node) spot := by
  have first := firstEnd?_composed pattern.node spot
  rw [firstEnd?_builtinNode] at first
  cases found : builtin? spot.before spot.rest with
  | some token =>
      rw [found] at first
      rw [width?_advance found first, token?, found]
      rfl
  | none =>
      rw [found, Option.map_none, Option.none_or] at first
      rw [width?, first, token?, found]
      dsimp only [extraLength]
      cases extra : pattern.node.firstEnd? spot with
      | none => rfl
      | some last =>
          have forward := (onward_of_firstEnd? extra).index_le
          rw [Option.bind_some]
          dsimp only
          by_cases empty : last.index = spot.index
          · simp [empty]
          · obtain ⟨count, long⟩ := Nat.exists_eq_add_one_of_ne_zero
              (show last.index - spot.index ≠ 0 by omega)
            simp [empty, long]

theorem tokens_eq_findTexts {lexicon : Lexicon} {node : Node}
    (agree : ∀ spot, (lexicon.token? spot).map Prod.snd = width? node spot) (text : String) :
    lexicon.tokens text = node.findTexts text := by
  rw [tokens, findTexts, findAll, filter_matchesFrom agree (by simp [Spot.start]), List.map_map]
  rfl

/-- Lexicons that find the same tokens from each place of a text scan it alike. -/
theorem scan_congr {lexicon other : Lexicon} {skipped index : Nat} {before : Option Char}
    {text : List Char}
    (same : ∀ spot ∈ Spot.onwardFrom index before text, lexicon.token? spot = other.token? spot) :
    lexicon.scan skipped index before text = other.scan skipped index before text := by
  induction text generalizing skipped index before with
  | nil => cases skipped <;> rfl
  | cons c rest ih =>
      obtain ⟨here, behind⟩ := List.forall_mem_cons.mp same
      cases skipped with
      | succ skipped => exact ih behind
      | zero =>
          rw [scan, scan, here]
          split
          · rw [ih behind]
          · exact ih behind

theorem nonempty_of_mem_findTexts {node : Node} {text token : String}
    (member : token ∈ node.findTexts text) : token ≠ "" := by
  obtain ⟨letters, inside, rfl⟩ := List.mem_map.mp member
  have nonempty := (List.mem_filter.mp inside).2
  rintro empty
  have nothing := String.ofList_eq_empty_iff.mp empty
  simp [nothing] at nonempty

/-- How a lexicon with an extra pattern relates to the default tokens.  Both are matches of a
regular expression: that of the default tokens, and the one `composed` of it and the extra
pattern. -/
structure TriedLast (lexicon : Lexicon) (default composed extra : Pattern) : Prop where
  builtin_tokens : ∀ text, builtin.tokens text = default.node.findTexts text
  tokens : ∀ text, lexicon.tokens text = composed.node.findTexts text
  /-- Where a default token starts, nothing else does. -/
  keeps : ∀ text : String, ∀ found ∈ composed.node.findAll text.toList, ∀ last,
    default.node.firstEnd? found.start = some last → found.last = last
  nonempty : ∀ text, ∀ token ∈ lexicon.tokens text, token ≠ ""
  /-- In a text in which the extra pattern only has empty matches it changes nothing. -/
  idle : ∀ text : String,
    (∀ spot ∈ Spot.all text.toList, ∀ last, extra.node.firstEnd? spot = some last →
      last.index = spot.index) →
    lexicon.tokens text = builtin.tokens text

/-- An extra pattern never overrides the built-in tokens, however it is written. -/
theorem triedLast_of_withPattern? {extra : String} {lexicon : Lexicon}
    (found : withPattern? (some extra) = some lexicon) :
    ∃ default composed pattern, Pattern.compile? builtinSource = some default ∧
      Pattern.compile? (sourceWith extra) = some composed ∧
      Pattern.compile? extra = some pattern ∧ TriedLast lexicon default composed pattern := by
  obtain ⟨composed, whole, found⟩ := Option.bind_eq_some_iff.mp found
  obtain ⟨pattern, alone, rfl⟩ := Option.map_eq_some_iff.mp found
  have node := node_of_compile? whole alone
  have tokens (text : String) :
      (Lexicon.mk (some pattern)).tokens text = composed.node.findTexts text := by
    rw [node]
    exact tokens_eq_findTexts (token?_extra_eq pattern) text
  refine ⟨_, composed, pattern, compile?_builtinSource, whole, alone, ?_⟩
  constructor
  case builtin_tokens => exact tokens_eq_findTexts token?_builtin_eq
  case tokens => exact tokens
  case keeps =>
    intro text found member last first
    have preferred := firstEnd?_of_mem_matchesFrom member
    rw [node, firstEnd?_composed, first, Option.some_or] at preferred
    exact (Option.some.inj preferred).symm
  case nonempty =>
    intro text token member
    exact nonempty_of_mem_findTexts (tokens text ▸ member)
  case idle =>
    intro text empty
    have same : ∀ spot ∈ Spot.onwardFrom 0 none text.toList,
        (Lexicon.mk (some pattern)).token? spot = builtin.token? spot := by
      intro spot inside
      have nothing : (Lexicon.mk (some pattern)).extraLength spot = 0 := by
        dsimp only [extraLength]
        split
        · rename_i last first
          rw [empty spot inside last first, Nat.sub_self]
        · rfl
      rw [token?, token?, nothing]
      rfl
    rw [Lexicon.tokens, Lexicon.tokens, lexemes, lexemes, scan_congr same]

theorem triedLast_of_withPattern?_ampersands : ∃ lexicon default composed pattern,
    withPattern? (some "&&|x*") = some lexicon ∧
      Pattern.compile? builtinSource = some default ∧
      Pattern.compile? (sourceWith "&&|x*") = some composed ∧
      Pattern.compile? "&&|x*" = some pattern ∧ TriedLast lexicon default composed pattern := by
  have alone : Tree.read? "&&|x*" = some (.alternation
      [.sequence [.literal '&' false, .literal '&' false],
        .repetition 0 none true (.literal 'x' false)]) := by cbv
  have found := withPattern?_of_fits (by decide +kernel) alone rfl (by decide +kernel)
    (by decide +kernel)
  obtain ⟨default, composed, pattern, parts⟩ := triedLast_of_withPattern? found
  exact ⟨_, default, composed, pattern, found, parts⟩

end Lexicon

end Reckon
