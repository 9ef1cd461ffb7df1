import Reckon.Proofs.Pattern.Moves

/-!
Readers take from the front of a pattern; every move but the last one takes something, so that there
is always enough fuel.
-/

namespace Reckon.Pattern

def Leaves {α : Type} (most : Nat) (taken : Taken α) : Prop :=
  ∀ a after, taken = some (a, after) → after.rest.length ≤ most

namespace Leaves

variable {α β : Type} {taken : Taken α} {most more : Nat}

theorem none : Leaves most (Option.none : Taken α) := nofun

theorem pair {found : α × Source} (less : found.2.rest.length ≤ most) :
    Leaves most (Option.some found) := by
  intro b other same
  cases same
  exact less

theorem some {a : α} {after : Source} (less : after.rest.length ≤ most) :
    Leaves most (Option.some (a, after)) :=
  .pair less

theorem mono (leaves : Leaves most taken) (less : most ≤ more) : Leaves more taken :=
  fun a after same => Nat.le_trans (leaves a after same) less

theorem bind {next : α × Source → Taken β} (leaves : Leaves most taken)
    (further : ∀ a after, after.rest.length ≤ most → Leaves more (next (a, after))) :
    Leaves more (taken.bind next) := by
  intro b last same
  obtain ⟨⟨a, after⟩, first, second⟩ := Option.bind_eq_some_iff.mp same
  exact further a after (leaves a after first) b last second

theorem map {next : α × Source → β × Source} (leaves : Leaves most taken)
    (further : ∀ a after, after.rest.length ≤ most → (next (a, after)).2.rest.length ≤ more) :
    Leaves more (taken.map next) := by
  intro b last same
  obtain ⟨⟨a, after⟩, first, second⟩ := Option.map_eq_some_iff.mp same
  have less := further a after (leaves a after first)
  rw [second] at less
  exact less

theorem map_value {value? : Option α} {value : α → β} {after : Source}
    (less : after.rest.length ≤ most) : Leaves most (value?.map fun a => (value a, after)) := by
  intro b last same
  obtain ⟨a, -, second⟩ := Option.map_eq_some_iff.mp same
  cases second
  exact less

end Leaves

/-! ## What readers leave -/

section

variable (source : Source)

theorem length_skipVerbose_le (comment : Bool) (text : List Char) :
    (Source.skipVerbose comment text).length ≤ text.length := by
  fun_induction Source.skipVerbose comment text <;> simp <;> omega

theorem length_skip_le : source.skip.rest.length ≤ source.rest.length := by
  unfold Source.skip
  split
  · exact length_skipVerbose_le false source.rest
  · exact Nat.le_refl _

theorem length_next : source.next.rest.length = source.rest.length - 1 := List.length_tail

theorem length_nextSkip_le : source.nextSkip.rest.length ≤ source.rest.length - 1 :=
  Nat.le_trans (length_skip_le source.next) (Nat.le_of_eq (length_next source))

theorem length_takeSkipping_le (test : Char → Bool) (fuel : Nat) (taken : List Char) :
    (takeSkipping test fuel taken source).2.rest.length ≤ source.rest.length := by
  induction fuel generalizing taken source with
  | zero => exact Nat.le_refl _
  | succ fuel ih =>
      unfold takeSkipping
      split
      · split
        · have less := ih source.nextSkip
          have skipped := length_nextSkip_le source
          exact Nat.le_trans (less _) (by omega)
        · exact Nat.le_refl _
      · exact Nat.le_refl _

theorem readCount_leaves : Leaves source.rest.length (readCount source) := by
  unfold readCount
  have blanks := (List.dropWhile_sublist Text.isBlank (l := source.rest)).length_le
  have figures := length_takeSkipping_le { source with rest := source.rest.dropWhile Text.isBlank }
    Char.isDigit (source.rest.dropWhile Text.isBlank).length []
  dsimp only at figures ⊢
  generalize takeSkipping Char.isDigit _ [] _ = taken at figures ⊢
  have last := length_takeSkipping_le taken.2 Text.isBlank taken.2.rest.length []
  split
  · exact .some (by omega)
  · split
    · exact .some (by omega)
    · exact .none

theorem readHexDigits_leaves (count : Nat) (figures : List Char) :
    Leaves source.rest.length (readHexDigits count figures source) := by
  induction count generalizing figures source with
  | zero => exact .some (Nat.le_refl _)
  | succ count ih =>
      unfold readHexDigits
      split
      · split
        · have skipped := length_nextSkip_le source
          exact (ih source.nextSkip _).mono (by omega)
        · exact .none
      · exact .none

theorem readHex_leaves (width : Nat) : Leaves source.rest.length (readHex width source) := by
  unfold readHex
  split
  · exact .none
  · have inner := length_nextSkip_le source
    have last := length_takeSkipping_le source.nextSkip (· != '\x7d') source.rest.length []
    dsimp only
    split
    · exact .none
    · refine .map_value ?_
      have closed := length_nextSkip_le
        (takeSkipping (· != '\x7d') source.rest.length [] source.nextSkip).2
      omega
  · exact (readHexDigits_leaves source width []).bind fun digits after less => .map_value less

theorem readProperty_leaves : Leaves (source.rest.length - 1) (readProperty source) := by
  unfold readProperty
  split
  · exact .none
  · exact .none
  · have inner := length_nextSkip_le source
    have last := length_takeSkipping_le source.nextSkip (· != '\x7d') source.rest.length []
    dsimp only
    split
    · exact .none
    · refine .some ?_
      rw [length_next]
      omega
  · exact .some (length_nextSkip_le source)

theorem readWordAssertion_leaves : Leaves source.rest.length (readWordAssertion source) := by
  unfold readWordAssertion
  dsimp only
  split
  · exact .none
  · split
    · exact .some (Nat.le_refl _)
    · have inner := length_nextSkip_le source
      have last := length_takeSkipping_le source.nextSkip (fun c => c.isAlpha || decide (c = '-'))
        source.nextSkip.rest.length []
      have closed := Nat.sub_le
        (takeSkipping (fun c => c.isAlpha || decide (c = '-')) source.nextSkip.rest.length []
          source.nextSkip).2.rest.length 1
      rw [← length_next] at closed
      split <;> first | exact .none | exact .some (by omega)

theorem readEscape_leaves : Leaves (source.rest.length - 1) (readEscape source) := by
  unfold readEscape
  have inner := length_nextSkip_le source
  have hex (width : Nat) := (readHex_leaves source.nextSkip width).mono inner
  have property := (readProperty_leaves source.nextSkip).mono
    (Nat.le_trans (Nat.sub_le _ _) inner)
  split
  · exact .none
  · rename_i c rest here
    have after : rest.length ≤ source.rest.length - 1 := by rw [here]; exact Nat.le_refl _
    dsimp only
    split
    · exact (hex 2).map fun _ _ less => less
    · exact (hex 4).map fun _ _ less => less
    · exact (hex 8).map fun _ _ less => less
    · exact property.map fun _ _ less => less
    · exact property.map fun _ _ less => less
    all_goals first | exact .some after | skip
    · split
      · exact ((readWordAssertion_leaves { source with rest }).mono after).map fun _ _ less => less
      · exact .some after
    · split
      · exact .some after
      · exact .none

theorem readClassItem_leaves : Leaves (source.rest.length - 1) (readClassItem source) := by
  unfold readClassItem
  split
  · exact .none
  · rename_i rest here
    rw [here]
    exact (readEscape_leaves { source with rest }).mono (Nat.sub_le _ _)
  · rename_i c rest _ here
    rw [here]
    exact .some (Nat.le_refl _)

theorem readClassRange_leaves : Leaves (source.rest.length - 1) (readClassRange source) := by
  unfold readClassRange
  refine (readClassItem_leaves source).bind fun first after less => ?_
  have skipped := length_skip_le after
  dsimp only
  split
  · exact .none
  · split
    · refine .map_value ?_
      omega
    · have inner := length_nextSkip_le after.skip
      refine (readClassItem_leaves after.skip.nextSkip).bind fun last end_ less => ?_
      dsimp only
      split
      · split
        · exact .some (by omega)
        · exact .none
      · exact .none

theorem length_drop?_le {source : Source} {text : String} {after : Source}
    (found : source.drop? text = some after) :
    after.rest.length ≤ source.rest.length - text.toList.length := by
  unfold Source.drop? at found
  split at found
  · cases found
    exact Nat.le_of_eq List.length_drop
  · cases found

theorem readAsciiClass?_leaves : Leaves (source.rest.length - 1) (readAsciiClass? source) := by
  intro tree last read
  unfold readAsciiClass? at read
  obtain ⟨inner, opened, read⟩ := Option.bind_eq_some_iff.mp read
  have first := length_drop?_le opened
  have mark : "[:".toList.length = 2 := by decide
  have most : inner.rest.length ≤ source.rest.length - 1 := by omega
  have named (start : Source) (less : start.rest.length ≤ inner.rest.length) (negated : Bool)
      (read : (({ start with rest := start.rest.drop (start.rest.takeWhile (· != ':')).length } :
        Source).drop? ":]").bind (fun after => (asciiClassOfName?
          (String.ofList (start.rest.takeWhile (· != ':')))).map fun kind =>
            (ClassTree.ascii kind negated, after)) = some (tree, last)) :
      last.rest.length ≤ source.rest.length - 1 := by
    obtain ⟨after, closed, read⟩ := Option.bind_eq_some_iff.mp read
    have second := length_drop?_le closed
    obtain ⟨kind, -, same⟩ := Option.map_eq_some_iff.mp read
    cases same
    dsimp only at second
    rw [List.length_drop] at second
    omega
  cases caret : inner.drop? "^" with
  | none =>
      simp only [caret] at read
      exact named inner (Nat.le_refl _) false read
  | some rest =>
      simp only [caret] at read
      exact named rest (Nat.le_trans (length_drop?_le caret) (Nat.sub_le _ _)) true read

theorem length_readLeadingHyphens_le (fuel : Nat) (items : List ClassTree) :
    (readLeadingHyphens fuel items source).2.rest.length ≤ source.rest.length := by
  induction fuel generalizing items source with
  | zero => exact Nat.le_refl _
  | succ fuel ih =>
      unfold readLeadingHyphens
      split
      · have skipped := length_nextSkip_le source
        exact Nat.le_trans (ih _ _) (by omega)
      · exact Nat.le_refl _

theorem readClassOpening_leaves : Leaves source.rest.length (readClassOpening source) := by
  unfold readClassOpening
  have skipped := length_skip_le source
  have sign : (if source.skip.head? = some '^' then (true, source.skip.nextSkip)
      else (false, source.skip)).2.rest.length ≤ source.rest.length := by
    have inner := length_nextSkip_le source.skip
    split
    · dsimp only
      omega
    · exact skipped
  dsimp only
  generalize (if source.skip.head? = some '^' then (true, source.skip.nextSkip)
      else (false, source.skip)) = signed at sign ⊢
  have hyphens := length_readLeadingHyphens_le signed.2 signed.2.rest.length []
  split
  · exact .none
  · split
    · have inner := length_nextSkip_le (readLeadingHyphens signed.2.rest.length [] signed.2).2
      split
      · exact .none
      · exact .some (by omega)
    · exact .some (by omega)

theorem readClassRest_leaves (fuel : Nat) (waiting : Option (ClassOperation × ClassTree))
    (items : List ClassTree) :
    Leaves (source.rest.length - 1) (readClassRest fuel waiting items source) := by
  induction fuel generalizing waiting items source with
  | zero => exact .none
  | succ fuel ih =>
      unfold readClassRest
      have skipped := length_skip_le source
      have two : source.skip.next.next.rest.length ≤ source.skip.rest.length := by
        rw [length_next, length_next]
        omega
      dsimp only
      split
      · exact .none
      · rename_i rest here
        refine .some ?_
        rw [here, List.length_cons] at skipped
        dsimp only
        omega
      · exact (ih source.skip.next.next _ _).mono (by omega)
      · exact (ih source.skip.next.next _ _).mono (by omega)
      · exact (ih source.skip.next.next _ _).mono (by omega)
      · rename_i rest here
        rw [here, List.length_cons] at skipped
        split
        · rename_i item after found
          have less := readAsciiClass?_leaves source.skip item after found
          rw [here, List.length_cons] at less
          exact (ih after _ _).mono (by omega)
        · refine (readClassOpening_leaves { source.skip with rest }).bind
            fun opening inner less => ?_
          refine (ih inner _ _).bind fun inside after less => ?_
          dsimp only at *
          exact (ih after _ _).mono (by omega)
      · refine (readClassRange_leaves source.skip).bind fun item after less => ?_
        exact (ih after _ _).mono (by omega)

theorem readClass_leaves : Leaves source.rest.length (readClass source) := by
  refine (readClassOpening_leaves source).bind fun opening inner less => ?_
  exact (readClassRest_leaves inner _ _ _).map fun inside after less => by dsimp only; omega

theorem length_readFlags_le {text : List Char} {negating dangling : Bool} {changes : FlagChanges}
    {found : FlagChanges × List Char}
    (read : readFlags text negating dangling changes = some found) :
    found.2.length ≤ text.length := by
  induction text generalizing negating dangling changes with
  | nil => cases read
  | cons c rest ih =>
      unfold readFlags at read
      split at read
      · split at read
        · cases read
        · cases read
          exact Nat.le_refl _
      · split at read
        · split at read
          · cases read
          · exact Nat.le_succ_of_le (ih read)
        · obtain ⟨flag, -, read⟩ := Option.bind_eq_some_iff.mp read
          split at read
          · cases read
          · exact Nat.le_succ_of_le (ih read)

theorem length_readGroupName_le {source after : Source} (read : readGroupName source = some after) :
    after.rest.length ≤ source.rest.length := by
  unfold readGroupName at read
  dsimp only at read
  split at read
  · cases read
  · rename_i c rest here
    have less : (c :: rest).length ≤ source.rest.length := by
      rw [← here, List.length_drop]
      exact Nat.sub_le _ _
    split at read
    · cases read
    · split at read
      · cases read
        exact Nat.le_of_succ_le less
      · cases read

theorem readOpening_leaves : Leaves source.rest.length (readOpening source) := by
  unfold readOpening
  have skipped := length_skip_le source
  dsimp only
  split
  · exact .none
  · split
    · rename_i named found
      have less : named.rest.length ≤ source.skip.rest.length := by
        cases long : source.skip.drop? "?P<" with
        | some other =>
            rw [long] at found
            cases found
            exact Nat.le_trans (length_drop?_le long) (Nat.sub_le _ _)
        | none =>
            rw [long] at found
            exact Nat.le_trans (length_drop?_le found) (Nat.sub_le _ _)
      intro opening after read
      obtain ⟨last, closed, same⟩ := Option.map_eq_some_iff.mp read
      cases same
      have further := length_readGroupName_le closed
      omega
    · split
      · exact .some skipped
      · rename_i marked found
        have less := Nat.le_trans (length_drop?_le found) (Nat.sub_le _ _)
        intro opening after read
        obtain ⟨⟨changes, rest⟩, flags, read⟩ := Option.bind_eq_some_iff.mp read
        have further := length_readFlags_le flags
        dsimp only at read further
        split at read
        · split at read
          · cases read
          · cases read
            rw [List.length_cons] at further
            dsimp only
            omega
        · cases read
          rw [List.length_tail]
          omega

theorem readBounds_leaves : Leaves source.rest.length (readBounds source) := by
  unfold readBounds
  refine (readCount_leaves source).bind fun least after less => ?_
  dsimp only
  split
  · exact .some less
  · have inner := length_nextSkip_le after
    split
    · exact .none
    · exact .some (by omega)
    · refine (readCount_leaves after.nextSkip).bind fun most last less => ?_
      dsimp only
      split
      · split
        · exact .some (by omega)
        · exact .none
      · exact .none
  · exact .none

theorem length_readGreed_le : (readGreed source).2.rest.length ≤ source.rest.length := by
  unfold readGreed
  split
  · exact Nat.le_trans (Nat.le_of_eq (length_next source)) (Nat.sub_le _ _)
  · exact Nat.le_refl _

theorem readTerm_leaves : Leaves (source.rest.length - 1) (readTerm source) := by
  unfold readTerm
  split
  · exact .none
  · rename_i rest here
    rw [here]
    refine ((readEscape_leaves { source with rest }).mono (Nat.sub_le _ _)).map ?_
    intro escape after less
    dsimp only
    split <;> exact less
  all_goals
    rename_i here
    rw [here]
    exact .some (Nat.le_refl _)

theorem readMove_leaves {c : Char} {rest : List Char} (here : source.rest = c :: rest)
    (other : c ≠ ')') : Leaves rest.length (readMove source) := by
  have tail {d : Char} {text : List Char} (same : source.rest = d :: text) : rest = text := by
    cases here.symm.trans same
    rfl
  unfold readMove
  split <;> rename_i same
  · cases here.symm.trans same
  · cases here.symm.trans same
    exact absurd rfl other
  · rw [tail same]
    exact .some (Nat.le_refl _)
  · rw [tail same]
    refine (readOpening_leaves _).map fun opening inner less => ?_
    cases opening <;> exact less
  · rw [tail same]
    exact (readClass_leaves _).map fun _ _ less => less
  · rw [tail same]
    exact .pair (length_readGreed_le _)
  · rw [tail same]
    exact .pair (length_readGreed_le _)
  · rw [tail same]
    exact .pair (length_readGreed_le _)
  · have inner := length_nextSkip_le source
    rw [here, List.length_cons] at inner
    refine ((readBounds_leaves source.nextSkip).mono inner).map fun bounds after less => ?_
    have further := length_nextSkip_le after
    exact Nat.le_trans (length_readGreed_le after.nextSkip) (by omega)
  · have term := readTerm_leaves source
    rw [here] at term
    exact term.map fun _ _ less => less

theorem readMove_cases (source : Source) : readMove source = some (.stop, source) ∨
    0 < source.rest.length ∧ Leaves (source.rest.length - 1) (readMove source) := by
  cases here : source.rest with
  | nil => exact .inl (by simp only [readMove, here])
  | cons c rest =>
      by_cases closing : c = ')'
      · exact .inl (by simp only [readMove, here, closing])
      · exact .inr ⟨Nat.succ_pos _, readMove_leaves source here closing⟩

theorem length_readMove_lt {source after : Source} {move : Move}
    (read : readMove source.skip = some (move, after)) (moved : move ≠ .stop) :
    after.rest.length < source.rest.length := by
  have skipped := length_skip_le source
  rcases readMove_cases source.skip with stop | ⟨positive, leaves⟩
  · rw [stop] at read
    cases read
    exact absurd rfl moved
  · have shorter := leaves _ _ read
    omega

theorem readBranches_leaves (fuel : Nat) (branches terms : List Tree) :
    Leaves source.rest.length (readBranches fuel branches terms source) := by
  induction fuel generalizing branches terms source with
  | zero => exact .none
  | succ fuel ih =>
      intro tree last found
      rw [readBranches_succ] at found
      obtain ⟨⟨move, after⟩, read, found⟩ := Option.bind_eq_some_iff.mp found
      have skipped := length_skip_le source
      have less : after.rest.length ≤ source.rest.length := by
        rcases readMove_cases source.skip with stop | ⟨-, leaves⟩
        · rw [stop] at read
          cases read
          exact skipped
        · have shorter := leaves _ _ read
          omega
      cases move with
      | stop => cases found; exact less
      | branch | switch | term => exact Nat.le_trans (ih after _ _ _ _ found) less
      | again =>
          obtain ⟨terms, -, found⟩ := Option.bind_eq_some_iff.mp found
          exact Nat.le_trans (ih after _ _ _ _ found) less
      | enter remembered changes =>
          obtain ⟨⟨body, closed⟩, inner, found⟩ := Option.bind_eq_some_iff.mp found
          have inside := ih after _ _ _ _ inner
          by_cases closing : closed.head? = some ')'
          · obtain ⟨rest, here⟩ := List.head?_eq_some_iff.mp closing
            rw [leaveGroup_closing here] at found
            rw [here, List.length_cons] at inside
            have behind := ih _ _ _ _ _ found
            dsimp only at behind
            omega
          · rw [leaveGroup_other closing] at found
            cases found

theorem readBranches_fuel {fuel other : Nat} (enough : source.rest.length < fuel)
    (more : source.rest.length < other) (branches terms : List Tree) :
    readBranches fuel branches terms source = readBranches other branches terms source := by
  induction fuel generalizing other branches terms source with
  | zero => cases enough
  | succ fuel ih =>
      obtain ⟨other, rfl⟩ := Nat.exists_eq_add_one_of_ne_zero (Nat.ne_zero_of_lt more)
      rw [readBranches_succ, readBranches_succ]
      refine Option.bind_congr fun found read => ?_
      obtain ⟨move, after⟩ := found
      have same (next : Source) (less : next.rest.length ≤ after.rest.length) (moved : move ≠ .stop)
          (branches terms : List Tree) :
          readBranches fuel branches terms next = readBranches other branches terms next := by
        have shorter := length_readMove_lt read moved
        exact ih next (by omega) (by omega) branches terms
      have here (moved : move ≠ .stop) := same after (Nat.le_refl _) moved
      cases move with
      | stop => rfl
      | branch | switch | term => exact here nofun _ _
      | again => exact Option.bind_congr fun terms _ => here nofun _ _
      | enter remembered changes =>
          dsimp only [proceed]
          rw [here nofun]
          refine Option.bind_congr fun found inner => ?_
          obtain ⟨body, closed⟩ := found
          have inside := readBranches_leaves after other [] [] body closed inner
          by_cases closing : closed.head? = some ')'
          · obtain ⟨rest, front⟩ := List.head?_eq_some_iff.mp closing
            rw [front, List.length_cons] at inside
            rw [leaveGroup_closing front, leaveGroup_closing front]
            exact same _ (Nat.le_of_succ_le inside) nofun _ _
          · rw [leaveGroup_other closing, leaveGroup_other closing]

end

end Reckon.Pattern
