import Reckon.Proofs.Pattern.ShutClass

/-!
Whole patterns with a closing parenthesis behind them.  A pattern that is read to its end is read
alike with the parenthesis behind it, unless it ends in a comment, which swallows the parenthesis.
-/

namespace Reckon.Pattern

section

variable {source shut : Source}

/-- Flags are read alike; where none end, the parenthesis ends them. -/
theorem readFlags_shut (text : List Char) (negating dangling : Bool) (changes : FlagChanges) :
    (∃ found c rest, readFlags text negating dangling changes = some (found, c :: rest) ∧
        readFlags (text ++ [')']) negating dangling changes = some (found, c :: (rest ++ [')']))) ∨
      (readFlags text negating dangling changes = none ∧
        (readFlags (text ++ [')']) negating dangling changes = none ∨
          ∃ found, readFlags (text ++ [')']) negating dangling changes = some (found, [')']))) := by
  induction text generalizing negating dangling changes with
  | nil =>
      refine .inr ⟨rfl, ?_⟩
      cases dangling with
      | false => exact .inr ⟨changes.reverse, rfl⟩
      | true => exact .inl rfl
  | cons c rest ih =>
      rw [List.cons_append, readFlags, readFlags]
      split
      · split
        · exact .inr ⟨rfl, .inl rfl⟩
        · exact .inl ⟨_, _, _, rfl, rfl⟩
      · split
        · split
          · exact .inr ⟨rfl, .inl rfl⟩
          · exact ih ..
        · cases flagOfChar? c with
          | none => exact .inr ⟨rfl, .inl rfl⟩
          | some flag =>
              rw [Option.bind_some, Option.bind_some]
              split
              · exact .inr ⟨rfl, .inl rfl⟩
              · exact ih ..

theorem readGroupName_shut {α : Type} (alike : Alike source shut) (a : α) :
    Agree Never ((readGroupName source).map fun after => (a, after))
      ((readGroupName shut).map fun after => (a, after)) := by
  rcases alike with rfl | ⟨nothing, rfl⟩
  · have closing : (')' != '>') = true := by decide
    have text : source.shut.rest = source.rest ++ [')'] := rfl
    unfold readGroupName
    rw [text]
    dsimp only
    rcases takeWhile_shut (· != '>') closing source.rest with
      ⟨name, c, rest, left, right⟩ | ⟨left, right⟩
    · rw [name, left, right]
      dsimp only
      split
      · exact .none
      · rename_i first others here
        have names : source.shut.names = source.names := rfl
        rw [names]
        split
        · exact .some (.inl rfl)
        · exact .none
    · rw [left, right]
      exact .none
  · have nameless : readGroupName shut = none := by rw [readGroupName, nothing]; rfl
    rw [nameless]
    exact .none

theorem readOpening_nil (nothing : source.skip.rest = []) :
    readOpening source = some (.group true [], source.skip) := by
  unfold readOpening
  generalize source.skip = skipped at nothing
  obtain ⟨text, verbose, names⟩ := skipped
  cases nothing
  rfl

theorem readOpening_shut (alike : Alike source shut) :
    Agree AtEnd (readOpening source) (readOpening shut) := by
  rcases alike.skip with same | ⟨nothing, same⟩
  · unfold readOpening
    dsimp only
    rw [same]
    simp only [drop?_shut (show ')' ∉ "?=".toList by decide),
      drop?_shut (show ')' ∉ "?!".toList by decide), drop?_shut (show ')' ∉ "?<=".toList by decide),
      drop?_shut (show ')' ∉ "?<!".toList by decide),
      drop?_shut (show ')' ∉ "?P<".toList by decide),
      drop?_shut (show ')' ∉ "?<".toList by decide), drop?_shut (show ')' ∉ "?".toList by decide),
      Option.isSome_map]
    split
    · exact .none
    · cases source.skip.drop? "?P<" with
      | some named => exact (readGroupName_shut (.inl rfl) _).mono (fun _ _ never => never.elim)
      | none =>
          cases source.skip.drop? "?<" with
          | some named => exact (readGroupName_shut (.inl rfl) _).mono (fun _ _ never => never.elim)
          | none =>
              cases source.skip.drop? "?" with
              | none => exact .some (.inl rfl)
              | some marked =>
                  change Agree AtEnd (Option.bind (readFlags marked.rest false false []) _)
                    (Option.bind (readFlags (marked.rest ++ [')']) false false []) _)
                  rcases readFlags_shut marked.rest false false [] with
                    ⟨found, c, rest, left, right⟩ | ⟨left, right | ⟨found, right⟩⟩
                  · rw [left, right, Option.bind_some, Option.bind_some]
                    by_cases closing : c = ')'
                    · subst closing
                      cases found with
                      | nil => exact .none
                      | cons => exact .some (.inl rfl)
                    · split
                      · cases ‹c :: rest = _›
                        exact absurd rfl closing
                      · split
                        · cases ‹c :: (rest ++ [')']) = _›
                          exact absurd rfl closing
                        · exact .some (.inl rfl)
                  · rw [left, right]
                    exact .none
                  · rw [left, right, Option.bind_some]
                    cases found with
                    | nil => exact .none
                    | cons => exact .late rfl
  · rw [readOpening_nil nothing, readOpening_nil (same ▸ nothing), same]
    exact .some (.inr ⟨nothing, rfl⟩)

theorem readCount_nil (here : source.rest = []) :
    ∃ after, readCount source = some (none, after) := by
  obtain ⟨text, verbose, names⟩ := source
  cases here
  exact ⟨_, rfl⟩

theorem readBounds_shut (alike : Alike source shut) :
    Agree Never (readBounds source) (readBounds shut) := by
  refine (readCount_shut alike).bind ?_ (fun _ _ never => never.elim)
  intro least source shut alike
  have inner := alike.nextSkip
  dsimp only
  rcases alike.front with ⟨c, rest, here, mark⟩ | ⟨here, mark⟩ | ⟨here, mark⟩
  · simp only [Source.head?, here, mark, List.head?_cons]
    split
    · exact .some alike
    · rcases inner.front with ⟨d, text, start, mark⟩ | ⟨start, mark⟩ | ⟨start, mark⟩
      · simp only [start, mark, List.head?_cons]
        split
        · cases ‹some _ = none›
        · exact .some inner
        · refine (readCount_shut inner).bind ?_ (fun _ _ never => never.elim)
          intro most source shut after
          cases most with
          | none => exact .none
          | some most =>
              have close := after.head?_iff (show '\x7d' ≠ ')' by decide)
              exact .of_test (congrArg (· && _) (decide_eq_decide.mpr close.symm)) after
      · simp only [start, mark, List.head?_nil, List.head?_cons]
        obtain ⟨after, read⟩ := readCount_nil start
        have count := readCount_shut inner
        rw [read] at count
        generalize readCount shut.nextSkip = found at count ⊢
        cases count
        exact .none
      · simp only [start, mark, List.head?_nil]
        exact .none
    · exact .none
  · simp only [Source.head?, here, mark, List.head?_nil, List.head?_cons]
    exact .none
  · simp only [Source.head?, here, mark, List.head?_nil]
    exact .none

theorem readGreed_alike (alike : Alike source shut) :
    (readGreed source).1 = (readGreed shut).1 ∧ Alike (readGreed source).2 (readGreed shut).2 := by
  unfold readGreed
  simp only [alike.head?_iff (show '?' ≠ ')' by decide)]
  split
  · exact ⟨rfl, alike.next⟩
  · exact ⟨rfl, alike⟩

theorem readAgain_alike (alike : Alike source shut) (least : Nat) (most : Option Nat) :
    (readAgain least most source).1 = (readAgain least most shut).1 ∧
      Alike (readAgain least most source).2 (readAgain least most shut).2 := by
  obtain ⟨same, after⟩ := readGreed_alike alike
  exact ⟨congrArg (Move.again least most) same, after⟩

/-- A late term comes at the end, or before a brace. -/
def EndsTerm (_ : Tree) (shut : Source) : Prop :=
  shut.rest = [] ∨ Braced shut

theorem readTerm_shut (alike : Alike source shut) :
    Agree EndsTerm (readTerm source) (readTerm shut) := by
  refine alike.agree (fun source => (readTerm_leaves source).mono (Nat.sub_le _ _)) ?_
  unfold readTerm
  cases here : source.rest with
  | nil =>
      rw [rest_shut_nil here]
      exact .late (.inl rfl)
  | cons c rest =>
      have after : Alike { source with rest } { source.shut with rest := rest ++ [')'] } := .inl rfl
      rw [rest_shut_cons here]
      split
      · cases ‹c :: rest = []›
      · cases ‹c :: rest = _›
        refine (readEscape_shut after).map ?_ ?_
        · intro escape source shut alike
          cases escape <;> exact ⟨rfl, alike⟩
        · rintro escape shut (nothing | ⟨kind, rfl, braced⟩)
          · cases escape <;> exact .inl nothing
          · exact .inr braced
      · cases ‹c :: rest = _›
        exact .some after
      · cases ‹c :: rest = _›
        exact .some after
      · cases ‹c :: rest = _›
        exact .some after
      · cases ‹c :: rest = _›
        simp only
        exact .some after

/-- A late move comes at the end, or is a term before a brace. -/
def EndsMove (move : Move) (shut : Source) : Prop :=
  shut.rest = [] ∨ ((∃ tree, move = .term tree) ∧ Braced shut)

def moveMarks : List Char := [')', '|', '(', '[', '?', '*', '+', '\x7b']

theorem readMove_of_plain {c : Char} {rest : List Char} (here : source.rest = c :: rest)
    (plain : c ∉ moveMarks) : readMove source =
      (readTerm source).map fun (term, after) => (.term term, after) := by
  have other (d : Char) (mark : d ∈ moveMarks) {text : List Char} (same : c :: rest = d :: text) :
      False := by
    cases same
    exact plain mark
  unfold readMove
  rw [here]
  split
  · cases ‹c :: rest = []›
  · exact (other ')' (by decide) ‹c :: rest = _›).elim
  · exact (other '|' (by decide) ‹c :: rest = _›).elim
  · exact (other '(' (by decide) ‹c :: rest = _›).elim
  · exact (other '[' (by decide) ‹c :: rest = _›).elim
  · exact (other '?' (by decide) ‹c :: rest = _›).elim
  · exact (other '*' (by decide) ‹c :: rest = _›).elim
  · exact (other '+' (by decide) ‹c :: rest = _›).elim
  · exact (other '\x7b' (by decide) ‹c :: rest = _›).elim
  · rfl

theorem readMove_shut (alike : Alike source shut) :
    Agree EndsMove (readMove source) (readMove shut) := by
  have leaves (source : Source) : Leaves source.rest.length (readMove source) := by
    rcases readMove_cases source with stop | ⟨-, leaves⟩
    · rw [stop]
      exact .some (Nat.le_refl _)
    · exact leaves.mono (Nat.sub_le _ _)
  refine alike.agree leaves ?_
  have whole : Alike source source.shut := .inl rfl
  cases here : source.rest with
  | nil =>
      rw [readMove, readMove, here, rest_shut_nil here]
      exact .some whole
  | cons c rest =>
      have mark := rest_shut_cons here
      by_cases plain : c ∉ moveMarks
      · rw [readMove_of_plain here plain, readMove_of_plain mark plain]
        refine (readTerm_shut whole).map (fun _ _ _ after => ⟨rfl, after⟩) ?_
        rintro tree shut (nothing | braced)
        · exact .inl nothing
        · exact .inr ⟨⟨tree, rfl⟩, braced⟩
      · have after : Alike { source with rest } { source.shut with rest := rest ++ [')'] } :=
          .inl rfl
        have again (least : Nat) (most : Option Nat) := readAgain_alike after least most
        simp only [moveMarks, List.mem_cons, List.not_mem_nil, or_false, Decidable.not_not] at plain
        rw [readMove, readMove, here, mark]
        rcases plain with rfl | rfl | rfl | rfl | rfl | rfl | rfl | rfl
        · exact .some whole
        · exact .some after
        · refine (readOpening_shut after).map ?_ ?_
          · intro opening source shut alike
            rcases alike with rfl | ⟨nothing, rfl⟩ <;> cases opening
            · exact ⟨rfl, .inl rfl⟩
            · exact ⟨rfl, .inl rfl⟩
            · exact ⟨rfl, .inr ⟨nothing, rfl⟩⟩
            · exact ⟨rfl, .inr ⟨nothing, rfl⟩⟩
          · intro opening shut ends
            cases opening <;> exact .inl ends
        · exact (readClass_shut after).map (fun _ _ _ after => ⟨rfl, after⟩)
            (fun _ _ never => never.elim)
        · exact .of_pair (again 0 (some 1))
        · exact .of_pair (again 0 none)
        · exact .of_pair (again 1 none)
        · refine (readBounds_shut whole.nextSkip).map ?_ (fun _ _ never => never.elim)
          intro bounds source shut alike
          exact readAgain_alike alike.nextSkip _ _

theorem readMove_braced (braced : Braced shut) : readMove shut.skip = none := by
  obtain ⟨⟨rest, here⟩, closing⟩ := braced
  have stays : shut.skip = shut := by
    obtain ⟨text, verbose, names⟩ := shut
    cases here
    cases verbose <;> rfl
  have bounds : readBounds shut.nextSkip = none := by
    generalize shut.nextSkip = inner at closing
    obtain ⟨text, verbose, names⟩ := inner
    cases closing
    rfl
  rw [stays, readMove, here]
  dsimp only
  rw [bounds]
  rfl

theorem late_of_leaves {α : Type} {taken : Taken α} (leaves : Leaves 0 taken) :
    Agree AtEnd none taken := by
  match taken, leaves with
  | none, _ => exact .none
  | some (a, after), leaves =>
      exact .late (List.length_eq_zero_iff.mp (Nat.le_zero.mp (leaves a after rfl)))

theorem readBranches_late {shut : Source} (nothing : shut.rest = []) (fuel : Nat)
    (branches terms : List Tree) :
    Agree AtEnd none (readBranches fuel branches terms shut) := by
  have leaves := readBranches_leaves shut fuel branches terms
  rw [nothing] at leaves
  exact late_of_leaves leaves

theorem leaveGroup_late {closed : Source} (nothing : closed.rest = []) (fuel : Nat)
    (branches terms : List Tree) (verbose : Bool) (group : Tree → Tree) (body : Tree) :
    leaveGroup fuel branches terms verbose group (body, closed) = none :=
  leaveGroup_other (by simp [Source.head?, nothing])

theorem proceed_late {after : Source} (nothing : after.rest = []) (fuel : Nat)
    (branches terms : List Tree) (verbose : Bool) (move : Move) :
    Agree AtEnd none (proceed fuel branches terms verbose after move) := by
  cases move with
  | stop => exact .late nothing
  | branch | switch | term => exact readBranches_late nothing _ _ _
  | again least most greedy =>
      dsimp only [proceed]
      cases repeatLast least most greedy terms with
      | none => exact .none
      | some terms => exact readBranches_late nothing _ _ _
  | enter remembered changes =>
      have inner := readBranches_late nothing fuel [] []
      dsimp only [proceed]
      generalize readBranches fuel [] [] after = found at inner ⊢
      cases inner with
      | none => exact .none
      | late ends =>
          rw [Option.bind_some, leaveGroup_late ends]
          exact .none

/-- A group is left alike, if what comes behind it is read alike. -/
theorem leaveGroup_shut {closed closed' : Source} (alike : Alike closed closed') {fuel more : Nat}
    {branches terms : List Tree} {verbose : Bool} {group : Tree → Tree} {body : Tree}
    (behind : ∀ rest, closed.rest = ')' :: rest → closed'.rest = ')' :: (rest ++ [')']) →
      Agree AtEnd (readBranches fuel branches (group body :: terms) { closed with rest, verbose })
        (readBranches more branches (group body :: terms)
          { closed' with rest := rest ++ [')'], verbose })) :
    Agree AtEnd (leaveGroup fuel branches terms verbose group (body, closed))
      (leaveGroup more branches terms verbose group (body, closed')) := by
  rcases alike.front with ⟨c, rest, here, mark⟩ | ⟨here, mark⟩ | ⟨here, mark⟩
  · by_cases closing : c = ')'
    · subst closing
      rw [leaveGroup_closing here, leaveGroup_closing mark]
      exact behind rest here mark
    · rw [leaveGroup_other (by simp [Source.head?, here, closing]),
        leaveGroup_other (by simp [Source.head?, mark, closing])]
      exact .none
  · rw [leaveGroup_late here, leaveGroup_closing mark]
    exact readBranches_late rfl _ _ _
  · rw [leaveGroup_late here, leaveGroup_late mark]
    exact .none

theorem readBranches_shut (alike : Alike source shut) {fuel more : Nat}
    (enough : source.rest.length < fuel) (further : shut.rest.length < more)
    (branches terms : List Tree) :
    Agree AtEnd (readBranches fuel branches terms source)
      (readBranches more branches terms shut) := by
  induction fuel generalizing more branches terms source shut with
  | zero => cases enough
  | succ fuel ih =>
      obtain ⟨more, rfl⟩ := Nat.exists_eq_add_one_of_ne_zero (Nat.ne_zero_of_lt further)
      rw [readBranches_succ, readBranches_succ, alike.verbose_eq]
      refine (readMove_shut alike.skip).bind_mem ?_ ?_
      · intro move after after' read read' alike'
        -- a move leaves less of both patterns, so that both fuels go on being enough
        have less (moved : move ≠ .stop) :
            after.rest.length < source.rest.length ∧ after'.rest.length < shut.rest.length :=
          ⟨length_readMove_lt read moved, length_readMove_lt read' moved⟩
        have go (moved : move ≠ .stop) (branches terms : List Tree) : Agree AtEnd
            (readBranches fuel branches terms after) (readBranches more branches terms after') := by
          obtain ⟨first, second⟩ := less moved
          exact ih alike' (by omega) (by omega) branches terms
        cases move with
        | stop => exact .some alike'
        | branch | switch | term => exact go nofun _ _
        | again least most greedy =>
            dsimp only [proceed]
            cases repeatLast least most greedy terms with
            | none => exact .none
            | some terms => exact go nofun _ _
        | enter remembered changes =>
            refine (go nofun _ _).bind_mem ?_ ?_
            · intro body closed closed' inner inner' alike
              have inside := readBranches_leaves after fuel [] [] body closed inner
              have inside' := readBranches_leaves after' more [] [] body closed' inner'
              obtain ⟨first, second⟩ := less nofun
              refine leaveGroup_shut alike fun rest here mark => ?_
              rw [here, List.length_cons] at inside
              rw [mark, List.length_cons] at inside'
              have shorter : rest.length < fuel := by omega
              have shorter' : (rest ++ [')']).length < more := by omega
              cases alike.rest_eq here
              exact ih (.inl rfl) shorter shorter' _ _
            · intro body closed _ ends
              rw [leaveGroup_late ends]
              exact .none
      -- a move that only the shut pattern has leads nowhere but to its end
      · rintro move after - (nothing | ⟨⟨tree, rfl⟩, braced⟩)
        · exact proceed_late nothing _ _ _ _ _
        · cases more with
          | zero => exact .none
          | succ more =>
              dsimp only [proceed]
              rw [readBranches_succ, readMove_braced braced]
              exact .none

end

end Reckon.Pattern
