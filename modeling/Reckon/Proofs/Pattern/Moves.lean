import Reckon.Pattern.Reader

/-!
Reading a pattern one move at a time.  What the front of a pattern asks for does not depend on what
was read before, so the branches and terms before a place are only put in front of those after it.
-/

namespace Reckon.Pattern

inductive Move
  | stop
  | branch
  | switch (changes : FlagChanges)
  | enter (remembered : Bool) (changes : FlagChanges)
  | again (least : Nat) (most : Option Nat) (greedy : Bool)
  | term (tree : Tree)

/-- A repetition, with the mark that makes it lazy. -/
def readAgain (least : Nat) (most : Option Nat) (source : Source) : Move × Source :=
  let (greedy, source) := readGreed source
  (.again least most greedy, source)

/-- The next move, and the pattern after it. -/
def readMove (source : Source) : Taken Move :=
  match source.rest with
  | [] => some (.stop, source)
  | ')' :: _ => some (.stop, source)
  | '|' :: rest => some (.branch, { source with rest })
  | '(' :: rest =>
      (readOpening { source with rest }).map fun (opening, inner) =>
        match opening with
        | .switch changes =>
            (.switch changes, { inner with verbose := verboseAfter changes inner.verbose })
        | .group remembered changes =>
            (.enter remembered changes,
              { inner with verbose := verboseAfter changes inner.verbose })
  | '[' :: rest =>
      (readClass { source with rest }).map fun (term, after) => (.term term, after)
  | '?' :: rest => some (readAgain 0 (some 1) { source with rest })
  | '*' :: rest => some (readAgain 0 none { source with rest })
  | '+' :: rest => some (readAgain 1 none { source with rest })
  | '\x7b' :: _ =>
      (readBounds source.nextSkip).map fun ((least, most), after) =>
        readAgain least most after.nextSkip
  | _ => (readTerm source).map fun (term, after) => (.term term, after)

@[simp]
theorem Source.verbose_skip (source : Source) : source.skip.verbose = source.verbose := by
  unfold Source.skip
  split <;> rfl

section

variable (fuel : Nat) (branches terms : List Tree) (verbose : Bool)

/-- Close a group, if its parenthesis is what the body stopped at, and read on behind it. -/
def leaveGroup (group : Tree → Tree) : Tree × Source → Taken Tree := fun (body, closed) =>
  match closed.rest with
  | ')' :: rest =>
      readBranches fuel branches (group body :: terms) { closed with rest, verbose }
  | _ => none

/-- What a move does to the branches and terms so far, and what is read after it. -/
def proceed (after : Source) : Move → Taken Tree
  | .stop => some (alternationOf (Tree.ofTerms terms.reverse :: branches), after)
  | .branch => readBranches fuel (Tree.ofTerms terms.reverse :: branches) [] after
  | .switch changes => readBranches fuel branches (.flags changes :: terms) after
  | .enter remembered changes =>
      (readBranches fuel [] [] after).bind
        (leaveGroup fuel branches terms verbose (.group remembered changes))
  | .again least most greedy =>
      (repeatLast least most greedy terms).bind fun terms => readBranches fuel branches terms after
  | .term tree => readBranches fuel branches (tree :: terms) after

variable {fuel branches terms verbose} {group : Tree → Tree} {body : Tree} {closed : Source}

theorem leaveGroup_closing {rest : List Char} (here : closed.rest = ')' :: rest) :
    leaveGroup fuel branches terms verbose group (body, closed) =
      readBranches fuel branches (group body :: terms) { closed with rest, verbose } := by
  simp only [leaveGroup, here]

theorem leaveGroup_other (here : closed.head? ≠ some ')') :
    leaveGroup fuel branches terms verbose group (body, closed) = none := by
  rw [leaveGroup]
  split
  · rename_i rest closing
    exact absurd (congrArg List.head? closing) here
  · rfl

end

/-- One move, and what it leads to. -/
theorem readBranches_succ (fuel : Nat) (branches terms : List Tree) (source : Source) :
    readBranches (fuel + 1) branches terms source =
      (readMove source.skip).bind fun (move, after) =>
        proceed fuel branches terms source.verbose after move := by
  rw [readBranches, readMove]
  dsimp only
  rw [Source.verbose_skip]
  split <;> rename_i here <;> try simp only [here]
  · rfl
  · rfl
  · rfl
  · rw [Option.bind_map]
    refine Option.bind_congr fun found _ => ?_
    obtain ⟨opening, inner⟩ := found
    cases opening <;> rfl
  · rw [Option.bind_map]
    rfl
  · rfl
  · rfl
  · rfl
  · rw [Option.bind_map]
    rfl
  · rw [Option.bind_map]
    rfl

/-- Nothing to repeat: no term, or flags. -/
def Bare (terms : List Tree) : Prop :=
  ∀ least most greedy, repeatLast least most greedy terms = none

theorem bare_nil : Bare [] := fun _ _ _ => rfl

theorem bare_flags (changes : FlagChanges) (terms : List Tree) : Bare (.flags changes :: terms) :=
  fun _ _ _ => rfl

theorem repeatLast_append (least : Nat) (most : Option Nat) (greedy : Bool) (term : Tree)
    (terms old : List Tree) : repeatLast least most greedy (term :: terms ++ old) =
      (repeatLast least most greedy (term :: terms)).map (· ++ old) := by
  cases term <;> rfl

/-- What was read before a pattern stays in front: the branches before the current one, and terms
that cannot be repeated. -/
theorem readBranches_frame (fuel : Nat) (terms : List Tree) (source : Source) :
    (∀ branches old, Bare old → readBranches fuel branches (terms ++ old) source = none) ∨
      ∃ later first after, ∀ branches old, Bare old →
        readBranches fuel branches (terms ++ old) source =
          some (alternationOf (later ++ Tree.ofTerms (first ++ old).reverse :: branches),
            after) := by
  induction fuel generalizing terms source with
  | zero => exact .inl fun _ _ _ => rfl
  | succ fuel ih =>
      simp only [readBranches_succ]
      cases readMove source.skip with
      | none => exact .inl fun _ _ _ => rfl
      | some found =>
          obtain ⟨move, after⟩ := found
          simp only [Option.bind_some]
          cases move with
          | stop => exact .inr ⟨[], terms, after, fun _ _ _ => rfl⟩
          | branch =>
              rcases ih [] after with unread | ⟨later, first, last, read⟩
              · exact .inl fun branches old _ => unread (_ :: branches) [] bare_nil
              · refine .inr ⟨later ++ [Tree.ofTerms (first ++ []).reverse], terms, last, ?_⟩
                intro branches old bare
                refine (read (_ :: branches) [] bare_nil).trans ?_
                rw [List.append_assoc]
                rfl
          | switch changes => exact ih (.flags changes :: terms) after
          | term tree => exact ih (tree :: terms) after
          | enter remembered changes =>
              simp only [proceed]
              cases readBranches fuel [] [] after with
              | none => exact .inl fun _ _ _ => rfl
              | some body =>
                  obtain ⟨body, closed⟩ := body
                  simp only [Option.bind_some, leaveGroup]
                  split
                  · exact ih (.group remembered changes body :: terms) _
                  · exact .inl fun _ _ _ => rfl
          | again least most greedy =>
              simp only [proceed]
              cases terms with
              | nil =>
                  refine .inl fun branches old bare => ?_
                  rw [List.nil_append, bare, Option.bind_none]
              | cons term terms =>
                  simp only [repeatLast_append]
                  cases repeatLast least most greedy (term :: terms) with
                  | none => exact .inl fun _ _ _ => rfl
                  | some terms => exact ih terms after

end Reckon.Pattern
