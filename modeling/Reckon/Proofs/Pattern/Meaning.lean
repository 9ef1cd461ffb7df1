import Reckon.Pattern
import Reckon.Proofs.Pattern.Ends

/-!
What the parts of a pattern mean, put together.
-/

namespace Reckon.Pattern

open Node

theorem meaning_alternationOf (flags : Flags) {branches : List Tree} (nonempty : branches ≠ []) :
    (alternationOf branches).meaning? flags = Tree.meaningOfBranches? flags branches.reverse := by
  match branches, nonempty with
  | [branch], _ => simp [alternationOf, Tree.meaningOfBranches?]
  | first :: second :: others, _ => simp [alternationOf, Tree.meaning?]

/-- Branches that leave the flags as they are, and others behind them. -/
theorem meaningOfBranches?_append {branches later : List Tree} {nodes : List Node} {flags : Flags}
    (known : branches.map (Tree.meaning? flags) = nodes.map fun node => some (node, flags))
    (more : later ≠ []) :
    Tree.meaningOfBranches? flags (branches ++ later) =
      (Tree.meaningOfBranches? flags later).map fun (node, after) =>
        (firstOf nodes node, after) := by
  induction branches generalizing nodes with
  | nil =>
      have nil : nodes = [] := by simpa using known.symm
      simp [nil, firstOf]
  | cons branch branches ih =>
      cases nodes with
      | nil => simp at known
      | cons node nodes =>
          obtain ⟨here, known⟩ := List.cons_eq_cons.mp known
          have nonempty : branches ++ later ≠ [] := by simp [more]
          obtain ⟨next, rest, whole⟩ := List.exists_cons_of_ne_nil nonempty
          have behind := ih known
          rw [whole] at behind
          rw [List.cons_append, whole, Tree.meaningOfBranches?, here, Option.bind_some]
          · dsimp only
            rw [behind, Option.map_map]
            rfl
          · simp

theorem read?_eq_some_iff {text : String} {tree : Tree} : Tree.read? text = some tree ↔
    ∃ after, readBranches (2 * text.toList.length + 2) [] [] ⟨text.toList, false, []⟩ =
      some (tree, after) ∧ after.rest = [] ∧ tree.depth ≤ nestingLimit := by
  unfold Tree.read?
  dsimp only
  cases readBranches (2 * text.toList.length + 2) [] [] ⟨text.toList, false, []⟩ with
  | none => simp
  | some found =>
      obtain ⟨other, after⟩ := found
      simp only [Bool.and_eq_true, List.isEmpty_iff, decide_eq_true_eq,
        Option.ite_none_right_eq_some, Option.some.injEq, Prod.mk.injEq]
      constructor
      · rintro ⟨⟨whole, shallow⟩, rfl⟩
        exact ⟨after, ⟨rfl, rfl⟩, whole, shallow⟩
      · rintro ⟨last, ⟨rfl, rfl⟩, whole, shallow⟩
        exact ⟨⟨whole, shallow⟩, rfl⟩

theorem compile?_eq_some_iff {text : String} {pattern : Pattern} :
    compile? text = some pattern ↔ ∃ tree flags, Tree.read? text = some tree ∧
      tree.meaning? {} = some (pattern.node, flags) ∧ pattern.node.fits = true ∧
        pattern.source = text := by
  unfold compile?
  simp only [Option.bind_eq_some_iff, Option.ite_none_right_eq_some, Option.some.injEq]
  constructor
  · rintro ⟨tree, read, ⟨node, flags⟩, meaning, fits, rfl⟩
    exact ⟨tree, flags, read, meaning, fits, rfl⟩
  · rintro ⟨tree, flags, read, meaning, fits, rfl⟩
    exact ⟨tree, read, ⟨pattern.node, flags⟩, meaning, fits, rfl⟩

end Reckon.Pattern
