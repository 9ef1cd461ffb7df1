import Mathlib
import Reckon.Proofs.Lexicon.Regular
import Reckon.Proofs.Pattern.Progress

/-!
How the regular expression of the tokens is read.  The built-in alternatives come first and are
complete, so that an extra pattern behind them is read as it would be on its own.
-/

namespace Reckon

open Pattern Node
open Lexicon (earlierNodes spreadNode builtinSource)

namespace Lexicon.Written

/-! ## Trees of the built-in tokens -/

def literal (c : Char) : Tree := .literal c false

def digits : Tree := .repetition 1 none true (.bracketed false (.range '0' false '9' false))

def word : Tree :=
  .repetition 1 none true (.group false [(.unicode, false)] (.shorthand .word false))

def inner (terms : List Tree) : Tree := .group false [] (.sequence terms)

def anyOf (symbols : List Char) : Tree :=
  .bracketed false (.union (symbols.map (.literal · false)))

def quoted (quote : Char) : Tree :=
  .sequence [literal quote,
    .repetition 0 none true (.bracketed true (.literal quote false)), literal quote]

def comparisons : List Tree :=
  [.sequence [anyOf ['<', '>'], literal '='],
    .sequence [literal '=', literal '='],
    .sequence [literal '!', literal '=']]

def special : Tree := anyOf "-+*/():,<>!=%^[]\x7b\x7d".toList

def numeral : Tree :=
  .sequence [.group false [(.unicode, false)] (.assertion .wordBoundary), digits,
    .repetition 0 (some 1) true (inner [literal '.', digits])]

def path : Tree :=
  .sequence [word, .repetition 0 none true (inner [literal '.', word]),
    .repetition 0 none true (inner [literal '[', digits, literal ']'])]

def spread : Tree := .sequence [literal '.', literal '.', literal '.', word]

def earlier : List Tree :=
  comparisons ++ [special, numeral, quoted '"', quoted '\'', path]

/-! ## The same as it is written -/

def comparisonText : List Char :=
  ['[', '<', '>', ']', '=', '|', '=', '=', '|', '!', '=', '|']

def specialText : List Char :=
  ['[', '-', '+', '*', '/', '(', ')', ':', ',', '<', '>', '!', '=', '%', '^', '\\', '[', '\\', ']',
    '\x7b', '\x7d', ']', '|']

def numeralText : List Char :=
  ['(', '?', '-', 'u', ':', '\\', 'b', ')', '[', '0', '-', '9', ']', '+',
    '(', '?', ':', '\\', '.', '[', '0', '-', '9', ']', '+', ')', '?', '|']

def quotedText (quote : Char) : List Char :=
  [quote, '[', '^', quote, ']', '*', quote, '|']

def pathText : List Char :=
  ['(', '?', '-', 'u', ':', '\\', 'w', ')', '+',
    '(', '?', ':', '\\', '.', '(', '?', '-', 'u', ':', '\\', 'w', ')', '+', ')', '*',
    '(', '?', ':', '\\', '[', '[', '0', '-', '9', ']', '+', '\\', ']', ')', '*', '|']

def spreadText : List Char :=
  ['\\', '.', '\\', '.', '\\', '.', '(', '?', '-', 'u', ':', '\\', 'w', ')', '+']

def earlierText : List Char :=
  comparisonText ++ (specialText ++ (numeralText ++
    (quotedText '"' ++ (quotedText '\'' ++ pathText))))

theorem length_earlierText : 40 ≤ earlierText.length := by decide +kernel

theorem toList_builtinSource : builtinSource.toList = earlierText ++ spreadText := by
  unfold builtinSource
  simp [earlierText, comparisonText, specialText, numeralText, quotedText, pathText, spreadText]

/-! ## Reading it

Groups are read with the fuel that is left where they start; six more are enough for each of them.
-/

section

variable (fuel : Nat) (branches : List Tree) (rest : List Char)

theorem read_comparisons :
    readBranches (fuel + 6 + 9) branches [] ⟨comparisonText ++ rest, false, []⟩ =
      readBranches (fuel + 6) (comparisons.reverse ++ branches) [] ⟨rest, false, []⟩ := by
  cbv

theorem read_special :
    readBranches (fuel + 6 + 2) branches [] ⟨specialText ++ rest, false, []⟩ =
      readBranches (fuel + 6) (special :: branches) [] ⟨rest, false, []⟩ := by
  cbv

theorem read_numeral :
    readBranches (fuel + 6 + 6) branches [] ⟨numeralText ++ rest, false, []⟩ =
      readBranches (fuel + 6) (numeral :: branches) [] ⟨rest, false, []⟩ := by
  cbv

theorem read_doubleQuoted :
    readBranches (fuel + 6 + 5) branches [] ⟨quotedText '"' ++ rest, false, []⟩ =
      readBranches (fuel + 6) (quoted '"' :: branches) [] ⟨rest, false, []⟩ := by
  cbv

theorem read_singleQuoted :
    readBranches (fuel + 6 + 5) branches [] ⟨quotedText '\'' ++ rest, false, []⟩ =
      readBranches (fuel + 6) (quoted '\'' :: branches) [] ⟨rest, false, []⟩ := by
  cbv

theorem read_path :
    readBranches (fuel + 6 + 7) branches [] ⟨pathText ++ rest, false, []⟩ =
      readBranches (fuel + 6) (path :: branches) [] ⟨rest, false, []⟩ := by
  cbv

theorem read_earlier :
    readBranches (fuel + 40) [] [] ⟨earlierText ++ rest, false, []⟩ =
      readBranches (fuel + 6) earlier.reverse [] ⟨rest, false, []⟩ := by
  simp only [earlierText, List.append_assoc]
  calc
    _ = _ := read_comparisons (fuel + 25) [] _
    _ = _ := read_special (fuel + 23) _ _
    _ = _ := read_numeral (fuel + 17) _ _
    _ = _ := read_doubleQuoted (fuel + 12) _ _
    _ = _ := read_singleQuoted (fuel + 7) _ _
    _ = _ := read_path fuel _ rest

theorem read_spread :
    readBranches (fuel + 6) branches [] ⟨spreadText ++ '|' :: rest, false, []⟩ =
      readBranches fuel (spread :: branches) [] ⟨rest, false, []⟩ := by
  cbv

theorem read_spread_end :
    readBranches (fuel + 6) branches [] ⟨spreadText, false, []⟩ =
      some (alternationOf (spread :: branches), ⟨[], false, []⟩) := by
  cbv

end

theorem meaning_earlier :
    earlier.map (Tree.meaning? {}) = earlierNodes.map fun node => some (node, {}) := by
  cbv

theorem meaning_spread : spread.meaning? {} = some (spreadNode, {}) := by
  cbv

/-- The built-in alternatives with a bar behind them are read as they are; what is behind the bar is
read as if nothing stood before it. -/
theorem read_builtin (fuel : Nat) (rest : List Char) :
    readBranches (fuel + 40) [] [] ⟨earlierText ++ (spreadText ++ '|' :: rest), false, []⟩ =
      readBranches fuel (spread :: earlier.reverse) [] ⟨rest, false, []⟩ :=
  (read_earlier fuel _).trans (read_spread fuel _ rest)

end Lexicon.Written

end Reckon
