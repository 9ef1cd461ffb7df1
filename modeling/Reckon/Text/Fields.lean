/-!
Texts cut at a separator.
-/

namespace Reckon.Text

/-- The fields of a text between single separator characters; there is always at least one. -/
def fields (separator : Char) : List Char → List (List Char)
  | [] => [[]]
  | c :: rest =>
      if c = separator then [] :: fields separator rest
      else
        match fields separator rest with
        | first :: others => (c :: first) :: others
        | [] => [[c]]

@[simp]
theorem fields_ne_nil (separator : Char) (text : List Char) : fields separator text ≠ [] := by
  cases text with
  | nil => simp [fields]
  | cons c rest =>
      by_cases same : c = separator
      · simp [fields, same]
      · simp only [fields, same, if_false]
        cases fields separator rest <;> simp

/-- A separator ends the field before it and starts the one behind it. -/
theorem fields_append (separator : Char) (first second : List Char) :
    fields separator (first ++ separator :: second) =
      fields separator first ++ fields separator second := by
  induction first with
  | nil => simp [fields]
  | cons c rest ih =>
      by_cases same : c = separator
      · simp [fields, same, ih]
      · simp only [List.cons_append, fields, same, if_false, ih]
        cases found : fields separator rest with
        | nil => exact absurd found (fields_ne_nil separator rest)
        | cons field others => rfl

/-- The pieces of a text between leftmost occurrences of a separator that is not empty, after
`skipped` characters of the last occurrence have been passed over. -/
def piecesFrom (separator : List Char) : (skipped : Nat) → List Char → List (List Char)
  | _, [] => [[]]
  | skipped + 1, _ :: rest => piecesFrom separator skipped rest
  | 0, c :: rest =>
      if separator.isPrefixOf (c :: rest) then
        [] :: piecesFrom separator (separator.length - 1) rest
      else
        match piecesFrom separator 0 rest with
        | first :: others => (c :: first) :: others
        | [] => [[c]]

/-- The pieces of a text between occurrences of a separator; an empty separator cuts between all
characters. -/
def pieces (separator text : List Char) : List (List Char) :=
  if separator.isEmpty then text.map fun c => [c] else piecesFrom separator 0 text

end Reckon.Text
