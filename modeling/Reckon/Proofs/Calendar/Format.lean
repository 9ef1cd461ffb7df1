import Mathlib
import Reckon.Calendar.Format

/-!
Formats of dates.  Text between brackets stands for itself and separates what is before it from what
is behind it, since no placeholder has a bracket among its letters.
-/

namespace Reckon.Calendar

def placeholderLetters : List Char := ['Y', 'M', 'D', 'H', 'm', 's']

section

variable {entry : String × (Moment → List Char)} (member : entry ∈ placeholders)

include member

theorem letters_of_mem_placeholders :
    entry.1.toList ≠ [] ∧ ∀ c ∈ entry.1.toList, c ∈ placeholderLetters := by
  simp only [placeholders, List.mem_cons, List.not_mem_nil, or_false] at member
  rcases member with rfl | rfl | rfl | rfl | rfl | rfl | rfl | rfl | rfl | rfl | rfl | rfl <;>
    simp [placeholderLetters]

theorem not_mem_letters : '[' ∉ entry.1.toList :=
  fun inside => absurd ((letters_of_mem_placeholders member).2 _ inside) (by decide)

end

def placeholder? (text : List Char) : Option (String × (Moment → List Char)) :=
  placeholders.find? fun entry => entry.1.toList.isPrefixOf text

section

variable {text : List Char} {letters : String} {part : Moment → List Char}

theorem prefix_of_placeholder? (found : placeholder? text = some (letters, part)) :
    letters.toList <+: text := by
  have start := List.find?_some found
  exact List.isPrefixOf_iff_prefix.mp start

theorem prefix_append_iff {token : List Char} {mark : Char} (other : mark ∉ token)
    (rest : List Char) : token <+: text ++ mark :: rest ↔ token <+: text := by
  refine ⟨fun start => ?_, fun start => start.trans (List.prefix_append _ _)⟩
  rcases Nat.lt_or_ge text.length token.length with longer | short
  · have whole : text ++ [mark] <+: token := by
      refine List.prefix_of_prefix_length_le ?_ start (by simpa using longer)
      exact (List.prefix_append_right_inj text).mpr ⟨rest, rfl⟩
    exact absurd (whole.mem (List.mem_append_right _ List.mem_cons_self)) other
  · exact List.prefix_of_prefix_length_le start (List.prefix_append _ _) short

theorem length_pos_of_placeholder? (found : placeholder? text = some (letters, part)) :
    0 < letters.length :=
  List.length_pos_of_ne_nil (letters_of_mem_placeholders (List.mem_of_find?_eq_some found)).1

theorem placeholder?_append (text rest : List Char) :
    placeholder? (text ++ '[' :: rest) = placeholder? text := by
  refine List.find?_congr fun entry member => ?_
  rw [Bool.eq_iff_iff, List.isPrefixOf_iff_prefix, List.isPrefixOf_iff_prefix]
  exact prefix_append_iff (not_mem_letters member) rest

theorem placeholder?_of_disjoint (disjoint : ∀ c ∈ text, c ∉ placeholderLetters) :
    placeholder? text = none := by
  refine List.find?_eq_none.mpr fun entry member found => ?_
  obtain ⟨nonempty, listed⟩ := letters_of_mem_placeholders member
  obtain ⟨letter, inside⟩ := List.exists_mem_of_ne_nil _ nonempty
  exact disjoint letter ((List.isPrefixOf_iff_prefix.mp found).mem inside) (listed letter inside)

theorem length_drop_le (found : placeholder? text = some (letters, part)) {fuel : Nat}
    (enough : text.length ≤ fuel + 1) : (text.drop letters.length).length ≤ fuel := by
  have positive := length_pos_of_placeholder? found
  rw [List.length_drop]
  omega

end

/-- A format is written as a text, from its start on. -/
inductive Writes (moment : Moment) : List Char → List Char → Prop
  | nil : Writes moment [] []
  | bracketed {inner rest written : List Char} (closed : ']' ∉ inner)
      (after : Writes moment rest written) :
      Writes moment ('[' :: (inner ++ ']' :: rest)) (inner ++ written)
  | placed {c : Char} {rest written : List Char} {letters : String} {part : Moment → List Char}
      (unclosed : c = '[' → ']' ∉ rest) (found : placeholder? (c :: rest) = some (letters, part))
      (after : Writes moment ((c :: rest).drop letters.length) written) :
      Writes moment (c :: rest) (part moment ++ written)
  | kept {c : Char} {rest written : List Char} (unclosed : c = '[' → ']' ∉ rest)
      (plain : placeholder? (c :: rest) = none) (after : Writes moment rest written) :
      Writes moment (c :: rest) (c :: written)

section

variable {moment : Moment} {text written : List Char}

theorem writeFormat_bracketed {inner rest : List Char} (closed : ']' ∉ inner) (fuel : Nat) :
    writeFormat moment (fuel + 1) ('[' :: (inner ++ ']' :: rest)) =
      inner ++ writeFormat moment fuel rest := by
  have taken : (inner ++ ']' :: rest).takeWhile (· != ']') = inner := by
    rw [List.takeWhile_append_of_pos, List.takeWhile_cons_of_neg (by decide), List.append_nil]
    intro c member
    rw [bne_iff_ne]
    rintro rfl
    exact closed member
  have dropped : (inner ++ ']' :: rest).drop (inner.length + 1) = rest := by
    rw [List.append_cons, List.drop_left' (by rw [List.length_append]; rfl)]
  rw [writeFormat, if_pos (by simp)]
  dsimp only
  rw [taken, dropped]

theorem writeFormat_open {c : Char} {rest : List Char} (unclosed : c = '[' → ']' ∉ rest)
    (fuel : Nat) : writeFormat moment (fuel + 1) (c :: rest) =
      match placeholder? (c :: rest) with
      | some (letters, part) =>
          part moment ++ writeFormat moment fuel ((c :: rest).drop letters.length)
      | none => c :: writeFormat moment fuel rest := by
  have other : ¬(c = '[' && rest.contains ']') = true := by simpa using unclosed
  rw [writeFormat, if_neg other]
  rfl

/-- What is written does not depend on the fuel, if there is enough of it. -/
theorem Writes.writeFormat_eq (writes : Writes moment text written) {fuel : Nat}
    (enough : text.length ≤ fuel) : writeFormat moment fuel text = written := by
  induction writes generalizing fuel with
  | nil => cases fuel <;> rfl
  | bracketed closed after ih =>
      obtain ⟨fuel, rfl⟩ := Nat.exists_eq_add_one_of_ne_zero (Nat.ne_zero_of_lt enough)
      rw [List.length_cons, List.length_append, List.length_cons] at enough
      rw [writeFormat_bracketed closed, ih (by omega)]
  | placed unclosed found after ih =>
      obtain ⟨fuel, rfl⟩ := Nat.exists_eq_add_one_of_ne_zero (Nat.ne_zero_of_lt enough)
      rw [writeFormat_open unclosed, found]
      dsimp only
      rw [ih (length_drop_le found enough)]
  | kept unclosed plain after ih =>
      obtain ⟨fuel, rfl⟩ := Nat.exists_eq_add_one_of_ne_zero (Nat.ne_zero_of_lt enough)
      rw [writeFormat_open unclosed, plain]
      dsimp only
      rw [ih (Nat.le_of_succ_le_succ enough)]

theorem writes_writeFormat {fuel : Nat} (enough : text.length ≤ fuel) :
    Writes moment text (writeFormat moment fuel text) := by
  induction fuel generalizing text with
  | zero =>
      rw [List.eq_nil_of_length_eq_zero (Nat.le_zero.mp enough)]
      exact .nil
  | succ fuel ih =>
      cases text with
      | nil => exact .nil
      | cons c rest =>
          have fewer : rest.length ≤ fuel := Nat.le_of_succ_le_succ enough
          by_cases bracketed : c = '[' ∧ ']' ∈ rest
          · obtain ⟨rfl, inside⟩ := bracketed
            obtain ⟨inner, behind, rfl, closed⟩ := List.eq_append_cons_of_mem inside
            rw [writeFormat_bracketed closed]
            refine .bracketed closed (ih ?_)
            rw [List.length_append, List.length_cons] at fewer
            omega
          · have unclosed : c = '[' → ']' ∉ rest := not_and.mp bracketed
            rw [writeFormat_open unclosed]
            cases found : placeholder? (c :: rest) with
            | none => exact .kept unclosed found (ih fewer)
            | some entry => exact .placed unclosed found (ih (length_drop_le found enough))

theorem Writes.append (writes : Writes moment text written) (plain : '[' ∉ text)
    {inner rest behind : List Char} (closed : ']' ∉ inner) (after : Writes moment rest behind) :
    Writes moment (text ++ '[' :: (inner ++ ']' :: rest)) (written ++ (inner ++ behind)) := by
  induction writes with
  | nil => exact .bracketed closed after
  | bracketed => exact absurd List.mem_cons_self plain
  | placed unclosed found rest ih =>
      rename_i c others written letters part
      have first : c ≠ '[' := fun same => plain (same ▸ List.mem_cons_self)
      have inside : letters.length ≤ (c :: others).length :=
        (prefix_of_placeholder? found).length_le
      rw [List.append_assoc]
      refine .placed (fun same => absurd same first)
        ((placeholder?_append (c :: others) _).trans found) ?_
      change Writes moment ((c :: others ++ '[' :: (inner ++ ']' :: _)).drop letters.length) _
      rw [List.drop_append_of_le_length inside]
      exact ih fun member => plain (List.mem_of_mem_drop member)
  | kept unclosed unnamed rest ih =>
      rename_i c others written
      have first : c ≠ '[' := fun same => plain (same ▸ List.mem_cons_self)
      exact .kept (fun same => absurd same first) ((placeholder?_append (c :: others) _).trans unnamed)
        (ih fun member => plain (List.mem_cons_of_mem _ member))

theorem writes_self (plain : '[' ∉ text) (disjoint : ∀ c ∈ text, c ∉ placeholderLetters) :
    Writes moment text text := by
  induction text with
  | nil => exact .nil
  | cons c rest ih =>
      have first : c ≠ '[' := fun same => plain (same ▸ List.mem_cons_self)
      exact .kept (fun same => absurd same first) (placeholder?_of_disjoint disjoint)
        (ih (fun member => plain (List.mem_cons_of_mem _ member))
          fun c member => disjoint c (List.mem_cons_of_mem _ member))

theorem Writes.format_eq {format result : String}
    (writes : Writes moment format.toList result.toList) : moment.format format = result := by
  rw [Moment.format, writes.writeFormat_eq le_rfl, String.ofList_toList]

theorem writes_format (moment : Moment) (format : String) :
    Writes moment format.toList (moment.format format).toList := by
  rw [Moment.format, String.toList_ofList]
  exact writes_writeFormat le_rfl

end

/-- Text in brackets is copied as it is, whatever its letters, and the formats around it are written
as if each stood alone.  Text without letters that stand for something is copied as well. -/
theorem format_bracketed (moment : Moment) :
    (∀ front inner behind : String, '[' ∉ front.toList → ']' ∉ inner.toList →
      moment.format (front ++ "[" ++ inner ++ "]" ++ behind) =
        moment.format front ++ inner ++ moment.format behind) ∧
      ∀ text : String, '[' ∉ text.toList → (∀ c ∈ text.toList, c ∉ placeholderLetters) →
        moment.format text = text := by
  refine ⟨fun front inner behind plain closed => ?_, fun text plain disjoint =>
    (writes_self plain disjoint).format_eq⟩
  apply Writes.format_eq
  have writes := (writes_format moment front).append plain closed (writes_format moment behind)
  simpa using writes

/-- Letters that would be one placeholder without the brackets between them, and brackets of the
other kind on either side. -/
theorem format_bracketed_seams :
    let moment : Moment := ⟨18262, 3661, 0⟩
    moment.format ("]YYM" ++ "[" ++ "M[DD" ++ "]" ++ "D]m[") = "]201M[DD1]1[" ∧
      moment.format "] à ]" = "] à ]" := by
  intro moment
  obtain ⟨brackets, texts⟩ := format_bracketed moment
  refine ⟨(brackets "]YYM" "M[DD" "D]m[" (by simp) (by simp)).trans ?_, texts _ (by simp) ?_⟩
  · decide +kernel
  · simp [placeholderLetters]

end Reckon.Calendar
