import Reckon.Proofs.Lexicon.Shape
import Reckon.Text.Blank

/-!
Texts without the blanks around them.
-/

namespace Reckon.Text

open Lexeme (Stops)

/-- All that is left out of a text are blanks at its ends, and none is left there. -/
structure Trims (text trimmed : List Char) : Prop where
  around : ∃ front back, text = front ++ (trimmed ++ back) ∧
    (∀ c ∈ front, isBlank c = true) ∧ ∀ c ∈ back, isBlank c = true
  first : ∀ c, trimmed.head? = some c → isBlank c = false
  last : ∀ c, trimmed.getLast? = some c → isBlank c = false

theorem trimFront_append {front rest : List Char} (blank : ∀ c ∈ front, isBlank c = true)
    (stops : Stops isBlank rest) : trimFront (front ++ rest) = rest := by
  unfold trimFront
  rw [List.dropWhile_append_of_pos blank]
  cases rest with
  | nil => rfl
  | cons c rest => rw [List.dropWhile_cons_of_neg (by simp [stops c rfl])]

theorem trimFront_of_stops {text : List Char} (stops : Stops isBlank text) :
    trimFront text = text :=
  @trimFront_append [] text nofun stops

theorem trimFront_eq_nil {text : List Char} (blank : ∀ c ∈ text, isBlank c = true) :
    trimFront text = [] := by
  have whole := trimFront_append blank .nil
  rwa [List.append_nil] at whole

theorem exists_front (text : List Char) :
    ∃ front, text = front ++ trimFront text ∧ ∀ c ∈ front, isBlank c = true :=
  ⟨text.takeWhile isBlank, List.takeWhile_append_dropWhile.symm,
    fun _ member => List.mem_takeWhile_imp member⟩

theorem stops_trimFront (text : List Char) : Stops isBlank (trimFront text) := by
  intro c found
  have fails := List.head?_dropWhile_not isBlank text
  rw [← trimFront, found] at fails
  simpa using fails

theorem trims_trim (text : List Char) : Trims text (trim text) := by
  obtain ⟨front, whole, blankFront⟩ := exists_front text
  obtain ⟨back, rest, blankBack⟩ := exists_front (trimFront text).reverse
  have rest : trimFront text = trim text ++ back.reverse := by
    rw [← List.reverse_inj, rest, List.reverse_append, trim, List.reverse_reverse,
      List.reverse_reverse]
  refine ⟨⟨front, back.reverse, rest ▸ whole, blankFront, ?_⟩, ?_, ?_⟩
  · exact fun c member => blankBack c (List.mem_reverse.mp member)
  · intro c found
    apply stops_trimFront text c
    rw [rest, List.head?_append, found]
    rfl
  · intro c found
    rw [trim, List.getLast?_reverse] at found
    exact stops_trimFront _ c found

theorem Trims.eq_trim {text trimmed : List Char} (trims : Trims text trimmed) :
    trimmed = trim text := by
  obtain ⟨front, back, rfl, blankFront, blankBack⟩ := trims.around
  cases trimmed with
  | nil =>
      have blank : ∀ c ∈ front ++ back, isBlank c = true :=
        fun c member => (List.mem_append.mp member).elim (blankFront c) (blankBack c)
      rw [trim, List.nil_append, trimFront_eq_nil blank]
      rfl
  | cons first rest =>
      have opens : Stops isBlank (first :: rest ++ back) := .cons (trims.first first rfl)
      have closes : Stops isBlank (first :: rest).reverse := by
        rw [Stops, List.head?_reverse]
        exact trims.last
      rw [trim, trimFront_append blankFront opens, List.reverse_append,
        trimFront_append (fun c member => blankBack c (List.mem_reverse.mp member)) closes,
        List.reverse_reverse]

theorem trim_of_not_blank {text : List Char} (plain : ∀ c ∈ text, isBlank c = false) :
    trim text = text := by
  have trims : Trims text text :=
    ⟨⟨[], [], by simp, nofun, nofun⟩, fun c found => plain c (List.mem_of_mem_head? found),
      fun c found => plain c (List.mem_of_getLast? found)⟩
  exact trims.eq_trim.symm

theorem mem_trim {text : List Char} {c : Char} (member : c ∈ text) (plain : isBlank c = false) :
    c ∈ trim text := by
  obtain ⟨front, back, whole, blankFront, blankBack⟩ := (trims_trim text).around
  have outside : ∀ part : List Char, (∀ other ∈ part, isBlank other = true) → c ∉ part :=
    fun part blank inside => by simp [blank c inside] at plain
  rw [whole, List.mem_append, List.mem_append] at member
  exact (member.resolve_left (outside front blankFront)).resolve_right (outside back blankBack)

end Reckon.Text
