import Reckon.Proofs.Calendar.Iso
import Reckon.Standard.DateFunctions

/-!
Dates that pass between functions.  What a function on dates gives for a date, it gives for the text
of the date as well.
-/

namespace Reckon.Standard

open Calendar (Moment)

theorem wellFormed_moment? {value : Value} {moment : Moment} (named : moment? value = some moment) :
    moment.WellFormed := by
  unfold moment? at named
  split at named
  · exact Moment.wellFormed_read? named
  · exact Moment.wellFormed_ofMillis? named
  · cases named

/-- The text of a date names its moment, but for the fraction of a second. -/
theorem moment?_dateValue {moment : Moment} (formed : moment.WellFormed) :
    moment? (dateValue moment) = some moment.whole := by
  change Moment.read? (Text.trim moment.iso.toList) = _
  rw [Text.trim_of_not_blank (Calendar.not_isBlank_iso moment), Calendar.read?_iso formed]

theorem dateArgument_eq_ok_iff {name : String} {arguments : List Value} {index : Nat}
    {moment : Moment} : dateArgument name arguments index = .ok moment ↔
      moment? (argument arguments index) = some moment := by
  unfold dateArgument
  dsimp only
  split
  · rename_i found named
    rw [named, Except.ok.injEq, Option.some.injEq]
  · rename_i refused
    rw [refused]
    exact iff_of_false nofun nofun

section

variable {value : Value} {moment : Moment} (named : moment? value.force = some moment)

include named

theorem dateArgument_first (name : String) : dateArgument name [value] 0 = .ok moment :=
  dateArgument_eq_ok_iff.mpr named

theorem datePart_eq (name : String) (part : Calendar.Date → Int) :
    datePart name part [value] = .ok (.number (Binary64.ofInt (part moment.date))) := by
  rw [datePart, dateArgument_first named]
  rfl

theorem dateFormat_eq (format : String) :
    dateFormat [.string format, value] = .ok (.string (moment.format format)) := by
  have found : dateArgument "date_format" [.string format, value] 1 = .ok moment :=
    dateArgument_first named "date_format"
  change (dateArgument "date_format" [.string format, value] 1).bind _ = _
  rw [found]
  rfl

end

/-- What has a date is named by a moment, and the text of the moment is the date. -/
theorem date_eq_ok_iff {clock : Moment} {value text : Value} :
    date clock [value] = .ok text ↔
      ∃ moment, moment? value.force = some moment ∧ text = dateValue moment := by
  change (dateArgument "date" [value] 0).map dateValue = .ok text ↔ _
  constructor
  · intro dated
    cases named : moment? value.force with
    | some moment =>
        rw [dateArgument_first named] at dated
        cases dated
        exact ⟨moment, rfl, rfl⟩
    | none =>
        have refused : moment? (argument [value] 0) = none := named
        unfold dateArgument at dated
        dsimp only at dated
        rw [refused] at dated
        cases dated
  · rintro ⟨moment, named, rfl⟩
    rw [dateArgument_first named]
    rfl

/-- The text of a date is its own text, has the same numbers as the value that it was made from, and
is written the same by every format. -/
theorem date_of_date {clock : Moment} {value text : Value}
    (dated : date clock [value] = .ok text) :
    date clock [text] = .ok text ∧
      (∀ name part, ∃ number, datePart name part [value] = .ok (.number number) ∧
        datePart name part [text] = .ok (.number number)) ∧
      ∀ format, ∃ written, dateFormat [.string format, value] = .ok (.string written) ∧
        dateFormat [.string format, text] = .ok (.string written) := by
  obtain ⟨moment, named, rfl⟩ := date_eq_ok_iff.mp dated
  have again : moment? (dateValue moment).force = some moment.whole :=
    moment?_dateValue (wellFormed_moment? named)
  refine ⟨?_, fun name part => ?_, fun format => ?_⟩
  · refine date_eq_ok_iff.mpr ⟨_, again, ?_⟩
    rw [dateValue, dateValue, Calendar.iso_whole]
  · refine ⟨_, datePart_eq named name part, ?_⟩
    rw [datePart_eq again, Calendar.date_whole]
  · refine ⟨moment.format format, dateFormat_eq named format, ?_⟩
    rw [dateFormat_eq again, Calendar.format_whole]

/-- A leap second with a fraction, which its offset moves back to the year before 0. -/
theorem date_of_date_leap :
    let clock : Moment := ⟨0, 0, 0⟩
    let value : Value := .string "0000-01-01T00:59:60.25+01:00"
    let text : Value := .string "-0001-12-31T23:59:60"
    date clock [value] = .ok text ∧ date clock [text] = .ok text ∧
      datePart "date_year" (fun date => date.year) [text] = .ok (.ofInt (-1)) ∧
      dateFormat [.string "YYYY-MM-DD HH:mm:ss", text] = .ok (.string "-001-12-31 23:59:59") := by
  intro clock value text
  have dated : date clock [value] = .ok text := by rfl
  obtain ⟨again, parts, formats⟩ := date_of_date dated
  obtain ⟨year, named, same⟩ := parts "date_year" fun date => date.year
  obtain ⟨written, shown, copied⟩ := formats "YYYY-MM-DD HH:mm:ss"
  refine ⟨dated, again, ?_, ?_⟩
  · rw [same, ← named]
    rfl
  · rw [copied, ← shown]
    rfl

end Reckon.Standard
