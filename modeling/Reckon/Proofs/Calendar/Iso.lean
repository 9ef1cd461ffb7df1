import Reckon.Calendar.Format
import Reckon.Proofs.Calendar.Moment
import Reckon.Proofs.Text.Blank

/-!
The one form in which dates pass between functions.  It names the moment that it was written for,
but for the fraction of a second.  Years before 0 and after 9999 have a sign, so nothing of a text
can be taken for another part of it, and without an offset no timestamp is seen in it.
-/

namespace Reckon.Calendar

open Lexeme (Run Stops)

/-! ## Padded numbers -/

section

variable (width number : Nat)

theorem run_padded : Run Char.isDigit (padded width number) :=
  ⟨by simp [padded, (Decimal.run_figures number).nonempty], fun c member =>
    (List.mem_append.mp member).elim Decimal.isDigit_of_mem_replicate
      ((Decimal.run_figures number).all c)⟩

theorem readFigures_padded : Decimal.readFigures 0 (padded width number) = number := by
  rw [padded, Decimal.readFigures_zeros, Decimal.readFigures_figures]

theorem le_length_padded : width ≤ (padded width number).length := by
  rw [padded, List.length_append, List.length_replicate]
  omega

variable {width number} in
theorem length_padded (positive : 0 < width) (fits : number < 10 ^ width) :
    (padded width number).length = width := by
  have short : (Decimal.figures number).length ≤ width :=
    (Nat.length_toDigits_le_iff (by decide) positive).mpr fits
  rw [padded, List.length_append, List.length_replicate]
  omega

theorem stops_padded {test : Char → Bool} (rest : List Char)
    (other : ∀ c, c.isDigit = true → test c = false) :
    Stops test (padded width number ++ rest) := by
  have run := run_padded width number
  obtain ⟨first, others, same⟩ := List.exists_cons_of_ne_nil run.nonempty
  rw [same]
  exact .cons (other first (run.all first (same ▸ List.mem_cons_self)))

theorem not_isBlank_of_isDigit (c : Char) (digit : c.isDigit = true) : Text.isBlank c = false :=
  Lexeme.not_isBlank_of_isWord (Lexeme.isWord_of_isDigit digit)

@[simp]
theorem trimFront_padded (rest : List Char) :
    Text.trimFront (padded width number ++ rest) = padded width number ++ rest :=
  Text.trimFront_of_stops (stops_padded width number rest not_isBlank_of_isDigit)

end

section

variable {least : Nat} {digits : List Char} (run : Run Char.isDigit digits)
  (enough : least ≤ digits.length) {rest : List Char}

include run enough

/-- Digits are taken as far as they may be, whatever follows. -/
theorem takeNumber_most (rest : List Char) :
    takeNumber least (some digits.length) (digits ++ rest) =
      some (Decimal.readFigures 0 digits, rest) := by
  unfold takeNumber
  dsimp only
  rw [List.take_left, List.takeWhile_eq_self_iff.mpr run.all, if_neg (Nat.not_lt.mpr enough),
    List.drop_left]

/-- Where any number of digits may be taken, they end where another character stands. -/
theorem takeNumber_all (stops : Stops Char.isDigit rest) :
    takeNumber least none (digits ++ rest) = some (Decimal.readFigures 0 digits, rest) := by
  have whole : (digits ++ rest).takeWhile Char.isDigit = digits := by
    rw [← Lexeme.take_runLength, Lexeme.runLength_append run.all stops, List.take_left]
  unfold takeNumber
  dsimp only
  rw [whole, if_neg (Nat.not_lt.mpr enough), List.drop_left]

end

theorem takeNumber_padded {least width number : Nat} (enough : least ≤ width) (positive : 0 < width)
    (fits : number < 10 ^ width) (rest : List Char) :
    takeNumber least (some width) (padded width number ++ rest) = some (number, rest) := by
  have taken := takeNumber_most (run_padded width number)
    (enough.trans (le_length_padded width number)) rest
  rwa [length_padded positive fits, readFigures_padded] at taken

theorem takeWithin_padded (digits : Nat) {least most number : Nat} (enough : digits ≤ 2)
    (above : least ≤ number) (below : number ≤ most) (small : most < 100) (rest : List Char) :
    takeWithin (digits, 2) least most (padded 2 number ++ rest) = some (number, rest) := by
  have taken := takeNumber_padded enough (by decide) (lt_of_le_of_lt below small) rest
  rw [takeWithin, taken, Option.filter_some, if_pos (by simp [above, below])]

/-! ## Years -/

/-- A year of four digits ends with them, and one with a sign at the first character that is no
digit. -/
theorem takeYear_isoYear {year : Int} {rest : List Char} (stops : Stops Char.isDigit rest) :
    takeYear (isoYear year ++ rest) = some (year, rest) := by
  have signed : takeNumber 1 none (padded 4 year.natAbs ++ rest) = some (year.natAbs, rest) := by
    have enough : 1 ≤ (padded 4 year.natAbs).length :=
      (le_length_padded 4 year.natAbs).trans' (by decide)
    have taken := takeNumber_all (run_padded 4 year.natAbs) enough stops
    rwa [readFigures_padded] at taken
  unfold isoYear
  split
  · rename_i four
    have fits : year.toNat < 10 ^ 4 := by omega
    have taken := takeNumber_padded (by decide : 1 ≤ 4) (by decide) fits rest
    have digit : ∀ sign : Char, sign.isDigit = false → ∀ others,
        padded 4 year.toNat ++ rest ≠ sign :: others := by
      rintro sign plain others same
      have other : ∀ c : Char, c.isDigit = true → (!c.isDigit) = false := by simp
      have first := stops_padded 4 year.toNat rest other sign (by rw [same]; rfl)
      simp [plain] at first
    rw [takeYear, taken]
    · simp [four.1]
    · exact fun others same => digit '-' (by decide) others same
    · exact fun others same => digit '+' (by decide) others same
  · split
    · rename_i negative
      rw [List.cons_append, takeYear, signed, Option.map_some]
      exact congrArg (fun year => some (year, rest)) (by omega : -(year.natAbs : Int) = year)
    · rename_i long positive
      rw [List.cons_append, takeYear, signed, Option.map_some]
      exact congrArg (fun year => some (year, rest)) (by omega : (year.natAbs : Int) = year)

theorem stops_isoYear {test : Char → Bool} (year : Int) (rest : List Char)
    (other : ∀ c, c.isDigit = true → test c = false) (minus : test '-' = false)
    (plus : test '+' = false) : Stops test (isoYear year ++ rest) := by
  unfold isoYear
  split
  · exact stops_padded _ _ rest other
  · rw [List.cons_append]
    refine .cons ?_
    split
    · exact minus
    · exact plus

/-! ## Dates and times -/

def isoDate (date : Date) : List Char :=
  isoYear date.year ++ '-' :: (padded 2 date.month ++ '-' :: padded 2 date.day)

def isoTime (hour minute second : Nat) : List Char :=
  padded 2 hour ++ ':' :: (padded 2 minute ++ ':' :: padded 2 second)

theorem toList_iso (moment : Moment) :
    moment.iso.toList = isoDate moment.date ++ 'T' :: isoTime moment.hour moment.minute
      (moment.secondOfMinute + moment.nano / nanosPerSecond) := by
  simp [Moment.iso, isoDate, isoTime]

theorem readItems_append (first second : List Item) (fields : Fields) (text : List Char) :
    readItems (first ++ second) fields text =
      (readItems first fields text).bind fun (fields, text) => readItems second fields text := by
  induction first generalizing fields text with
  | nil => rfl
  | cons item first ih =>
      rw [List.cons_append, readItems, readItems, Option.bind_assoc]
      exact congrArg _ (funext fun (fields, text) => ih fields text)

theorem readItems_literal (c : Char) (items : List Item) (fields : Fields) (rest : List Char) :
    readItems (.literal c :: items) fields (c :: rest) = readItems items fields rest := by
  rw [readItems, readItem?, if_pos rfl, Option.bind_some]

theorem monthLength_le (year : Int) (month : Nat) : monthLength year month ≤ 31 := by
  have all : ∀ length ∈ monthLengths year, length ≤ 31 := by
    unfold monthLengths
    split <;> decide
  unfold monthLength
  cases found : (monthLengths year)[month - 1]? with
  | none => exact Nat.zero_le 31
  | some length => exact all length (List.mem_of_getElem? found)

theorem readItems_isoDate {date : Date} (proper : date.Proper) (fields : Fields)
    (rest : List Char) :
    readItems (dateItems '-') fields (isoDate date ++ rest) =
      some ({ fields with year := date.year, month := date.month, day := date.day }, rest) := by
  have last : date.day ≤ 31 := proper.day.2.trans (monthLength_le date.year date.month)
  have year behind : Text.trimFront (isoYear date.year ++ behind) = isoYear date.year ++ behind :=
    Text.trimFront_of_stops
      (stops_isoYear date.year behind not_isBlank_of_isDigit (by decide) (by decide))
  have month := takeWithin_padded 1 (by decide) proper.month.1 proper.month.2
    (by decide)
  have day := takeWithin_padded 1 (by decide) proper.day.1 last (by decide)
  have dash : ∀ behind, Stops Char.isDigit ('-' :: behind) := fun _ => .cons (by decide)
  simp only [dateItems, isoDate, List.append_assoc, List.cons_append, readItems, readItem?, year,
    takeYear_isoYear (dash _), trimFront_padded, month, day, Option.map_some, Option.bind_some,
    if_true]

theorem readItems_isoTime {hour minute second : Nat} (hours : hour ≤ 23) (minutes : minute ≤ 59)
    (seconds : second ≤ 60) (fields : Fields) :
    readItems timeItems fields (isoTime hour minute second) =
      some ({ fields with hour, minute, second, nano := 0 }, []) := by
  have takeHour := takeWithin_padded 1 (by decide) hour.zero_le hours (by decide)
  have takeMinute := takeWithin_padded 1 (by decide) minute.zero_le minutes (by decide)
  have takeSecond := takeWithin_padded 1 (by decide) second.zero_le seconds (by decide)
    []
  have trimmed := trimFront_padded 2 second []
  rw [List.append_nil] at takeSecond trimmed
  simp only [timeItems, isoTime, readItems, readItem?, trimFront_padded, trimmed, takeHour,
    takeMinute, takeSecond, takeFraction, Option.map_some, Option.bind_some, if_true]

/-! ## Moments -/

theorem not_isBlank_iso (moment : Moment) : ∀ c ∈ moment.iso.toList, Text.isBlank c = false := by
  have digits : ∀ width number, ∀ c ∈ padded width number, Text.isBlank c = false :=
    fun width number c member => not_isBlank_of_isDigit c ((run_padded width number).all c member)
  have year : ∀ c ∈ isoYear moment.date.year, Text.isBlank c = false := by
    unfold isoYear
    split
    · exact digits _ _
    · refine List.forall_mem_cons.mpr ⟨?_, digits _ _⟩
      split <;> decide
  rw [toList_iso, isoDate, isoTime]
  simp only [List.forall_mem_append, List.forall_mem_cons]
  exact ⟨⟨year, by decide, digits _ _, by decide, digits _ _⟩, by decide, digits _ _, by decide,
    digits _ _, by decide, digits _ _⟩

/-! ## Whole seconds -/

/-- A moment without its fraction of a second. -/
def Moment.whole (moment : Moment) : Moment :=
  { moment with nano := moment.nano / nanosPerSecond * nanosPerSecond }

theorem date_whole (moment : Moment) : moment.whole.date = moment.date := rfl

theorem iso_whole (moment : Moment) : moment.whole.iso = moment.iso := by
  have seconds : moment.whole.nano / nanosPerSecond = moment.nano / nanosPerSecond :=
    Nat.mul_div_cancel _ (by decide)
  unfold Moment.iso
  dsimp only
  rw [seconds]
  rfl

/-- A format writes nothing but what its letters stand for and the text around them. -/
theorem writeFormat_congr {first second : Moment}
    (same : ∀ entry ∈ placeholders, entry.2 first = entry.2 second) (fuel : Nat)
    (text : List Char) : writeFormat first fuel text = writeFormat second fuel text := by
  induction fuel generalizing text with
  | zero => rfl
  | succ fuel ih =>
      cases text with
      | nil => rfl
      | cons c rest =>
          unfold writeFormat
          split
          · dsimp only
            rw [ih]
          · split
            · rename_i letters part found
              have written : part first = part second := same _ (List.mem_of_find?_eq_some found)
              rw [written, ih]
            · rw [ih]

theorem format_whole (moment : Moment) (format : String) :
    moment.whole.format format = moment.format format := by
  have same : ∀ entry ∈ placeholders, entry.2 moment.whole = entry.2 moment := by
    intro entry member
    simp only [placeholders, List.mem_cons, List.not_mem_nil, or_false] at member
    rcases member with rfl | rfl | rfl | rfl | rfl | rfl | rfl | rfl | rfl | rfl | rfl | rfl <;> rfl
  rw [Moment.format, Moment.format, writeFormat_congr same]

/-! ## Moments read back -/

section

variable {moment : Moment} (formed : moment.WellFormed)

include formed

theorem hour_le : moment.hour ≤ 23 := by
  have second := formed.second
  unfold Moment.hour
  unfold secondsPerDay at second
  omega

omit formed in
theorem minute_le : moment.minute ≤ 59 := by
  unfold Moment.minute
  omega

theorem second_le : moment.secondOfMinute + moment.nano / nanosPerSecond ≤ 60 := by
  obtain ⟨-, -, nano, leap⟩ := formed
  unfold Moment.secondOfMinute nanosPerSecond at *
  omega

omit formed in
theorem bind_of_eq_some {α β : Type} {found : Option α} {value : α} {next : α → Option β}
    (same : found = some value) : found.bind next = next value := by
  rw [same, Option.bind_some]

/-- A timestamp starts with four digits and ends with an offset, so the form is none: a year with a
sign lacks the one, and all others lack the other. -/
theorem readTimestamp?_iso : readTimestamp? moment.iso.toList = none := by
  have proper : moment.date.Proper := Date.proper_ofNumber moment.day
  have last : moment.date.day ≤ 31 := proper.day.2.trans (monthLength_le _ _)
  rw [toList_iso, isoDate, isoYear]
  split
  · rename_i four
    have fits : moment.date.year.toNat < 10 ^ 4 := by omega
    have year := takeNumber_padded le_rfl (by decide) fits
    have month := takeWithin_padded 2 (by decide) proper.month.1 proper.month.2
      (by decide)
    have day := takeWithin_padded 2 (by decide) proper.day.1 last (by decide)
    have hour := takeWithin_padded 2 (by decide) moment.hour.zero_le (hour_le formed)
      (by decide)
    have minute := takeWithin_padded 2 (by decide) moment.minute.zero_le minute_le
      (by decide)
    have second := takeWithin_padded 2 (by decide)
      (moment.secondOfMinute + moment.nano / nanosPerSecond).zero_le (second_le formed) (by decide)
      []
    rw [List.append_nil] at second
    have mark : ∀ (c : Char) rest, takeOneOf [c] (c :: rest) = some rest := by simp [takeOneOf]
    have between : ∀ rest, takeOneOf ['T', 't', ' '] ('T' :: rest) = some rest := by
      simp [takeOneOf]
    rw [isoTime, List.append_assoc, List.cons_append, List.append_assoc, List.cons_append]
    refine (bind_of_eq_some (year _)).trans <| (bind_of_eq_some (mark '-' _)).trans <|
      (bind_of_eq_some (month _)).trans <| (bind_of_eq_some (mark '-' _)).trans <|
      (bind_of_eq_some (day _)).trans <| (bind_of_eq_some (between _)).trans <|
      (bind_of_eq_some (hour _)).trans <| (bind_of_eq_some (mark ':' _)).trans <|
      (bind_of_eq_some (minute _)).trans <| (bind_of_eq_some (mark ':' _)).trans <|
      (bind_of_eq_some second).trans ?_
    -- Nothing is left for an offset.
    rfl
  · have sign : ∀ c : Char, c.isDigit = false →
        ∀ rest, takeNumber 4 (some 4) (c :: rest) = none := by
      intro c plain rest
      simp [takeNumber, plain]
    rw [readTimestamp?, List.append_assoc, List.cons_append, sign _ (by split <;> decide)]
    rfl

/-- The parts of a moment name it; second 60 is one second beyond 59. -/
theorem moment?_parts :
    Fields.moment? {
      year := moment.date.year, month := moment.date.month, day := moment.date.day
      hour := moment.hour, minute := moment.minute
      second := moment.secondOfMinute + moment.nano / nanosPerSecond } = some moment.whole := by
  obtain ⟨day, second, nano, leap⟩ := formed
  rw [Fields.moment?, Moment.date, Date.make?_ofNumber day, Option.map_some, Date.number_ofNumber,
    Option.some_inj, Moment.whole, Moment.mk.injEq]
  unfold Moment.hour Moment.minute Moment.secondOfMinute nanosPerSecond at *
  refine ⟨rfl, ?_, ?_⟩ <;> dsimp only <;> split <;> omega

/-- The form of a moment names it, but for the fraction of a second. -/
theorem read?_iso : Moment.read? moment.iso.toList = some moment.whole := by
  have proper : moment.date.Proper := Date.proper_ofNumber moment.day
  have fields : readItems (dateItems '-' ++ .literal 'T' :: timeItems) {} moment.iso.toList =
      some ({ year := moment.date.year, month := moment.date.month, day := moment.date.day
              hour := moment.hour, minute := moment.minute
              second := moment.secondOfMinute + moment.nano / nanosPerSecond }, []) := by
    rw [readItems_append, toList_iso, readItems_isoDate proper, Option.bind_some]
    dsimp only
    rw [readItems_literal, readItems_isoTime (hour_le formed) minute_le (second_le formed)]
  have named : readFormat? (dateItems '-' ++ .literal 'T' :: timeItems) moment.iso.toList =
      some moment.whole := by
    unfold readFormat?
    rw [fields]
    exact moment?_parts formed
  rw [Moment.read?, readTimestamp?_iso formed, formats, List.findSome?_cons, named]

end

end Reckon.Calendar
