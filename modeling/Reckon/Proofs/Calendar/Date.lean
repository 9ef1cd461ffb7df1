import Mathlib
import Reckon.Calendar

/-!
Days by their numbers.  Each number is that of one date of the calendar, which is found by its year
first and then by the month that the rest of the days ends in.
-/

namespace Reckon.Calendar

/-! ## Years -/

theorem isLeapYear_iff (year : Int) :
    isLeapYear year = true ↔ year % 4 = 0 ∧ (year % 100 ≠ 0 ∨ year % 400 = 0) := by
  simp [isLeapYear]

def yearLength (year : Int) : Nat :=
  (monthLengths year).sum

theorem yearLength_eq (year : Int) : yearLength year = 365 + if isLeapYear year then 1 else 0 := by
  unfold yearLength monthLengths
  split <;> rfl

theorem daysBeforeYear_succ (year : Int) :
    daysBeforeYear (year + 1) = daysBeforeYear year + yearLength year := by
  have leap := isLeapYear_iff year
  rw [yearLength_eq]
  unfold daysBeforeYear
  split <;> rename_i condition
  · rw [iff_true_left condition] at leap
    omega
  · rw [iff_false_left condition] at leap
    omega

theorem daysBeforeYear_mono : Monotone daysBeforeYear :=
  monotone_int_of_le_succ fun year => by
    rw [daysBeforeYear_succ]
    omega

/-- The guess by the average length is right, or off by one as the two comparisons tell. -/
theorem yearOf_spec (day : Int) :
    daysBeforeYear (Date.yearOf day) ≤ day ∧ day < daysBeforeYear (Date.yearOf day + 1) := by
  unfold Date.yearOf daysBeforeYear
  dsimp only
  split_ifs <;> omega

/-- The days from the first one of a year on lie in the year until its length is over. -/
theorem yearOf_eq {year : Int} {offset : Nat} (inside : offset < yearLength year) :
    Date.yearOf (daysBeforeYear year + offset) = year := by
  obtain ⟨first, last⟩ := yearOf_spec (daysBeforeYear year + offset)
  generalize Date.yearOf (daysBeforeYear year + offset) = found at first last
  have next := daysBeforeYear_succ year
  rcases lt_trichotomy found year with earlier | same | later
  · have start : daysBeforeYear (found + 1) ≤ daysBeforeYear year := daysBeforeYear_mono earlier
    omega
  · exact same
  · have start : daysBeforeYear (year + 1) ≤ daysBeforeYear found := daysBeforeYear_mono later
    omega

/-! ## Months -/

theorem daysBeforeMonth_eq (year : Int) (month : Nat) :
    daysBeforeMonth year month = ((monthLengths year).take (month - 1)).sum :=
  List.sum_eq_foldl.symm

theorem monthAndDay_block (month : Nat) {lengths : List Nat} {index offset : Nat}
    (inside : offset < (lengths[index]?).getD 0) :
    Date.monthAndDay month ((lengths.take index).sum + offset) lengths =
      (month + index, offset + 1) := by
  induction lengths generalizing month index with
  | nil => simp at inside
  | cons length rest ih =>
      cases index with
      | zero =>
          have here : offset < length := by simpa using inside
          simp [Date.monthAndDay, here]
      | succ index =>
          have behind : ¬length + (rest.take index).sum + offset < length := by omega
          have left : length + (rest.take index).sum + offset - length =
              (rest.take index).sum + offset := by omega
          rw [List.take_succ_cons, List.sum_cons, Date.monthAndDay, if_neg behind, left,
            ih (month + 1) inside, Nat.add_right_comm, Nat.add_assoc]

theorem exists_block {lengths : List Nat} {day : Nat} (inside : day < lengths.sum) :
    ∃ index offset, day = (lengths.take index).sum + offset ∧
      offset < (lengths[index]?).getD 0 := by
  induction lengths generalizing day with
  | nil => simp at inside
  | cons length rest ih =>
      by_cases here : day < length
      · exact ⟨0, day, by simp, here⟩
      · have behind : day - length < rest.sum := by
          rw [List.sum_cons] at inside
          omega
        obtain ⟨index, offset, place, within⟩ := ih behind
        refine ⟨index + 1, offset, ?_, within⟩
        rw [List.take_succ_cons, List.sum_cons]
        omega

theorem sum_take_add_le (lengths : List Nat) (index : Nat) :
    (lengths.take index).sum + (lengths[index]?).getD 0 ≤ lengths.sum := by
  induction lengths generalizing index with
  | nil => simp
  | cons length rest ih =>
      cases index with
      | zero => simp
      | succ index =>
          rw [List.take_succ_cons, List.sum_cons, List.sum_cons, List.getElem?_cons_succ]
          have ends := ih index
          omega

/-! ## Dates -/

namespace Date

/-- There is a day with this month and this day of the month. -/
structure Proper (date : Date) : Prop where
  month : 1 ≤ date.month ∧ date.month ≤ 12
  day : 1 ≤ date.day ∧ date.day ≤ monthLength date.year date.month

def dayOfYear (date : Date) : Nat :=
  daysBeforeMonth date.year date.month + (date.day - 1)

variable {date : Date}

theorem number_eq (proper : date.Proper) :
    date.number = daysBeforeYear date.year + date.dayOfYear - epoch := by
  have day := proper.day.1
  unfold number dayOfYear
  omega

theorem dayOfYear_lt (proper : date.Proper) : date.dayOfYear < yearLength date.year := by
  have last := sum_take_add_le (monthLengths date.year) (date.month - 1)
  have day := proper.day
  rw [← daysBeforeMonth_eq] at last
  unfold monthLength at day
  unfold dayOfYear yearLength
  omega

theorem ofNumber_number (proper : date.Proper) : ofNumber date.number = date := by
  have year := yearOf_eq (dayOfYear_lt proper)
  have day : date.day - 1 < ((monthLengths date.year)[date.month - 1]?).getD 0 := by
    have last := proper.day
    unfold monthLength at last
    omega
  have block := monthAndDay_block 1 day
  have rest : (daysBeforeYear date.year + date.dayOfYear - daysBeforeYear date.year).toNat =
      ((monthLengths date.year).take (date.month - 1)).sum + (date.day - 1) := by
    rw [add_sub_cancel_left, Int.toNat_natCast, dayOfYear, daysBeforeMonth_eq]
  unfold ofNumber
  dsimp only
  rw [number_eq proper, Int.sub_add_cancel, year, rest, block, Nat.add_sub_cancel' proper.month.1,
    Nat.sub_add_cancel proper.day.1]

theorem exists_number (number : Int) : ∃ date : Date, date.Proper ∧ date.number = number := by
  obtain ⟨first, last⟩ := yearOf_spec (number + epoch)
  generalize yearOf (number + epoch) = year at first last
  rw [daysBeforeYear_succ] at last
  have inside : (number + epoch - daysBeforeYear year).toNat < (monthLengths year).sum := by
    unfold yearLength at last
    omega
  obtain ⟨index, offset, place, within⟩ := exists_block inside
  have months : index < (monthLengths year).length := by
    by_contra outside
    rw [List.getElem?_eq_none (Nat.le_of_not_lt outside)] at within
    exact absurd within (Nat.not_lt_zero offset)
  have proper : Proper ⟨year, index + 1, offset + 1⟩ :=
    ⟨⟨Nat.le_add_left 1 index, months⟩, Nat.le_add_left 1 offset, within⟩
  refine ⟨_, proper, ?_⟩
  rw [number_eq proper, dayOfYear, daysBeforeMonth_eq, Nat.add_sub_cancel, Nat.add_sub_cancel,
    ← place]
  dsimp only
  omega

theorem proper_ofNumber (number : Int) : (ofNumber number).Proper := by
  obtain ⟨date, proper, rfl⟩ := exists_number number
  rwa [ofNumber_number proper]

theorem number_ofNumber (number : Int) : (ofNumber number).number = number := by
  obtain ⟨date, proper, rfl⟩ := exists_number number
  rw [ofNumber_number proper]

theorem inRange_number (proper : date.Proper) :
    inRange date.number = true ↔ -262143 ≤ date.year ∧ date.year ≤ 262142 := by
  have first : firstNumber = daysBeforeYear (-262143) - epoch := rfl
  have last : lastNumber = daysBeforeYear (262142 + 1) - 1 - epoch := rfl
  have inside := dayOfYear_lt proper
  have next := daysBeforeYear_succ date.year
  rw [inRange, number_eq proper, first, last, Bool.and_eq_true, decide_eq_true_iff,
    decide_eq_true_iff]
  constructor
  · rintro ⟨above, below⟩
    constructor
    · by_contra early
      have ends : daysBeforeYear (date.year + 1) ≤ daysBeforeYear (-262143) :=
        daysBeforeYear_mono (by omega)
      omega
    · by_contra late
      have starts : daysBeforeYear (262142 + 1) ≤ daysBeforeYear date.year :=
        daysBeforeYear_mono (by omega)
      omega
  · rintro ⟨above, below⟩
    have starts := daysBeforeYear_mono above
    have ends : daysBeforeYear (date.year + 1) ≤ daysBeforeYear (262142 + 1) :=
      daysBeforeYear_mono (by omega)
    omega

theorem make?_eq_some_iff {year : Int} {month day : Nat} :
    make? year month day = some date ↔
      date = ⟨year, month, day⟩ ∧ date.Proper ∧ inRange date.number = true := by
  unfold make?
  dsimp only
  constructor
  · intro made
    split at made
    · rename_i condition
      cases made
      simp only [Bool.and_eq_true, decide_eq_true_iff] at condition
      obtain ⟨⟨⟨⟨⟨monthFrom, monthTo⟩, dayFrom⟩, dayTo⟩, first⟩, last⟩ := condition
      have proper : Proper ⟨year, month, day⟩ := ⟨⟨monthFrom, monthTo⟩, dayFrom, dayTo⟩
      exact ⟨rfl, proper, (inRange_number proper).mpr ⟨first, last⟩⟩
    · cases made
  · rintro ⟨rfl, proper, within⟩
    obtain ⟨first, last⟩ := (inRange_number proper).mp within
    obtain ⟨⟨monthFrom, monthTo⟩, dayFrom, dayTo⟩ := proper
    rw [if_pos]
    simp only [Bool.and_eq_true, decide_eq_true_iff]
    exact ⟨⟨⟨⟨⟨monthFrom, monthTo⟩, dayFrom⟩, dayTo⟩, first⟩, last⟩

theorem make?_ofNumber {number : Int} (within : inRange number = true) :
    make? (ofNumber number).year (ofNumber number).month (ofNumber number).day =
      some (ofNumber number) :=
  make?_eq_some_iff.mpr ⟨rfl, proper_ofNumber number, by rwa [number_ofNumber]⟩

end Date

end Reckon.Calendar
