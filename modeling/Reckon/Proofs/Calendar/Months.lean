import Reckon.Proofs.Calendar.Instant

/-!
Shifts by months of the calendar.  They keep the day of the month, or take the last one of a month
that is too short, and they fail exactly if the year that they lead to cannot be represented.
-/

namespace Reckon.Calendar

theorem monthLength_pos (year : Int) {month : Nat} (least : 1 ≤ month) (most : month ≤ 12) :
    1 ≤ monthLength year month := by
  have all : ∀ length ∈ monthLengths year, 1 ≤ length := by
    unfold monthLengths
    split <;> decide
  have inside : month - 1 < (monthLengths year).length := by
    change month - 1 < 12
    omega
  unfold monthLength
  rw [List.getElem?_eq_getElem inside]
  exact all _ (List.getElem_mem inside)

namespace Date

variable {date : Date}

/-- The months before that of a date, counted from the first one of year 0. -/
def monthIndex (date : Date) : Int :=
  date.year * 12 + date.month - 1

/-- The date so many months later, on the last day of the month if the month is too short. -/
def addMonths (date : Date) (months : Int) : Date :=
  let index := date.monthIndex + months
  let month := (index % 12).toNat + 1
  ⟨index / 12, month, min date.day (monthLength (index / 12) month)⟩

theorem monthIndex_addMonths (date : Date) (months : Int) :
    (date.addMonths months).monthIndex = date.monthIndex + months := by
  unfold addMonths
  generalize date.monthIndex + months = index
  unfold monthIndex
  dsimp only
  omega

theorem day_addMonths (date : Date) (months : Int) : (date.addMonths months).day =
    min date.day (monthLength (date.addMonths months).year (date.addMonths months).month) := rfl

theorem proper_addMonths (proper : date.Proper) (months : Int) :
    (date.addMonths months).Proper := by
  have month : 1 ≤ (date.addMonths months).month ∧ (date.addMonths months).month ≤ 12 := by
    unfold addMonths
    dsimp only
    omega
  have length := monthLength_pos (date.addMonths months).year month.1 month.2
  refine ⟨month, ?_⟩
  rw [day_addMonths]
  have day := proper.day.1
  omega

end Date

namespace Moment

variable {moment : Moment}

def addMonths (moment : Moment) (months : Int) : Moment :=
  { moment with day := (moment.date.addMonths months).number }

theorem date_addMonths (moment : Moment) (months : Int) :
    (moment.addMonths months).date = moment.date.addMonths months :=
  Date.ofNumber_number (Date.proper_addMonths (Date.proper_ofNumber moment.day) months)

theorem inRange_addMonths (moment : Moment) (months : Int) :
    Date.inRange (moment.addMonths months).day = true ↔
      -262143 * 12 ≤ moment.date.monthIndex + months ∧
        moment.date.monthIndex + months < 262143 * 12 := by
  have proper : (moment.date.addMonths months).Proper :=
    Date.proper_addMonths (Date.proper_ofNumber moment.day) months
  change Date.inRange (moment.date.addMonths months).number = true ↔ _
  rw [Date.inRange_number proper]
  change -262143 ≤ (moment.date.monthIndex + months) / 12 ∧
    (moment.date.monthIndex + months) / 12 ≤ 262142 ↔ _
  omega

theorem represented?_of_many (within : Date.inRange moment.day = true) {months : Int}
    (many : 2 ^ 31 ≤ months ∨ months ≤ -2 ^ 31) :
    (moment.addMonths months).represented? = none := by
  have proper := Date.proper_ofNumber moment.day
  have month := proper.month
  rw [← Date.number_ofNumber moment.day, Date.inRange_number proper] at within
  unfold represented?
  rw [if_neg]
  rw [inRange_addMonths]
  unfold Date.monthIndex Moment.date
  omega

theorem addMonths?_eq (within : Date.inRange moment.day = true) (months : Int) :
    moment.addMonths? months = (moment.addMonths months).represented? := by
  unfold addMonths?
  split
  · rename_i many
    rw [represented?_of_many within]
    unfold mostMonths at many
    omega
  · have proper : (moment.date.addMonths months).Proper :=
      Date.proper_addMonths (Date.proper_ofNumber moment.day) months
    change (Date.make? (moment.date.addMonths months).year (moment.date.addMonths months).month
      (moment.date.addMonths months).day).map _ = _
    unfold represented?
    split
    · rename_i reached
      have made : Date.make? (moment.date.addMonths months).year
          (moment.date.addMonths months).month (moment.date.addMonths months).day =
            some (moment.date.addMonths months) :=
        Date.make?_eq_some_iff.mpr ⟨rfl, proper, reached⟩
      rw [made]
      rfl
    · rename_i beyond
      rw [Option.map_eq_none_iff, Option.eq_none_iff_forall_ne_some]
      intro found made
      obtain ⟨rfl, -, reached⟩ := Date.make?_eq_some_iff.mp made
      exact beyond reached

end Moment

end Reckon.Calendar
