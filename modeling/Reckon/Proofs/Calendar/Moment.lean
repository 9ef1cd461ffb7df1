import Reckon.Calendar.Reader
import Reckon.Proofs.Calendar.Date
import Reckon.Proofs.Decimal.Figures

/-!
What holds of the moments that texts and numbers name.  Each part of a text is kept within its
bounds as it is read, so the seconds of a day are never exceeded, and time runs on beyond a second
only at the end of a minute.
-/

namespace Reckon.Calendar

/-! ## Moments -/

/-- A day that can be represented and a second of it.  The nanosecond may run on in the last second
of a minute. -/
structure Moment.WellFormed (moment : Moment) : Prop where
  day : Date.inRange moment.day = true
  second : moment.second < secondsPerDay
  nano : moment.nano < 2 * nanosPerSecond
  leap : nanosPerSecond ≤ moment.nano → moment.second % 60 = 59

theorem Moment.wellFormed_make? {day seconds : Int} {nano : Nat} {moment : Moment}
    (small : nano < 2 * nanosPerSecond) (leap : nanosPerSecond ≤ nano → seconds % 60 = 59)
    (made : make? day seconds nano = some moment) : moment.WellFormed := by
  unfold make? at made
  dsimp only at made
  split at made
  · rename_i within
    cases made
    refine ⟨within, ?_, small, fun more => ?_⟩
    · dsimp only [secondsPerDay]
      omega
    · have last := leap more
      dsimp only [secondsPerDay]
      omega
  · cases made

theorem Moment.wellFormed_ofMillis? {millis : Int} {moment : Moment}
    (made : ofMillis? millis = some moment) : moment.WellFormed := by
  have below : (millis % 1000).toNat * nanosPerMilli < nanosPerSecond := by
    unfold nanosPerMilli nanosPerSecond
    omega
  exact wellFormed_make? (by omega) (fun more => by omega) made

/-! ## Fields -/

/-- The time of day is one, or a leap second. -/
structure Fields.WellFormed (fields : Fields) : Prop where
  hour : fields.hour ≤ 23
  minute : fields.minute ≤ 59
  second : fields.second ≤ 60
  nano : fields.nano < nanosPerSecond

theorem Fields.wellFormed_default : Fields.WellFormed {} where
  hour := by decide
  minute := by decide
  second := by decide
  nano := by decide

theorem Fields.wellFormed_moment? {fields : Fields} {moment : Moment} (formed : fields.WellFormed)
    (named : fields.moment? = some moment) : moment.WellFormed := by
  obtain ⟨date, made, rfl⟩ := Option.map_eq_some_iff.mp named
  obtain ⟨-, -, within⟩ := Date.make?_eq_some_iff.mp made
  obtain ⟨hour, minute, second, nano⟩ := formed
  refine ⟨within, ?_, ?_, ?_⟩ <;>
    dsimp only [nanosPerSecond, secondsPerDay] at * <;> split <;> omega

/-! ## Parts of a text -/

theorem le_of_takeWithin {digits : Nat × Nat} {least most number : Nat} {text rest : List Char}
    (taken : takeWithin digits least most text = some (number, rest)) : number ≤ most := by
  have within := (Option.filter_eq_some_iff.mp taken).2
  simp only [Bool.and_eq_true, decide_eq_true_iff] at within
  exact within.2

/-- Nine digits after the point count, so there is less than a second. -/
theorem lt_of_takeFraction {text rest : List Char} {nano : Nat}
    (taken : takeFraction text = some (nano, rest)) : nano < nanosPerSecond := by
  unfold takeFraction at taken
  split at taken
  · rename_i figures
    dsimp only at taken
    split at taken
    · cases taken
    · cases taken
      have digits : ∀ c ∈ (figures.takeWhile Char.isDigit).take 9, c.isDigit = true :=
        fun c member => List.mem_takeWhile_imp (List.mem_of_mem_take member)
      have count : ((figures.takeWhile Char.isDigit).take 9).length ≤ 9 := List.length_take_le _ _
      generalize (figures.takeWhile Char.isDigit).take 9 = counted at digits count
      calc
        Decimal.readFigures 0 counted * 10 ^ (9 - counted.length)
          < 10 ^ counted.length * 10 ^ (9 - counted.length) :=
            Nat.mul_lt_mul_of_pos_right (Decimal.readFigures_lt digits) (Nat.pow_pos (by decide))
        _ = nanosPerSecond := by
            rw [← Nat.pow_add, Nat.add_sub_cancel' count]
            rfl
  · cases taken
    decide

theorem wellFormed_readItem? {item : Item} {fields read : Fields} {text rest : List Char}
    (formed : fields.WellFormed) (reads : readItem? item fields text = some (read, rest)) :
    read.WellFormed := by
  cases item <;> unfold readItem? at reads <;> dsimp only at reads
  case year | month | day =>
    obtain ⟨⟨part, behind⟩, taken, same⟩ := Option.map_eq_some_iff.mp reads
    cases same
    exact { formed with }
  case hour =>
    obtain ⟨⟨part, behind⟩, taken, same⟩ := Option.map_eq_some_iff.mp reads
    cases same
    exact { formed with hour := le_of_takeWithin taken }
  case minute =>
    obtain ⟨⟨part, behind⟩, taken, same⟩ := Option.map_eq_some_iff.mp reads
    cases same
    exact { formed with minute := le_of_takeWithin taken }
  case second =>
    obtain ⟨⟨part, behind⟩, taken, same⟩ := Option.map_eq_some_iff.mp reads
    cases same
    exact { formed with second := le_of_takeWithin taken }
  case fraction =>
    obtain ⟨⟨part, behind⟩, taken, same⟩ := Option.map_eq_some_iff.mp reads
    cases same
    exact { formed with nano := lt_of_takeFraction taken }
  case blanks =>
    cases reads
    exact formed
  case literal c =>
    split at reads
    · split at reads
      · cases reads
        exact formed
      · cases reads
    · cases reads

theorem wellFormed_readItems {items : List Item} {fields read : Fields} {text rest : List Char}
    (formed : fields.WellFormed) (reads : readItems items fields text = some (read, rest)) :
    read.WellFormed := by
  induction items generalizing fields text with
  | nil =>
      cases reads
      exact formed
  | cons item items ih =>
      obtain ⟨⟨next, behind⟩, first, more⟩ := Option.bind_eq_some_iff.mp reads
      exact ih (wellFormed_readItem? formed first) more

/-! ## Whole texts -/

theorem wellFormed_readFormat? {format : List Item} {text : List Char} {moment : Moment}
    (read : readFormat? format text = some moment) : moment.WellFormed := by
  unfold readFormat? at read
  split at read
  · rename_i fields items
    exact Fields.wellFormed_moment? (wellFormed_readItems Fields.wellFormed_default items) read
  · cases read

/-- Offsets are whole minutes, so a leap second stays at the end of one. -/
theorem dvd_of_takeOffset {text rest : List Char} {offset : Int}
    (taken : takeOffset text = some (offset, rest)) : 60 ∣ offset := by
  unfold takeOffset at taken
  split at taken
  · cases taken
  · split at taken
    · cases taken
      decide
    · split at taken
      · simp only [Option.bind_eq_bind, Option.bind_eq_some_iff, Prod.exists] at taken
        obtain ⟨hours, _, -, _, -, minutes, _, -, taken⟩ := taken
        split at taken
        · cases taken
        · split at taken <;> cases taken <;> omega
      · cases taken

theorem wellFormed_readTimestamp? {text : List Char} {moment : Moment}
    (read : readTimestamp? text = some moment) : moment.WellFormed := by
  obtain ⟨⟨year, text⟩, -, read⟩ := Option.bind_eq_some_iff.mp read
  obtain ⟨text, -, read⟩ := Option.bind_eq_some_iff.mp read
  obtain ⟨⟨month, text⟩, -, read⟩ := Option.bind_eq_some_iff.mp read
  obtain ⟨text, -, read⟩ := Option.bind_eq_some_iff.mp read
  obtain ⟨⟨day, text⟩, -, read⟩ := Option.bind_eq_some_iff.mp read
  obtain ⟨text, -, read⟩ := Option.bind_eq_some_iff.mp read
  obtain ⟨⟨hour, text⟩, hours, read⟩ := Option.bind_eq_some_iff.mp read
  obtain ⟨text, -, read⟩ := Option.bind_eq_some_iff.mp read
  obtain ⟨⟨minute, text⟩, minutes, read⟩ := Option.bind_eq_some_iff.mp read
  obtain ⟨text, -, read⟩ := Option.bind_eq_some_iff.mp read
  obtain ⟨⟨second, text⟩, seconds, read⟩ := Option.bind_eq_some_iff.mp read
  obtain ⟨⟨nano, text⟩, fraction, read⟩ := Option.bind_eq_some_iff.mp read
  obtain ⟨⟨offset, text⟩, shift, read⟩ := Option.bind_eq_some_iff.mp read
  have read : (if !text.isEmpty then none else
      (Fields.moment? { year, month, day, hour, minute, second, nano }).bind fun wall =>
        Moment.make? wall.day (wall.second - offset) wall.nano) = some moment := read
  split at read
  · cases read
  · obtain ⟨wall, named, made⟩ := Option.bind_eq_some_iff.mp read
    have formed : Fields.WellFormed { year, month, day, hour, minute, second, nano } :=
      ⟨le_of_takeWithin hours, le_of_takeWithin minutes, le_of_takeWithin seconds,
        lt_of_takeFraction fraction⟩
    have moment := Fields.wellFormed_moment? formed named
    have minutes := dvd_of_takeOffset shift
    refine Moment.wellFormed_make? moment.nano (fun more => ?_) made
    have last := moment.leap more
    omega

theorem Moment.wellFormed_read? {text : List Char} {moment : Moment}
    (read : Moment.read? text = some moment) : moment.WellFormed := by
  unfold Moment.read? at read
  split at read
  · rename_i found
    cases read
    exact wellFormed_readTimestamp? found
  · obtain ⟨format, -, found⟩ := List.exists_of_findSome?_eq_some read
    exact wellFormed_readFormat? found

end Reckon.Calendar
