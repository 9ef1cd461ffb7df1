import Reckon.Proofs.Outcome
import Reckon.Proofs.Standard.Shifts

/-!
Numbers as dates and as amounts.  A finite number is the moment so many milliseconds after the
epoch, if it can be represented, and an infinite one is refused.  What is no number counts as zero,
as a date and as an amount.
-/

namespace Reckon.Standard

open Calendar (Date Moment)
open Binary64 (decode toInt? toWord)

variable {number amount : Float} {millis : Int} {moment : Moment}

/-! ## Numbers as dates -/

/-- The milliseconds that a double counts, cut toward zero.  What is no number counts none, and an
infinity has no count. -/
inductive Counts (number : Float) : Int → Prop
  | whole {negative : Bool} {mantissa : Nat} {exponent : Int}
      (decoded : decode number = .finite negative mantissa exponent) :
      Counts number (Binary64.wholePart negative mantissa exponent)
  | none (unordered : number.isNaN = true) : Counts number 0

/-- The moment that a double names: so many milliseconds after the epoch. -/
def Dated (number : Float) (moment : Moment) : Prop :=
  ∃ millis, Counts number millis ∧ moment.Plain ∧ Date.inRange moment.day = true ∧
    moment.instant = millis * Calendar.nanosPerMilli

/-- A count that is kept within a word is the exact one, or leads beyond all moments as that
does. -/
theorem ofMillis?_toWord (counts : Counts number millis) :
    Moment.ofMillis? (toWord number) = Moment.ofMillis? millis := by
  cases counts with
  | whole decoded =>
      rename_i negative mantissa exponent
      rw [toWord, decoded]
      have counted : Binary64.SameUpTo (2 ^ 54) (Binary64.wholePart negative mantissa exponent) _ :=
        Binary64.sameUpTo_clamp (by decide)
      exact counted.congr Moment.ofMillis?_of_far
  | none unordered => rw [toWord, Binary64.isNaN_iff_decode.mp unordered]

theorem ofMillis?_of_infinite {negative : Bool} (decoded : decode number = .infinite negative) :
    Moment.ofMillis? (toWord number) = none := by
  rw [toWord, decoded]
  cases negative with
  | false => exact Moment.ofMillis?_of_far (.inl (by decide))
  | true => exact Moment.ofMillis?_of_far (.inr (by decide))

theorem counts_of_not_infinite (finite : ∀ negative, decode number ≠ .infinite negative) :
    ∃ millis, Counts number millis := by
  cases decoded : decode number with
  | nan => exact ⟨0, .none (Binary64.isNaN_iff_decode.mpr decoded)⟩
  | infinite negative => exact absurd decoded (finite negative)
  | finite negative mantissa exponent => exact ⟨_, .whole decoded⟩

theorem moment?_number_iff : moment? (.number number) = some moment ↔ Dated number moment := by
  change Moment.ofMillis? (toWord number) = some moment ↔ _
  constructor
  · intro named
    have finite (negative : Bool) : decode number ≠ .infinite negative := by
      intro decoded
      rw [ofMillis?_of_infinite decoded] at named
      cases named
    obtain ⟨millis, counts⟩ := counts_of_not_infinite finite
    rw [ofMillis?_toWord counts] at named
    exact ⟨millis, counts, Moment.ofMillis?_eq_some_iff.mp named⟩
  · rintro ⟨millis, counts, named⟩
    rw [ofMillis?_toWord counts]
    exact Moment.ofMillis?_eq_some_iff.mpr named

/-! ## Functions on dates that give a value -/

section

variable {name unitName : String} {value result : Value}

theorem datePart_eq_ok_iff {part : Date → Int} :
    datePart name part [value] = .ok result ↔
      ∃ moment, moment? value.force = some moment ∧ result = .ofInt (part moment.date) := by
  rw [datePart, Outcome.map_eq_ok_iff]
  exact exists_congr fun moment => and_congr_left' dateArgument_eq_ok_iff

theorem dateFormat_eq_ok_iff {format : String} :
    dateFormat [.string format, value] = .ok result ↔
      ∃ moment, moment? value.force = some moment ∧ result = .string (moment.format format) := by
  change (dateArgument "date_format" [.string format, value] 1).map
    (fun moment => .string (moment.format format)) = .ok result ↔ _
  rw [Outcome.map_eq_ok_iff]
  exact exists_congr fun moment => and_congr_left' dateArgument_eq_ok_iff

theorem shiftDate_eq_ok_iff {direction : Float} :
    shiftDate name direction [.number amount, .string unitName, value] = .ok result ↔
      ∃ moment, moment? value.force = some moment ∧ ∃ unit, dateUnit? unitName = some unit ∧
        ∃ later, shift? unit (amount * direction) moment = some later ∧
          result = dateValue later := by
  change (dateArgument name [.number amount, .string unitName, value] 2 >>=
    shiftMoment name unitName (amount * direction)) = .ok result ↔ _
  rw [Outcome.bind_eq_ok_iff]
  refine exists_congr fun moment => and_congr dateArgument_eq_ok_iff ?_
  unfold shiftMoment
  cases dateUnit? unitName with
  | none => exact iff_of_false nofun nofun
  | some unit =>
      simp only [Option.some.injEq, exists_eq_left']
      cases shift? unit (amount * direction) moment with
      | none => exact iff_of_false nofun nofun
      | some later => simp only [Option.some.injEq, exists_eq_left', Except.ok.injEq, eq_comm]

end

/-! ## Amounts that count nothing -/

section

variable {unit : DateUnit} {span : Span}

/-- An infinite amount leads beyond all dates, by each of the units. -/
theorem shift?_infinity (negative : Bool) (spans : unit.Spans span) (formed : moment.WellFormed) :
    shift? unit (Binary64.infinity negative) moment = none := by
  match unit, span, spans with
  | .months _, .months each, ⟨rfl, small⟩ =>
      change moment.addMonths? (clampWord (toWord (Binary64.infinity negative) * each)) = none
      rw [Moment.addMonths?_eq formed.day, Binary64.toWord_infinity]
      refine Moment.represented?_of_many formed.day ?_
      unfold clampWord Binary64.maxWord Binary64.minWord
      rcases small with rfl | rfl <;> cases negative <;> decide
  | .millis length, .millis each, ⟨long, positive, _⟩ =>
      obtain ⟨sign, product⟩ := Binary64.exists_infinity_mul (Binary64.decode_infinity negative)
        long positive.ne'
      change (if toWord (Binary64.infinity negative * length) = Binary64.minWord then none
        else moment.addMillis? (toWord (Binary64.infinity negative * length))) = none
      rw [product, Binary64.toWord_infinity]
      cases sign with
      | true => exact if_pos rfl
      | false =>
        rw [if_neg (by decide)]
        exact Moment.addMillis?_of_far formed (.inl (by decide))

theorem shift?_nan {zero : Float} (read : toInt? zero = some 0) (spans : unit.Spans span) :
    shift? unit Float.nan moment = shift? unit zero moment := by
  have nothing {number : Float} (read : toInt? number = some 0) : toWord number = 0 := by
    rw [Binary64.toWord_of_toInt? read]
    decide
  have missing : toWord Float.nan = 0 := by decide +kernel
  match unit, span, spans with
  | .months _, .months each, ⟨rfl, _⟩ =>
      change moment.addMonths? (clampWord (toWord Float.nan * each)) =
        moment.addMonths? (clampWord (toWord zero * each))
      rw [missing, nothing read]
  | .millis length, .millis each, ⟨long, _⟩ =>
      have product : toInt? (zero * length) = some (0 * each) :=
        Binary64.toInt?_mul read long read (by rw [Int.zero_mul])
      rw [Int.zero_mul] at product
      change (if toWord (Float.nan * length) = Binary64.minWord then none
        else moment.addMillis? (toWord (Float.nan * length))) =
          if toWord (zero * length) = Binary64.minWord then none
          else moment.addMillis? (toWord (zero * length))
      rw [Binary64.nan_mul, missing, nothing product]

end

def RefusedBy (name : String) (error : Error) : Prop :=
  ∃ detail, error = .function name (some detail)

section

variable (name : String) (arguments : List Value) (index : Nat)

theorem refuses_stringArgument :
    Outcome.Ends (fun _ => True) (RefusedBy name) (stringArgument name arguments index) := by
  unfold stringArgument
  split
  · trivial
  · exact ⟨_, rfl⟩

theorem refuses_dateArgument :
    Outcome.Ends Moment.WellFormed (RefusedBy name) (dateArgument name arguments index) := by
  unfold dateArgument
  dsimp only
  split
  · rename_i named
    exact wellFormed_moment? named
  · exact ⟨_, rfl⟩

end

section

variable {direction : Float} {sign : Int} (directed : Directed direction sign)

include directed

theorem refuses_shiftDate {negative : Bool} (infinite : decode amount = .infinite negative)
    (name : String) (unit value : Value) :
    ∃ detail, shiftDate name direction [.number amount, unit, value] =
      .error (.function name (some detail)) := by
  have nonzero : sign ≠ 0 := by rcases directed.unitary with rfl | rfl <;> decide
  have refused : Outcome.Ends (fun _ => False) (RefusedBy name)
      (shiftDate name direction [.number amount, unit, value]) := by
    rw [shiftDate_eq_bind]
    refine Outcome.ends_bind (refuses_stringArgument name _ 1) fun unitName _ => ?_
    refine Outcome.ends_bind (refuses_dateArgument name _ 2) fun moment formed => ?_
    unfold shiftMoment
    split
    · exact ⟨_, rfl⟩
    · rename_i accepted
      obtain ⟨span, -, spans⟩ := exists_span accepted
      obtain ⟨negative, product⟩ := Binary64.exists_infinity_mul infinite directed.read nonzero
      rw [product, shift?_infinity negative spans formed]
      exact ⟨_, rfl⟩
  obtain ⟨error, ended, detail, rfl⟩ := refused.exists_error
  exact ⟨detail, ended⟩

theorem shiftDate_nan (name : String) (unit value : Value) :
    shiftDate name direction [.number Float.nan, unit, value] =
      shiftDate name direction [.number 0, unit, value] := by
  have zero : toInt? 0 = some 0 := by decide +kernel
  have product := directed.toInt?_mul zero
  rw [Int.zero_mul] at product
  rw [shiftDate_eq_bind, shiftDate_eq_bind]
  refine congrArg (bind _) (funext fun unitName => congrArg (bind _) (funext fun moment => ?_))
  unfold shiftMoment
  split
  · rfl
  · rename_i accepted
    obtain ⟨span, -, spans⟩ := exists_span accepted
    rw [Binary64.nan_mul, shift?_nan product spans]

end

/-- Numbers as dates and as amounts.  The functions on dates take a number for the moment that it
names, if it names one, and refuse it otherwise.  Infinite amounts are refused, and what is no
number is taken for an amount of zero. -/
theorem dates_of_number {value : Value} (clock : Moment) (numeric : value.force = .number number) :
    (∀ text, date clock [value] = .ok text ↔
      ∃ moment, Dated number moment ∧ text = dateValue moment) ∧
    (∀ name part found, datePart name part [value] = .ok found ↔
      ∃ moment, Dated number moment ∧ found = .ofInt (part moment.date)) ∧
    (∀ format written, dateFormat [.string format, value] = .ok written ↔
      ∃ moment, Dated number moment ∧ written = .string (moment.format format)) ∧
    (∀ name direction amount unitName shifted,
      shiftDate name direction [.number amount, .string unitName, value] = .ok shifted ↔
        ∃ moment, Dated number moment ∧ ∃ unit, dateUnit? unitName = some unit ∧
          ∃ later, shift? unit (amount * direction) moment = some later ∧
            shifted = dateValue later) ∧
    ∀ name direction, direction = 1 ∨ direction = -1 → ∀ amount unit date,
      (∀ negative, decode amount = .infinite negative →
        ∃ detail, shiftDate name direction [.number amount, unit, date] =
          .error (.function name (some detail))) ∧
      (amount.isNaN = true → shiftDate name direction [.number amount, unit, date] =
        shiftDate name direction [.number 0, unit, date]) := by
  have named (moment : Moment) : moment? value.force = some moment ↔ Dated number moment := by
    rw [numeric, moment?_number_iff]
  simp only [← named]
  refine ⟨fun _ => date_eq_ok_iff, fun _ _ _ => datePart_eq_ok_iff,
    fun _ _ => dateFormat_eq_ok_iff, fun _ _ _ _ _ => shiftDate_eq_ok_iff, ?_⟩
  intro name direction unitary amount unit date
  obtain ⟨sign, directed⟩ : ∃ sign, Directed direction sign := by
    rcases unitary with rfl | rfl
    · exact ⟨1, directed_forward⟩
    · exact ⟨-1, directed_backward⟩
  refine ⟨fun negative infinite => refuses_shiftDate directed infinite name unit date, ?_⟩
  intro missing
  rw [Binary64.eq_nan_of_decode (Binary64.isNaN_iff_decode.mp missing)]
  exact shiftDate_nan directed name unit date

/-- A millisecond and a half before the epoch, and infinite amounts of it. -/
theorem dates_of_number_before :
    let value : Value := .number (-1.5)
    date ⟨0, 0, 0⟩ [value] = .ok (.string "1969-12-31T23:59:59") ∧
      datePart "date_year" (fun date => date.year) [value] = .ok (.ofInt 1969) ∧
      (∃ detail,
        shiftDate "date_minus" (-1) [.number (Binary64.infinity true), .string "M", value] =
          .error (.function "date_minus" (some detail))) ∧
      shiftDate "date_plus" 1 [.number Float.nan, .string "M", value] =
        shiftDate "date_plus" 1 [.number 0, .string "M", value] := by
  intro value
  have numeric : value.force = .number (-1.5) := rfl
  obtain ⟨texts, parts, -, -, amounts⟩ := dates_of_number ⟨0, 0, 0⟩ numeric
  have decoded : decode (-1.5) = .finite true 6755399441055744 (-52) := by decide +kernel
  have dated : Dated (-1.5) ⟨-1, 86399, 999000000⟩ :=
    ⟨-1, .whole decoded, ⟨by decide, by decide⟩, by decide, by decide⟩
  refine ⟨(texts _).mpr ⟨_, dated, rfl⟩, (parts _ _ _).mpr ⟨_, dated, rfl⟩, ?_, ?_⟩
  · exact (amounts "date_minus" (-1) (.inr rfl) _ _ _).1 true (Binary64.decode_infinity true)
  · exact (amounts "date_plus" 1 (.inl rfl) _ _ _).2 rfl

/-- What is no number is the epoch as a date, and no time at all as an amount. -/
theorem date_of_nan :
    (∀ clock, date clock [.number Float.nan] = .ok (.string "1970-01-01T00:00:00")) ∧
      shiftDate "date_plus" 1 [.number Float.nan, .string "day", .string "2020-01-01"] =
        .ok (.string "2020-01-01T00:00:00") :=
  ⟨fun _ => by rfl, by rfl⟩

end Reckon.Standard
