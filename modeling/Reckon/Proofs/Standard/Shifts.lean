import Reckon.Proofs.Binary64.Product
import Reckon.Proofs.Calendar.Months
import Reckon.Proofs.Standard.Dates

/-!
Shifts of dates.  An amount is multiplied as a double, cut to a word and counted in words, and each
of these is exact for all shifts that lead to a moment that can be represented; the others are
refused.  Two shifts by a fixed length are one shift by their sum, except that the text between them
has no milliseconds.
-/

namespace Reckon.Standard

open Calendar (Date Moment)
open Binary64 (SameUpTo toInt? toWord)

/-- What one unit stands for: months of the calendar, or milliseconds. -/
inductive Span
  | months (each : Int)
  | millis (each : Int)
  deriving DecidableEq, Repr

def span? : String → Option Span
  | "millisecond" | "milliseconds" | "ms" => some (.millis 1)
  | "second" | "seconds" | "s" => some (.millis 1000)
  | "minute" | "minutes" | "m" => some (.millis (60 * 1000))
  | "hour" | "hours" | "h" => some (.millis (60 * 60 * 1000))
  | "day" | "days" | "d" => some (.millis (24 * 60 * 60 * 1000))
  | "week" | "weeks" | "w" => some (.millis (7 * 24 * 60 * 60 * 1000))
  | "month" | "months" | "M" => some (.months 1)
  | "year" | "years" | "y" => some (.months 12)
  | _ => none

/-- One moment is so many spans after another.  Months keep the day of the month, or lead to the
last one of a month that is too short. -/
def Span.Leads : Span → Int → Moment → Moment → Prop
  | .months each, count, moment, later =>
      later.date.monthIndex = moment.date.monthIndex + count * each ∧
        later.date.day =
          min moment.date.day (Calendar.monthLength later.date.year later.date.month) ∧
        later.second = moment.second ∧ later.nano = moment.nano
  | .millis each, count, moment, later =>
      later.Plain ∧ later.instant = moment.instant + count * each * Calendar.nanosPerMilli

def Span.after : Span → Int → Moment → Moment
  | .months each, count, moment => moment.addMonths (count * each)
  | .millis each, count, moment =>
      .ofInstant (moment.instant + count * each * Calendar.nanosPerMilli)

theorem Span.leads_after (span : Span) (count : Int) (moment : Moment) :
    span.Leads count moment (span.after count moment) := by
  cases span with
  | months each =>
      change (moment.addMonths _).date.monthIndex = _ ∧ (moment.addMonths _).date.day =
        min _ (Calendar.monthLength (moment.addMonths _).date.year
          (moment.addMonths _).date.month) ∧ _ = _ ∧ _ = _
      rw [Moment.date_addMonths, Date.monthIndex_addMonths]
      exact ⟨rfl, Date.day_addMonths _ _, rfl, rfl⟩
  | millis each => exact ⟨Moment.plain_ofInstant _, Moment.instant_ofInstant _⟩

/-- A unit whose double, or count of months, is what the span says. -/
def DateUnit.Spans : DateUnit → Span → Prop
  | .months count, .months each => count = each ∧ (each = 1 ∨ each = 12)
  | .millis length, .millis each =>
      toInt? length = some each ∧ 0 < each ∧ (each = 1 ∨ 1000 ∣ each)
  | _, _ => False

theorem DateUnit.Spans.millis {unit : DateUnit} {each : Int} (spans : unit.Spans (.millis each)) :
    each = 1 ∨ 1000 ∣ each :=
  match unit, spans with
  | .millis _, ⟨_, _, whole⟩ => whole

theorem exists_span {name : String} {unit : DateUnit} (accepted : dateUnit? name = some unit) :
    ∃ span, span? name = some span ∧ unit.Spans span := by
  unfold dateUnit? at accepted
  split at accepted <;> cases accepted <;> exact ⟨_, rfl, rfl, by decide⟩

/-! ## One shift -/

section

variable {amount : Float} {count : Int} {moment : Moment} {unit : DateUnit} {span : Span}

theorem shift?_eq (read : toInt? amount = some count) (spans : unit.Spans span)
    (within : Date.inRange moment.day = true) (plain : moment.Plain) :
    shift? unit amount moment = (span.after count moment).represented? := by
  match unit, span, spans with
  | .months _, .months each, ⟨rfl, small⟩ =>
      have known := Binary64.toWord_of_toInt? read
      have counted : SameUpTo (2 ^ 31) (count * each) (clampWord (toWord amount * each)) := by
        unfold SameUpTo clampWord
        unfold Binary64.maxWord Binary64.minWord at *
        rcases small with rfl | rfl <;> omega
      change moment.addMonths? (clampWord (toWord amount * each)) =
        (moment.addMonths (count * each)).represented?
      rw [Moment.addMonths?_eq within]
      exact counted.congr (Moment.represented?_of_many within)
  | .millis length, .millis each, ⟨long, _, even⟩ =>
      have counted : SameUpTo (2 ^ 54) (count * each) (toWord (amount * length)) :=
        Binary64.sameUpTo_mul read long (even.imp_right (Dvd.dvd.trans (by decide)))
      have near := Moment.near_instant within plain
      change (if toWord (amount * length) = Binary64.minWord then none
        else moment.addMillis? (toWord (amount * length))) = (Moment.ofInstant
          (moment.instant + count * each * Calendar.nanosPerMilli)).represented?
      rw [Moment.addMillis?_eq plain, ← counted.congr (Moment.represented?_of_far near)]
      split
      · rename_i least
        rw [least, Moment.represented?_of_far near (.inr (by decide))]
      · rfl

end

/-- The rest of a shift when the amount, the unit's name and the date are known. -/
def shiftMoment (name unitName : String) (amount : Float) (moment : Moment) : Except Error Value :=
  match dateUnit? unitName with
  | none => .error (.function name (some ("unknown unit '" ++ unitName ++ "'")))
  | some unit =>
      match shift? unit amount moment with
      | some shifted => .ok (dateValue shifted)
      | none => .error (.function name (some "date out of range"))

theorem shiftDate_eq_bind (name : String) (direction amount : Float) (unit value : Value) :
    shiftDate name direction [.number amount, unit, value] =
      (stringArgument name [.number amount, unit, value] 1 >>= fun unitName =>
        dateArgument name [.number amount, unit, value] 2 >>=
          shiftMoment name unitName (amount * direction)) := rfl

theorem shiftDate_of_moment {unitName : String} {value : Value} {moment : Moment} (name : String)
    (direction amount : Float) (named : moment? value.force = some moment) :
    shiftDate name direction [.number amount, .string unitName, value] =
      shiftMoment name unitName (amount * direction) moment := by
  have third : dateArgument name [.number amount, .string unitName, value] 2 = .ok moment :=
    dateArgument_eq_ok_iff.mpr named
  change (dateArgument name [.number amount, .string unitName, value] 2 >>= _) = _
  rw [third]
  rfl

structure Directed (direction : Float) (sign : Int) : Prop where
  read : toInt? direction = some sign
  unitary : sign = 1 ∨ sign = -1

theorem directed_forward : Directed 1 1 := ⟨by decide +kernel, .inl rfl⟩

theorem directed_backward : Directed (-1) (-1) := ⟨by decide +kernel, .inr rfl⟩

section

variable {amount direction : Float} {count sign : Int} {unitName : String} {unit : DateUnit}
  {span : Span} {value : Value} {moment : Moment}

/-- A direction changes the sign of an amount, and nothing else. -/
theorem Directed.toInt?_mul (directed : Directed direction sign)
    (read : toInt? amount = some count) : toInt? (amount * direction) = some (count * sign) :=
  Binary64.toInt?_mul read directed.read read (by rcases directed.unitary with rfl | rfl <;> omega)

variable (name : String) (directed : Directed direction sign) (read : toInt? amount = some count)
  (accepted : dateUnit? unitName = some unit) (spans : unit.Spans span)
  (named : moment? value.force = some moment) (short : moment.nano < Calendar.nanosPerSecond)

include directed read accepted spans named short

theorem shiftDate_eq_ite :
    shiftDate name direction [.number amount, .string unitName, value] =
      if Date.inRange (span.after (count * sign) moment).day then
        .ok (dateValue (span.after (count * sign) moment))
      else .error (.function name (some "date out of range")) := by
  have formed := wellFormed_moment? named
  rw [shiftDate_of_moment name direction amount named, shiftMoment, accepted]
  dsimp only
  rw [shift?_eq (directed.toInt?_mul read) spans formed.day ⟨formed.second, short⟩]
  unfold Moment.represented?
  by_cases within : Date.inRange (span.after (count * sign) moment).day = true
  · rw [if_pos within, if_pos within]
  · rw [if_neg within, if_neg within]

theorem exists_of_shiftDate {shifted : Value}
    (made : shiftDate name direction [.number amount, .string unitName, value] = .ok shifted) :
    ∃ later, span.Leads (count * sign) moment later ∧ Date.inRange later.day = true ∧
      shifted = dateValue later := by
  rw [shiftDate_eq_ite name directed read accepted spans named short] at made
  split at made
  · rename_i within
    exact ⟨_, span.leads_after _ _, within, (Except.ok.inj made).symm⟩
  · cases made

end

theorem exists_unit {name : String} {span : Span} (stands : span? name = some span) :
    ∃ unit, dateUnit? name = some unit ∧ unit.Spans span := by
  unfold span? at stands
  split at stands <;> cases stands <;> exact ⟨_, rfl, rfl, by decide⟩

theorem dateValue_eq_iff {first second : Moment} (formed : first.WellFormed)
    (further : second.WellFormed) (plain : first.Plain) (short : second.Plain) :
    dateValue first = dateValue second ↔
      first.instant / Calendar.nanosPerSecond = second.instant / Calendar.nanosPerSecond := by
  constructor
  · intro same
    have named := moment?_dateValue formed
    rw [same, moment?_dateValue further, Option.some.injEq] at named
    have instants := congrArg Moment.instant named
    rw [Moment.instant_whole plain, Moment.instant_whole short] at instants
    unfold Calendar.nanosPerSecond at *
    omega
  · intro same
    have whole : first.whole = second.whole := by
      rw [← Moment.ofInstant_instant (Moment.plain_whole plain),
        ← Moment.ofInstant_instant (Moment.plain_whole short), Moment.instant_whole plain,
        Moment.instant_whole short, same]
    rw [dateValue, dateValue, ← Calendar.iso_whole first, whole, Calendar.iso_whole]

/-- A fraction of a second counts only if milliseconds that are added to it make it a second. -/
theorem instant_div_iff {moment : Moment} (plain : moment.Plain) (millis : Int) :
    (moment.whole.instant + millis * Calendar.nanosPerMilli) / Calendar.nanosPerSecond =
        (moment.instant + millis * Calendar.nanosPerMilli) / Calendar.nanosPerSecond ↔
      moment.nano + millis % 1000 * Calendar.nanosPerMilli < Calendar.nanosPerSecond := by
  have nano := plain.nano
  rw [Moment.instant_whole plain]
  unfold Moment.instant Calendar.nanosPerSecond Calendar.nanosPerMilli at *
  omega

/-- The text of a date is shifted to the text that the date itself is shifted to, unless the
fraction that it lacks makes a second. -/
theorem shifted_whole_iff {moment later : Moment} {millis : Int} {failure : Error}
    (plain : moment.Plain) (short : later.Plain) (within : Date.inRange later.day = true)
    (leads : later.instant = moment.instant + millis * Calendar.nanosPerMilli) :
    let again := Moment.ofInstant (moment.whole.instant + millis * Calendar.nanosPerMilli)
    (if Date.inRange again.day then .ok (dateValue again) else .error failure) =
        Except.ok (dateValue later) ↔
      moment.nano + millis % 1000 * Calendar.nanosPerMilli < Calendar.nanosPerSecond := by
  intro again
  have formed : later.WellFormed := short.wellFormed within
  have instant : again.instant = moment.whole.instant + millis * Calendar.nanosPerMilli :=
    Moment.instant_ofInstant _
  have plain' : again.Plain := Moment.plain_ofInstant _
  rw [← instant_div_iff plain, ← leads, ← instant]
  constructor
  · intro same
    split at same
    · rename_i reached
      exact (dateValue_eq_iff (plain'.wellFormed reached) formed plain' short).mp
        (Except.ok.inj same)
    · cases same
  · intro same
    have day : again.day = later.day := by
      rw [← Moment.ofInstant_instant plain', ← Moment.ofInstant_instant short]
      unfold Moment.ofInstant
      dsimp only
      rw [same]
    have reached : Date.inRange again.day = true := day ▸ within
    rw [if_pos reached,
      (dateValue_eq_iff (plain'.wellFormed reached) formed plain' short).mpr same]

/-- A shift of the text of a date by a fixed length gives the text of a moment that is as far from
the date, if the fraction that the text lacks does not make a second.  It never does unless the unit
is a millisecond. -/
theorem shiftDate_dateValue_iff {amount direction : Float} {count sign each : Int}
    {unitName : String} {unit : DateUnit} {moment later : Moment} (name : String)
    (directed : Directed direction sign) (read : toInt? amount = some count)
    (accepted : dateUnit? unitName = some unit) (spans : unit.Spans (.millis each))
    (formed : moment.WellFormed)
    (plain : moment.Plain) (short : later.Plain) (within : Date.inRange later.day = true)
    (leads : later.instant = moment.instant + count * sign * each * Calendar.nanosPerMilli) :
    shiftDate name direction [.number amount, .string unitName, dateValue moment] =
        .ok (dateValue later) ↔
      each ≠ 1 ∨ moment.nano + count * sign % 1000 * Calendar.nanosPerMilli <
        Calendar.nanosPerSecond := by
  have named : moment? (dateValue moment).force = some moment.whole := moment?_dateValue formed
  rw [shiftDate_eq_ite name directed read accepted spans named (Moment.plain_whole plain).nano]
  refine (shifted_whole_iff plain short within leads).trans ?_
  have nano := plain.nano
  rcases spans.millis with rfl | ⟨seconds, rfl⟩
  · rw [Int.mul_one]
    exact (or_iff_right fun other => other rfl).symm
  · have whole : count * sign * (1000 * seconds) % 1000 = 0 := by
      rw [Int.mul_left_comm, Int.mul_emod_right]
    rw [whole]
    exact iff_of_true (by omega) (.inl (by omega))

/-- Shifts by a fixed length add up, and the shift backward undoes the one forward.  In milliseconds
they do so if the fraction of a second that the text between them lacks does not make a second. -/
theorem shiftDate_shiftDate {second : Float} {b each : Int} {unitName : String}
    {value middle : Value} {moment : Moment} (clock : Moment) (right? : toInt? second = some b)
    (fixed : span? unitName = some (.millis each)) (named : moment? value.force = some moment)
    (short : moment.nano < Calendar.nanosPerSecond)
    (inner : shiftDate "date_plus" 1 [.number second, .string unitName, value] = .ok middle) :
    ∃ between, (Span.millis each).Leads b moment between ∧
      (∀ (first sum : Float) (a : Int) (once : Value),
        toInt? first = some a → toInt? sum = some (a + b) →
        shiftDate "date_plus" 1 [.number sum, .string unitName, value] = .ok once →
          (shiftDate "date_plus" 1 [.number first, .string unitName, middle] = .ok once ↔
            each ≠ 1 ∨ between.nano + a % 1000 * Calendar.nanosPerMilli <
              Calendar.nanosPerSecond)) ∧
      (shiftDate "date_minus" (-1) [.number second, .string unitName, middle] =
          date clock [value] ↔
        each ≠ 1 ∨ between.nano + -b % 1000 * Calendar.nanosPerMilli <
          Calendar.nanosPerSecond) := by
  obtain ⟨unit, accepted, spans⟩ := exists_unit fixed
  have formed := wellFormed_moment? named
  have start : moment.Plain := ⟨formed.second, short⟩
  obtain ⟨between, leads, reached, rfl⟩ :=
    exists_of_shiftDate "date_plus" directed_forward right? accepted spans named short inner
  rw [Int.mul_one] at leads
  refine ⟨between, leads, fun first sum a once left? sum? direct => ?_, ?_⟩
  · obtain ⟨later, further, within, rfl⟩ :=
      exists_of_shiftDate "date_plus" directed_forward sum? accepted spans named short direct
    refine (shiftDate_dateValue_iff "date_plus" directed_forward left? accepted spans
      (leads.1.wellFormed reached) leads.1 further.1 within ?_).trans ?_
    · rw [further.2, leads.2]
      ring
    · rw [Int.mul_one]
  · rw [date_eq_ok_iff.mpr ⟨moment, named, rfl⟩]
    refine (shiftDate_dateValue_iff "date_minus" directed_backward right? accepted spans
      (leads.1.wellFormed reached) leads.1 start formed.day ?_).trans ?_
    · rw [leads.2]
      ring
    · rw [Int.mul_neg_one]

/-- A millisecond less than a second from the text of the half second is that from the day. -/
theorem shiftDate_shiftDate_half :
    let value : Value := .string "2020-01-01"
    let middle : Value := .string "2020-01-01T00:00:00"
    shiftDate "date_plus" 1 [.number 500, .string "ms", value] = .ok middle ∧
      shiftDate "date_plus" 1 [.number 499, .string "ms", middle] =
        shiftDate "date_plus" 1 [.number 999, .string "ms", value] ∧
      shiftDate "date_minus" (-1) [.number 500, .string "ms", middle] ≠ date ⟨0, 0, 0⟩ [value] := by
  intro value middle
  have inner : shiftDate "date_plus" 1 [.number 500, .string "ms", value] = .ok middle := by rfl
  have direct : shiftDate "date_plus" 1 [.number 999, .string "ms", value] = .ok middle := by rfl
  have half : toInt? 500 = some 500 := by rfl
  have named : moment? value.force = some ⟨18262, 0, 0⟩ := by rfl
  have fixed : span? "ms" = some (.millis 1) := rfl
  obtain ⟨between, ⟨plain, leads⟩, sums, back⟩ :=
    shiftDate_shiftDate ⟨0, 0, 0⟩ half fixed named (by decide) inner
  have nano : between.nano = 500 * Calendar.nanosPerMilli := by
    rw [← Moment.ofInstant_instant plain, leads]
    rfl
  refine ⟨inner, ?_, ?_⟩
  · rw [direct, sums 499 999 499 middle (by rfl) (by rfl) direct, nano]
    decide
  · rw [ne_eq, back, nano]
    decide

/-- Two halves of a second are none, as the text between them has whole seconds. -/
theorem shiftDate_halves :
    let value : Value := .string "2020-01-01"
    let middle : Value := .string "2020-01-01T00:00:00"
    shiftDate "date_plus" 1 [.number 500, .string "ms", value] = .ok middle ∧
      shiftDate "date_plus" 1 [.number 500, .string "ms", middle] = .ok middle ∧
      shiftDate "date_plus" 1 [.number (500 + 500), .string "ms", value] =
        .ok (.string "2020-01-01T00:00:01") ∧
      shiftDate "date_minus" (-1) [.number 500, .string "ms", middle] =
        .ok (.string "2019-12-31T23:59:59") ∧
      ∀ clock, date clock [value] = .ok middle :=
  ⟨by rfl, by rfl, by rfl, by rfl, fun _ => by rfl⟩

end Reckon.Standard
