/-!
Days and moments of the Gregorian calendar, which is taken to hold at all times.
-/

namespace Reckon.Calendar

def isLeapYear (year : Int) : Bool :=
  year % 4 == 0 && (year % 100 != 0 || year % 400 == 0)

def monthLengths (year : Int) : List Nat :=
  [31, if isLeapYear year then 29 else 28, 31, 30, 31, 30, 31, 31, 30, 31, 30, 31]

/-- The length of a month; months are counted from one. -/
def monthLength (year : Int) (month : Nat) : Nat :=
  ((monthLengths year)[month - 1]?).getD 0

/-- The days from the first day of year 1 to the first day of a year. -/
def daysBeforeYear (year : Int) : Int :=
  365 * (year - 1) + (year - 1) / 4 - (year - 1) / 100 + (year - 1) / 400

def daysBeforeMonth (year : Int) (month : Nat) : Nat :=
  ((monthLengths year).take (month - 1)).foldl (· + ·) 0

/-- The day from which days are counted, the first of 1970. -/
def epoch : Int := daysBeforeYear 1970

/-- A day by year, month and day of the month, both counted from one. -/
structure Date where
  year : Int
  month : Nat
  day : Nat
  deriving DecidableEq, Repr

namespace Date

/-- The number of a day, counted from the epoch. -/
def number (date : Date) : Int :=
  daysBeforeYear date.year + daysBeforeMonth date.year date.month + date.day - 1 - epoch

/-- The year in which a day lies that is counted from the first day of year 1.  The average length
of years gives it up to one year. -/
def yearOf (day : Int) : Int :=
  let guess := day * 400 / 146097 + 1
  if day < daysBeforeYear guess then guess - 1
  else if day < daysBeforeYear (guess + 1) then guess
  else guess + 1

/-- The month, counted on from `month`, and the day of the month of a day, counted from zero; the
lengths are those of the month and the ones after it. -/
def monthAndDay (month day : Nat) : List Nat → Nat × Nat
  | [] => (month, day + 1)
  | length :: rest =>
      if day < length then (month, day + 1) else monthAndDay (month + 1) (day - length) rest

def ofNumber (number : Int) : Date :=
  let day := number + epoch
  let year := yearOf day
  let (month, dayOfMonth) := monthAndDay 1 (day - daysBeforeYear year).toNat (monthLengths year)
  ⟨year, month, dayOfMonth⟩

/-- The first and the last day that can be represented. -/
def firstNumber : Int := number ⟨-262143, 1, 1⟩

def lastNumber : Int := number ⟨262142, 12, 31⟩

def inRange (number : Int) : Bool :=
  firstNumber ≤ number && number ≤ lastNumber

/-- The day of a year, a month and a day of the month, if there is one that can be represented. -/
def make? (year : Int) (month day : Nat) : Option Date :=
  let date : Date := ⟨year, month, day⟩
  if 1 ≤ month && month ≤ 12 && 1 ≤ day && day ≤ monthLength year month &&
      -262143 ≤ year && year ≤ 262142 then some date
  else none

end Date

def secondsPerDay : Nat := 86400

def nanosPerSecond : Nat := 1000000000

def nanosPerMilli : Nat := 1000000

/-- A moment: the number of its day, the second of the day, and the nanosecond.  In a leap second
the nanosecond runs on to two thousand million, and the second stays the last of its minute. -/
structure Moment where
  day : Int
  second : Nat
  nano : Nat
  deriving DecidableEq, Repr

namespace Moment

def date (moment : Moment) : Date := Date.ofNumber moment.day

def hour (moment : Moment) : Nat := moment.second / 3600

def minute (moment : Moment) : Nat := moment.second / 60 % 60

def secondOfMinute (moment : Moment) : Nat := moment.second % 60

/-- The moment of a day, of seconds that may lie outside of it, and of nanoseconds, if it can be
represented. -/
def make? (day seconds : Int) (nano : Nat) : Option Moment :=
  let day := day + seconds / secondsPerDay
  if Date.inRange day then some ⟨day, (seconds % secondsPerDay).toNat, nano⟩ else none

def ofMillis? (millis : Int) : Option Moment :=
  make? 0 (millis / 1000) ((millis % 1000).toNat * nanosPerMilli)

/-- The moment so many milliseconds later.  Within a leap second time runs on; a shift that leaves
it starts from the second before or after it. -/
def addMillis? (moment : Moment) (millis : Int) : Option Moment :=
  let seconds := millis.tdiv 1000
  let nanos := millis.tmod 1000 * nanosPerMilli
  let sum (second nano : Int) : Option Moment :=
    let nano := nano + nanos
    make? moment.day (second + seconds + nano / nanosPerSecond) (nano % nanosPerSecond).toNat
  if moment.nano < nanosPerSecond then sum moment.second moment.nano
  else if 0 < seconds || (0 < nanos && 2 * nanosPerSecond ≤ moment.nano + nanos) then
    sum moment.second (moment.nano - nanosPerSecond)
  else if seconds < 0 then sum (moment.second + 1) (moment.nano - nanosPerSecond)
  else some { moment with nano := (moment.nano + nanos).toNat }

def mostMonths : Nat := 0x7fffffff

/-- The moment so many months later, on the last day of the month if the month is too short. -/
def addMonths? (moment : Moment) (months : Int) : Option Moment :=
  if mostMonths < months.natAbs then none
  else
    let date := moment.date
    let total := date.year * 12 + date.month - 1 + months
    let year := total / 12
    let month := (total % 12).toNat + 1
    (Date.make? year month (min date.day (monthLength year month))).map fun date =>
      { moment with day := date.number }

end Moment

end Reckon.Calendar
