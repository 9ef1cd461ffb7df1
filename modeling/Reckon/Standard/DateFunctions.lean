import Reckon.Standard.Arguments
import Reckon.Calendar.Reader
import Reckon.Calendar.Format

/-!
Functions on dates.  Dates pass between functions as texts in universal time; a number is a count
of milliseconds since the epoch.
-/

namespace Reckon.Standard

open Calendar (Moment)

def moment? : Value → Option Moment
  | .string text => Moment.read? (Text.trim text.toList)
  | .number millis => Moment.ofMillis? (Binary64.toWord millis)
  | _ => none

def dateArgument (name : String) (arguments : List Value) (index : Nat) : Except Error Moment :=
  let value := argument arguments index
  match moment? value with
  | some moment => .ok moment
  | none => .error (.function name (some ("invalid date: " ++ value.display)))

/-- A date as functions return it. -/
def dateValue (moment : Moment) : Value := .string moment.iso

/-- The text of a date; the moment of the clock without an argument. -/
def date (clock : Moment) (arguments : List Value) : Except Error Value :=
  if arguments.isEmpty then .ok (dateValue clock)
  else (dateArgument "date" arguments 0).map dateValue

def datePart (name : String) (part : Calendar.Date → Int) (arguments : List Value) :
    Except Error Value :=
  (dateArgument name arguments 0).map fun moment => .ofInt (part moment.date)

def dateFormat (arguments : List Value) : Except Error Value := do
  let format ← stringArgument "date_format" arguments 0
  let moment ← dateArgument "date_format" arguments 1
  return .string (moment.format format)

/-- Units of a calendar have no fixed length; the others have one in milliseconds. -/
inductive DateUnit
  | months (count : Int)
  | millis (length : Float)

def dateUnit? : String → Option DateUnit
  | "month" | "months" | "M" => some (.months 1)
  | "year" | "years" | "y" => some (.months 12)
  | "millisecond" | "milliseconds" | "ms" => some (.millis 1)
  | "second" | "seconds" | "s" => some (.millis 1000)
  | "minute" | "minutes" | "m" => some (.millis 60000)
  | "hour" | "hours" | "h" => some (.millis 3600000)
  | "day" | "days" | "d" => some (.millis 86400000)
  | "week" | "weeks" | "w" => some (.millis 604800000)
  | _ => none

def clampWord (number : Int) : Int :=
  max Binary64.minWord (min Binary64.maxWord number)

/-- The moment so many units later, if it can be represented.  The amount is cut to whole months or
milliseconds. -/
def shift? (unit : DateUnit) (amount : Float) (moment : Moment) : Option Moment :=
  match unit with
  | .months count => moment.addMonths? (clampWord (Binary64.toWord amount * count))
  | .millis length =>
      let millis := Binary64.toWord (amount * length)
      if millis = Binary64.minWord then none else moment.addMillis? millis

/-- Shift a date by an amount, times `direction`, of a unit. -/
def shiftDate (name : String) (direction : Float) (arguments : List Value) :
    Except Error Value := do
  let amount ← numberArgument name arguments 0
  let unitName ← stringArgument name arguments 1
  let moment ← dateArgument name arguments 2
  match dateUnit? unitName with
  | none => .error (.function name (some ("unknown unit '" ++ unitName ++ "'")))
  | some unit =>
      match shift? unit (amount * direction) moment with
      | some shifted => .ok (dateValue shifted)
      | none => .error (.function name (some "date out of range"))

def dateFunctions (clock : Moment) : Table Callable := [
  ("date", plainFunction "date" 0 (some 1) (date clock)),
  ("date_day", plainFunction "date_day" 1 (some 1)
    (datePart "date_day" fun date => date.day)),
  ("date_month", plainFunction "date_month" 1 (some 1)
    (datePart "date_month" fun date => date.month)),
  ("date_year", plainFunction "date_year" 1 (some 1)
    (datePart "date_year" fun date => date.year)),
  ("date_format", plainFunction "date_format" 2 (some 2) dateFormat),
  ("date_plus", plainFunction "date_plus" 3 (some 3) (shiftDate "date_plus" 1)),
  ("date_minus", plainFunction "date_minus" 3 (some 3) (shiftDate "date_minus" (-1)))]

end Reckon.Standard
