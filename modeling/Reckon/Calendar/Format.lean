import Reckon.Calendar
import Reckon.Decimal

/-!
Writing moments: the one form in which dates pass between functions, and formats with letters for
the parts of a date.
-/

namespace Reckon.Calendar

def padded (width number : Nat) : List Char :=
  let digits := Decimal.figures number
  List.replicate (width - digits.length) '0' ++ digits

/-- A year of four digits, or a sign and at least four digits. -/
def isoYear (year : Int) : List Char :=
  if 0 ≤ year ∧ year ≤ 9999 then padded 4 year.toNat
  else (if year < 0 then '-' else '+') :: padded 4 year.natAbs

/-- Date and time of day in whole seconds, a leap second as 60. -/
def Moment.iso (moment : Moment) : String :=
  let date := moment.date
  let second := moment.secondOfMinute + moment.nano / nanosPerSecond
  String.ofList (isoYear date.year ++ '-' :: padded 2 date.month ++ '-' :: padded 2 date.day ++
    'T' :: padded 2 moment.hour ++ ':' :: padded 2 moment.minute ++ ':' :: padded 2 second)

/-- A year with zeros in front up to four characters, its sign among them. -/
def signedYear (year : Int) : List Char :=
  if year < 0 then '-' :: padded 3 year.natAbs else padded 4 year.toNat

/-- The letters of a format that stand for parts of a date, longer ones first, and the parts. -/
def placeholders : List (String × (Moment → List Char)) := [
  ("YYYY", fun moment => signedYear moment.date.year),
  ("YY", fun moment => padded 2 (moment.date.year % 100).toNat),
  ("MM", fun moment => padded 2 moment.date.month),
  ("M", fun moment => padded 1 moment.date.month),
  ("DD", fun moment => padded 2 moment.date.day),
  ("D", fun moment => padded 1 moment.date.day),
  ("HH", fun moment => padded 2 moment.hour),
  ("H", fun moment => padded 1 moment.hour),
  ("mm", fun moment => padded 2 moment.minute),
  ("m", fun moment => padded 1 moment.minute),
  ("ss", fun moment => padded 2 moment.secondOfMinute),
  ("s", fun moment => padded 1 moment.secondOfMinute)]

/-- Write the rest of a format.  Text between brackets is copied without them; a bracket that is not
closed and other characters are copied. -/
def writeFormat (moment : Moment) : Nat → List Char → List Char
  | 0, _ => []
  | _ + 1, [] => []
  | fuel + 1, c :: rest =>
      if c = '[' && rest.contains ']' then
        let inner := rest.takeWhile (· != ']')
        inner ++ writeFormat moment fuel (rest.drop (inner.length + 1))
      else
        match placeholders.find? fun entry => entry.1.toList.isPrefixOf (c :: rest) with
        | some (letters, part) =>
            part moment ++ writeFormat moment fuel ((c :: rest).drop letters.length)
        | none => c :: writeFormat moment fuel rest

def Moment.format (moment : Moment) (format : String) : String :=
  String.ofList (writeFormat moment format.toList.length format.toList)

end Reckon.Calendar
