import Reckon.Calendar
import Reckon.Decimal.Numeral
import Reckon.Text.Blank

/-!
Reading moments from texts: timestamps with an offset, and dates with or without a time of day in a
few formats.
-/

namespace Reckon.Calendar

inductive Item
  | year
  | month
  | day
  | hour
  | minute
  | second
  /-- A point and digits, or nothing. -/
  | fraction
  /-- Any blanks, or none. -/
  | blanks
  | literal (c : Char)
  deriving DecidableEq, Repr

structure Fields where
  year : Int := 0
  month : Nat := 1
  day : Nat := 1
  hour : Nat := 0
  minute : Nat := 0
  second : Nat := 0
  nano : Nat := 0
  deriving DecidableEq, Repr

/-- A number of at least `least` digits, of which at most `most` are taken. -/
def takeNumber (least : Nat) (most : Option Nat) (text : List Char) : Option (Nat × List Char) :=
  let candidates := match most with
    | some count => text.take count
    | none => text
  let digits := candidates.takeWhile Char.isDigit
  if digits.length < least then none
  else some (Decimal.readFigures 0 digits, text.drop digits.length)

/-- A year: at most four digits, or a sign and any number of them. -/
def takeYear : List Char → Option (Int × List Char)
  | '-' :: rest => (takeNumber 1 none rest).map fun (year, rest) => (-(year : Int), rest)
  | '+' :: rest => (takeNumber 1 none rest).map fun (year, rest) => ((year : Int), rest)
  | text => (takeNumber 1 (some 4) text).map fun (year, rest) => ((year : Int), rest)

/-- The nanoseconds of the digits after a point; digits after the ninth do not count. -/
def takeFraction : List Char → Option (Nat × List Char)
  | '.' :: rest =>
      let digits := rest.takeWhile Char.isDigit
      if digits.isEmpty then none
      else
        let counted := digits.take 9
        let unit := Nat.pow 10 (9 - counted.length)
        some (Decimal.readFigures 0 counted * unit, rest.drop digits.length)
  | text => some (0, text)

def takeWithin (digits : Nat × Nat) (least most : Nat) (text : List Char) :
    Option (Nat × List Char) :=
  (takeNumber digits.1 (some digits.2) text).filter fun (number, _) =>
    least ≤ number && number ≤ most

/-- Read one part.  Blanks before a number are passed over. -/
def readItem? (item : Item) (fields : Fields) (text : List Char) :
    Option (Fields × List Char) :=
  let inner := Text.trimFront text
  match item with
  | .year => (takeYear inner).map fun (year, rest) => ({ fields with year }, rest)
  | .month => (takeWithin (1, 2) 1 12 inner).map fun (month, rest) => ({ fields with month }, rest)
  | .day => (takeWithin (1, 2) 1 31 inner).map fun (day, rest) => ({ fields with day }, rest)
  | .hour => (takeWithin (1, 2) 0 23 inner).map fun (hour, rest) => ({ fields with hour }, rest)
  | .minute =>
      (takeWithin (1, 2) 0 59 inner).map fun (minute, rest) => ({ fields with minute }, rest)
  | .second =>
      (takeWithin (1, 2) 0 60 inner).map fun (second, rest) => ({ fields with second }, rest)
  | .fraction => (takeFraction text).map fun (nano, rest) => ({ fields with nano }, rest)
  | .blanks => some (fields, inner)
  | .literal c =>
      match text with
      | first :: rest => if first = c then some (fields, rest) else none
      | [] => none

def readItems : List Item → Fields → List Char → Option (Fields × List Char)
  | [], fields, text => some (fields, text)
  | item :: rest, fields, text =>
      (readItem? item fields text).bind fun (fields, text) => readItems rest fields text

/-- The moment that fields name, if there is one.  Second 60 is a leap second. -/
def Fields.moment? (fields : Fields) : Option Moment :=
  (Date.make? fields.year fields.month fields.day).map fun date =>
    let leap := fields.second = 60
    { day := date.number
      second := fields.hour * 3600 + fields.minute * 60 + if leap then 59 else fields.second
      nano := fields.nano + if leap then nanosPerSecond else 0 }

def readFormat? (format : List Item) (text : List Char) : Option Moment :=
  match readItems format {} text with
  | some (fields, []) => fields.moment?
  | _ => none

def dateItems (separator : Char) : List Item :=
  [.year, .literal separator, .month, .literal separator, .day]

def timeItems : List Item :=
  [.hour, .literal ':', .minute, .literal ':', .second, .fraction]

/-- The formats without offset, in the order in which they are tried. -/
def formats : List (List Item) := [
  dateItems '-' ++ .literal 'T' :: timeItems,
  dateItems '-' ++ .blanks :: timeItems,
  dateItems '/' ++ .blanks :: timeItems,
  dateItems '-',
  dateItems '/']

def takeOneOf (accepted : List Char) : List Char → Option (List Char)
  | c :: rest => if accepted.contains c then some rest else none
  | [] => none

/-- The seconds by which an offset is ahead: `Z`, or a sign, hours and minutes. -/
def takeOffset (text : List Char) : Option (Int × List Char) :=
  match text with
  | [] => none
  | sign :: rest =>
      if sign = 'Z' || sign = 'z' then some (0, rest)
      else if sign = '+' || sign = '-' || sign = '−' then do
        let (hours, rest) ← takeNumber 2 (some 2) rest
        let rest ← takeOneOf [':'] rest
        let (minutes, rest) ← takeWithin (2, 2) 0 59 rest
        if 23 < hours then none
        else
          let seconds : Int := hours * 3600 + minutes * 60
          some (if sign = '+' then seconds else -seconds, rest)
      else none

/-- A timestamp: date and time with all their digits, an optional fraction, and an offset. -/
def readTimestamp? (text : List Char) : Option Moment := do
  let (year, text) ← takeNumber 4 (some 4) text
  let text ← takeOneOf ['-'] text
  let (month, text) ← takeWithin (2, 2) 1 12 text
  let text ← takeOneOf ['-'] text
  let (day, text) ← takeWithin (2, 2) 1 31 text
  let text ← takeOneOf ['T', 't', ' '] text
  let (hour, text) ← takeWithin (2, 2) 0 23 text
  let text ← takeOneOf [':'] text
  let (minute, text) ← takeWithin (2, 2) 0 59 text
  let text ← takeOneOf [':'] text
  let (second, text) ← takeWithin (2, 2) 0 60 text
  let (nano, text) ← takeFraction text
  let (offset, text) ← takeOffset text
  if !text.isEmpty then none
  else
    let fields : Fields := { year, month, day, hour, minute, second, nano }
    let moment ← fields.moment?
    Moment.make? moment.day (moment.second - offset) moment.nano

/-- The moment that a text names: a timestamp in universal time, or the first format that fits. -/
def Moment.read? (text : List Char) : Option Moment :=
  match readTimestamp? text with
  | some moment => some moment
  | none => formats.findSome? (readFormat? · text)

end Reckon.Calendar
