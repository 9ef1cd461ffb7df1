import Reckon.Json
import Reckon.Decimal.Numeral
import Reckon.Text.Hexadecimal

/-!
Reading JSON text.  Objects come out with their keys in code point order, each with its last value.
A number without fraction and exponent stays an integer while it fits a machine word; any other
number is computed in double arithmetic from its leading digits and a power of ten, and one beyond
the doubles is refused.
-/

namespace Reckon.Json

/-- A reader takes what it needs from the front of the text and leaves the rest. -/
abbrev Reading (α : Type) := Option (α × List Char)

def isBlank (c : Char) : Bool :=
  c = ' ' || c = '\n' || c = '\t' || c = '\r'

def skipBlanks (text : List Char) : List Char :=
  text.dropWhile isBlank

def maxNatural : Nat := UInt64.size - 1

/-- Digits taken into a significand as long as it fits a word.  The other results are the digits
that were left out of it, and the text after all the digits. -/
def takeSignificand (start : Nat) : List Char → Nat × List Char × List Char
  | [] => (start, [], [])
  | c :: rest =>
      if c.isDigit then
        let next := 10 * start + Decimal.figureValue c
        if next ≤ maxNatural then
          takeSignificand next rest
        else
          (start, c :: rest.takeWhile Char.isDigit, rest.dropWhile Char.isDigit)
      else (start, [], c :: rest)

/-- The powers of ten that are doubles reach this far. -/
def largestPower : Nat := 308

def powerOfTen (power : Nat) : Float :=
  Decimal.toFloat false ⟨1, power⟩

/-- Divide by `10 ^ 308` until the exponent is within reach, then once more by what is left. -/
def shrink (number : Float) : Nat → Nat → Float
  | 0, _ => number
  | fuel + 1, power =>
      if power ≤ largestPower then number / powerOfTen power
      else if number == 0 then number
      else shrink (number / powerOfTen largestPower) fuel (power - largestPower)

/-- The double of `significand · 10 ^ exponent`: one multiplication, or divisions.  Nothing when it
is too large. -/
def scaleSignificand (significand : Nat) (exponent : Int) : Option Float :=
  let number := Binary64.ofRatio false significand 1
  if exponent < 0 then
    -- two divisions by the largest power leave zero
    some (shrink number 4 (-exponent).toNat)
  else if significand = 0 then
    some number
  else if exponent ≤ largestPower then
    let scaled := number * powerOfTen exponent.toNat
    match Binary64.decode scaled with
    | .finite .. => some scaled
    | _ => none
  else none

def real? (negative : Bool) (significand : Nat) (exponent : Int) (rest : List Char) :
    Reading Json :=
  (scaleSignificand significand exponent).map fun number =>
    (.ofDouble (if negative then -number else number), rest)

def readExponent (text : List Char) : Reading Int :=
  let (negative, digits) := Numeral.spanSign text
  let (figures, rest) := Numeral.spanFigures digits
  (Numeral.readNat? figures).map fun power =>
    (if negative then -(power : Int) else power, rest)

/-- What may follow the digits of a real number: an exponent, or nothing more of it. -/
def finishReal (negative : Bool) (significand : Nat) (exponent : Int) (text : List Char) :
    Reading Json :=
  match text with
  | mark :: rest =>
      if mark = 'e' || mark = 'E' then
        (readExponent rest).bind fun (power, rest) =>
          real? negative significand (exponent + power) rest
      else real? negative significand exponent text
  | [] => real? negative significand exponent text

def readMagnitude (negative : Bool) (text : List Char) : Reading Json :=
  match text with
  | [] => none
  | first :: others =>
      if !first.isDigit then none
      else if first = '0' && (others.head?.any Char.isDigit) then none
      else
        let (whole, dropped, afterWhole) := takeSignificand 0 text
        match afterWhole with
        | '.' :: fraction =>
            if !(fraction.head?.any Char.isDigit) then none
            else if dropped.isEmpty then
              let (significand, ignored, rest) := takeSignificand whole fraction
              let taken : Int := (fraction.length : Int) - rest.length - ignored.length
              finishReal negative significand (-taken) rest
            else
              -- the significand is full: the fraction adds digits only if one still fits
              let (significand, ignored, rest) := takeSignificand whole fraction
              let taken : Int := (fraction.length : Int) - rest.length - ignored.length
              finishReal negative significand (dropped.length - taken) rest
        | mark :: _ =>
            if mark = 'e' || mark = 'E' || !dropped.isEmpty then
              finishReal negative whole dropped.length afterWhole
            else integer? whole afterWhole
        | [] =>
            if dropped.isEmpty then integer? whole afterWhole
            else finishReal negative whole dropped.length afterWhole
where
  /-- A whole number is an integer, except negative zero and what lies below the least word. -/
  integer? (whole : Nat) (rest : List Char) : Reading Json :=
    if negative then
      if whole = 0 || Binary64.minWord.natAbs < whole then
        some (.ofDouble (-Binary64.ofRatio false whole 1), rest)
      else some (.integer (-(whole : Int)), rest)
    else some (.integer whole, rest)

def readNumber : List Char → Reading Json
  | '-' :: rest => readMagnitude true rest
  | text => readMagnitude false text

def readUnit : List Char → Reading Nat
  | a :: b :: c :: d :: rest => (Text.readHex? [a, b, c, d]).map fun unit => (unit, rest)
  | _ => none

/-- The character of an escape, after the backslash.  A high surrogate needs its low one. -/
def readEscape : List Char → Reading Char
  | '"' :: rest => some ('"', rest)
  | '\\' :: rest => some ('\\', rest)
  | '/' :: rest => some ('/', rest)
  | 'b' :: rest => some ('\x08', rest)
  | 'f' :: rest => some ('\x0c', rest)
  | 'n' :: rest => some ('\n', rest)
  | 'r' :: rest => some ('\r', rest)
  | 't' :: rest => some ('\t', rest)
  | 'u' :: rest =>
      (readUnit rest).bind fun (unit, rest) =>
        if 0xd800 ≤ unit ∧ unit < 0xdc00 then
          match rest with
          | '\\' :: 'u' :: rest =>
              (readUnit rest).bind fun (low, rest) =>
                if 0xdc00 ≤ low ∧ low < 0xe000 then
                  some (Char.ofNat (0x10000 + (unit - 0xd800) * 0x400 + (low - 0xdc00)), rest)
                else none
          | _ => none
        else if 0xdc00 ≤ unit ∧ unit < 0xe000 then none
        else some (Char.ofNat unit, rest)
  | _ => none

/-- The rest of a string literal, whose characters so far are given last first. -/
def readString : Nat → List Char → List Char → Reading String
  | 0, _, _ => none
  | fuel + 1, done, text =>
      match text with
      | [] => none
      | '"' :: rest => some (String.ofList done.reverse, rest)
      | '\\' :: rest => (readEscape rest).bind fun (c, rest) => readString fuel (c :: done) rest
      | c :: rest => if c.toNat < 32 then none else readString fuel (c :: done) rest

/-- Arrays and objects may stand inside each other this often, less one. -/
def nestingLimit : Nat := 128

mutual

/-- A document at the front of the text, at which `depth` more levels may open. -/
def readValue : Nat → Nat → List Char → Reading Json
  | 0, _, _ => none
  | fuel + 1, depth, text =>
      match skipBlanks text with
      | 'n' :: 'u' :: 'l' :: 'l' :: rest => some (.null, rest)
      | 't' :: 'r' :: 'u' :: 'e' :: rest => some (.boolean true, rest)
      | 'f' :: 'a' :: 'l' :: 's' :: 'e' :: rest => some (.boolean false, rest)
      | '"' :: rest => (readString (rest.length + 1) [] rest).map fun (s, rest) => (.string s, rest)
      | '[' :: rest =>
          if depth ≤ 1 then none
          else
            match skipBlanks rest with
            | ']' :: rest => some (.array [], rest)
            | rest => readItems fuel (depth - 1) [] rest
      | '\x7b' :: rest =>
          if depth ≤ 1 then none
          else
            match skipBlanks rest with
            | '\x7d' :: rest => some (.object [], rest)
            | rest => readEntries fuel (depth - 1) [] rest
      | text => readNumber text

/-- The rest of an array, whose elements so far are given last first. -/
def readItems : Nat → Nat → List Json → List Char → Reading Json
  | 0, _, _, _ => none
  | fuel + 1, depth, done, text =>
      (readValue fuel depth text).bind fun (item, rest) =>
        match skipBlanks rest with
        | ',' :: rest => readItems fuel depth (item :: done) rest
        | ']' :: rest => some (.array (item :: done).reverse, rest)
        | _ => none

def readEntries : Nat → Nat → Table Json → List Char → Reading Json
  | 0, _, _, _ => none
  | fuel + 1, depth, done, text =>
      match skipBlanks text with
      | '"' :: rest =>
          (readString (rest.length + 1) [] rest).bind fun (key, rest) =>
            match skipBlanks rest with
            | ':' :: rest =>
                (readValue fuel depth rest).bind fun (item, rest) =>
                  let written := Table.insert done key item
                  match skipBlanks rest with
                  | ',' :: rest => readEntries fuel depth written rest
                  | '\x7d' :: rest => some (.object (Table.sorted written), rest)
                  | _ => none
            | _ => none
      | _ => none

end

def read? (text : String) : Option Json :=
  let source := text.toList
  match readValue (2 * source.length + 2) nestingLimit source with
  | some (document, rest) => if (skipBlanks rest).isEmpty then some document else none
  | none => none

end Reckon.Json
