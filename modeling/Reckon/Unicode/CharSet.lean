import Reckon.Text.Fields
import Reckon.Text.Hexadecimal

/-!
Sets of characters as ranges of code points.
-/

namespace Reckon.Unicode

/-- Ranges of code points, each with its first and last one, in ascending order and apart. -/
structure CharSet where
  ranges : List (Nat × Nat)
  deriving DecidableEq, Repr, Inhabited

namespace CharSet

def lastCode : Nat := 0x10ffff

/-- Whether one of the ranges, which ascend, holds a code point. -/
def within : List (Nat × Nat) → Nat → Bool
  | [], _ => false
  | (first, last) :: rest, code =>
      if code < first then false else if code ≤ last then true else within rest code

def contains (set : CharSet) (c : Char) : Bool :=
  within set.ranges c.toNat

/-- Ranges in order of their first code points, those that overlap or touch made one. -/
def join (first last : Nat) : List (Nat × Nat) → List (Nat × Nat)
  | [] => [(first, last)]
  | (next, end_) :: rest =>
      if next ≤ last + 1 then join first (max last end_) rest
      else (first, last) :: join next end_ rest

def ofRanges (ranges : List (Nat × Nat)) : CharSet :=
  match ranges.mergeSort (fun left right => decide (left.1 ≤ right.1)) with
  | [] => ⟨[]⟩
  | (first, last) :: rest => ⟨join first last rest⟩

def empty : CharSet := ⟨[]⟩

def all : CharSet := ⟨[(0, lastCode)]⟩

def singleton (c : Char) : CharSet := ⟨[(c.toNat, c.toNat)]⟩

/-- The gaps before, between and after ranges, from a code point on. -/
def gaps (start : Nat) : List (Nat × Nat) → List (Nat × Nat)
  | [] => if start ≤ lastCode then [(start, lastCode)] else []
  | (first, last) :: rest =>
      if start < first then (start, first - 1) :: gaps (last + 1) rest else gaps (last + 1) rest

def complement (set : CharSet) : CharSet := ⟨gaps 0 set.ranges⟩

def union (left right : CharSet) : CharSet := ofRanges (left.ranges ++ right.ranges)

def unions (sets : List CharSet) : CharSet :=
  ofRanges (sets.flatMap (·.ranges))

def intersection (left right : CharSet) : CharSet :=
  complement (union (complement left) (complement right))

def difference (left right : CharSet) : CharSet :=
  intersection left (complement right)

def symmetricDifference (left right : CharSet) : CharSet :=
  difference (union left right) (intersection left right)

def isAscii (set : CharSet) : Bool :=
  set.ranges.all fun range => range.2 < 128

/-- One field of a written set: a hexadecimal code point, or two with a hyphen between them. -/
def readRange? (field : List Char) : Option (Nat × Nat) :=
  match (Text.fields '-' field).map Text.readHex? with
  | [some code] => some (code, code)
  | [some first, some last] => some (first, last)
  | _ => none

/-- The set written as lines of ascending ranges with spaces between them. -/
def ofLines (lines : List String) : CharSet :=
  ⟨lines.flatMap fun line => (Text.fields ' ' line.toList).filterMap readRange?⟩

end CharSet

end Reckon.Unicode
