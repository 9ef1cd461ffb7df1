/-!
The bytes of characters in UTF-8.  The characters of a range take few ranges of bytes: a first byte
that tells the length, and digits to base 64.
-/

namespace Reckon.Text.Utf8

/-- For each byte of some encodings of one length, its first and its last value. -/
abbrev ByteRanges := List (Nat × Nat)

/-- The numbers from `first` to `last` with `more` digits to base 64 after the leading one: in
order, the ranges of their digits. -/
def digitRanges : (more first last : Nat) → List ByteRanges
  | 0, first, last => [[(first, last)]]
  | more + 1, first, last =>
      let unit := Nat.pow 64 (more + 1)
      let under (lead first last : Nat) : List ByteRanges :=
        (digitRanges more first last).map ((lead, lead) :: ·)
      let low := first / unit
      let high := last / unit
      if low = high then under low (first % unit) (last % unit)
      else
        let fullLow := first % unit = 0
        let fullHigh := last % unit + 1 = unit
        let start := if fullLow then low else low + 1
        let stop := if fullHigh then high + 1 else high
        (if fullLow then [] else under low (first % unit) (unit - 1)) ++
          (if start < stop then [(start, stop - 1) :: List.replicate (more + 1) (0, 63)] else []) ++
          (if fullHigh then [] else under high 0 (last % unit))

/-- The code points of each length: the first and the last one, the number of bytes after the first
byte, and what is added to the leading digit.  Surrogates have no encoding. -/
def lengths : List (Nat × Nat × Nat × Nat) :=
  [(0, 0x7f, 0, 0), (0x80, 0x7ff, 1, 0xc0), (0x800, 0xd7ff, 2, 0xe0), (0xe000, 0xffff, 2, 0xe0),
    (0x10000, 0x10ffff, 3, 0xf0)]

def markBytes (mark : Nat) : ByteRanges → ByteRanges
  | [] => []
  | (first, last) :: digits =>
      (first + mark, last + mark) :: digits.map fun (first, last) => (first + 0x80, last + 0x80)

def encodings (first last : Nat) : List ByteRanges :=
  lengths.flatMap fun (least, most, more, mark) =>
    let first := max first least
    let last := min last most
    if first ≤ last then (digitRanges more first last).map (markBytes mark) else []

def bytes (code : Nat) : List Nat :=
  (encodings code code).flatten.map (·.1)

end Reckon.Text.Utf8
