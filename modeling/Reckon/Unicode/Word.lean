import Reckon.Unicode.Later

/-!
Letters, digits and word characters, with ASCII decided without a table.
-/

namespace Reckon.Unicode

def isAlphabetic (c : Char) : Bool :=
  if c.toNat < 128 then c.isAlpha else Later.alphabetic.contains c

def digits : CharSet := Category.decimalNumber.set

def word : CharSet :=
  .unions [Property.alphabetic, Category.marks, digits, Category.set .connectorPunctuation,
    ⟨[(0x200c, 0x200d)]⟩]

def isAsciiWord (c : Char) : Bool :=
  c.isAlphanum || c = '_'

def isWord (c : Char) : Bool :=
  if c.toNat < 128 then isAsciiWord c else word.contains c

def isAlphanumeric (c : Char) : Bool :=
  if c.toNat < 128 then c.isAlphanum
  else Later.alphabetic.contains c || Later.numeric.contains c

def isPrintable (c : Char) : Bool :=
  if c.toNat < 128 then 32 ≤ c.toNat && c.toNat < 127 else !Later.unprintable.contains c

end Reckon.Unicode
