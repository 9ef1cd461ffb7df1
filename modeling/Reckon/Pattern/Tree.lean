/-!
Regular expressions as they are written.
-/

namespace Reckon.Pattern

inductive Flag
  /-- Letters match in either case. -/
  | ignoreCase
  /-- `^` and `$` match at the ends of lines. -/
  | multiLine
  /-- A dot matches the end of a line too. -/
  | dotAll
  /-- Greedy repetitions are lazy, and lazy ones greedy. -/
  | swapGreed
  /-- Classes hold characters beyond ASCII. -/
  | unicode
  /-- A carriage return ends a line too. -/
  | carriageReturn
  /-- Blanks and comments in the pattern mean nothing. -/
  | verbose
  deriving DecidableEq, Repr

abbrev FlagChanges := List (Flag × Bool)

inductive Assertion
  | lineStart
  | lineEnd
  | textStart
  | textEnd
  | wordBoundary
  | notWordBoundary
  | wordStart
  | wordEnd
  | wordStartHalf
  | wordEndHalf
  deriving DecidableEq, Repr

inductive Shorthand
  | digit
  | space
  | word
  deriving DecidableEq, Repr

inductive PropertyName
  | named (name : String)
  | valued (property value : String)
  deriving DecidableEq, Repr

inductive AsciiClass
  | alnum | alpha | ascii | blank | cntrl | digit | graph | lower | print | punct | space | upper
  | word | xdigit
  deriving DecidableEq, Repr

inductive ClassOperation
  | intersection
  | difference
  | symmetricDifference
  deriving DecidableEq, Repr

/-- The inside of brackets.  A literal remembers whether it was written with two hexadecimal
digits. -/
inductive ClassTree
  | literal (c : Char) (hexPair : Bool)
  | range (first : Char) (firstHexPair : Bool) (last : Char) (lastHexPair : Bool)
  | ascii (name : AsciiClass) (negated : Bool)
  | shorthand (name : Shorthand) (negated : Bool)
  | property (name : PropertyName) (negated : Bool)
  | bracketed (negated : Bool) (inside : ClassTree)
  | union (items : List ClassTree)
  | operation (kind : ClassOperation) (left right : ClassTree)
  deriving Repr

inductive Tree
  | empty
  | flags (changes : FlagChanges)
  | literal (c : Char) (hexPair : Bool)
  | dot
  | assertion (kind : Assertion)
  | shorthand (name : Shorthand) (negated : Bool)
  | property (name : PropertyName) (negated : Bool)
  | bracketed (negated : Bool) (inside : ClassTree)
  | repetition (least : Nat) (most : Option Nat) (greedy : Bool) (body : Tree)
  | group (remembered : Bool) (changes : FlagChanges) (body : Tree)
  | alternation (branches : List Tree)
  | sequence (terms : List Tree)
  deriving Repr

namespace ClassTree

mutual

/-- How many levels of brackets, unions and operations stand inside each other. -/
def depth : ClassTree → Nat
  | .bracketed _ inside => depth inside + 1
  | .union items => deepest items + 1
  | .operation _ left right => max (depth left) (depth right) + 1
  | _ => 0

def deepest : List ClassTree → Nat
  | [] => 0
  | item :: rest => max (depth item) (deepest rest)

end

end ClassTree

namespace Tree

mutual

/-- How many levels of brackets, repetitions, groups and lists stand inside each other. -/
def depth : Tree → Nat
  | .bracketed _ inside => inside.depth + 1
  | .repetition _ _ _ body => depth body + 1
  | .group _ _ body => depth body + 1
  | .alternation branches => deepest branches + 1
  | .sequence terms => deepest terms + 1
  | _ => 0

def deepest : List Tree → Nat
  | [] => 0
  | tree :: rest => max (depth tree) (deepest rest)

end

/-- A sequence of terms; none and one are no lists. -/
def ofTerms : List Tree → Tree
  | [] => .empty
  | [term] => term
  | terms => .sequence terms

end Tree

end Reckon.Pattern
