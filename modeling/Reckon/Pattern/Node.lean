import Reckon.Pattern.Tree
import Reckon.Text.Spot
import Reckon.Unicode.CharSet
import Reckon.Unicode.Word

/-!
What patterns match.  A node leads from a place in a text to the places at which a match can end,
the preferred one first; each place is listed once.
-/

namespace Reckon.Pattern

open Text (Spot)
open Unicode (CharSet)

/-- Conditions on a place: on the ends of the text or of its lines, and on the characters on both
sides, where word characters are those of ASCII or of every script. -/
inductive Look
  | textStart
  | textEnd
  | lineStart (carriageReturn : Bool)
  | lineEnd (carriageReturn : Bool)
  | word (kind : Assertion) (unicode : Bool)
  deriving DecidableEq, Repr

inductive Node
  | empty
  | set (chars : CharSet)
  | look (condition : Look)
  | seq (first second : Node)
  | either (preferred other : Node)
  | repeated (least : Nat) (most : Option Nat) (greedy : Bool) (body : Node)
  /-- A group whose place in the text is remembered. -/
  | group (body : Node)
  deriving Repr

namespace Look

/-- Whether a word assertion holds between a character and the next, of each of which only is known
whether it is a word character. -/
def holdsBetween (kind : Assertion) (before after : Bool) : Bool :=
  match kind with
  | .wordBoundary => before != after
  | .notWordBoundary => before == after
  | .wordStart => !before && after
  | .wordEnd => before && !after
  | .wordStartHalf => !before
  | .wordEndHalf => !after
  | _ => false

def holds (look : Look) (spot : Spot) : Bool :=
  match look with
  | .textStart => spot.before.isNone
  | .textEnd => spot.rest.isEmpty
  | .lineStart false => spot.before.isNone || spot.before = some '\n'
  | .lineStart true =>
      spot.before.isNone || spot.before = some '\n' ||
        (spot.before = some '\r' && spot.after != some '\n')
  | .lineEnd false => spot.rest.isEmpty || spot.after = some '\n'
  | .lineEnd true =>
      spot.rest.isEmpty || spot.after = some '\r' ||
        (spot.after = some '\n' && spot.before != some '\r')
  | .word kind unicode =>
      let isWord := if unicode then Unicode.isWord else Unicode.isAsciiWord
      holdsBetween kind (spot.before.any isWord) (spot.after.any isWord)

end Look

/-- The places of a list without those that came before in it or are among `known`. -/
def distinctSpots (known : List Nat) : List Spot → List Spot
  | [] => []
  | spot :: rest =>
      if known.contains spot.index then distinctSpots known rest
      else spot :: distinctSpots (spot.index :: known) rest

/-- The ends of one match after another, for each of some starts in turn. -/
def endsOfAll (ends : Spot → List Spot) (starts : List Spot) : List Spot :=
  distinctSpots [] (starts.flatMap ends)

def endsOfTimes (ends : Spot → List Spot) : Nat → List Spot → List Spot
  | 0, starts => starts
  | count + 1, starts => endsOfTimes ends count (endsOfAll ends starts)

/-- What a search for ends has met: starts with the number of matches still allowed there, and the
ends found so far, last first. -/
structure Search where
  tried : List (Nat × Nat)
  found : List Spot

/-- Add an end, unless it was found before. -/
def Search.add (search : Search) (spot : Spot) : Search :=
  if search.found.any (·.index = spot.index) then search
  else { search with found := spot :: search.found }

/-- Search for the ends of up to a number of matches in a row.  A start that was tried before with
the same number leads to nothing new. -/
def searchUpTo (ends : Spot → List Spot) (greedy : Bool) : Nat → Spot → Search → Search
  | 0, spot, search => search.add spot
  | count + 1, spot, search =>
      if search.tried.contains (count, spot.index) then search
      else
        let search := { search with tried := (count, spot.index) :: search.tried }
        let further (search : Search) : Search :=
          (ends spot).foldl (fun search next => searchUpTo ends greedy count next search) search
        if greedy then (further search).add spot else further (search.add spot)

def endsOfUpTo (ends : Spot → List Spot) (greedy : Bool) (count : Nat) (spot : Spot) : List Spot :=
  (searchUpTo ends greedy count spot ⟨[], []⟩).found.reverse

/-- The ends of one match or more in a row, together with `found`, which is given last first.  A
place that was found before is not started from again. -/
def endsOfLoop (ends : Spot → List Spot) (greedy : Bool) : Nat → Spot → List Nat × List Spot →
    List Nat × List Spot
  | 0, _, found => found
  | fuel + 1, start, found =>
      (ends start).foldl (fun (known, spots) spot =>
        if known.contains spot.index then (known, spots)
        else
          let marked := spot.index :: known
          if spot.index = start.index then (marked, spot :: spots)
          else if greedy then
            let (known, spots) := endsOfLoop ends greedy fuel spot (marked, spots)
            (known, spot :: spots)
          else endsOfLoop ends greedy fuel spot (marked, spot :: spots)) found

def endsOfSome (ends : Spot → List Spot) (greedy : Bool) (start : Spot) : List Spot :=
  (endsOfLoop ends greedy (start.rest.length + 1) start ([], [])).2.reverse

def endsOfMany (ends : Spot → List Spot) (greedy : Bool) (start : Spot) : List Spot :=
  let further := endsOfSome ends greedy start
  distinctSpots [] (if greedy then further ++ [start] else start :: further)

namespace Node

/-- The places at which a match from a place can end, the preferred one first. -/
def ends : Node → Spot → List Spot
  | .empty, spot => [spot]
  | .set chars, spot =>
      match spot.rest with
      | c :: _ => if chars.contains c then [spot.pass c] else []
      | [] => []
  | .look condition, spot => if condition.holds spot then [spot] else []
  | .seq first second, spot => endsOfAll (ends second) (ends first spot)
  | .either preferred other, spot => distinctSpots [] (ends preferred spot ++ ends other spot)
  | .repeated least (some most) greedy body, spot =>
      endsOfAll (endsOfUpTo (ends body) greedy (most - least))
        (endsOfTimes (ends body) least [spot])
  | .repeated 0 none greedy body, spot => endsOfMany (ends body) greedy spot
  | .repeated (least + 1) none greedy body, spot =>
      endsOfAll (endsOfSome (ends body) greedy) (endsOfTimes (ends body) least [spot])
  | .group body, spot => ends body spot

def alwaysEmpty : Node → Bool
  | .empty | .look _ => true
  | .set _ => false
  | .seq first second => alwaysEmpty first && alwaysEmpty second
  | .either preferred other => alwaysEmpty preferred && alwaysEmpty other
  | .repeated _ most _ body => most = some 0 || alwaysEmpty body
  | .group body => alwaysEmpty body

/-- A repetition.  Where all matches of the body are empty, more than one of them is like one. -/
def repetition (least : Nat) (most : Option Nat) (greedy : Bool) (body : Node) : Node :=
  if alwaysEmpty body then .repeated (min least 1) (some (min (most.getD 1) 1)) greedy body
  else .repeated least most greedy body

/-- Where the preferred match from a place ends, if there is a match. -/
def firstEnd? (node : Node) (spot : Spot) : Option Spot :=
  (node.ends spot).head?

def matchesIn (node : Node) (text : List Char) : Bool :=
  (Spot.all text).any fun spot => (node.firstEnd? spot).isSome

end Node

end Reckon.Pattern
