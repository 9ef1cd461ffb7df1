import Reckon.Pattern.Node
import Reckon.Text.Utf8

/-!
How much room a pattern takes.  It becomes two automata over the bytes of UTF-8, one for each
direction of reading, in which counted repetitions are written out; a pattern with too large an
automaton is refused.
-/

namespace Reckon.Pattern

open Text.Utf8 (ByteRanges encodings)
open Unicode (CharSet)

/-- How an automaton reads a text.  Only the one that reads forward remembers groups. -/
inductive Direction
  | forward
  | backward
  deriving DecidableEq, Repr

namespace Room

def state : Nat := 32

def choice (others : Nat) : Nat := state + 4 * others

def step (ranges : Nat) : Nat := state + 8 * ranges

def commonLength {α : Type} [BEq α] : List α → List α → Nat
  | first :: firsts, second :: seconds =>
      if first == second then commonLength firsts seconds + 1 else 0
  | _, _ => 0

/-- How many beginnings lists have in all, those after each other that start alike sharing them. -/
def beginnings {α : Type} [BEq α] (previous : List α) : List (List α) → Nat
  | [] => 0
  | next :: rest => next.length - commonLength previous next + beginnings next rest

/-- The states that lead on by bytes so far, each with its number, and their room. -/
structure Steps where
  known : List (List (Nat × Nat × Nat) × Nat)
  room : Nat

/-- The number of the state with some arrows, which is new unless there was one like it. -/
def Steps.number (steps : Steps) (arrows : List (Nat × Nat × Nat)) : Nat × Steps :=
  match steps.known.lookup arrows with
  | some number => (number, steps)
  | none =>
      let number := steps.known.length + 1
      (number, ⟨(arrows, number) :: steps.known, steps.room + step arrows.length⟩)

/-- The state from which byte ranges in order lead to the end, which has number zero. -/
def Steps.add : (length : Nat) → List ByteRanges → Steps → Nat × Steps
  | 0, _, steps => (0, steps)
  | length + 1, ranges, steps =>
      let groups := ranges.splitBy fun left right => left.head? == right.head?
      let (arrows, steps) := groups.foldl (fun (arrows, steps) group =>
        match (group.head?).bind List.head? with
        | none => (arrows, steps)
        | some (first, last) =>
            let rests := group.map List.tail
            let (number, steps) :=
              if rests.all List.isEmpty then (0, steps) else add length rests steps
            (arrows ++ [(first, last, number)], steps)) ([], steps)
      steps.number arrows

/-- The room of a set.  One character takes a state for each byte.  Read forward, byte ranges share
their ends; read backward, their beginnings. -/
def ofSet (direction : Direction) (set : CharSet) : Nat :=
  match set.ranges with
  | [(first, last)] => if first = last then state * (Text.Utf8.bytes first).length else ofRanges
  | _ => ofRanges
where
  ofRanges : Nat :=
    if set.isAscii then state + step set.ranges.length
    else
      let ranges := set.ranges.flatMap fun (first, last) => encodings first last
      match direction with
      | .forward => state + (Steps.add 4 ranges ⟨[], 0⟩).2.room
      | .backward => state + choice ranges.length + state * beginnings [] ranges

/-- Words with their common beginnings shared.  Where a word ends, the branches so far are closed,
since it is preferred to the words after it. -/
inductive Trie
  | node (closed : List (List (Nat × Trie))) (branches : List (Nat × Trie))

namespace Trie

def empty : Trie := .node [] []

def isLeaf : Trie → Bool
  | .node closed branches => closed.all List.isEmpty && branches.isEmpty

def add : List Nat → Trie → Trie
  | [], .node closed branches =>
      if (node closed branches).isLeaf && !closed.isEmpty then .node closed branches
      else .node (closed ++ [branches]) []
  | byte :: word, .node closed branches =>
      let child := add word ((branches.lookup byte).getD empty)
      .node closed (if branches.any (·.1 = byte) then
        branches.map fun branch => if branch.1 = byte then (byte, child) else branch
      else branches ++ [(byte, child)])

def ofBranches (count : Nat) : Nat :=
  match count with
  | 0 => 0
  | 1 => state
  | _ => step count

mutual

def room : Trie → Nat
  | .node closed branches =>
      let groups := closed.map List.length ++ [branches.length]
      let used := groups.filter (· != 0)
      if used.isEmpty then 0
      else
        (used.map ofBranches).foldl (· + ·) 0 + choice (used.length + closed.length) +
          roomOfGroups closed + roomOfBranches branches

def roomOfGroups : List (List (Nat × Trie)) → Nat
  | [] => 0
  | group :: rest => roomOfBranches group + roomOfGroups rest

def roomOfBranches : List (Nat × Trie) → Nat
  | [] => 0
  | (_, trie) :: rest => room trie + roomOfBranches rest

end

end Trie

end Room

namespace Node

open Room

def isVoid : Node → Bool
  | .empty => true
  | .seq first second => isVoid first && isVoid second
  | .repeated _ (some 0) _ _ => true
  | .repeated 1 (some 1) _ body => isVoid body
  | _ => false

def neverEmpty : Node → Bool
  | .empty | .look _ => false
  | .set chars => !chars.ranges.isEmpty
  | .seq first second => neverEmpty first || neverEmpty second
  | .either preferred other => neverEmpty preferred && neverEmpty other
  | .repeated least _ _ body => least != 0 && neverEmpty body
  | .group body => neverEmpty body

/-- Whether matches start only where a condition holds. -/
def opensWith (condition : Look) : Node → Bool
  | .look other => other = condition
  | .seq first second =>
      opensWith condition first || (alwaysEmpty first && opensWith condition second)
  | .either preferred other => opensWith condition preferred && opensWith condition other
  | .repeated least _ _ body => least != 0 && opensWith condition body
  | .group body => opensWith condition body
  | _ => false

def closesWith (condition : Look) : Node → Bool
  | .look other => other = condition
  | .seq first second =>
      closesWith condition second || (alwaysEmpty second && closesWith condition first)
  | .either preferred other => closesWith condition preferred && closesWith condition other
  | .repeated least _ _ body => least != 0 && closesWith condition body
  | .group body => closesWith condition body
  | _ => false

def alternatives : Node → List Node
  | .either preferred other => alternatives preferred ++ alternatives other
  | node => [node]

def isSingle (set : CharSet) : Bool :=
  match set.ranges with
  | [(first, last)] => first = last
  | _ => false

def set? : Node → Option CharSet
  | .set chars => some chars
  | _ => none

def word? : Node → Option (List Nat)
  | .set chars =>
      match chars.ranges with
      | [(first, last)] => if first = last then some (Text.Utf8.bytes first) else none
      | _ => none
  | .seq first second =>
      if isVoid first then word? second
      else if isVoid second then word? first
      else
        match word? first, word? second with
        | some first, some second => some (first ++ second)
        | _, _ => none
  | _ => none

/-- The room of alternatives that are taken together: characters, classes, or words. -/
def sharedRoom? (direction : Direction) (nodes : List Node) : Option Nat :=
  match nodes.mapM set? with
  | some sets =>
      if sets.all isSingle || !sets.any isSingle then some (ofSet direction (.unions sets))
      else none
  | none =>
      (nodes.mapM word?).map fun words =>
        let words := if direction = .backward then words.map List.reverse else words
        state + (words.foldl (fun trie word => trie.add word) Trie.empty).room

def repeatedRoom (body : Nat) (neverEmpty : Bool) : (least : Nat) → (most : Option Nat) → Nat
  | _, some 0 => state
  | 1, some 1 => body
  | 0, some 1 => choice 2 + body + state
  | 0, none => if neverEmpty then body + choice 2 else body + choice 2 + choice 2 + state
  | least, none => least * body + choice 2
  | least, some most =>
      let required := if least = 0 then state else least * body
      if least = most then required
      else required + state + (most - least) * (choice 2 + body)

/-- The room of a node.  Where alternatives stand among others, they are taken `apart`. -/
def roomWithin (direction : Direction) : (apart : Bool) → Node → Nat
  | _, .empty | _, .look _ => state
  | _, .set chars => ofSet direction chars
  | _, .seq first second =>
      match isVoid first, isVoid second with
      | true, true => state
      | true, false => roomWithin direction false second
      | false, true => roomWithin direction false first
      | false, false => roomWithin direction false first + roomWithin direction false second
  | apart, .either preferred other =>
      let branches (_ : Unit) : Nat :=
        roomWithin direction true preferred + roomWithin direction true other
      if apart then branches ()
      else
        let alternatives := alternatives (.either preferred other)
        match sharedRoom? direction alternatives with
        | some room => room
        | none => choice alternatives.length + state + branches ()
  | _, .repeated least most _ body =>
      repeatedRoom (roomWithin direction false body) (neverEmpty body) least most
  | _, .group body =>
      let groups := if direction = .forward then 2 * state else 0
      groups + roomWithin direction false body

/-- The room of the automaton of a pattern.  Unless matches start or end only at the end of the text
at which it starts to read, it may pass over bytes first. -/
def room (direction : Direction) (node : Node) : Nat :=
  let anchored := match direction with
    | .forward => opensWith .textStart node
    | .backward => closesWith .textEnd node
  let passing := if anchored then state else choice 2 + state + step 1
  let groups := if direction = .forward then 2 * state else 0
  passing + groups + roomWithin direction false node + state

def roomLimit : Nat := 10 * 1024 * 1024

def fits (node : Node) : Bool :=
  node.room .forward ≤ roomLimit && node.room .backward ≤ roomLimit

end Node

end Reckon.Pattern
