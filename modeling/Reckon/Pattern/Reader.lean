import Reckon.Pattern.Tree
import Reckon.Text.Blank
import Reckon.Text.Hexadecimal
import Reckon.Decimal.Numeral
import Reckon.Unicode.Word

/-!
Reading patterns.  A reader takes what it needs from the front of the pattern; a malformed pattern
has no tree.
-/

namespace Reckon.Pattern

/-- What is left of a pattern, whether blanks and comments mean nothing in it, and the group names
met so far. -/
structure Source where
  rest : List Char
  verbose : Bool
  names : List String

namespace Source

/-- Pass over a comment up to the end of its line, and over blanks. -/
def skipVerbose : (comment : Bool) → List Char → List Char
  | _, [] => []
  | true, c :: rest => skipVerbose (c != '\n') rest
  | false, c :: rest =>
      if Text.isBlank c then skipVerbose false rest
      else if c = '#' then skipVerbose true rest
      else c :: rest

/-- Pass over what means nothing, if blanks and comments do. -/
def skip (source : Source) : Source :=
  if source.verbose then { source with rest := skipVerbose false source.rest } else source

def head? (source : Source) : Option Char :=
  source.rest.head?

def next (source : Source) : Source :=
  { source with rest := source.rest.tail }

def nextSkip (source : Source) : Source :=
  source.next.skip

/-- Drop a text from the front, if it stands there. -/
def drop? (source : Source) (text : String) : Option Source :=
  if text.toList.isPrefixOf source.rest then
    some { source with rest := source.rest.drop text.toList.length }
  else none

end Source

/-- A reader's result, and the pattern after it. -/
abbrev Taken (α : Type) := Option (α × Source)

def largestCount : Nat := UInt32.size - 1

/-- Take characters that pass a test, and what means nothing between them. -/
def takeSkipping (test : Char → Bool) : Nat → List Char → Source → List Char × Source
  | 0, taken, source => (taken.reverse, source)
  | fuel + 1, taken, source =>
      match source.head? with
      | some c =>
          if test c then takeSkipping test fuel (c :: taken) source.nextSkip
          else (taken.reverse, source)
      | none => (taken.reverse, source)

/-- A decimal count, with blanks around it.  The outer result tells a malformed count from a missing
one. -/
def readCount (source : Source) : Taken (Option Nat) :=
  let source := { source with rest := source.rest.dropWhile Text.isBlank }
  let (digits, source) := takeSkipping Char.isDigit source.rest.length [] source
  let (_, source) := takeSkipping Text.isBlank source.rest.length [] source
  if digits.isEmpty then some (none, source)
  else
    let count := Decimal.readFigures 0 digits
    if count ≤ largestCount then some (some count, source) else none

def charOfHex? (digits : List Char) : Option Char :=
  (Text.readHex? digits).bind fun code =>
    if code.isValidChar then some (Char.ofNat code) else none

def readHexDigits : Nat → List Char → Source → Taken (List Char)
  | 0, digits, source => some (digits.reverse, source)
  | count + 1, digits, source =>
      match source.head? with
      | some c =>
          if (Text.hexValue? c).isSome then readHexDigits count (c :: digits) source.nextSkip
          else none
      | none => none

/-- A character by its code: `width` digits, or any number of them between braces. -/
def readHex (width : Nat) (source : Source) : Taken (Char × Bool) :=
  match source.head? with
  | none => none
  | some '\x7b' =>
      let (digits, source) := takeSkipping (· != '\x7d') source.rest.length [] source.nextSkip
      if source.rest.isEmpty || digits.isEmpty then none
      else (charOfHex? digits).map fun c => ((c, false), source.nextSkip)
  | some _ =>
      (readHexDigits width [] source).bind fun (digits, source) =>
        (charOfHex? digits).map fun c => ((c, width = 2), source)

def cutAt? (mark : List Char) : List Char → Option (List Char × List Char)
  | [] => none
  | c :: rest =>
      if mark.isPrefixOf (c :: rest) then some ([], (c :: rest).drop mark.length)
      else (cutAt? mark rest).map fun (before, after) => (c :: before, after)

/-- The name between the braces of a property, and whether its mark negates it. -/
def readPropertyName (name : List Char) : PropertyName × Bool :=
  match cutAt? ['!', '='] name with
  | some (property, value) => (.valued (String.ofList property) (String.ofList value), true)
  | none =>
      match (cutAt? [':'] name).orElse fun _ => cutAt? ['='] name with
      | some (property, value) => (.valued (String.ofList property) (String.ofList value), false)
      | none => (.named (String.ofList name), false)

/-- A property, after `p` or `P`: one letter, or a name between braces. -/
def readProperty (source : Source) : Taken (PropertyName × Bool) :=
  match source.head? with
  | none => none
  | some '\\' => none
  | some '\x7b' =>
      let (name, source) := takeSkipping (· != '\x7d') source.rest.length [] source.nextSkip
      if source.rest.isEmpty then none
      else some (readPropertyName name, source.next)
  | some c => some ((.named (String.ofList [c]), false), source.nextSkip)

def isMeta (c : Char) : Bool :=
  "\\.+*?()|[]\x7b\x7d^$#&-~".toList.contains c

def isEscapable (c : Char) : Bool :=
  isMeta c || (c.toNat < 128 && !c.isAlphanum && c != '<' && c != '>')

inductive Escape
  | literal (c : Char) (hexPair : Bool)
  | assertion (kind : Assertion)
  | shorthand (name : Shorthand) (negated : Bool)
  | property (name : PropertyName) (negated : Bool)

/-- The word assertion between the braces after `\b`, if it is one: braces may also start a
repetition. -/
def readWordAssertion (source : Source) : Taken Assertion :=
  let isNameChar (c : Char) : Bool := c.isAlpha || c = '-'
  let inner := source.nextSkip
  match inner.head? with
  | none => none
  | some c =>
      if !isNameChar c then some (.wordBoundary, source)
      else
        let (name, after) := takeSkipping isNameChar inner.rest.length [] inner
        match after.head?, String.ofList name with
        | some '\x7d', "start" => some (.wordStart, after.next)
        | some '\x7d', "end" => some (.wordEnd, after.next)
        | some '\x7d', "start-half" => some (.wordStartHalf, after.next)
        | some '\x7d', "end-half" => some (.wordEndHalf, after.next)
        | _, _ => none

/-- An escape, after its backslash. -/
def readEscape (source : Source) : Taken Escape :=
  match source.rest with
  | [] => none
  | c :: rest =>
      let after := { source with rest }
      let hex (width : Nat) : Taken Escape :=
        (readHex width source.nextSkip).map fun ((c, pair), source) => (.literal c pair, source)
      let property (negated : Bool) : Taken Escape :=
        (readProperty source.nextSkip).map fun ((name, flipped), source) =>
          (.property name (negated != flipped), source)
      let code (value : Nat) : Taken Escape := some (.literal (Char.ofNat value) false, after)
      match c with
      | 'x' => hex 2
      | 'u' => hex 4
      | 'U' => hex 8
      | 'p' => property false
      | 'P' => property true
      | 'd' => some (.shorthand .digit false, after)
      | 'D' => some (.shorthand .digit true, after)
      | 's' => some (.shorthand .space false, after)
      | 'S' => some (.shorthand .space true, after)
      | 'w' => some (.shorthand .word false, after)
      | 'W' => some (.shorthand .word true, after)
      | 'a' => code 0x07
      | 'f' => code 0x0c
      | 't' => code 0x09
      | 'n' => code 0x0a
      | 'r' => code 0x0d
      | 'v' => code 0x0b
      | 'A' => some (.assertion .textStart, after)
      | 'z' => some (.assertion .textEnd, after)
      | 'B' => some (.assertion .notWordBoundary, after)
      | '<' => some (.assertion .wordStart, after)
      | '>' => some (.assertion .wordEnd, after)
      | 'b' =>
          if after.head? = some '\x7b' then
            (readWordAssertion after).map fun (kind, source) => (.assertion kind, source)
          else some (.assertion .wordBoundary, after)
      | _ => if isEscapable c then some (.literal c false, after) else none

/-- One item of a class that is no bracket: an escape or a character. -/
def readClassItem (source : Source) : Taken Escape :=
  match source.rest with
  | [] => none
  | '\\' :: rest => readEscape { source with rest }
  | c :: rest => some (.literal c false, { source with rest })

/-- An item as a class of its own; assertions are none. -/
def Escape.toClass? : Escape → Option ClassTree
  | .literal c pair => some (.literal c pair)
  | .shorthand name negated => some (.shorthand name negated)
  | .property name negated => some (.property name negated)
  | .assertion _ => none

/-- The next character but one, blanks and one comment mark aside if they mean nothing. -/
def peekSkip (source : Source) : Option Char :=
  if source.verbose then
    match Text.trimFront source.rest.tail with
    | '#' :: rest => (Text.trimFront rest).head?
    | rest => rest.head?
  else source.next.head?

/-- An item or a range.  A hyphen before a closing bracket or another hyphen makes no range. -/
def readClassRange (source : Source) : Taken ClassTree :=
  (readClassItem source).bind fun (first, afterFirst) =>
    let afterFirst := afterFirst.skip
    match afterFirst.head? with
    | none => none
    | some c =>
        if c != '-' || peekSkip afterFirst = some ']' || peekSkip afterFirst = some '-' then
          first.toClass?.map fun tree => (tree, afterFirst)
        else
          (readClassItem afterFirst.nextSkip).bind fun (last, afterLast) =>
            match first, last with
            | .literal a pairA, .literal b pairB =>
                if a ≤ b then some (.range a pairA b pairB, afterLast) else none
            | _, _ => none

def asciiClassOfName? : String → Option AsciiClass
  | "alnum" => some .alnum
  | "alpha" => some .alpha
  | "ascii" => some .ascii
  | "blank" => some .blank
  | "cntrl" => some .cntrl
  | "digit" => some .digit
  | "graph" => some .graph
  | "lower" => some .lower
  | "print" => some .print
  | "punct" => some .punct
  | "space" => some .space
  | "upper" => some .upper
  | "word" => some .word
  | "xdigit" => some .xdigit
  | _ => none

/-- A named ASCII class such as `[:alpha:]` or `[:^alpha:]`, if one stands here. -/
def readAsciiClass? (source : Source) : Taken ClassTree :=
  (source.drop? "[:").bind fun inner =>
    let (negated, inner) := match inner.drop? "^" with
      | some rest => (true, rest)
      | none => (false, inner)
    let name := inner.rest.takeWhile (· != ':')
    (({ inner with rest := inner.rest.drop name.length } : Source).drop? ":]").bind fun after =>
      (asciiClassOfName? (String.ofList name)).map fun kind => (.ascii kind negated, after)

/-- Hyphens at the front of a class are literals. -/
def readLeadingHyphens : Nat → List ClassTree → Source → List ClassTree × Source
  | 0, items, source => (items, source)
  | fuel + 1, items, source =>
      if source.head? = some '-' then
        readLeadingHyphens fuel (.literal '-' false :: items) source.nextSkip
      else (items, source)

/-- The front of a class after its bracket: whether it is negated, and its first literals. -/
def readClassOpening (source : Source) : Taken (Bool × List ClassTree) :=
  let source := source.skip
  let (negated, source) :=
    if source.head? = some '^' then (true, source.nextSkip) else (false, source)
  let (items, source) := readLeadingHyphens source.rest.length [] source
  match source.head? with
  | none => none
  | some c =>
      if items.isEmpty && c = ']' then
        let after := source.nextSkip
        if after.rest.isEmpty then none else some ((negated, [.literal ']' false]), after)
      else some ((negated, items), source)

/-- The items of a union, which are given last first.  One item is no list. -/
def unionOf : List ClassTree → ClassTree
  | [item] => item
  | items => .union items.reverse

def closeOperation (waiting : Option (ClassOperation × ClassTree)) (right : ClassTree) :
    ClassTree :=
  match waiting with
  | some (kind, left) => .operation kind left right
  | none => right

/-- The rest of a class up to its closing bracket: an operation may wait for its right side, and
the items of the union so far are given last first. -/
def readClassRest : Nat → Option (ClassOperation × ClassTree) → List ClassTree → Source →
    Taken ClassTree
  | 0, _, _, _ => none
  | fuel + 1, waiting, items, source =>
      let source := source.skip
      let operation (kind : ClassOperation) : Taken ClassTree :=
        readClassRest fuel (some (kind, closeOperation waiting (unionOf items))) []
          source.next.next
      match source.rest with
      | [] => none
      | ']' :: rest => some (closeOperation waiting (unionOf items), { source with rest })
      | '&' :: '&' :: _ => operation .intersection
      | '-' :: '-' :: _ => operation .difference
      | '~' :: '~' :: _ => operation .symmetricDifference
      | '[' :: rest =>
          match readAsciiClass? source with
          | some (item, after) => readClassRest fuel waiting (item :: items) after
          | none =>
              (readClassOpening { source with rest }).bind fun ((negated, first), inner) =>
                (readClassRest fuel none first inner).bind fun (inside, after) =>
                  readClassRest fuel waiting (.bracketed negated inside :: items) after
      | _ =>
          (readClassRange source).bind fun (item, after) =>
            readClassRest fuel waiting (item :: items) after

def readClass (source : Source) : Taken Tree :=
  (readClassOpening source).bind fun ((negated, first), inner) =>
    (readClassRest (2 * inner.rest.length + 2) none first inner).map fun (inside, after) =>
      (.bracketed negated inside, after)

def flagOfChar? : Char → Option Flag
  | 'i' => some .ignoreCase
  | 'm' => some .multiLine
  | 's' => some .dotAll
  | 'U' => some .swapGreed
  | 'u' => some .unicode
  | 'R' => some .carriageReturn
  | 'x' => some .verbose
  | _ => none

/-- Flags up to a colon or a closing parenthesis, which is not taken.  No flag comes twice, and
after the one minus at least one flag follows. -/
def readFlags : List Char → (negating : Bool) → (dangling : Bool) → FlagChanges →
    Option (FlagChanges × List Char)
  | [], _, _, _ => none
  | c :: rest, negating, dangling, changes =>
      if c = ':' || c = ')' then
        if dangling then none else some (changes.reverse, c :: rest)
      else if c = '-' then
        if negating then none else readFlags rest true true changes
      else
        (flagOfChar? c).bind fun flag =>
          if changes.any (·.1 = flag) then none
          else readFlags rest negating false ((flag, !negating) :: changes)

/-- Whether the switch for blanks and comments is among the changes, and which way. -/
def verboseAfter (changes : FlagChanges) (current : Bool) : Bool :=
  (changes.find? (·.1 = .verbose)).elim current Prod.snd

def isNameChar (first : Bool) (c : Char) : Bool :=
  if first then c = '_' || Unicode.isAlphabetic c
  else c = '_' || c = '.' || c = '[' || c = ']' || Unicode.isAlphanumeric c

def readGroupName (source : Source) : Option Source :=
  let name := source.rest.takeWhile (· != '>')
  match source.rest.drop name.length with
  | [] => none
  | _ :: rest =>
      match name with
      | [] => none
      | first :: others =>
          let text := String.ofList name
          if isNameChar true first && others.all (isNameChar false) &&
              !source.names.contains text then
            some { source with rest, names := text :: source.names }
          else none

/-- What follows an opening parenthesis: flags for what comes after, or a group with flags of its
own. -/
inductive Opening
  | switch (changes : FlagChanges)
  | group (remembered : Bool) (changes : FlagChanges)

def readOpening (source : Source) : Taken Opening :=
  let source := source.skip
  let begins (text : String) : Bool := (source.drop? text).isSome
  if begins "?=" || begins "?!" || begins "?<=" || begins "?<!" then none
  else
    match (source.drop? "?P<").orElse fun _ => source.drop? "?<" with
    | some named => (readGroupName named).map fun after => (.group true [], after)
    | none =>
        match source.drop? "?" with
        | none => some (.group true [], source)
        | some marked =>
            (readFlags marked.rest false false []).bind fun (changes, rest) =>
              match rest with
              | ')' :: rest =>
                  -- a minus alone is refused as dangling, so no item at all is what is left
                  if changes.isEmpty then none
                  else some (.switch changes, { marked with rest })
              | _ => some (.group false changes, { marked with rest := rest.tail })

def readBounds (source : Source) : Taken (Nat × Option Nat) :=
  (readCount source).bind fun (least, source) =>
    match source.head?, least with
    | some '\x7d', some least => some ((least, some least), source)
    | some ',', some least =>
        let source := source.nextSkip
        match source.head? with
        | none => none
        | some '\x7d' => some ((least, none), source)
        | some _ =>
            (readCount source).bind fun (most, source) =>
              match most with
              | some most =>
                  if source.head? = some '\x7d' && least ≤ most then
                    some ((least, some most), source)
                  else none
              | none => none
    | _, _ => none

/-- Put a repetition around the last term; terms are given last first. -/
def repeatLast (least : Nat) (most : Option Nat) (greedy : Bool) :
    List Tree → Option (List Tree)
  | [] => none
  | .empty :: _ | .flags _ :: _ => none
  | term :: rest => some (.repetition least most greedy term :: rest)

/-- Drop a question mark, which makes a repetition lazy. -/
def readGreed (source : Source) : Bool × Source :=
  if source.head? = some '?' then (false, source.next) else (true, source)

/-- A term that is no group, class or repetition. -/
def readTerm (source : Source) : Taken Tree :=
  match source.rest with
  | [] => none
  | '\\' :: rest =>
      (readEscape { source with rest }).map fun (escape, source) =>
        match escape with
        | .literal c pair => (.literal c pair, source)
        | .assertion kind => (.assertion kind, source)
        | .shorthand name negated => (.shorthand name negated, source)
        | .property name negated => (.property name negated, source)
  | '.' :: rest => some (.dot, { source with rest })
  | '^' :: rest => some (.assertion .lineStart, { source with rest })
  | '$' :: rest => some (.assertion .lineEnd, { source with rest })
  | c :: rest => some (.literal c false, { source with rest })

/-- The tree of the branches of an alternation, the last of which is first. -/
def alternationOf : List Tree → Tree
  | [branch] => branch
  | branches => .alternation branches.reverse

/-- A pattern up to its end or to a closing parenthesis, which is not taken.  The branches before
the current one and its terms so far are given last first. -/
def readBranches : Nat → List Tree → List Tree → Source → Taken Tree
  | 0, _, _, _ => none
  | fuel + 1, branches, terms, source =>
      let source := source.skip
      let finish : Tree := alternationOf (Tree.ofTerms terms.reverse :: branches)
      let repetition (least : Nat) (most : Option Nat) (source : Source) : Taken Tree :=
        let (greedy, source) := readGreed source
        (repeatLast least most greedy terms).bind fun terms =>
          readBranches fuel branches terms source
      match source.rest with
      | [] => some (finish, source)
      | ')' :: _ => some (finish, source)
      | '|' :: rest =>
          readBranches fuel (Tree.ofTerms terms.reverse :: branches) [] { source with rest }
      | '(' :: rest =>
          (readOpening { source with rest }).bind fun (opening, inner) =>
            match opening with
            | .switch changes =>
                readBranches fuel branches (.flags changes :: terms)
                  { inner with verbose := verboseAfter changes inner.verbose }
            | .group remembered changes =>
                (readBranches fuel [] []
                    { inner with verbose := verboseAfter changes inner.verbose }).bind
                  fun (body, after) =>
                    match after.rest with
                    | ')' :: rest =>
                        readBranches fuel branches (.group remembered changes body :: terms)
                          { after with rest, verbose := source.verbose }
                    | _ => none
      | '[' :: rest =>
          (readClass { source with rest }).bind fun (term, after) =>
            readBranches fuel branches (term :: terms) after
      | '?' :: rest => repetition 0 (some 1) { source with rest }
      | '*' :: rest => repetition 0 none { source with rest }
      | '+' :: rest => repetition 1 none { source with rest }
      | '\x7b' :: _ =>
          (readBounds source.nextSkip).bind fun ((least, most), after) =>
            repetition least most after.nextSkip
      | _ =>
          (readTerm source).bind fun (term, after) =>
            readBranches fuel branches (term :: terms) after

/-- Deeper patterns are refused. -/
def nestingLimit : Nat := 250

def Tree.read? (text : String) : Option Tree :=
  let source : Source := ⟨text.toList, false, []⟩
  match readBranches (2 * source.rest.length + 2) [] [] source with
  | some (tree, rest) =>
      if rest.rest.isEmpty && tree.depth ≤ nestingLimit then some tree else none
  | none => none

end Reckon.Pattern
