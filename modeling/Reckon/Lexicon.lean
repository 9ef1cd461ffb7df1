import Reckon.Pattern

/-!
Tokens.  At each place of a text the built-in kinds of tokens are tried in turn, then the extra
pattern; a character at which no token starts is left out.  Words and their boundaries are ASCII.
-/

namespace Reckon

open Text (Spot)

/-- The kinds of tokens, in the order in which they are tried. -/
inductive TokenKind
  | comparison
  | special
  | numeral
  | quoted
  | path
  | spread
  | extra
  deriving DecidableEq, Repr

structure Lexeme where
  kind : TokenKind
  text : List Char
  deriving DecidableEq, Repr

namespace Lexeme

def isSpecial (c : Char) : Bool :=
  "-+*/():,<>!=%^[]\x7b\x7d".toList.contains c

def isWord (c : Char) : Bool := Unicode.isAsciiWord c

/-- The length of `<=`, `>=`, `==` or `!=` at the front. -/
def comparisonLength : List Char → Nat
  | c :: '=' :: _ => if c = '<' || c = '>' || c = '=' || c = '!' then 2 else 0
  | _ => 0

def specialLength : List Char → Nat
  | c :: _ => if isSpecial c then 1 else 0
  | [] => 0

def runLength (test : Char → Bool) (text : List Char) : Nat :=
  (text.takeWhile test).length

def fractionLength : List Char → Nat
  | '.' :: rest =>
      let digits := runLength Char.isDigit rest
      if digits = 0 then 0 else digits + 1
  | _ => 0

/-- The length of digits and an optional fraction at the front.  No word character comes before. -/
def numeralLength (before : Option Char) (text : List Char) : Nat :=
  if before.any isWord then 0
  else
    let digits := runLength Char.isDigit text
    if digits = 0 then 0 else digits + fractionLength (text.drop digits)

/-- The length of a string at the front: up to the next quote of the same sort. -/
def quotedLength : List Char → Nat
  | quote :: rest =>
      if (quote = '"' || quote = '\'') && rest.contains quote then
        runLength (· != quote) rest + 2
      else 0
  | [] => 0

/-- The length of the points at the front, each with a word after it. -/
def dottedLength : Nat → List Char → Nat
  | fuel + 1, '.' :: rest =>
      let word := runLength isWord rest
      if word = 0 then 0 else 1 + word + dottedLength fuel (rest.drop word)
  | _, _ => 0

/-- The length of the indices at the front, digits between brackets. -/
def indexedLength : Nat → List Char → Nat
  | fuel + 1, '[' :: rest =>
      let digits := runLength Char.isDigit rest
      match digits, rest.drop digits with
      | digits + 1, ']' :: rest => digits + 3 + indexedLength fuel rest
      | _, _ => 0
  | _, _ => 0

/-- The length of words joined by points and followed by indices at the front. -/
def pathLength (text : List Char) : Nat :=
  let word := runLength isWord text
  if word = 0 then 0
  else
    let afterWord := text.drop word
    let dotted := dottedLength afterWord.length afterWord
    let afterDotted := afterWord.drop dotted
    word + dotted + indexedLength afterDotted.length afterDotted

/-- The length of three points and a word at the front. -/
def spreadLength : List Char → Nat
  | '.' :: '.' :: '.' :: rest =>
      let word := runLength isWord rest
      if word = 0 then 0 else word + 3
  | _ => 0

/-- The lengths of the built-in tokens that could start at a place, in the order of preference. -/
def candidates (before : Option Char) (text : List Char) : List (TokenKind × Nat) :=
  [(.comparison, comparisonLength text), (.special, specialLength text),
    (.numeral, numeralLength before text), (.quoted, quotedLength text),
    (.path, pathLength text), (.spread, spreadLength text)]

def builtin? (before : Option Char) (text : List Char) : Option (TokenKind × Nat) :=
  (candidates before text).find? (·.2 != 0)

end Lexeme

/-- What the tokens of an engine are: the built-in ones, and those of an extra pattern. -/
structure Lexicon where
  extra? : Option Pattern

namespace Lexicon

def builtin : Lexicon := ⟨none⟩

def builtinSource : String :=
  "[<>]=|==|!=|[-+*/():,<>!=%^\\[\\]\x7b\x7d]|(?-u:\\b)[0-9]+(?:\\.[0-9]+)?|\"[^\"]*\"|'[^']*'|" ++
    "(?-u:\\w)+(?:\\.(?-u:\\w)+)*(?:\\[[0-9]+\\])*|\\.\\.\\.(?-u:\\w)+"

/-- The built-in tokens and, after them, an extra pattern as a regular expression. -/
def sourceWith (extra : String) : String :=
  builtinSource ++ "|" ++ extra

def source (lexicon : Lexicon) : String :=
  match lexicon.extra? with
  | none => builtinSource
  | some pattern => sourceWith pattern.source

/-- The lexicon with an extra pattern, if there is one.  The pattern has to be well formed and, with
the built-in tokens, neither too deep nor too large. -/
def withPattern? : Option String → Option Lexicon
  | none => some builtin
  | some text =>
      (Pattern.compile? (sourceWith text)).bind fun _ =>
        (Pattern.compile? text).map fun pattern => ⟨some pattern⟩

def extraLength (lexicon : Lexicon) (spot : Spot) : Nat :=
  match lexicon.extra? with
  | none => 0
  | some pattern =>
      match pattern.node.firstEnd? spot with
      | some last => last.index - spot.index
      | none => 0

/-- The token that starts at a place.  An empty match of the extra pattern is none. -/
def token? (lexicon : Lexicon) (spot : Spot) : Option (TokenKind × Nat) :=
  match Lexeme.builtin? spot.before spot.rest with
  | some found => some found
  | none =>
      match lexicon.extraLength spot with
      | 0 => none
      | length => some (.extra, length)

/-- The tokens from a place on, after `skipped` characters that belong to the last token. -/
def scan (lexicon : Lexicon) : (skipped index : Nat) → Option Char → List Char → List Lexeme
  | _, _, _, [] => []
  | skipped + 1, index, _, c :: rest => scan lexicon skipped (index + 1) (some c) rest
  | 0, index, before, c :: rest =>
      match lexicon.token? ⟨index, before, c :: rest⟩ with
      | some (kind, length) =>
          ⟨kind, (c :: rest).take length⟩ :: scan lexicon (length - 1) (index + 1) (some c) rest
      | none => scan lexicon 0 (index + 1) (some c) rest

def lexemes (lexicon : Lexicon) (text : String) : List Lexeme :=
  lexicon.scan 0 0 none text.toList

def tokens (lexicon : Lexicon) (text : String) : List String :=
  (lexicon.lexemes text).map fun lexeme => String.ofList lexeme.text

end Lexicon

end Reckon
