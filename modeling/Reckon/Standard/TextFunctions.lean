import Reckon.Standard.Arguments
import Reckon.Pattern
import Reckon.Unicode.CaseMapping

/-!
Functions on texts, and the test of a text against a regular expression.
-/

namespace Reckon.Standard

/-- The switches of a pattern: those written into it, each once and in the order of their first
occurrence, and whether a match has to start where the text does. -/
structure PatternFlags where
  inner : List Char
  sticky : Bool
  deriving DecidableEq, Repr

/-- Read the letters of flags; `g` and `u` change nothing. -/
def readPatternFlags (flags : PatternFlags) : List Char → Except Error PatternFlags
  | [] => .ok flags
  | flag :: rest =>
      if flag = 'i' || flag = 'm' || flag = 's' then
        readPatternFlags
          (if flags.inner.contains flag then flags
            else { flags with inner := flags.inner ++ [flag] }) rest
      else if flag = 'g' || flag = 'u' then readPatternFlags flags rest
      else if flag = 'y' then readPatternFlags { flags with sticky := true } rest
      else
        .error (.function "regex" (some ("unsupported flag '" ++ String.ofList [flag] ++ "'")))

def patternSource (pattern : String) (flags : PatternFlags) : String :=
  let anchored := if flags.sticky then "\\A(?:" ++ pattern ++ ")" else pattern
  if flags.inner.isEmpty then anchored
  else "(?" ++ String.ofList flags.inner ++ ")" ++ anchored

def compilePattern (pattern flags : String) : Except Error Pattern := do
  let flags ← readPatternFlags ⟨[], false⟩ flags.toList
  match Pattern.compile? (patternSource pattern flags) with
  | some compiled => .ok compiled
  | none => .error (.function "regex" none)

/-- Whether the string form of a value matches a pattern. -/
def regex (arguments : List Value) : Except Error Value := do
  let text := (argument arguments 0).display
  let pattern ← stringArgument "regex" arguments 1
  let flags ← optionalString "regex" arguments 2
  let compiled ← compilePattern pattern (flags.getD "")
  return .boolean (compiled.isMatch text)

def length (arguments : List Value) : Except Error Value :=
  match argument arguments 0 with
  | .string text => .ok (.ofNat text.length)
  | .array items => .ok (.ofNat items.length)
  | .object entries => .ok (.ofNat entries.length)
  | other => .error (.function "length" (some (other.kindName ++ " has no length")))

def onText (name : String) (change : List Char → List Char) (arguments : List Value) :
    Except Error Value :=
  (stringArgument name arguments 0).map fun text => .string (String.ofList (change text.toList))

def concat (arguments : List Value) : Except Error Value :=
  .ok (.string (String.join (arguments.map Value.display)))

/-- The string forms of the elements with a separator between them, a comma unless one is given. -/
def join (arguments : List Value) : Except Error Value := do
  let separator ← optionalString "join" arguments 1
  let items ← arrayArgument "join" arguments 0
  return .string ((separator.getD ",").intercalate (items.map Value.display))

/-- The pieces of a text between separators; an empty separator leaves the characters. -/
def split (arguments : List Value) : Except Error Value := do
  let text ← stringArgument "split" arguments 0
  let separator ← stringArgument "split" arguments 1
  let pieces := Text.pieces separator.toList text.toList
  return .array (pieces.map fun piece => .string (String.ofList piece))

def textFunctions : Table Callable := [
  ("regex", plainFunction "regex" 2 (some 3) regex),
  ("length", plainFunction "length" 1 (some 1) length),
  ("upper", plainFunction "upper" 1 (some 1) (onText "upper" Unicode.CaseMapping.upper)),
  ("lower", plainFunction "lower" 1 (some 1) (onText "lower" Unicode.CaseMapping.lower)),
  ("trim", plainFunction "trim" 1 (some 1) (onText "trim" Text.trim)),
  ("concat", plainFunction "concat" 1 none concat),
  ("join", plainFunction "join" 1 (some 2) join),
  ("split", plainFunction "split" 2 (some 2) split)]

end Reckon.Standard
