import Reckon.Pattern.Node
import Reckon.Unicode.Break
import Reckon.Unicode.CaseFolding
import Reckon.Unicode.Version

/-!
From patterns as they are written to patterns as they match.  Flags hold from where they are
switched to the end of their group.  Without the flag `unicode` nothing may match beyond ASCII
except a character written as itself.
-/

namespace Reckon.Pattern

open Unicode (CharSet)

structure Flags where
  ignoreCase : Bool := false
  multiLine : Bool := false
  dotAll : Bool := false
  swapGreed : Bool := false
  unicode : Bool := true
  carriageReturn : Bool := false

namespace Flags

def switch (flags : Flags) (change : Flag × Bool) : Flags :=
  match change.1 with
  | .ignoreCase => { flags with ignoreCase := change.2 }
  | .multiLine => { flags with multiLine := change.2 }
  | .dotAll => { flags with dotAll := change.2 }
  | .swapGreed => { flags with swapGreed := change.2 }
  | .unicode => { flags with unicode := change.2 }
  | .carriageReturn => { flags with carriageReturn := change.2 }
  | .verbose => flags

def apply (flags : Flags) (changes : FlagChanges) : Flags :=
  changes.foldl switch flags

end Flags

/-- A name without case, spaces, hyphens, underscores and a leading `is`. -/
def plainName (name : String) : String :=
  let isPair (a b : Char) : Bool := (a = 'i' || a = 'I') && (b = 's' || b = 'S')
  let (prefixed, rest) := match name.toList with
    | a :: b :: rest => if isPair a b then (true, rest) else (false, a :: b :: rest)
    | text => (false, text)
  let kept := (rest.filter fun c => c.toNat < 128 && c != ' ' && c != '_' && c != '-').map
    Char.toLower
  String.ofList (if prefixed && kept = ['c'] then ['i', 's', 'c'] else kept)

open Unicode.Category in
def categorySet? : String → Option CharSet
  | "any" => some .all
  | "assigned" => some unassigned.complement
  | "ascii" => some ⟨[(0, 127)]⟩
  | "c" | "other" => some others
  | "cc" | "control" | "cntrl" => some (set .control)
  | "cf" | "format" => some (set .format)
  | "cn" | "unassigned" => some unassigned
  | "co" | "privateuse" => some (set .privateUse)
  | "l" | "letter" => some letters
  | "lc" | "casedletter" => some casedLetters
  | "ll" | "lowercaseletter" => some (set .lowercaseLetter)
  | "lm" | "modifierletter" => some (set .modifierLetter)
  | "lo" | "otherletter" => some (set .otherLetter)
  | "lt" | "titlecaseletter" => some (set .titlecaseLetter)
  | "lu" | "uppercaseletter" => some (set .uppercaseLetter)
  | "m" | "mark" | "combiningmark" => some marks
  | "mc" | "spacingmark" => some (set .spacingMark)
  | "me" | "enclosingmark" => some (set .enclosingMark)
  | "mn" | "nonspacingmark" => some (set .nonspacingMark)
  | "n" | "number" => some numbers
  | "nd" | "decimalnumber" | "digit" => some (set .decimalNumber)
  | "nl" | "letternumber" => some (set .letterNumber)
  | "no" | "othernumber" => some (set .otherNumber)
  | "p" | "punctuation" | "punct" => some punctuation
  | "pc" | "connectorpunctuation" => some (set .connectorPunctuation)
  | "pd" | "dashpunctuation" => some (set .dashPunctuation)
  | "pe" | "closepunctuation" => some (set .closePunctuation)
  | "pf" | "finalpunctuation" => some (set .finalPunctuation)
  | "pi" | "initialpunctuation" => some (set .initialPunctuation)
  | "po" | "otherpunctuation" => some (set .otherPunctuation)
  | "ps" | "openpunctuation" => some (set .openPunctuation)
  | "s" | "symbol" => some symbols
  | "sc" | "currencysymbol" => some (set .currencySymbol)
  | "sk" | "modifiersymbol" => some (set .modifierSymbol)
  | "sm" | "mathsymbol" => some (set .mathSymbol)
  | "so" | "othersymbol" => some (set .otherSymbol)
  | "z" | "separator" => some separators
  | "zl" | "lineseparator" => some (set .lineSeparator)
  | "zp" | "paragraphseparator" => some (set .paragraphSeparator)
  | "zs" | "spaceseparator" => some (set .spaceSeparator)
  | _ => none

def scriptSet? (name : String) : Option CharSet :=
  match name with
  | "zyyy" | "common" => some Unicode.Script.common
  | "zinh" | "inherited" | "qaai" => some Unicode.Script.inherited
  | _ => (Unicode.Script.named? name).map (·.members)

def scriptExtensionSet? (name : String) : Option CharSet :=
  match name with
  | "zyyy" | "common" => some Unicode.Script.commonExtended
  | "zinh" | "inherited" | "qaai" => some Unicode.Script.inheritedExtended
  | _ =>
      (Unicode.Script.named? name).map fun script => script.members.union script.guests

def namedSet? (sets : List (List String × CharSet)) (name : String) : Option CharSet :=
  (sets.find? (·.1.contains name)).map (·.2)

def propertySet? : PropertyName → Option CharSet
  | .named name =>
      let name := plainName name
      (namedSet? Unicode.Property.every name).orElse fun _ =>
        (categorySet? name).orElse fun _ => scriptSet? name
  | .valued property value =>
      let value := plainName value
      match plainName property with
      | "gc" | "generalcategory" => categorySet? value
      | "sc" | "script" => scriptSet? value
      | "scx" | "scriptextensions" => scriptExtensionSet? value
      | "age" => Unicode.Version.characters? value
      | "gcb" | "graphemeclusterbreak" => namedSet? Unicode.Break.graphemeClasses value
      | "wb" | "wordbreak" => namedSet? Unicode.Break.wordClasses value
      | "sb" | "sentencebreak" => namedSet? Unicode.Break.sentenceClasses value
      | _ => none

def shorthandSet (unicode : Bool) : Shorthand → CharSet
  | .digit => if unicode then Unicode.digits else ⟨[(0x30, 0x39)]⟩
  | .space => if unicode then Unicode.Property.whiteSpace else ⟨[(9, 13), (0x20, 0x20)]⟩
  | .word =>
      if unicode then Unicode.word
      else ⟨[(0x30, 0x39), (0x41, 0x5a), (0x5f, 0x5f), (0x61, 0x7a)]⟩

def AsciiClass.set : AsciiClass → CharSet
  | .alnum => ⟨[(0x30, 0x39), (0x41, 0x5a), (0x61, 0x7a)]⟩
  | .alpha => ⟨[(0x41, 0x5a), (0x61, 0x7a)]⟩
  | .ascii => ⟨[(0, 0x7f)]⟩
  | .blank => ⟨[(9, 9), (0x20, 0x20)]⟩
  | .cntrl => ⟨[(0, 0x1f), (0x7f, 0x7f)]⟩
  | .digit => ⟨[(0x30, 0x39)]⟩
  | .graph => ⟨[(0x21, 0x7e)]⟩
  | .lower => ⟨[(0x61, 0x7a)]⟩
  | .print => ⟨[(0x20, 0x7e)]⟩
  | .punct => ⟨[(0x21, 0x2f), (0x3a, 0x40), (0x5b, 0x60), (0x7b, 0x7e)]⟩
  | .space => ⟨[(9, 13), (0x20, 0x20)]⟩
  | .upper => ⟨[(0x41, 0x5a)]⟩
  | .word => ⟨[(0x30, 0x39), (0x41, 0x5a), (0x5f, 0x5f), (0x61, 0x7a)]⟩
  | .xdigit => ⟨[(0x30, 0x39), (0x41, 0x46), (0x61, 0x66)]⟩

namespace Flags

/-- A set with the other cases of its letters, if case does not count. -/
def fold (flags : Flags) (set : CharSet) : CharSet :=
  if flags.ignoreCase then
    if flags.unicode then Unicode.CaseFolding.close set
    else Unicode.CaseFolding.closeAscii set
  else set

/-- A set or its complement.  Without the flag `unicode` a set beyond ASCII is refused. -/
def negate? (flags : Flags) (negated : Bool) (set : CharSet) : Option CharSet :=
  let set := if negated then set.complement else set
  if flags.unicode || set.isAscii then some set else none

def finish? (flags : Flags) (negated : Bool) (set : CharSet) : Option CharSet :=
  flags.negate? negated (flags.fold set)

def allowsInClass (flags : Flags) (c : Char) : Bool :=
  flags.unicode || c.toNat < 128

def propertySet? (flags : Flags) (name : PropertyName) (negated : Bool) : Option CharSet :=
  if flags.unicode then (Pattern.propertySet? name).bind (flags.finish? negated) else none

mutual

def classSet? (flags : Flags) : ClassTree → Option CharSet
  | .literal c _ => if flags.allowsInClass c then some (.singleton c) else none
  | .range first _ last _ =>
      if flags.allowsInClass first && flags.allowsInClass last then
        some ⟨[(first.toNat, last.toNat)]⟩
      else none
  | .ascii name negated => flags.finish? negated name.set
  | .shorthand name negated => flags.negate? negated (shorthandSet flags.unicode name)
  | .property name negated => flags.propertySet? name negated
  | .bracketed negated inside => (classSet? flags inside).bind (flags.finish? negated)
  | .union items => unionSet? flags items
  | .operation kind left right =>
      match classSet? flags left, classSet? flags right with
      | some left, some right =>
          let left := flags.fold left
          let right := flags.fold right
          some (match kind with
            | .intersection => left.intersection right
            | .difference => left.difference right
            | .symmetricDifference => left.symmetricDifference right)
      | _, _ => none

def unionSet? (flags : Flags) : List ClassTree → Option CharSet
  | [] => some .empty
  | item :: rest =>
      match classSet? flags item, unionSet? flags rest with
      | some first, some others => some (first.union others)
      | _, _ => none

end

/-- A literal, in either case if case does not count. -/
def literalNode? (flags : Flags) (c : Char) (hexPair : Bool) : Option Node :=
  if flags.unicode then
    some (.set (if flags.ignoreCase then
      .ofRanges ((Unicode.CaseFolding.orbit c).map fun code => (code, code)) else .singleton c))
  else if hexPair && 128 ≤ c.toNat then none
  else some (.set (flags.fold (.singleton c)))

/-- Every character, except the ends of lines unless the dot matches those too. -/
def dotNode? (flags : Flags) : Option Node :=
  if !flags.unicode then none
  else if flags.dotAll then some (.set .all)
  else if flags.carriageReturn then
    some (.set (CharSet.complement ⟨[(0x0a, 0x0a), (0x0d, 0x0d)]⟩))
  else some (.set (CharSet.complement ⟨[(0x0a, 0x0a)]⟩))

def assertionLook (flags : Flags) : Assertion → Look
  | .lineStart => if flags.multiLine then .lineStart flags.carriageReturn else .textStart
  | .lineEnd => if flags.multiLine then .lineEnd flags.carriageReturn else .textEnd
  | .textStart => .textStart
  | .textEnd => .textEnd
  | kind => .word kind flags.unicode

end Flags

mutual

/-- What a tree matches under flags, and the flags after it. -/
def Tree.meaning? (flags : Flags) : Tree → Option (Node × Flags)
  | .empty => some (.empty, flags)
  | .flags changes => some (.empty, flags.apply changes)
  | .literal c hexPair => (flags.literalNode? c hexPair).map (·, flags)
  | .dot => flags.dotNode?.map (·, flags)
  | .assertion kind => some (.look (flags.assertionLook kind), flags)
  | .shorthand name negated =>
      (flags.negate? negated (shorthandSet flags.unicode name)).map fun set => (.set set, flags)
  | .property name negated =>
      (flags.propertySet? name negated).map fun set => (.set set, flags)
  | .bracketed negated inside =>
      ((flags.classSet? inside).bind (flags.finish? negated)).map fun set => (.set set, flags)
  | .repetition least most greedy body =>
      (Tree.meaning? flags body).map fun (node, after) =>
        (.repetition least most (greedy != flags.swapGreed) node, after)
  | .group remembered changes body =>
      (Tree.meaning? (flags.apply changes) body).map fun (node, _) =>
        (if remembered then .group node else node, flags)
  | .alternation branches => Tree.meaningOfBranches? flags branches
  | .sequence terms => Tree.meaningOfTerms? flags terms

/-- One branch or another, the first one preferred. -/
def Tree.meaningOfBranches? (flags : Flags) : List Tree → Option (Node × Flags)
  | [] => some (.set .empty, flags)
  | [branch] => Tree.meaning? flags branch
  | branch :: rest =>
      (Tree.meaning? flags branch).bind fun (first, flags) =>
        (Tree.meaningOfBranches? flags rest).map fun (others, flags) =>
          (.either first others, flags)

def Tree.meaningOfTerms? (flags : Flags) : List Tree → Option (Node × Flags)
  | [] => some (.empty, flags)
  | term :: rest =>
      (Tree.meaning? flags term).bind fun (first, flags) =>
        (Tree.meaningOfTerms? flags rest).map fun (others, flags) => (.seq first others, flags)

end

end Reckon.Pattern
