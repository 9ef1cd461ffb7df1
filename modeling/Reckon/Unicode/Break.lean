import Reckon.Unicode.Property
import Reckon.Unicode.Script

/-!
How characters matter where a text is cut into what a reader takes for characters, into words, and
into sentences: the classes of each kind of cut with their names.
-/

namespace Reckon.Unicode.Break

def spacingMark : CharSet :=
  ((Category.set .spacingMark).difference (Property.graphemeExtend.union (.ofLines
    ["102b-102c 1038 1062-1064 1067-106d 1083 1087-108c 108f 109a-109c 1a61 1a63-1a64 aa7b aa7d",
     "11720-11721"]))).union
    (.ofLines ["e33 eb3"])

def openSyllable : CharSet :=
  ⟨(List.range 399).map fun block => (0xac00 + 28 * block, 0xac00 + 28 * block)⟩

def graphemeControl : CharSet :=
  (CharSet.unions
    [Category.set .control, Category.set .format, Category.set .lineSeparator,
      Category.set .paragraphSeparator,
      Property.defaultIgnorable.intersection Category.unassigned]).difference
    (Property.prependedMark.union (.ofLines ["a d 200c-200d e0020-e007f"]))

def script (name : String) : CharSet :=
  (Script.named? name).elim .empty (·.members)

def mark : CharSet :=
  Property.graphemeExtend.union (Category.set .spacingMark)

def wordExtend : CharSet :=
  (mark.union Property.emojiModifier).difference (.ofLines ["200d"])

def katakana : CharSet :=
  (script "katakana").union (.ofLines ["3031-3035 309b-309c 30a0 30fc ff70"])

def hebrewLetter : CharSet :=
  (script "hebrew").intersection (Category.set .otherLetter)

def unspacedLetter : CharSet := .ofLines
    ["e01-e30 e32-e33 e40-e46 e81-e82 e84 e86-e8a e8c-ea3 ea5 ea7-eb0 eb2-eb3 ebd ec0-ec4 ec6",
     "edc-edf 1000-102a 103f 1050-1055 105a-105d 1061 1065-1066 106e-1070 1075-1081 108e",
     "1780-17b3 17d7 17dc 1950-196d 1970-1974 1980-19ab 19b0-19c9 1a20-1a54 1aa7 a9e0-a9e4",
     "a9e6-a9ef a9fa-a9fe aa60-aa76 aa7a aa7e-aaaf aab1 aab5-aab6 aab9-aabd aac0 aac2 aadb-aadd",
     "11700-1171a 11740-11746"]

def wordLetter : CharSet :=
  (Property.alphabetic.difference (.unions [Property.ideographic, script "hiragana", katakana,
    wordExtend, hebrewLetter, unspacedLetter])).union (.ofLines
    ["2c2-2c5 2d2-2d7 2de-2df 2e5-2eb 2ed 2ef-2ff 55a-55c 55e 58a 5f3 70f a708-a716 a720-a721",
     "a789-a78a ab5b"])

def numeric : CharSet :=
  (Category.set .decimalNumber).union (.ofLines
    ["600-605 66b 6dd 890-891 8e2 19da 110bd 110cd"])

def wordFormat : CharSet :=
  (Category.set .format).difference
    (Property.prependedMark.union (.ofLines ["200b-200d e0020-e007f"]))

def sentenceFormat : CharSet :=
  (Category.set .format).difference (.ofLines
    ["600-605 6dd 890-891 8e2 200c-200d 110bd 110cd e0020-e007f"])

def sentenceLower : CharSet :=
  Property.lowercase.difference
    (Property.graphemeExtend.union (.ofLines ["10d0-10fa 10fd-10ff"]))

def sentenceUpper : CharSet :=
  (Property.uppercase.union (Category.set .titlecaseLetter)).difference
    (.ofLines ["1c90-1cba 1cbd-1cbf"])

def sentenceExtend : CharSet :=
  mark.union (.ofLines ["200d"])

def sentenceLetter : CharSet :=
  (Property.alphabetic.difference
    (.unions [sentenceLower, sentenceUpper, sentenceExtend])).union (.ofLines ["5f3"])

def fullStop : CharSet := .ofLines
    ["2e 2024 fe52 ff0e"]

def closing : CharSet :=
  .unions [Category.set .openPunctuation, Category.set .closePunctuation,
    Category.set .initialPunctuation, Category.set .finalPunctuation,
    .ofLines ["22 27 275b-2760 2e00-2e01 2e06-2e08 2e0b 1f676-1f678"]]

def graphemeClasses : List (List String × CharSet) := [
  (["cr"], .ofLines ["d"]),
  (["cn", "control"], graphemeControl),
  (["ex", "extend"], Property.graphemeExtend.union Property.emojiModifier),
  (["l"], .ofLines ["1100-115f a960-a97c"]),
  (["lf"], .ofLines ["a"]),
  (["lv"], openSyllable),
  (["lvt"], CharSet.difference (.ofLines ["ac00-d7a3"]) openSyllable),
  (["pp", "prepend"], .ofLines
    ["600-605 6dd 70f 890-891 8e2 d4e 110bd 110cd 111c2-111c3 113d1 1193f 11941 11a3a 11a84-11a89",
     "11d46 11f02"]),
  (["ri", "regionalindicator"], Property.regionalIndicator),
  (["sm", "spacingmark"], spacingMark),
  (["t"], .ofLines ["11a8-11ff d7cb-d7fb"]),
  (["v"], .ofLines ["1160-11a7 d7b0-d7c6 16d63 16d67-16d6a"]),
  (["zwj"], .ofLines ["200d"])]

def wordClasses : List (List String × CharSet) := [
  (["le", "aletter"], wordLetter),
  (["cr"], .ofLines ["d"]),
  (["dq", "doublequote"], .ofLines ["22"]),
  (["extend"], wordExtend),
  (["ex", "extendnumlet"], .ofLines ["5f 202f 203f-2040 2054 fe33-fe34 fe4d-fe4f ff3f"]),
  (["fo", "format"], wordFormat),
  (["hl", "hebrewletter"], hebrewLetter),
  (["ka", "katakana"], katakana),
  (["lf"], .ofLines ["a"]),
  (["ml", "midletter"], .ofLines ["3a b7 387 55f 5f4 2027 fe13 fe55 ff1a"]),
  (["mn", "midnum"], .ofLines ["2c 3b 37e 589 60c-60d 66c 7f8 2044 fe50 fe54 ff0c ff1b"]),
  (["mb", "midnumlet"], .ofLines ["2e 2018-2019 2024 fe52 ff07 ff0e"]),
  (["nl", "newline"], .ofLines ["b-c 85 2028-2029"]),
  (["nu", "numeric"], numeric),
  (["ri", "regionalindicator"], Property.regionalIndicator),
  (["sq", "singlequote"], .ofLines ["27"]),
  (["wsegspace"], (Category.set .spaceSeparator).difference (.ofLines ["a0 2007 202f"])),
  (["zwj"], .ofLines ["200d"])]

def sentenceClasses : List (List String × CharSet) := [
  (["at", "aterm"], fullStop),
  (["cr"], .ofLines ["d"]),
  (["cl", "close"], closing),
  (["ex", "extend"], sentenceExtend),
  (["fo", "format"], sentenceFormat),
  (["lf"], .ofLines ["a"]),
  (["lo", "lower"], sentenceLower),
  (["nu", "numeric"], numeric.union (.ofLines ["66c"])),
  (["le", "oletter"], sentenceLetter),
  (["sc", "scontinue"], .ofLines
    ["2c-2d 3a-3b 37e 55d 60c-60d 7f8 1802 1808 2013-2014 3001 fe10-fe11 fe13-fe14 fe31-fe32",
     "fe50-fe51 fe54-fe55 fe58 fe63 ff0c-ff0d ff1a-ff1b ff64"]),
  (["st", "sterm"], Property.sentenceTerminal.difference fullStop),
  (["se", "sep"], .ofLines ["85 2028-2029"]),
  (["sp"], Property.whiteSpace.difference (.ofLines ["a d 85 2028-2029"])),
  (["up", "upper"], sentenceUpper)]

end Reckon.Unicode.Break
