import Mathlib.Data.List.Induction
import Reckon.Decimal.Numeral
import Reckon.Proofs.Lexicon.Written
import Reckon.Value

/-!
Literals: how they are written and what they denote.
-/

namespace Reckon

open Lexeme

/-- Entries in the order in which their keys occur first, each key once, with the value that it has
last. -/
def Table.settled {α : Type} (entries : List (String × α)) : Table α :=
  (keys entries).eraseDups.filterMap fun key => (get? entries.reverse key).map (key, ·)

namespace Table

variable {α : Type}

theorem ofList_concat (entries : List (String × α)) (entry : String × α) :
    ofList (entries ++ [entry]) = insert (ofList entries) entry.1 entry.2 := by
  simp [ofList, insertAll]

theorem keys_ofList (entries : List (String × α)) :
    keys (ofList entries) = (keys entries).eraseDups := by
  induction entries using List.reverseRecOn with
  | nil => rfl
  | append_singleton entries entry ih =>
      have split : keys (entries ++ [entry]) = keys entries ++ [entry.1] := by simp [keys]
      rw [ofList_concat, keys_insert, ih, split, List.eraseDups_append]
      by_cases known : entry.1 ∈ keys entries <;>
        simp [known, List.removeAll, List.eraseDups_cons]

theorem nodup_keys_ofList (entries : List (String × α)) : (keys (ofList entries)).Nodup := by
  induction entries using List.reverseRecOn with
  | nil => exact .nil
  | append_singleton entries entry ih =>
      rw [ofList_concat]
      exact nodup_keys_insert ih entry.1 entry.2

theorem filterMap_keys {table : Table α} (distinct : (keys table).Nodup) :
    (keys table).filterMap (fun key => (get? table key).map (key, ·)) = table := by
  induction table with
  | nil => rfl
  | cons entry rest ih =>
      obtain ⟨missing, distinct⟩ := List.nodup_cons.mp distinct
      have others : ∀ key ∈ keys rest, (get? (entry :: rest) key).map (key, ·) =
          (get? rest key).map (key, ·) := by
        intro key member
        have other : entry.1 ≠ key := by
          rintro rfl
          exact missing member
        simp [get?, other]
      change (entry.1 :: keys rest).filterMap _ = _
      rw [List.filterMap_cons_some (b := entry) (by simp [get?]),
        List.filterMap_congr others, ih distinct]

theorem ofList_eq (entries : List (String × α)) : ofList entries = settled entries := by
  have read : ∀ key, get? (ofList entries) key = get? entries.reverse key := by
    intro key
    rw [ofList, get?_insertAll, get?_nil, Option.or_none]
  rw [← filterMap_keys (nodup_keys_ofList entries), keys_ofList]
  simp only [read]
  rfl

end Table

namespace Numeral

variable {digits rest : List Char}

theorem spanFigures_append (all : ∀ c ∈ digits, c.isDigit = true)
    (stops : Stops Char.isDigit rest) : spanFigures (digits ++ rest) = (digits, rest) := by
  have count := runLength_append all stops
  unfold spanFigures
  rw [← take_runLength, ← drop_runLength, count, List.take_left, List.drop_left]

variable (run : Run Char.isDigit digits)

include run

theorem spanSign_of_run : spanSign (digits ++ rest) = (false, digits ++ rest) := by
  obtain ⟨first, others, rfl⟩ := List.exists_cons_of_ne_nil run.nonempty
  have digit := run.all first List.mem_cons_self
  rw [List.cons_append]
  unfold spanSign
  split
  · rename_i equal
    cases equal
    exact absurd digit (by decide)
  · rename_i equal
    cases equal
    exact absurd digit (by decide)
  · rfl

theorem readUnsigned?_of_run :
    readUnsigned? digits = some ⟨Decimal.readFigures 0 digits, 0⟩ := by
  have whole := @spanFigures_append digits [] run.all .nil
  rw [List.append_nil] at whole
  have nonempty : digits.isEmpty = false := by simpa using run.nonempty
  simp [readUnsigned?, whole, nonempty, readExponent?]

/-- Digits behind a point are read as further digits, each a tenth of the one before. -/
theorem readUnsigned?_of_fraction {fraction : List Char} (more : Run Char.isDigit fraction) :
    readUnsigned? (digits ++ '.' :: fraction) =
      some ⟨Decimal.readFigures 0 (digits ++ fraction), -fraction.length⟩ := by
  have whole := spanFigures_append run.all (Fraction.point more).stops
  have behindPoint := @spanFigures_append fraction [] more.all .nil
  rw [List.append_nil] at behindPoint
  have nonempty : digits.isEmpty = false := by simpa using run.nonempty
  simp [readUnsigned?, whole, behindPoint, nonempty, readExponent?]

theorem read?_of_run :
    read? digits = some (Decimal.toFloat false ⟨Decimal.readFigures 0 digits, 0⟩) := by
  have sign := @spanSign_of_run digits [] run
  rw [List.append_nil] at sign
  simp [read?, sign, readUnsigned?_of_run run]

theorem read?_of_fraction {fraction : List Char} (more : Run Char.isDigit fraction) :
    read? (digits ++ '.' :: fraction) =
      some (Decimal.toFloat false
        ⟨Decimal.readFigures 0 (digits ++ fraction), -fraction.length⟩) := by
  simp [read?, spanSign_of_run run, readUnsigned?_of_fraction run more]

omit run in
theorem isSome_read?_of_shape {text : List Char} (shape : Shape .numeral text) :
    (read? text).isSome = true := by
  cases shape with
  | numeral run more =>
      cases more with
      | none => rw [List.append_nil, read?_of_run run, Option.isSome_some]
      | point fraction => rw [read?_of_fraction run fraction, Option.isSome_some]

end Numeral

namespace Literal

structure Number where
  text : String
  shape : Shape .numeral text.toList

def Number.value (digits : Number) : Float :=
  (Numeral.read? digits.text.toList).get (Numeral.isSome_read?_of_shape digits.shape)

theorem Number.read?_text (digits : Number) :
    Numeral.read? digits.text.toList = some digits.value :=
  (Option.some_get _).symm

structure Quoted where
  content : String
  quote : Char
  opens : isQuote quote = true
  free : quote ∉ content.toList

/-- The text as it is, between quotes. -/
def Quoted.token (quoted : Quoted) : String :=
  String.ofList (quoted.quote :: (quoted.content.toList ++ [quoted.quote]))

theorem Quoted.shape (quoted : Quoted) : Shape .quoted quoted.token.toList := by
  rw [Quoted.token, String.toList_ofList]
  exact .quoted quoted.opens quoted.free

theorem Quoted.exists_iff (content : String) :
    (∃ quoted : Quoted, quoted.content = content) ↔
      ¬('"' ∈ content.toList ∧ '\'' ∈ content.toList) := by
  constructor
  · rintro ⟨⟨content, quote, opens, free⟩, rfl⟩ ⟨double, single⟩
    have quotes : quote = '"' ∨ quote = '\'' := by simpa [isQuote] using opens
    rcases quotes with rfl | rfl
    · exact free double
    · exact free single
  · intro either
    by_cases double : '"' ∈ content.toList
    · exact ⟨⟨content, '\'', rfl, fun single => either ⟨double, single⟩⟩, rfl⟩
    · exact ⟨⟨content, '"', rfl, double⟩, rfl⟩

structure Key where
  name : String
  named : isName name.toList = true

end Literal

mutual

/-- A literal as it is written, blanks aside. -/
inductive Literal
  | number (digits : Literal.Number)
  | boolean (flag : Bool)
  | string (quoted : Literal.Quoted)
  | array (items : List Literal)
  | object (first : Literal.Entry) (others : List Literal.Entry)

inductive Literal.Entry
  | mk (key : Literal.Key) (value : Literal)

end

namespace Literal

mutual

def value : Literal → Value
  | .number digits => .number digits.value
  | .boolean flag => .boolean flag
  | .string quoted => .string quoted.content
  | .array items => .array (values items)
  | .object first others => .object (Table.settled (entryValue first :: entryValues others))

def values : List Literal → List Value
  | [] => []
  | item :: rest => value item :: values rest

def entryValue : Entry → String × Value
  | .mk key literal => (key.name, value literal)

def entryValues : List Entry → List (String × Value)
  | [] => []
  | entry :: rest => entryValue entry :: entryValues rest

end

mutual

def tokens : Literal → List String
  | .number digits => [digits.text]
  | .boolean flag => [if flag then "true" else "false"]
  | .string quoted => [quoted.token]
  | .array [] => ["[", "]"]
  | .array (item :: rest) => "[" :: (tokens item ++ (moreTokens rest ++ ["]"]))
  | .object first others => "\x7b" :: (entryTokens first ++ (moreEntryTokens others ++ ["\x7d"]))

/-- The tokens of further elements, each behind a comma. -/
def moreTokens : List Literal → List String
  | [] => []
  | item :: rest => "," :: (tokens item ++ moreTokens rest)

def entryTokens : Entry → List String
  | .mk key literal => key.name :: ":" :: tokens literal

/-- The tokens of further entries, each behind a comma. -/
def moreEntryTokens : List Entry → List String
  | [] => []
  | entry :: rest => "," :: (entryTokens entry ++ moreEntryTokens rest)

end

theorem alone_of_mem : ∀ mark ∈ ["[", "]", "\x7b", "\x7d", ",", ":"], Alone mark := by
  intro mark member
  simp only [List.mem_cons, List.not_mem_nil, or_false] at member
  rcases member with rfl | rfl | rfl | rfl | rfl | rfl <;> exact ⟨_, rfl, by decide⟩

theorem seam_of_mem :
    ∀ mark ∈ ["]", "\x7d", ",", ":"], ∃ c rest, mark.toList = c :: rest ∧ Seam c := by
  intro mark member
  simp only [List.mem_cons, List.not_mem_nil, or_false] at member
  rcases member with rfl | rfl | rfl | rfl <;> exact ⟨_, _, rfl, by constructor <;> decide⟩

theorem shape_of_isName {text : List Char} (named : isName text = true) : Shape .path text := by
  simpa using Shape.path named .nil .nil

theorem seam_moreTokens (rest : List Literal) (next : String)
    (found : (moreTokens rest ++ ["]"]).head? = some next) :
    ∃ c rest, next.toList = c :: rest ∧ Seam c := by
  apply seam_of_mem
  cases rest <;> cases found <;> decide

theorem seam_moreEntryTokens (rest : List Entry) (next : String)
    (found : (moreEntryTokens rest ++ ["\x7d"]).head? = some next) :
    ∃ c rest, next.toList = c :: rest ∧ Seam c := by
  apply seam_of_mem
  cases rest <;> cases found <;> decide

mutual

theorem separable : (literal : Literal) → Separable literal.tokens
  | .number digits => .single digits.shape
  | .boolean true => .single (shape_of_isName rfl)
  | .boolean false => .single (shape_of_isName rfl)
  | .string quoted => .single quoted.shape
  | .array [] => .cons (alone_of_mem "[" (by decide)) (.single (.special rfl))
  | .array (item :: rest) => by
      rw [tokens]
      apply Separable.cons (alone_of_mem "[" (by decide))
      exact (separable item).append (separable_moreTokens rest) (seam_moreTokens rest)
  | .object first others => by
      rw [tokens]
      apply Separable.cons (alone_of_mem "\x7b" (by decide))
      exact (separable_entryTokens first).append (separable_moreEntryTokens others)
        (seam_moreEntryTokens others)

theorem separable_moreTokens : (rest : List Literal) → Separable (moreTokens rest ++ ["]"])
  | [] => .single (.special rfl)
  | item :: rest => by
      rw [moreTokens, List.cons_append, List.append_assoc]
      apply Separable.cons (alone_of_mem "," (by decide))
      exact (separable item).append (separable_moreTokens rest) (seam_moreTokens rest)

theorem separable_entryTokens : (entry : Entry) → Separable (entryTokens entry)
  | .mk key literal => by
      rw [entryTokens, ← List.singleton_append]
      apply Separable.append (.single (shape_of_isName key.named))
      · exact .cons (alone_of_mem ":" (by decide)) (separable literal)
      · rintro _ ⟨⟩
        exact seam_of_mem ":" (by decide)

theorem separable_moreEntryTokens :
    (rest : List Entry) → Separable (moreEntryTokens rest ++ ["\x7d"])
  | [] => .single (.special rfl)
  | entry :: rest => by
      rw [moreEntryTokens, List.cons_append, List.append_assoc]
      apply Separable.cons (alone_of_mem "," (by decide))
      exact (separable_entryTokens entry).append (separable_moreEntryTokens rest)
        (seam_moreEntryTokens rest)

end

end Literal

end Reckon
