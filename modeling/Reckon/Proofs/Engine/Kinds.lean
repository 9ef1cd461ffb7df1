import Reckon.Proofs.Engine.Keys
import Reckon.Proofs.Engine.Literals
import Reckon.Proofs.Lexicon.Alternatives
import Reckon.Proofs.Lexicon.Coverage

/-!
Kinds of tokens, told by their texts.  Tokens come to the grammar without their kinds, and it looks
at their characters again.  What it takes for a number, a string or punctuation is just what was
matched as such, and what it takes for the key of an object was matched as a path.
-/

namespace Reckon

open Lexeme

namespace Lexeme

variable {c : Char} {text : List Char} {kind : TokenKind}

def startedBy (c : Char) : List TokenKind :=
  if isSpecial c then [.comparison, .special]
  else if c.isDigit then [.numeral]
  else if isWord c then [.path]
  else if isQuote c then [.quoted]
  else if c = '.' then [.spread]
  else []

theorem not_isSpecial_of_isWord (word : isWord c = true) : isSpecial c = false := by
  by_contra special
  rw [not_isWord_of_special (Bool.not_eq_false _ ▸ special)] at word
  cases word

theorem startedBy_of_isSpecial (special : isSpecial c = true) :
    startedBy c = [.comparison, .special] := if_pos special

theorem startedBy_of_isDigit (digit : c.isDigit = true) : startedBy c = [.numeral] := by
  have other := not_isSpecial_of_isWord (isWord_of_isDigit digit)
  simp [startedBy, other, digit]

theorem startedBy_of_isWord (word : isWord c = true) (letter : c.isDigit = false) :
    startedBy c = [.path] := by
  simp [startedBy, not_isSpecial_of_isWord word, word, letter]

theorem startedBy_of_isQuote (quote : isQuote c = true) : startedBy c = [.quoted] := by
  rcases Bool.or_eq_true_iff.mp quote with same | same <;> cases of_decide_eq_true same <;> rfl

/-- What a token starts with leaves one kind for it, unless that is a special character. -/
theorem Shape.starts (shape : Shape kind text) :
    ∃ first rest, text = first :: rest ∧ kind ∈ startedBy first := by
  cases shape with
  | comparison mark =>
      refine ⟨_, _, rfl, ?_⟩
      rcases mark with rfl | rfl | rfl | rfl <;> decide
  | special special =>
      refine ⟨_, _, rfl, ?_⟩
      simp [startedBy_of_isSpecial special]
  | @numeral digits fraction run more =>
      obtain ⟨first, others, rfl⟩ := List.exists_cons_of_ne_nil run.nonempty
      refine ⟨first, _, rfl, ?_⟩
      simp [startedBy_of_isDigit (run.all first List.mem_cons_self)]
  | quoted opens =>
      refine ⟨_, _, rfl, ?_⟩
      simp [startedBy_of_isQuote opens]
  | path named =>
      obtain ⟨first, more, rfl, letter, word⟩ := isName_iff.mp named
      refine ⟨first, _, rfl, ?_⟩
      simp [startedBy_of_isWord (word first List.mem_cons_self) letter]
  | spread => exact ⟨_, _, rfl, by decide⟩

end Lexeme

namespace Grammar

variable {token : String} {kind : TokenKind}

/-! ## Numbers -/

theorem front_of_numeral? (read : (numeral? token).isSome = true) :
    ∃ first rest, token.toList = first :: rest ∧ (first.isDigit = true ∨ first = '.') := by
  unfold numeral? at read
  split at read
  · cases read
  · rename_i first rest chars
    split at read
    · rename_i passes
      simp only [Bool.and_eq_true, Bool.or_eq_true, decide_eq_true_eq] at passes
      exact ⟨first, rest, chars, passes.1⟩
    · cases read

/-- A numeral has no second point right behind its first one, so a spread is none, though all of its
characters may be those of numerals. -/
theorem numeral?_of_spread (shape : Shape .spread token.toList) : numeral? token = none := by
  generalize chars : token.toList = text at shape
  cases shape with
  | @spread word run =>
      have refused : Numeral.read? ('.' :: '.' :: '.' :: word) = none := rfl
      simp [numeral?, chars, refused]

theorem isSome_numeral?_iff (shape : Shape kind token.toList) :
    (numeral? token).isSome = true ↔ kind = .numeral := by
  constructor
  · intro read
    obtain ⟨first, rest, chars, starts⟩ := shape.starts
    obtain ⟨_, _, same, front⟩ := front_of_numeral? read
    cases chars.symm.trans same
    rcases front with digit | rfl
    · rw [startedBy_of_isDigit digit] at starts
      exact List.mem_singleton.mp starts
    · cases List.mem_singleton.mp (show kind ∈ [.spread] from starts)
      rw [numeral?_of_spread shape] at read
      cases read
  · rintro rfl
    rw [numeral?_of_shape shape]
    exact Numeral.isSome_read?_of_shape shape

/-! ## Strings -/

theorem unquote?_eq_some_iff {content : String} : unquote? token = some content ↔
    ∃ quote, isQuote quote = true ∧ token.toList = quote :: (content.toList ++ [quote]) := by
  constructor
  · intro unquoted
    unfold unquote? at unquoted
    split at unquoted
    · cases unquoted
    · rename_i quote rest chars
      split at unquoted
      · rename_i closes
        obtain ⟨opens, last⟩ := Bool.and_eq_true_iff.mp closes
        cases unquoted
        refine ⟨quote, opens, ?_⟩
        rw [chars, String.toList_ofList, List.dropLast_append_getLast? _ (of_decide_eq_true last)]
      · cases unquoted
  · rintro ⟨quote, opens, chars⟩
    have quotes : (quote = '"' || quote = '\'') = true := opens
    simp [unquote?, chars, quotes]

theorem isSome_unquote?_iff (shape : Shape kind token.toList) :
    (unquote? token).isSome = true ↔ kind = .quoted := by
  constructor
  · intro unquoted
    obtain ⟨content, unquoted⟩ := Option.isSome_iff_exists.mp unquoted
    obtain ⟨quote, opens, same⟩ := unquote?_eq_some_iff.mp unquoted
    obtain ⟨first, rest, chars, starts⟩ := shape.starts
    cases chars.symm.trans same
    rw [startedBy_of_isQuote opens] at starts
    exact List.mem_singleton.mp starts
  · rintro rfl
    generalize chars : token.toList = text at shape
    cases shape with
    | @quoted quote inner opens free =>
        refine Option.isSome_iff_exists.mpr ⟨String.ofList inner, ?_⟩
        exact unquote?_eq_some_iff.mpr ⟨quote, opens, by rw [chars, String.toList_ofList]⟩

/-! ## Punctuation and keys -/

theorem isPunctuation_cons {first : Char} {rest : List Char}
    (chars : token.toList = first :: rest) :
    isPunctuation token = (first :: rest).all isSpecial := by
  have nonempty : token.isEmpty = false := by
    rw [Bool.eq_false_iff, ne_eq, String.isEmpty_iff]
    rintro rfl
    cases chars
  rw [isPunctuation, nonempty, chars]
  rfl

theorem isPunctuation_iff (shape : Shape kind token.toList) :
    isPunctuation token = true ↔ kind = .comparison ∨ kind = .special := by
  obtain ⟨first, rest, chars, starts⟩ := shape.starts
  rw [isPunctuation_cons chars, List.all_eq_true]
  constructor
  · intro all
    rw [startedBy_of_isSpecial (all first List.mem_cons_self)] at starts
    simpa using starts
  · rw [chars] at shape
    rintro (rfl | rfl)
    · cases shape with
      | comparison mark =>
          rcases mark with rfl | rfl | rfl | rfl <;> exact List.all_eq_true.mp (by decide)
    · cases shape with
      | special special => exact List.forall_mem_singleton.mpr special

theorem kind_of_isIdentifier (shape : Shape kind token.toList)
    (identifier : isIdentifier token = true) : kind = .path := by
  rw [isIdentifier_eq] at identifier
  exact (shape.path_of_isLetter identifier).kind_eq shape

/-! ## The tokens of a text -/

open Lexicon

/-- What the grammar reads off a token agrees with the token's kind. -/
structure TellsKind (token : String) (kind : TokenKind) : Prop where
  number : (numeral? token).isSome = true ↔ kind = .numeral
  string : (unquote? token).isSome = true ↔ kind = .quoted
  /-- A string is taken without its first and last character. -/
  content : ∀ content, unquote? token = some content →
    ∃ first last, token.toList = first :: (content.toList ++ [last])
  punctuation : isPunctuation token = true ↔ kind = .comparison ∨ kind = .special
  identifier : isIdentifier token = true → kind = .path

theorem tellsKind_of_shape (shape : Shape kind token.toList) : TellsKind token kind where
  number := isSome_numeral?_iff shape
  string := isSome_unquote?_iff shape
  content := by
    intro content unquoted
    obtain ⟨quote, -, chars⟩ := unquote?_eq_some_iff.mp unquoted
    exact ⟨quote, quote, chars⟩
  punctuation := isPunctuation_iff shape
  identifier := kind_of_isIdentifier shape

/-- The tokens of a text are the matches of the default alternation, and the grammar tells by their
texts for which kinds the alternatives are that matched them. -/
theorem tellsKind_lexemes (text : String) :
    ∃ default, Pattern.compile? builtinSource = some default ∧
      default.node.alternatives = kinds.flatMap nodesOf ∧
      List.Forall₂ Arises (builtin.lexemes text) (default.node.findAll text.toList) ∧
      ∀ lexeme ∈ builtin.lexemes text, TellsKind (String.ofList lexeme.text) lexeme.kind := by
  refine ⟨_, compile?_builtinSource, alternatives_builtinNode, arises_lexemes text, ?_⟩
  intro lexeme member
  apply tellsKind_of_shape
  rw [String.toList_ofList]
  exact shape_of_mem_lexemes member

theorem tellsKind_lexemes_spread :
    (⟨.spread, "...1e5".toList⟩ : Lexeme) ∈ builtin.lexemes "\x7b...1e5, a.b: '1e5' <= 1.5\x7d" ∧
      TellsKind "...1e5" .spread := by
  have member : (⟨.spread, "...1e5".toList⟩ : Lexeme) ∈
      builtin.lexemes "\x7b...1e5, a.b: '1e5' <= 1.5\x7d" := by decide
  obtain ⟨_, -, -, -, tells⟩ := tellsKind_lexemes "\x7b...1e5, a.b: '1e5' <= 1.5\x7d"
  exact ⟨member, tells _ member⟩

end Grammar

end Reckon
