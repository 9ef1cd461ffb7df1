import Reckon.Proofs.Formula.Reader
import Reckon.Proofs.Lexicon.Blank
import Reckon.Proofs.Standard.Calls

/-!
The roles of tokens in standard engines, and the tokens of operators and names.
-/

namespace Reckon

open Formula Lexeme

theorem Grammar.spreadOperand?_of_no_point {token : String} (plain : '.' ∉ token.toList) :
    Grammar.spreadOperand? token = none := by
  have unmarked : ∀ text : List Char, '.' ∉ text → spreadOperand?.remove text = none := by
    intro text missing
    induction text with
    | nil => rfl
    | cons c rest ih =>
        simp only [List.mem_cons, not_or] at missing
        have start : spreadMark.isPrefixOf (c :: rest) = false := by
          simp [spreadMark, List.isPrefixOf, missing.1]
        simp [spreadOperand?.remove, start, ih missing.2]
  simp [Grammar.spreadOperand?, unmarked _ plain]

/-- A token that starts like a name is no literal, but for the two booleans. -/
theorem literal?_of_word {token : String} {first : Char} {more : List Char}
    (chars : token.toList = first :: more) (word : isWord first = true)
    (letter : first.isDigit = false) (proper : token ≠ "true" ∧ token ≠ "false") :
    literal? token = none := by
  have missing : ∀ c, isWord c = false → first ≠ c := fun _ => ne_of_isWord word
  have numeral : Grammar.numeral? token = none := by
    have point := missing '.' (by decide)
    simp [Grammar.numeral?, chars, letter, point]
  have quoted : Grammar.unquote? token = none := by
    have double := missing '"' (by decide)
    have single := missing '\'' (by decide)
    simp [Grammar.unquote?, chars, double, single]
  simp [literal?, numeral, quoted, proper]

section

variable {registry : Registry} {name : String} (named : isName name.toList = true)

include named

theorem name_ne {c : Char} (other : isWord c = false) : c ∉ name.toList := by
  obtain ⟨first, more, equal, -, word⟩ := isName_iff.mp named
  intro inside
  rw [equal] at inside
  rw [word c inside] at other
  cases other

theorem literal?_of_name (proper : name ≠ "true" ∧ name ≠ "false") : literal? name = none := by
  obtain ⟨first, more, equal, letter, word⟩ := isName_iff.mp named
  exact literal?_of_word equal (word first List.mem_cons_self) letter proper

theorem isPunctuation_of_name : Grammar.isPunctuation name = false := by
  obtain ⟨first, more, equal, -, word⟩ := isName_iff.mp named
  have here := word first (List.mem_cons_self ..)
  have other : Grammar.punctuation.contains first = false := by
    by_contra special
    rw [Bool.not_eq_false] at special
    have punctuation : isSpecial first = true := special
    rw [not_isWord_of_special punctuation] at here
    cases here
  unfold Grammar.isPunctuation
  rw [equal, List.all_cons, other]
  simp

theorem isPath_of_name : Grammar.isPath name = false := by
  have point := name_ne named (c := '.') (by decide)
  have bracket := name_ne named (c := '[') (by decide)
  unfold Grammar.isPath
  rw [List.any_eq_false]
  intro c inside
  simp only [Bool.or_eq_true, decide_eq_true_eq, not_or]
  exact ⟨fun same => point (same ▸ inside), fun same => bracket (same ▸ inside)⟩

theorem isIdentifier_of_name : Grammar.isIdentifier name = true := by
  obtain ⟨first, more, equal, letter, word⟩ := isName_iff.mp named
  have here : Unicode.isAsciiWord first = true := word first (List.mem_cons_self ..)
  unfold Grammar.isIdentifier
  simp only [equal, Bool.or_eq_true, decide_eq_true_eq]
  simp only [Unicode.isAsciiWord, Char.isAlphanum, letter, Bool.or_false, Bool.or_eq_true,
    decide_eq_true_eq] at here
  rcases here with letter | underscore
  · right
    have range := range_of_isAlpha letter
    rw [Unicode.isAlphabetic, if_pos (by omega)]
    exact letter
  · exact .inl underscore

theorem ne_of_name (other : String) (unlike : isName other.toList = false) : name ≠ other := by
  rintro rfl
  rw [named] at unlike
  cases unlike

theorem role_of_name (proper : name ≠ "true" ∧ name ≠ "false")
    (unary : registry.unaryOperator? name = none) :
    role registry name =
      if (registry.function? name).isSome then .function
      else if (registry.operator? name).isSome then .refused else .name := by
  unfold role
  simp [unary, ne_of_name named "(" (by decide), literal?_of_name named proper,
    ne_of_name named "[" (by decide), ne_of_name named "\x7b" (by decide),
    isPath_of_name named, isPunctuation_of_name named]

end

namespace Standard

variable (clock : Calendar.Moment)

theorem isName_of_function {clock : Calendar.Moment} {name : String} {callee : Callable}
    (found : (registry clock).function? name = some callee) :
    isName name.toList = true ∧ name ≠ "true" ∧ name ≠ "false" := by
  have keys : Table.keys (functions clock) = ["unique", "filter", "map", "find", "some", "every",
      "reduce", "regex", "length", "upper", "lower", "trim", "concat", "join", "split", "date",
      "date_day", "date_month", "date_year", "date_format", "date_plus", "date_minus"] := rfl
  have all : ∀ name ∈ Table.keys (functions clock),
      isName name.toList = true ∧ name ≠ "true" ∧ name ≠ "false" := by
    rw [keys]
    decide
  exact all name (List.mem_map_of_mem (mem_functions found))

theorem unaryOperator?_of_name {name : String} (named : isName name.toList = true) :
    (registry clock).unaryOperator? name = none := by
  have symbols : (registry clock).unaryOperators =
      [("!", fun operand => .ok (complement operand)),
       ("-", fun operand => .ok (negate operand))] :=
    rfl
  unfold Registry.unaryOperator?
  rw [symbols]
  have bang := ne_of_name named "!" (by decide)
  have minus := ne_of_name named "-" (by decide)
  simp [Table.get?, bang.symm, minus.symm]

theorem role_of_function {clock : Calendar.Moment} {name : String} {callee : Callable}
    (found : (registry clock).function? name = some callee) :
    role (registry clock) name = .function := by
  obtain ⟨named, proper⟩ := isName_of_function found
  rw [role_of_name named proper (unaryOperator?_of_name clock named), found]
  rfl

/-- The tokens that structure formulas keep their meaning in standard engines. -/
theorem role_opening :
    role (registry clock) "(" = .parenthesis ∧ role (registry clock) "[" = .array ∧
      role (registry clock) "\x7b" = .object := ⟨rfl, rfl, rfl⟩

theorem role_closing :
    ∀ token ∈ [")", "]", "\x7d", ","], role (registry clock) token = .refused ∧
      (registry clock).operator? token = none := by
  intro token member
  simp only [List.mem_cons, List.not_mem_nil, or_false] at member
  rcases member with rfl | rfl | rfl | rfl <;> exact ⟨rfl, rfl⟩

theorem tokenTexts_operator {symbol : String} {meaning : Precedence × (Value → Value → Value)}
    (member : (symbol, meaning) ∈ binaryOperators) (rest : List Char) :
    tokenTexts (symbol.toList ++ ' ' :: rest) = symbol :: tokenTexts rest := by
  have special : ∀ c, isSpecial c = true →
      tokenTexts (c :: ' ' :: rest) = String.ofList [c] :: tokenTexts rest := by
    intro c special
    rw [tokenTexts_special special (by simp [comparisonLength]), tokenTexts_space]
  have comparison : ∀ c, builtin? none (c :: '=' :: ' ' :: rest) = some (.comparison, 2) →
      tokenTexts (c :: '=' :: ' ' :: rest) = String.ofList [c, '='] :: tokenTexts rest := by
    intro c found
    have apart : (behind none [c, '=']).any isWord = false := rfl
    have dropped : tokenTexts (c :: '=' :: ' ' :: rest) =
        String.ofList [c, '='] :: tokenTexts (' ' :: rest) := by
      unfold tokenTexts
      rw [split_of_some found]
      exact congrArg (_ :: texts ·) (split_of_apart apart)
    rw [dropped, tokenTexts_space]
  have name : ∀ name : String, isName name.toList = true →
      tokenTexts (name.toList ++ ' ' :: rest) = name :: tokenTexts rest := by
    intro name named
    rw [tokenTexts_name named Seam.space, tokenTexts_space]
  simp only [binaryOperators, List.mem_cons, Prod.mk.injEq, List.not_mem_nil, or_false] at member
  rcases member with ⟨rfl, -⟩ | ⟨rfl, -⟩ | ⟨rfl, -⟩ | ⟨rfl, -⟩ | ⟨rfl, -⟩ | ⟨rfl, -⟩ | ⟨rfl, -⟩ |
    ⟨rfl, -⟩ | ⟨rfl, -⟩ | ⟨rfl, -⟩ | ⟨rfl, -⟩ | ⟨rfl, -⟩ | ⟨rfl, -⟩ | ⟨rfl, -⟩
  · exact name "or" rfl
  · exact name "and" rfl
  · exact comparison '=' rfl
  · exact comparison '!' rfl
  · exact special '<' (by decide)
  · exact special '>' (by decide)
  · exact comparison '<' rfl
  · exact comparison '>' rfl
  · exact special '+' (by decide)
  · exact special '-' (by decide)
  · exact special '*' (by decide)
  · exact special '/' (by decide)
  · exact special '%' (by decide)
  · exact special '^' (by decide)

end Standard

end Reckon
