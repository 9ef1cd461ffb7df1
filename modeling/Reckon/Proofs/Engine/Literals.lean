import Reckon.Proofs.Engine.Frame
import Reckon.Proofs.Formula.Row
import Reckon.Proofs.Literal
import Reckon.Proofs.Standard.Tokens

/-!
Literals come to what they denote.
-/

namespace Reckon

open Formula Lexeme

def Stands (tokens : Array String) : (start : Nat) → List String → (stop : Nat) → Prop
  | start, [], stop => start = stop
  | start, token :: rest, stop => tokens[start]? = some token ∧ Stands tokens (start + 1) rest stop

theorem Stands.append {tokens : Array String} {start stop : Nat} {front back : List String} :
    Stands tokens start (front ++ back) stop ↔
      ∃ middle, Stands tokens start front middle ∧ Stands tokens middle back stop := by
  induction front generalizing start with
  | nil => simp [Stands]
  | cons token front ih =>
      rw [List.cons_append, Stands, ih]
      constructor
      · rintro ⟨here, middle, first, second⟩
        exact ⟨middle, ⟨here, first⟩, second⟩
      · rintro ⟨middle, ⟨here, first⟩, second⟩
        exact ⟨here, middle, first, second⟩

theorem Stands.toArray (tokens : List String) :
    Stands tokens.toArray 0 tokens tokens.toArray.size := by
  have inside : ∀ front back : List String,
      Stands (front ++ back).toArray front.length back (front ++ back).toArray.size := by
    intro front back
    induction back generalizing front with
    | nil => simp [Stands]
    | cons token back ih =>
        have more := ih (front ++ [token])
        rw [List.append_assoc, List.singleton_append, List.length_append] at more
        exact ⟨by simp, more⟩
  exact inside [] tokens

section

variable {token : String}

theorem Formula.role_of_literal? {value : Value} (found : literal? token = some value)
    (parenthesis : token ≠ "(") : role .empty token = .literal value := by
  have unclaimed : Registry.empty.unaryOperator? token = none := rfl
  simp [role, unclaimed, parenthesis, found]

theorem Grammar.numeral?_of_shape (shape : Shape .numeral token.toList) :
    numeral? token = Numeral.read? token.toList := by
  generalize equal : token.toList = text at shape
  cases shape with
  | @numeral digits fraction run more =>
      obtain ⟨first, others, rfl⟩ := List.exists_cons_of_ne_nil run.nonempty
      have digit : ∀ c, c.isDigit = true → Numeral.isNumeralChar c = true := by
        intro c digit
        simp [Numeral.isNumeralChar, digit]
      have all : ∀ c ∈ first :: others ++ fraction, Numeral.isNumeralChar c = true := by
        intro c member
        rcases List.mem_append.mp member with member | member
        · exact digit c (run.all c member)
        · cases more with
          | none => cases member
          | point inner =>
              rcases List.mem_cons.mp member with rfl | member
              · rfl
              · exact digit c (inner.all c member)
      have starts := run.all first List.mem_cons_self
      rw [List.cons_append] at equal all
      simp only [numeral?, equal, starts, Bool.true_or, Bool.true_and,
        List.all_eq_true.mpr all, if_true, List.cons_append]

theorem Grammar.unquote?_token (quoted : Literal.Quoted) :
    unquote? quoted.token = some quoted.content := by
  have opens : (quoted.quote = '"' || quoted.quote = '\'') = true := quoted.opens
  simp [unquote?, Literal.Quoted.token, opens]

end

namespace Literal

theorem role_number (digits : Number) :
    role .empty digits.text = .literal (.number digits.value) := by
  have read := digits.read?_text
  apply role_of_literal?
  · simp [literal?, Grammar.numeral?_of_shape digits.shape, read]
  · intro parenthesis
    rw [parenthesis] at read
    cases read

theorem role_boolean (flag : Bool) :
    role .empty (if flag then "true" else "false") = .literal (.boolean flag) := by
  cases flag <;> rfl

theorem role_quoted (quoted : Quoted) :
    role .empty quoted.token = .literal (.string quoted.content) := by
  have starts : quoted.token.toList = quoted.quote :: (quoted.content.toList ++ [quoted.quote]) :=
    String.toList_ofList
  have quotes : quoted.quote = '"' ∨ quoted.quote = '\'' := by simpa [isQuote] using quoted.opens
  have numeral : Grammar.numeral? quoted.token = none := by
    rcases quotes with quote | quote <;> simp [Grammar.numeral?, starts, quote]
  apply role_of_literal?
  · simp [literal?, numeral, Grammar.unquote?_token]
  · intro parenthesis
    rw [parenthesis] at starts
    rcases quotes with quote | quote <;> simp [quote] at starts

variable {frame : Frame} (empty : frame.registry = .empty)

section

include empty

/-- Without operators a unary factor is an expression wherever it stands. -/
theorem worth_of_unary {token : String} {formula : Formula} {start stop : Nat} {value : Value}
    (here : frame.tokens[start]? = some token)
    (derived : Derives frame.registry frame.tokens (.unary token formula) start stop)
    (valued : formula.evaluate frame.setting = .ok value) : frame.Worth start stop value := by
  have loose : Loose frame.registry frame.tokens 0 stop := by
    intro symbol _
    rw [empty]
    exact .inl rfl
  exact ⟨formula, .expression here derived (.loose loose), valued⟩

theorem refused_of_mem : ∀ mark ∈ ["]", "\x7d", ","], role frame.registry mark = .refused := by
  rw [empty]
  intro mark member
  simp only [List.mem_cons, List.not_mem_nil, or_false] at member
  rcases member with rfl | rfl | rfl <;> rfl

end

-- Elements and entries are read with a comma or the closing bracket behind them, so each of the two
-- statements about rows takes along the element or entry that is already read.
mutual

theorem worth (empty : frame.registry = .empty) : (literal : Literal) → {start stop : Nat} →
    Stands frame.tokens start literal.tokens stop → frame.Worth start stop literal.value
  | .number digits, start, stop, stands => by
      obtain ⟨here, rfl⟩ := stands
      exact worth_of_unary empty here (.literal (empty ▸ role_number digits)) rfl
  | .boolean flag, start, stop, stands => by
      obtain ⟨here, rfl⟩ := stands
      exact worth_of_unary empty here (.literal (empty ▸ role_boolean flag)) rfl
  | .string quoted, start, stop, stands => by
      obtain ⟨here, rfl⟩ := stands
      exact worth_of_unary empty here (.literal (empty ▸ role_quoted quoted)) rfl
  | .array [], start, stop, stands => by
      obtain ⟨here, closed, rfl⟩ := stands
      exact worth_of_unary empty here (.array (empty ▸ rfl) (.lastElement closed)) rfl
  | .array (item :: rest), start, stop, stands => by
      rw [tokens] at stands
      obtain ⟨here, stands⟩ := stands
      obtain ⟨middle, first, stands⟩ := Stands.append.mp stands
      obtain ⟨last, more, closed, rfl⟩ := Stands.append.mp stands
      obtain ⟨formula, derived, valued⟩ := worth empty item first
      obtain ⟨formulas, row, found⟩ := rowWorth empty rest derived valued more
      have elements := row.elements (refused_of_mem empty "]" (by decide)) closed []
      apply worth_of_unary empty here (.array (empty ▸ rfl) elements)
      rw [evaluate, List.nil_append, found]
      rfl
  | .object first others, start, stop, stands => by
      rw [tokens] at stands
      obtain ⟨here, stands⟩ := stands
      obtain ⟨middle, front, more⟩ := Stands.append.mp stands
      obtain ⟨formula, derived, written⟩ := entryWorth empty first front
      have done : evaluateEntries frame.setting [] ([] ++ [formula]) =
          .ok (Table.insert [] (entryValue first).1 (entryValue first).2) := by
        simp [evaluateEntries, written]
      obtain ⟨formulas, entries, found⟩ := entriesWorth empty others derived done more
      apply worth_of_unary empty here (.object (empty ▸ rfl) entries)
      rw [evaluate, found, value, ← Table.ofList_eq]
      rfl

theorem rowWorth (empty : frame.registry = .empty) : (rest : List Literal) →
    {start middle stop : Nat} → {item : Formula} → {value : Value} →
    Derives frame.registry frame.tokens (.expression 0 item) start middle →
    item.evaluate frame.setting = .ok value → Stands frame.tokens middle (moreTokens rest) stop →
    frame.RowWorth start stop (value :: values rest)
  | [], start, middle, stop, item, value, derived, valued, stands => by
      cases stands
      refine ⟨[item], .single derived, ?_⟩
      simp [evaluateAll, valued, values]
  | next :: rest, start, middle, stop, item, value, derived, valued, stands => by
      obtain ⟨comma, stands⟩ := stands
      obtain ⟨last, first, more⟩ := Stands.append.mp stands
      obtain ⟨formula, nextDerived, nextValued⟩ := worth empty next first
      obtain ⟨formulas, row, found⟩ := rowWorth empty rest nextDerived nextValued more
      refine ⟨item :: formulas, .cons derived comma row, ?_⟩
      simp [evaluateAll, valued, found, values]

theorem entryWorth (empty : frame.registry = .empty) : (entry : Entry) → {start stop : Nat} →
    Stands frame.tokens start (entryTokens entry) stop →
    ∃ formula, Derives frame.registry frame.tokens (.entry formula) start stop ∧
      ∀ done, evaluateEntry frame.setting done formula =
        .ok (Table.insert done (entryValue entry).1 (entryValue entry).2)
  | .mk key inner, start, stop, stands => by
      obtain ⟨here, colon, stands⟩ := stands
      obtain ⟨formula, derived, valued⟩ := worth empty inner stands
      have follows := derived.follows (refused_of_mem empty "\x7d" (by decide))
        (refused_of_mem empty "," (by decide))
      have plain := Grammar.spreadOperand?_of_no_point (name_ne key.named (by decide))
      refine ⟨.keyed key.name formula, ?_, ?_⟩
      · exact .keyed here plain (isIdentifier_of_name key.named) colon follows derived
      · intro done
        simp [evaluateEntry, valued, entryValue]

theorem entriesWorth (empty : frame.registry = .empty) : (rest : List Entry) →
    {start middle stop : Nat} → {done : List Formula.Entry} → {entry : Formula.Entry} →
    {table : Table Value} →
    Derives frame.registry frame.tokens (.entry entry) start middle →
    evaluateEntries frame.setting [] (done ++ [entry]) = .ok table →
    Stands frame.tokens middle (moreEntryTokens rest ++ ["\x7d"]) stop →
    ∃ entries, Derives frame.registry frame.tokens (.entries done (.object entries)) start stop ∧
      evaluateEntries frame.setting [] entries = .ok (Table.insertAll table (entryValues rest))
  | [], start, middle, stop, done, entry, table, derived, written, stands => by
      obtain ⟨closed, rfl⟩ := stands
      exact ⟨done ++ [entry], .lastEntry derived closed, written⟩
  | next :: rest, start, middle, stop, done, entry, table, derived, written, stands => by
      rw [moreEntryTokens, List.cons_append, List.append_assoc] at stands
      obtain ⟨comma, stands⟩ := stands
      obtain ⟨last, front, more⟩ := Stands.append.mp stands
      obtain ⟨formula, nextDerived, nextWritten⟩ := entryWorth empty next front
      have wider : evaluateEntries frame.setting [] ((done ++ [entry]) ++ [formula]) =
          .ok (Table.insert table (entryValue next).1 (entryValue next).2) := by
        rw [evaluateEntries_concat, written]
        exact nextWritten table
      obtain ⟨formulas, entries, found⟩ := entriesWorth empty rest nextDerived wider more
      exact ⟨formulas, .moreEntries derived comma entries, found⟩

end

/-- Evaluation gives back what a literal denotes, whatever blanks are between its tokens, when
nothing is registered: numbers are the doubles nearest to their digits, strings are what stands
between their quotes, and objects have their keys in the order in which they occur first, with the
last value of each. -/
theorem evaluateIn_of_written (literal : Literal) {text : String}
    (written : Written literal.tokens text.toList) (defaults : Table Value) (levels : Nat)
    (site : List Nat) (bindings : Table Value) :
    (Engine.core.setVariables defaults).evaluateIn (levels + 1) site text bindings =
      .ok literal.value := by
  have lexed : (Engine.core.setVariables defaults).tokens text = literal.tokens :=
    written.tokenTexts literal.separable
  rw [Engine.evaluateIn_succ, lexed]
  obtain ⟨formula, derived, valued⟩ := @worth ((Engine.core.setVariables defaults).frame levels site
    literal.tokens.toArray bindings) rfl literal 0 _ (Stands.toArray literal.tokens)
  exact (Frame.outcome_of_derives rfl derived).trans valued

/-- Strings keep brackets, commas and the other quote, blanks may be missing, and of two entries
with one key the last one counts. -/
theorem evaluateIn_of_written_nested :
    let number : Number :=
      ⟨"1.5", @Shape.numeral ['1'] ['.', '5'] (.single rfl) (.point (.single rfl))⟩
    let literal : Literal := .array [.number number, .object
      (.mk ⟨"a", rfl⟩ (.string ⟨"it's [", '"', rfl, by decide⟩))
      [.mk ⟨"b", rfl⟩ (.array []), .mk ⟨"a", rfl⟩ (.boolean true)]]
    let text := "[1.5 ,\n\x7ba:\"it's [\",b : [ ], a:true\x7d ]"
    Written literal.tokens text.toList ∧
      (Engine.core.setVariables []).evaluateIn 1 [] text [] =
        .ok (.array [.number (Decimal.toFloat false ⟨15, -1⟩),
          .object [("a", .boolean true), ("b", .array [])]]) := by
  intro number literal text
  have written : Written literal.tokens text.toList := .of_writes (by decide +kernel)
  have value : literal.value = .array [.number number.value,
      .object [("a", .boolean true), ("b", .array [])]] := rfl
  have read : Numeral.read? "1.5".toList = some (Decimal.toFloat false ⟨15, -1⟩) :=
    @Numeral.read?_of_fraction ['1'] (.single rfl) ['5'] (.single rfl)
  have nearest := Option.some.inj (number.read?_text.symm.trans read)
  rw [nearest] at value
  exact ⟨written, value ▸ evaluateIn_of_written literal written [] 0 [] []⟩

end Literal

end Reckon
