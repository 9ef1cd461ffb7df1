import Mathlib.Data.List.Forall2
import Reckon.Proofs.Formula.Brackets
import Reckon.Proofs.Formula.Row
import Reckon.Proofs.Lexicon.Places
import Reckon.Proofs.Standard.Tokens

/-!
Texts that have values can be put together to larger texts, and their values are put together in the
same way.
-/

namespace Reckon

open Formula

section

variable {engine : Engine} (levels : Nat) (site : List Nat) (bindings : Table Value)

def Engine.frameOf (engine : Engine) (levels : Nat) (site : List Nat) (bindings : Table Value)
    (tokens : List String) : Frame :=
  engine.frame levels site tokens.toArray bindings

theorem token_at {tokens front back : List String} {token : String} {position : Nat}
    (split : tokens = front ++ token :: back) (place : front.length = position) :
    tokens.toArray[position]? = some token := by
  subst split place
  simp

/-- Tokens among others recur there, if what follows them carries nothing on. -/
theorem recurs_among {registry : Registry} {whole front part back : List String}
    (split : whole = front ++ (part ++ back))
    (closes : ∀ closer, back.head? = some closer →
      registry.operator? closer = none ∧ closer ≠ "(") :
    Recurs registry part.toArray whole.toArray front.length 0 part.length := by
  subst split
  refine ⟨?_, ?_⟩
  · intro position _ inside
    simp [List.getElem?_append_right, List.getElem?_append_left inside]
  · refine .inr ⟨by simp, fun closer found => closes closer ?_⟩
    simpa [List.getElem?_append_right, List.head?_eq_getElem?] using found

variable {levels site bindings} (independent : engine.registry.EvaluatesOnly)

include independent

theorem moves_among (offset : Nat) (part whole : List String) :
    Setting.Moves offset (engine.frameOf levels site bindings part).setting
      (engine.frameOf levels site bindings whole).setting where
  bindings := rfl
  registry := rfl
  invoke := by
    intro name callee registered stop arguments
    exact Engine.call_congr independent registered levels site site _ _ bindings _ _ arguments

/-- Tokens that are an expression are one among other tokens, and it has the same value there. -/
theorem worth_among {whole front part back : List String} {value : Value} {start stop : Nat}
    (worth : (engine.frameOf levels site bindings part).Worth 0 part.length value)
    (split : whole = front ++ (part ++ back)) (begins : front.length = start)
    (ends : start + part.length = stop)
    (closes : ∀ closer, back.head? = some closer →
      engine.registry.operator? closer = none ∧ closer ≠ "(") :
    (engine.frameOf levels site bindings whole).Worth start stop value := by
  subst begins ends
  obtain ⟨formula, derived, valued⟩ := worth
  refine ⟨formula.shift front.length, ?_, ?_⟩
  · exact derived.shift (recurs_among split closes)
  · rw [← valued]
    exact evaluate_shift (moves_among independent front.length part whole) formula

/-- The tokens of several expressions with commas between them are a row of these expressions. -/
theorem rowWorth_among {whole front back : List String} {parts : List (List String)}
    {values : List Value} {start stop : Nat} (nonempty : parts ≠ [])
    (worths : List.Forall₂
      (fun part value => (engine.frameOf levels site bindings part).Worth 0 part.length value)
      parts values)
    (split : whole = front ++ ([","].intercalate parts ++ back)) (begins : front.length = start)
    (ends : start + ([","].intercalate parts).length = stop)
    (comma : engine.registry.operator? "," = none)
    (closes : ∀ closer, back.head? = some closer →
      engine.registry.operator? closer = none ∧ closer ≠ "(") :
    (engine.frameOf levels site bindings whole).RowWorth start stop values := by
  induction worths generalizing front start with
  | nil => exact absurd rfl nonempty
  | @cons part value parts values worth rest ih =>
      cases rest with
      | nil =>
          rw [List.intercalate_singleton] at split ends
          obtain ⟨formula, derived, valued⟩ :=
            worth_among independent worth split begins ends closes
          exact ⟨[formula], .single derived, by simp [evaluateAll, valued]⟩
      | @cons next nextValue parts values nextWorth rest =>
          generalize others : [","].intercalate (next :: parts) = tail at ih
          have joined : [","].intercalate (part :: next :: parts) = part ++ "," :: tail := by
            rw [List.intercalate_cons_cons, others]
            simp
          rw [joined] at split ends
          have first : whole = front ++ (part ++ "," :: (tail ++ back)) := by simp [split]
          have middle : whole = (front ++ part) ++ "," :: (tail ++ back) := by simp [split]
          have last : whole = (front ++ part ++ [","]) ++ (tail ++ back) := by simp [split]
          obtain ⟨formula, derived, valued⟩ := worth_among independent worth first begins rfl (by
            intro closer found
            cases found
            exact ⟨comma, by decide⟩)
          obtain ⟨formulas, row, valuedAll⟩ := @ih (front ++ part ++ [","])
            (start + part.length + 1) (by simp) last (by simp [begins, Nat.add_assoc])
            (by simp only [List.length_append, List.length_cons] at ends; omega)
          refine ⟨formula :: formulas, .cons derived (token_at middle (by simp [begins])) row, ?_⟩
          simp [evaluateAll, valued, valuedAll]

end

section

open Lexeme

variable {clock : Calendar.Moment} {defaults : Table Value} {levels : Nat} {site : List Nat}
  {bindings : Table Value}

/-- A text has a value, and each quote in it is part of a string token. -/
structure Engine.Yields (engine : Engine) (levels : Nat) (site : List Nat) (bindings : Table Value)
    (text : String) (value : Value) : Prop where
  quoted : engine.lexicon.QuotesQuoted text
  valued : engine.evaluateIn (levels + 1) site text bindings = .ok value

theorem Engine.evaluateIn_of_tokens {text : String} {expected : List String}
    (equal : tokenTexts text.toList = expected) :
    (Engine.standardWith clock defaults none).evaluateIn (levels + 1) site text bindings =
      ((Engine.standardWith clock defaults none).frameOf levels site bindings
        expected).outcome := by
  rw [← equal]
  rfl

namespace Engine.Yields

variable {text : String} {value : Value}
  (yields : (Engine.standardWith clock defaults none).Yields levels site bindings text value)

include yields

theorem tidy : Tidy none text.toList :=
  Lexicon.QuotesQuoted.tidy yields.quoted

theorem worth :
    ((Engine.standardWith clock defaults none).frameOf levels site bindings
      (tokenTexts text.toList)).Worth 0 (tokenTexts text.toList).length value := by
  have valued := yields.valued
  rw [Engine.evaluateIn_of_tokens rfl] at valued
  exact Frame.worth_of_outcome rfl valued

theorem shuts : Lexeme.Shuts (tokenTexts text.toList) := by
  obtain ⟨formula, derived, -⟩ := yields.worth
  have shut : Shut (tokenTexts text.toList).toArray 0 (tokenTexts text.toList).length :=
    derived.shuts rfl rfl
  intro front back equal
  obtain ⟨closing, behind, inside, closed⟩ := shut front.length (Nat.zero_le _) (by simp [equal])
    (token_at equal rfl)
  rw [equal] at closed
  obtain ⟨more, rfl⟩ := Nat.exists_eq_add_of_lt behind
  have there : back[more]? = some "]" := by
    rw [List.getElem?_toArray, Nat.add_assoc, List.getElem?_append_right (Nat.le_add_right ..),
      Nat.add_sub_cancel_left, List.getElem?_cons_succ] at closed
    exact closed
  exact List.mem_of_getElem? there

/-- A text before a closing token, and that token. -/
theorem closed {c : Char} (seam : Seam c) (special : isSpecial c = true)
    (alone : ∀ rest, comparisonLength (c :: rest) = 0) (rest : List Char) :
    tokenTexts (text.toList ++ c :: rest) =
      tokenTexts text.toList ++ String.ofList [c] :: tokenTexts rest :=
  tokenTexts_closed yields.tidy seam special (alone rest) fun _ => yields.shuts

end Engine.Yields

namespace Standard

theorem closes_of_mem {closer : String} {rest : List String}
    (member : closer ∈ [")", "]", "\x7d", ","]) :
    ∀ first, (closer :: rest).head? = some first →
      (registry clock).operator? first = none ∧ first ≠ "(" := by
  intro first found
  cases found
  refine ⟨(role_closing clock closer member).2, ?_⟩
  rintro rfl
  exact absurd member (by decide)

variable {text : String} {value : Value}

section

variable (yields :
  (Engine.standardWith clock defaults none).Yields levels site bindings text value)

include yields

theorem tokenTexts_parenthesized (rest : List Char) :
    tokenTexts ('(' :: (text.toList ++ ')' :: rest)) =
      "(" :: (tokenTexts text.toList ++ ")" :: tokenTexts rest) := by
  rw [tokenTexts_special (by decide) (comparisonLength_of_ne (by decide)),
    yields.closed Seam.parenthesis (by decide) (fun _ => comparisonLength_of_ne (by decide))]

/-- An expression in parentheses is a factor wherever it stands, and it has its value there. -/
theorem parenthesized_among {whole : List String} (front rest : List String) (start stop : Nat)
    (split : whole = front ++ "(" :: (tokenTexts text.toList ++ ")" :: rest))
    (begins : front.length = start) (ends : start + (tokenTexts text.toList).length + 2 = stop) :
    ∃ formula, Derives (registry clock) whole.toArray (.unary "(" formula) start stop ∧
      formula.evaluate ((Engine.standardWith clock defaults none).frameOf levels site bindings
        whole).setting = .ok value := by
  subst begins ends
  have inside : whole = (front ++ ["("]) ++ (tokenTexts text.toList ++ ")" :: rest) := by
    simp [split]
  have behind : whole = (front ++ "(" :: tokenTexts text.toList) ++ ")" :: rest := by
    simp [split]
  have place : (front ++ ["("]).length = front.length + 1 := by simp
  have inner := worth_among (evaluatesOnly clock) yields.worth inside place rfl
    (closes_of_mem (by decide))
  obtain ⟨formula, derived, valued⟩ := inner.parenthesized (role_opening clock).1
    (token_at behind (by simp; omega))
  refine ⟨formula, ?_, valued⟩
  have stop : front.length + (tokenTexts text.toList).length + 2 =
      front.length + 1 + (tokenTexts text.toList).length + 1 := by omega
  exact stop ▸ derived

end

theorem outcome_of_factor {token : String} {rest : List String} {formula : Formula}
    (derived : Derives (registry clock) (token :: rest).toArray (.unary token formula) 0
      (token :: rest).length) :
    ((Engine.standardWith clock defaults none).frameOf levels site bindings
        (token :: rest)).outcome =
      formula.evaluate ((Engine.standardWith clock defaults none).frameOf levels site bindings
        (token :: rest)).setting := by
  refine Frame.outcome_of_derives rfl (.alone ?_ derived ?_)
  · rfl
  · simp [Engine.frameOf, Engine.frame]

theorem parenthesized
    (yields : (Engine.standardWith clock defaults none).Yields levels site bindings text value) :
    (Engine.standardWith clock defaults none).evaluateIn (levels + 1) site ("(" ++ text ++ ")")
      bindings = .ok value := by
  have chars : ("(" ++ text ++ ")").toList = '(' :: (text.toList ++ [')']) := by simp
  rw [Engine.evaluateIn_of_tokens (chars ▸ tokenTexts_parenthesized yields [])]
  obtain ⟨formula, derived, valued⟩ := parenthesized_among yields [] [] 0
    ("(" :: (tokenTexts text.toList ++ [")"])).length rfl rfl (by simp)
  exact (outcome_of_factor derived).trans valued

theorem unary_parenthesized {symbol : String} {meaning : Value → Value}
    (member : (symbol, meaning) ∈ unaryOperators)
    (yields : (Engine.standardWith clock defaults none).Yields levels site bindings text value) :
    (Engine.standardWith clock defaults none).evaluateIn (levels + 1) site
      (symbol ++ "(" ++ text ++ ")") bindings = .ok (meaning value) := by
  have chars : (symbol ++ "(" ++ text ++ ")").toList =
      symbol.toList ++ '(' :: (text.toList ++ [')']) := by simp
  have first : ∀ rest, tokenTexts (symbol.toList ++ '(' :: rest) =
      symbol :: tokenTexts ('(' :: rest) := by
    intro rest
    simp only [unaryOperators, List.mem_cons, Prod.mk.injEq, List.not_mem_nil, or_false] at member
    rcases member with ⟨rfl, -⟩ | ⟨rfl, -⟩ <;> exact tokenTexts_special (by decide) rfl
  have kind : role (registry clock) symbol = .unaryOperator ∧
      (registry clock).unaryOperator? symbol = some fun operand => .ok (meaning operand) := by
    simp only [unaryOperators, List.mem_cons, Prod.mk.injEq, List.not_mem_nil, or_false] at member
    rcases member with ⟨rfl, rfl⟩ | ⟨rfl, rfl⟩ <;> exact ⟨rfl, rfl⟩
  have tokens := (first _).trans (congrArg _ (tokenTexts_parenthesized yields []))
  rw [Engine.evaluateIn_of_tokens (chars ▸ tokens)]
  obtain ⟨formula, derived, valued⟩ := parenthesized_among yields [symbol] [] 1
    (symbol :: "(" :: (tokenTexts text.toList ++ [")"])).length rfl rfl (by simp; omega)
  refine (outcome_of_factor (.unaryOperator kind.1 rfl derived)).trans ?_
  exact evaluate_unary kind.2 valued

theorem binary_parenthesized {symbol : String} {meaning : Precedence × (Value → Value → Value)}
    (member : (symbol, meaning) ∈ binaryOperators) {left right : String}
    {leftValue rightValue : Value}
    (leftYields : (Engine.standardWith clock defaults none).Yields levels site bindings left
      leftValue)
    (rightYields : (Engine.standardWith clock defaults none).Yields levels site bindings right
      rightValue) :
    (Engine.standardWith clock defaults none).evaluateIn (levels + 1) site
      ("(" ++ left ++ ") " ++ symbol ++ " (" ++ right ++ ")") bindings =
        .ok (meaning.2 leftValue rightValue) := by
  have chars : ("(" ++ left ++ ") " ++ symbol ++ " (" ++ right ++ ")").toList =
      '(' :: (left.toList ++ ')' :: ' ' :: (symbol.toList ++ ' ' ::
        '(' :: (right.toList ++ [')']))) := by simp
  have tokens : tokenTexts ("(" ++ left ++ ") " ++ symbol ++ " (" ++ right ++ ")").toList =
      "(" :: (tokenTexts left.toList ++ ")" :: symbol :: "(" ::
        (tokenTexts right.toList ++ [")"])) := by
    rw [chars, tokenTexts_parenthesized leftYields, tokenTexts_space,
      tokenTexts_operator member, tokenTexts_parenthesized rightYields]
    rfl
  have registered : (registry clock).operator? symbol =
        some (fun left right => .ok (meaning.2 left right)) ∧
      ¬(registry clock).precedence symbol < 0 := by
    refine ⟨?_, by simp⟩
    simp only [binaryOperators, List.mem_cons, Prod.mk.injEq, List.not_mem_nil, or_false] at member
    rcases member with ⟨rfl, rfl⟩ | ⟨rfl, rfl⟩ | ⟨rfl, rfl⟩ | ⟨rfl, rfl⟩ | ⟨rfl, rfl⟩ | ⟨rfl, rfl⟩ |
      ⟨rfl, rfl⟩ | ⟨rfl, rfl⟩ | ⟨rfl, rfl⟩ | ⟨rfl, rfl⟩ | ⟨rfl, rfl⟩ | ⟨rfl, rfl⟩ | ⟨rfl, rfl⟩ |
      ⟨rfl, rfl⟩ <;> rfl
  rw [Engine.evaluateIn_of_tokens tokens]
  generalize equal : "(" :: (tokenTexts left.toList ++ ")" :: symbol :: "(" ::
    (tokenTexts right.toList ++ [")"])) = whole
  have middle : whole = "(" :: (tokenTexts left.toList ++ [")"]) ++ symbol :: "(" ::
      (tokenTexts right.toList ++ [")"]) := by simp [← equal]
  have behind : whole = "(" :: (tokenTexts left.toList ++ [")", symbol]) ++ "(" ::
      (tokenTexts right.toList ++ [")"]) := by simp [← equal]
  obtain ⟨first, firstDerived, firstValued⟩ := parenthesized_among leftYields [] _ 0
    ((tokenTexts left.toList).length + 2) equal.symm rfl (by omega)
  obtain ⟨second, secondDerived, secondValued⟩ := parenthesized_among rightYields _ []
    ((tokenTexts left.toList).length + 3) whole.length behind (by simp) (by simp [← equal]; omega)
  have ends : whole.toArray[whole.length]? = none := by simp
  have derived : Derives (registry clock) whole.toArray
      (.expression 0 (.binary symbol first second)) 0 whole.length := by
    refine .expression (by rw [← equal]; rfl) firstDerived ?_
    refine .tight (token_at middle (by simp)) (by simp [registered.1]) registered.2
      (.alone (token_at behind (by simp)) secondDerived ends) (.loose ?_)
    intro other found
    rw [ends] at found
    cases found
  refine (Frame.outcome_of_derives rfl derived).trans ?_
  exact evaluate_operator registered.1 firstValued secondValued

section

variable {items : List String} {values : List Value}
  (yields : List.Forall₂
    ((Engine.standardWith clock defaults none).Yields levels site bindings) items values)

include yields

/-- The tokens of texts with commas between them, up to a closing token. -/
theorem tokenTexts_intercalate {c : Char} (seam : Seam c) (special : isSpecial c = true)
    (alone : ∀ rest, comparisonLength (c :: rest) = 0) (rest : List Char) :
    tokenTexts ([',', ' '].intercalate (items.map String.toList) ++ c :: rest) =
      [","].intercalate (items.map fun item => tokenTexts item.toList) ++
        String.ofList [c] :: tokenTexts rest := by
  induction yields with
  | nil => exact tokenTexts_special special (alone rest)
  | @cons item value items values first others ih =>
      cases items with
      | nil => simpa using first.closed seam special alone rest
      | cons next items =>
          have more := ih
          simp only [List.map_cons, List.intercalate_cons_cons] at more ⊢
          have chars : item.toList ++ [',', ' '] ++
              [',', ' '].intercalate (next.toList :: items.map String.toList) ++ c :: rest =
              item.toList ++ ',' :: ' ' ::
                ([',', ' '].intercalate (next.toList :: items.map String.toList) ++ c :: rest) := by
            simp
          rw [chars,
            first.closed Seam.comma (by decide) (fun _ => comparisonLength_of_ne (by decide)),
            tokenTexts_space, more]
          simp

/-- Texts with commas between them are a row of expressions wherever they stand. -/
theorem rowWorth_of_yields {whole : List String} (front rest : List String) (closer : String)
    (nonempty : items ≠ []) (member : closer ∈ [")", "]", "\x7d", ","]) (start stop : Nat)
    (split : whole = front ++
      ([","].intercalate (items.map fun item => tokenTexts item.toList) ++ closer :: rest))
    (begins : front.length = start)
    (ends :
      start + ([","].intercalate (items.map fun item => tokenTexts item.toList)).length = stop) :
    ((Engine.standardWith clock defaults none).frameOf levels site bindings whole).RowWorth start
      stop values := by
  refine rowWorth_among (evaluatesOnly clock) (by simpa using nonempty) ?_ split begins ends
    (role_closing clock "," (by decide)).2 (closes_of_mem member)
  rw [List.forall₂_map_left_iff]
  exact yields.imp fun _ _ valued => valued.worth

theorem array_of_items :
    (Engine.standardWith clock defaults none).evaluateIn (levels + 1) site
      ("[" ++ ", ".intercalate items ++ "]") bindings = .ok (.array values) := by
  have chars : ("[" ++ ", ".intercalate items ++ "]").toList =
      '[' :: ([',', ' '].intercalate (items.map String.toList) ++ [']']) := by simp
  generalize joined : [","].intercalate (items.map fun item => tokenTexts item.toList) = inside
  have tokens : tokenTexts ("[" ++ ", ".intercalate items ++ "]").toList =
      "[" :: (inside ++ ["]"]) := by
    rw [chars, tokenTexts_special (by decide) (comparisonLength_of_ne (by decide)),
      tokenTexts_intercalate yields Seam.closing (by decide)
        (fun _ => comparisonLength_of_ne (by decide)), joined]
    rfl
  rw [Engine.evaluateIn_of_tokens tokens]
  have closed : ("[" :: (inside ++ ["]"])).toArray[inside.length + 1]? = some "]" := by simp
  have size : ("[" :: (inside ++ ["]"])).length = inside.length + 2 := by simp
  have elements : ∃ formulas, Derives (registry clock) ("[" :: (inside ++ ["]"])).toArray
      (.elements [] (.array formulas)) 1 (inside.length + 2) ∧
      evaluateAll ((Engine.standardWith clock defaults none).frameOf levels site bindings
        ("[" :: (inside ++ ["]"]))).setting formulas = .ok values := by
    by_cases empty : items = []
    · subst empty
      cases yields
      subst joined
      exact ⟨[], .lastElement rfl, rfl⟩
    · obtain ⟨formulas, row, valued⟩ := rowWorth_of_yields yields ["["] [] "]" empty (by decide) 1
        (inside.length + 1) (by rw [joined]) rfl (by rw [joined]; omega)
      exact ⟨formulas, row.elements (role_closing clock "]" (by decide)).1 closed [], valued⟩
  obtain ⟨formulas, derived, valued⟩ := elements
  refine (outcome_of_factor (.array (role_opening clock).2.1 (size ▸ derived))).trans ?_
  rw [evaluate, valued]
  rfl

/-- A call of a function with expressions gives the result of the function for their values. -/
theorem call_of_items {name : String} {callee : Callable}
    (found : (registry clock).function? name = some callee) :
    let engine := Engine.standardWith clock defaults none
    let text := name ++ "(" ++ ", ".intercalate items ++ ")"
    engine.evaluateIn (levels + 1) site text bindings =
      callee (engine.call levels site (engine.tokens text).toArray bindings
        (engine.tokens text).length) values := by
  intro engine text
  have chars : text.toList =
      name.toList ++ '(' :: ([',', ' '].intercalate (items.map String.toList) ++ [')']) := by
    simp [text]
  generalize joined : [","].intercalate (items.map fun item => tokenTexts item.toList) = inside
  have tokens : tokenTexts text.toList = name :: "(" :: (inside ++ [")"]) := by
    rw [chars, tokenTexts_name (isName_of_function found).1 Seam.opening,
      tokenTexts_special (by decide) (comparisonLength_of_ne (by decide)),
      tokenTexts_intercalate yields Seam.parenthesis (by decide)
        (fun _ => comparisonLength_of_ne (by decide)), joined]
    rfl
  rw [Engine.evaluateIn_of_tokens tokens, show engine.tokens text = _ from tokens]
  have closed : (name :: "(" :: (inside ++ [")"])).toArray[inside.length + 2]? = some ")" := by
    simp
  have size : (name :: "(" :: (inside ++ [")"])).length = inside.length + 3 := by simp
  have arguments : ∃ formulas, Derives (registry clock) (name :: "(" :: (inside ++ [")"])).toArray
      (.arguments name [] (.call name formulas (inside.length + 3))) 2 (inside.length + 3) ∧
      evaluateAll (engine.frameOf levels site bindings
        (name :: "(" :: (inside ++ [")"]))).setting formulas = .ok values := by
    by_cases empty : items = []
    · subst empty
      cases yields
      subst joined
      exact ⟨[], .lastArgument rfl, rfl⟩
    · obtain ⟨formulas, row, valued⟩ := rowWorth_of_yields yields [name, "("] [] ")" empty
        (by decide) 2 (inside.length + 2) (by rw [joined]) rfl (by rw [joined]; omega)
      exact ⟨formulas, row.arguments (role_closing clock ")" (by decide)).1 closed name [], valued⟩
  obtain ⟨formulas, derived, valued⟩ := arguments
  refine (outcome_of_factor (.call (role_of_function found) rfl (size ▸ derived))).trans ?_
  rw [evaluate_call found valued, size]
  rfl

end

/-- An object with one key has the value of its expression under that key. -/
theorem object_of_entry {key : String} (named : isName key.toList = true)
    (yields : (Engine.standardWith clock defaults none).Yields levels site bindings text value) :
    (Engine.standardWith clock defaults none).evaluateIn (levels + 1) site
      ("\x7b " ++ key ++ ": " ++ text ++ " \x7d") bindings = .ok (.object [(key, value)]) := by
  have chars : ("\x7b " ++ key ++ ": " ++ text ++ " \x7d").toList =
      '\x7b' :: ' ' :: (key.toList ++ ':' :: ' ' :: (text.toList ++ ' ' :: ['\x7d'])) := by simp
  have tokens : tokenTexts ("\x7b " ++ key ++ ": " ++ text ++ " \x7d").toList =
      "\x7b" :: key :: ":" :: (tokenTexts text.toList ++ ["\x7d"]) := by
    rw [chars, tokenTexts_special (by decide) (comparisonLength_of_ne (by decide)),
      tokenTexts_space, tokenTexts_name named Seam.colon,
      tokenTexts_special (by decide) (comparisonLength_of_ne (by decide)), tokenTexts_space,
      tokenTexts_append yields.tidy Seam.space (by simp), tokenTexts_space,
      tokenTexts_special (by decide) (comparisonLength_of_ne (by decide))]
    rfl
  rw [Engine.evaluateIn_of_tokens tokens]
  generalize equal : "\x7b" :: key :: ":" :: (tokenTexts text.toList ++ ["\x7d"]) = whole
  have inside : whole = ["\x7b", key, ":"] ++ (tokenTexts text.toList ++ ["\x7d"]) := equal.symm
  have closed : whole.toArray[(tokenTexts text.toList).length + 3]? = some "\x7d" := by
    simp [← equal]
  have size : whole.length = (tokenTexts text.toList).length + 3 + 1 := by simp [← equal]
  have second : whole.toArray[1]? = some key ∧ whole.toArray[2]? = some ":" := by simp [← equal]
  obtain ⟨formula, derived, valued⟩ := worth_among (evaluatesOnly clock) yields.worth inside rfl
    (Nat.add_comm ..) (closes_of_mem (by decide))
  have follows : Follows whole.toArray 3 :=
    derived.follows (role_closing clock "\x7d" (by decide)).1 (role_closing clock "," (by decide)).1
  have point : '.' ∉ key.toList := name_ne named (by decide)
  have entry : Derives (registry clock) whole.toArray (.entry (.keyed key formula)) 1
      ((tokenTexts text.toList).length + 3) :=
    .keyed second.1 (Grammar.spreadOperand?_of_no_point point) (isIdentifier_of_name named) second.2
      follows derived
  have factor : Derives (registry clock) whole.toArray
      (.unary "\x7b" (.object ([] ++ [.keyed key formula]))) 0 whole.length :=
    .object (role_opening clock).2.2 (size ▸ .lastEntry entry closed)
  subst equal
  refine (outcome_of_factor factor).trans ?_
  simp only [evaluate, List.nil_append, evaluateEntries, evaluateEntry, valued]
  rfl

/-- Values are composed as texts are: whatever texts have values, and no quote outside a string, can
be put in parentheses, under an operator, into an array, a call or an object. -/
theorem composition (clock : Calendar.Moment) (defaults : Table Value) (levels : Nat)
    (site : List Nat) (bindings : Table Value) :
    let engine := Engine.standardWith clock defaults none
    let outcome := fun text => engine.evaluateIn (levels + 1) site text bindings
    let Yields := engine.Yields levels site bindings
    (∀ text value, Yields text value → outcome ("(" ++ text ++ ")") = .ok value) ∧
      (∀ symbol meaning, (symbol, meaning) ∈ unaryOperators → ∀ text value, Yields text value →
        outcome (symbol ++ "(" ++ text ++ ")") = .ok (meaning value)) ∧
      (∀ symbol precedence meaning, (symbol, precedence, meaning) ∈ binaryOperators →
        ∀ left right leftValue rightValue, Yields left leftValue → Yields right rightValue →
        outcome ("(" ++ left ++ ") " ++ symbol ++ " (" ++ right ++ ")") =
          .ok (meaning leftValue rightValue)) ∧
      (∀ items values, List.Forall₂ Yields items values →
        outcome ("[" ++ ", ".intercalate items ++ "]") = .ok (.array values)) ∧
      (∀ name callee, engine.registry.function? name = some callee →
        ∀ items values, List.Forall₂ Yields items values →
        let text := name ++ "(" ++ ", ".intercalate items ++ ")"
        outcome text = callee (engine.call levels site (engine.tokens text).toArray bindings
          (engine.tokens text).length) values) ∧
      (∀ key, isName key.toList = true → ∀ text value, Yields text value →
        outcome ("\x7b " ++ key ++ ": " ++ text ++ " \x7d") = .ok (.object [(key, value)])) := by
  intro engine outcome Yields
  refine ⟨?_, ?_, ?_, ?_, ?_, ?_⟩
  · intro text value yields
    exact parenthesized yields
  · intro symbol meaning member text value yields
    exact unary_parenthesized member yields
  · intro symbol precedence meaning member left right leftValue rightValue leftYields rightYields
    exact binary_parenthesized member leftYields rightYields
  · intro items values yields
    exact array_of_items yields
  · intro name callee found items values yields
    exact call_of_items yields found
  · intro key named text value yields
    exact object_of_entry named yields

/-- With `true` and `false`: an operator between them, and both in an array. -/
theorem composition_booleans :
    let engine := Engine.standardWith ⟨0, 0, 0⟩ [] none
    engine.Yields 0 [] [] "true" (.boolean true) ∧
      engine.evaluateIn 1 [] "(true) and (false)" [] = .ok (.boolean false) ∧
      engine.evaluateIn 1 [] "[true, false]" [] = .ok (.array [.boolean true, .boolean false]) := by
  intro engine
  have yields : ∀ text value, text.toList.any isQuote = false → tokenTexts text.toList = [text] →
      role (registry ⟨0, 0, 0⟩) text = .literal value → engine.Yields 0 [] [] text value := by
    intro text value plain token literal
    refine ⟨?_, ?_⟩
    · intro index c here quote
      have unquoted := List.any_eq_false.mp plain c (List.mem_of_getElem? here)
      exact absurd quote unquoted
    · rw [Engine.evaluateIn_of_tokens token]
      have derived : Derives (registry ⟨0, 0, 0⟩) [text].toArray (.unary text (.literal value)) 0
          [text].length := .literal literal
      exact outcome_of_factor derived
  have yes := yields "true" (.boolean true) rfl rfl rfl
  have no := yields "false" (.boolean false) rfl rfl rfl
  obtain ⟨-, -, binary, array, -, -⟩ := composition ⟨0, 0, 0⟩ [] 0 [] []
  refine ⟨yes, ?_, ?_⟩
  · exact binary "and" 2 conjunction (by simp [binaryOperators]) "true" "false" _ _ yes no
  · exact array ["true", "false"] _ (.cons yes (.cons no .nil))

end Standard

end

end Reckon
