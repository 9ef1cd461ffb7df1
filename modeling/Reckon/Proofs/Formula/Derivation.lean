import Reckon.Proofs.Formula.Reader
import Reckon.Proofs.Grammar.Parse

/-!
The grammar as a relation between tokens and trees.  The reader finds a tree exactly where the
grammar derives one.
-/

namespace Reckon.Formula

/-- What the grammar derives: a tree, or the rest of one after what was read before. -/
inductive Phrase
  | expression (floor : Precedence) (whole : Formula)
  | tail (left : Formula) (floor : Precedence) (whole : Formula)
  | unary (token : String) (whole : Formula)
  | elements (done : List Formula) (whole : Formula)
  | entries (done : List Entry) (whole : Formula)
  | entry (entry : Entry)
  | arguments (function : String) (done : List Formula) (whole : Formula)

variable (registry : Registry) (tokens : Array String)

/-- Whether no operator of at least the given precedence stands at a position. -/
def Loose (floor : Precedence) (position : Nat) : Prop :=
  ∀ symbol, tokens[position]? = some symbol →
    registry.operator? symbol = none ∨ registry.precedence symbol < floor

def Follows (position : Nat) : Prop :=
  ∃ first, tokens[position]? = some first ∧ first ≠ "\x7d" ∧ first ≠ ","

/-- The grammar: a phrase between two positions. -/
inductive Derives : Phrase → (start stop : Nat) → Prop
  | expression {floor : Precedence} {token : String} {left whole : Formula}
      {start middle stop : Nat} (here : tokens[start]? = some token)
      (first : Derives (.unary token left) start middle)
      (rest : Derives (.tail left floor whole) middle stop) :
      Derives (.expression floor whole) start stop
  | loose {floor : Precedence} {left : Formula} {start : Nat}
      (loose : Loose registry tokens floor start) : Derives (.tail left floor left) start start
  | tight {floor : Precedence} {symbol : String} {left right whole : Formula}
      {start middle stop : Nat} (here : tokens[start]? = some symbol)
      (registered : (registry.operator? symbol).isSome)
      (tight : ¬registry.precedence symbol < floor)
      (operand : Derives (.expression (registry.precedence symbol).next right) (start + 1) middle)
      (rest : Derives (.tail (.binary symbol left right) floor whole) middle stop) :
      Derives (.tail left floor whole) start stop
  | unaryOperator {token next : String} {operand : Formula} {start stop : Nat}
      (kind : role registry token = .unaryOperator) (more : tokens[start + 1]? = some next)
      (inner : Derives (.unary next operand) (start + 1) stop) :
      Derives (.unary token (.unary token operand)) start stop
  | parentheses {token : String} {whole : Formula} {start middle : Nat}
      (kind : role registry token = .parenthesis)
      (inner : Derives (.expression 0 whole) (start + 1) middle)
      (closed : tokens[middle]? = some ")") : Derives (.unary token whole) start (middle + 1)
  | literal {token : String} {value : Value} {start : Nat}
      (kind : role registry token = .literal value) :
      Derives (.unary token (.literal value)) start (start + 1)
  | array {token : String} {whole : Formula} {start stop : Nat}
      (kind : role registry token = .array)
      (rest : Derives (.elements [] whole) (start + 1) stop) :
      Derives (.unary token whole) start stop
  | object {token : String} {whole : Formula} {start stop : Nat}
      (kind : role registry token = .object)
      (rest : Derives (.entries [] whole) (start + 1) stop) :
        Derives (.unary token whole) start stop
  | path {token : String} {start : Nat} (kind : role registry token = .path) :
      Derives (.unary token (.path token)) start (start + 1)
  | call {token : String} {whole : Formula} {start stop : Nat}
      (kind : role registry token = .function) (opened : tokens[start + 1]? = some "(")
      (rest : Derives (.arguments token [] whole) (start + 2) stop) :
      Derives (.unary token whole) start stop
  | name {token : String} {start : Nat} (kind : role registry token = .name) :
      Derives (.unary token (.name token (tokens[start + 1]? = some "("))) start (start + 1)
  | lastElement {done : List Formula} {start : Nat} (closed : tokens[start]? = some "]") :
      Derives (.elements done (.array done)) start (start + 1)
  | element {done : List Formula} {item whole : Formula} {start middle next stop : Nat}
      (more : tokens[start]? ≠ some "]") (first : Derives (.expression 0 item) start middle)
      (separated : (tokens[middle]? = some "," ∧ tokens[middle + 1]? ≠ some "]" ∧
        next = middle + 1) ∨ (tokens[middle]? = some "]" ∧ next = middle))
      (rest : Derives (.elements (done ++ [item]) whole) next stop) :
      Derives (.elements done whole) start stop
  | lastEntry {done : List Entry} {entry : Entry} {start middle : Nat}
      (first : Derives (.entry entry) start middle) (closed : tokens[middle]? = some "\x7d") :
      Derives (.entries done (.object (done ++ [entry]))) start (middle + 1)
  | moreEntries {done : List Entry} {entry : Entry} {whole : Formula} {start middle stop : Nat}
      (first : Derives (.entry entry) start middle) (separated : tokens[middle]? = some ",")
      (rest : Derives (.entries (done ++ [entry]) whole) (middle + 1) stop) :
      Derives (.entries done whole) start stop
  | keyed {key : String} {value : Formula} {start stop : Nat} (here : tokens[start]? = some key)
      (plain : Grammar.spreadOperand? key = none) (identifier : Grammar.isIdentifier key = true)
      (colon : tokens[start + 1]? = some ":") (follows : Follows tokens (start + 2))
      (inner : Derives (.expression 0 value) (start + 2) stop) :
      Derives (.entry (.keyed key value)) start stop
  | spread {key token : String} {left operand : Formula} {start middle stop : Nat}
      (here : tokens[start]? = some key) (spread : Grammar.spreadOperand? key = some token)
      (first : Derives (.unary token left) start middle)
      (rest : Derives (.tail left 0 operand) middle stop) :
      Derives (.entry (.spread key operand)) start stop
  | lastArgument {function : String} {done : List Formula} {start : Nat}
      (closed : tokens[start]? = some ")") :
      Derives (.arguments function done (.call function done (start + 1))) start (start + 1)
  | argument {function : String} {done : List Formula} {item whole : Formula}
      {start middle next stop : Nat} (more : tokens[start]? ≠ some ")")
      (first : Derives (.expression 0 item) start middle)
      (separated : (tokens[middle]? = some "," ∧ tokens[middle + 1]? ≠ some ")" ∧
        next = middle + 1) ∨ (tokens[middle]? ≠ some "," ∧ next = middle))
      (rest : Derives (.arguments function (done ++ [item]) whole) next stop) :
      Derives (.arguments function done whole) start stop

variable {registry tokens} {phrase : Phrase} {start stop : Nat}

def Phrase.least : Phrase → Nat
  | .tail .. => 0
  | .expression .. | .unary .. | .entry .. | .elements .. | .entries .. | .arguments .. => 1

theorem Derives.forward (derived : Derives registry tokens phrase start stop) :
    start + phrase.least ≤ stop := by
  induction derived <;> simp only [Phrase.least] at * <;> omega

theorem lt_size_of_token {token : String} {position : Nat}
    (here : tokens[position]? = some token) : position < tokens.size :=
  (Array.getElem?_eq_some_iff.mp here).1

/-- How many tokens are taken for granted where a phrase starts. -/
def Phrase.given : Phrase → Nat
  | .unary .. => 1
  | _ => 0

theorem Derives.within (derived : Derives registry tokens phrase start stop)
    (inside : start + phrase.given ≤ tokens.size) : stop ≤ tokens.size := by
  induction derived with
  | expression here first rest firstInside restInside =>
      exact restInside (firstInside (lt_size_of_token here))
  | loose => exact inside
  | tight here registered tight operand rest operandInside restInside =>
      exact restInside (operandInside (lt_size_of_token here))
  | unaryOperator kind more inner innerInside => exact innerInside (lt_size_of_token more)
  | parentheses kind inner closed => exact lt_size_of_token closed
  | literal | path | name => exact inside
  | array kind rest restInside => exact restInside inside
  | object kind rest restInside => exact restInside inside
  | call kind opened rest restInside => exact restInside (lt_size_of_token opened)
  | lastElement closed => exact lt_size_of_token closed
  | element more first separated rest firstInside restInside =>
      rcases separated with ⟨comma, -, rfl⟩ | ⟨closed, rfl⟩
      · exact restInside (lt_size_of_token comma)
      · exact restInside (firstInside inside)
  | lastEntry first closed => exact lt_size_of_token closed
  | moreEntries first separated rest firstInside restInside =>
      exact restInside (lt_size_of_token separated)
  | keyed here plain identifier colon follows inner innerInside =>
      exact innerInside (lt_size_of_token colon)
  | spread here spread first rest firstInside restInside =>
      exact restInside (firstInside (lt_size_of_token here))
  | lastArgument closed => exact lt_size_of_token closed
  | argument more first separated rest firstInside restInside =>
      rcases separated with ⟨comma, -, rfl⟩ | ⟨-, rfl⟩
      · exact restInside (lt_size_of_token comma)
      · exact restInside (firstInside inside)

section

variable {α β : Type} {least earlier middle : Nat}

def Reading.Finds (reading : Reading α least) (part : α) (stop : Nat) : Prop :=
  ∃ forward, reading = .ok ⟨part, stop, forward⟩

namespace Reading

@[simp]
theorem finds_ok {span : Span α least} {part : α} :
    Finds (.ok span) part stop ↔ span.part = part ∧ span.stop = stop := by
  constructor
  · rintro ⟨forward, equal⟩
    cases equal
    exact ⟨rfl, rfl⟩
  · rintro ⟨rfl, rfl⟩
    exact ⟨span.forward, rfl⟩

@[simp]
theorem not_finds_error {rejection : Rejection} {part : α} :
    ¬Finds (.error rejection : Reading α least) part stop := by
  rintro ⟨forward, equal⟩
  cases equal

@[simp]
theorem not_finds_reject {near : Option String} {completed : List Formula} {part : α} :
    ¬Finds (reject near completed : Reading α least) part stop :=
  not_finds_error

@[simp]
theorem not_finds_rejectObject {near : Option String} {completed : List Formula} {part : α} :
    ¬Finds (rejectObject near completed : Reading α least) part stop :=
  not_finds_error

@[simp]
theorem finds_after {parts : List Formula} {reading : Reading α least} {part : α} :
    Finds (after parts reading) part stop ↔ Finds reading part stop := by
  cases reading with
  | ok span => rfl
  | error rejection => exact iff_of_false not_finds_error not_finds_error

theorem finds_bind {reading : Reading α least} {next : Span α least → Reading β earlier}
    {part : β} :
    Finds (reading >>= next) part stop ↔
      ∃ inner middle, Finds reading inner middle ∧
        ∀ forward, Finds (next ⟨inner, middle, forward⟩) part stop := by
  cases reading with
  | ok span =>
      constructor
      · intro found
        exact ⟨span.part, span.stop, finds_ok.mpr ⟨rfl, rfl⟩, fun _ => found⟩
      · rintro ⟨inner, middle, read, found⟩
        obtain ⟨rfl, rfl⟩ := finds_ok.mp read
        exact found span.forward
  | error rejection =>
      constructor
      · intro found
        exact absurd found not_finds_error
      · rintro ⟨inner, middle, read, -⟩
        exact absurd read not_finds_error

theorem finds_then {reading : Reading α least} {next : Span α least → Reading β earlier} {inner : α}
    {part : β} (first : Finds reading inner middle)
    (rest : ∀ forward, Finds (next ⟨inner, middle, forward⟩) part stop) :
    Finds (reading >>= next) part stop :=
  finds_bind.mpr ⟨inner, middle, first, rest⟩

theorem Finds.forward {reading : Reading α least} {part : α}
    (found : Finds reading part stop) : least ≤ stop :=
  found.1

@[simp]
theorem finds_weaken {reading : Reading α least} {part : α} (before : earlier ≤ least) :
    Finds (reading >>= fun whole => .ok (whole.weaken before)) part stop ↔
      Finds reading part stop := by
  cases reading with
  | ok span => simp only [Outcome.ok_bind, finds_ok, Span.weaken]
  | error rejection => exact iff_of_false not_finds_error not_finds_error

end Reading

end

open Reading

mutual

theorem derives_of_expression {floor : Precedence} {start stop : Nat} {whole : Formula}
    (found : (readExpression registry tokens floor start).Finds whole stop) :
    Derives registry tokens (.expression floor whole) start stop := by
  rw [readExpression] at found
  by_cases inside : start < tokens.size
  · rw [dif_pos inside] at found
    obtain ⟨left, middle, first, rest⟩ := finds_bind.mp found
    have forward := first.forward
    have tail : (readTail registry tokens left floor middle).Finds whole stop :=
      (finds_weaken _).mp (rest forward)
    have here : tokens[start]? = some tokens[start] := by simp [inside]
    exact .expression here (derives_of_unary first) (derives_of_tail tail)
  · simp [inside] at found
termination_by 3 * (tokens.size - start) + 1

theorem derives_of_tail {left : Formula} {floor : Precedence} {start stop : Nat} {whole : Formula}
    (found : (readTail registry tokens left floor start).Finds whole stop) :
    Derives registry tokens (.tail left floor whole) start stop := by
  rw [readTail] at found
  by_cases inside : start < tokens.size
  · have here : tokens[start]? = some tokens[start] := by simp [inside]
    rw [dif_pos inside] at found
    dsimp only at found
    split at found
    · rename_i stops
      obtain ⟨rfl, rfl⟩ := finds_ok.mp found
      refine .loose ?_
      intro symbol current
      rw [here] at current
      cases current
      simpa using stops
    · rename_i continues
      simp only [Bool.or_eq_true, Option.isNone_iff_eq_none, decide_eq_true_eq, not_or] at continues
      obtain ⟨right, middle, operand, rest⟩ := finds_bind.mp found
      have operand := finds_after.mp operand
      have forward := operand.forward
      have tail : (readTail registry tokens (.binary tokens[start] left right) floor middle).Finds
          whole stop := (finds_weaken _).mp (rest forward)
      have registered := Option.isSome_iff_ne_none.mpr continues.1
      exact .tight here registered continues.2 (derives_of_expression operand)
        (derives_of_tail tail)
  · rw [dif_neg inside] at found
    obtain ⟨rfl, rfl⟩ := finds_ok.mp found
    refine .loose ?_
    intro symbol current
    exact absurd (lt_size_of_token current) inside
termination_by 3 * (tokens.size - start)

theorem derives_of_unary {token : String} {start stop : Nat} {inside : start < tokens.size}
    {whole : Formula}
    (found : (readUnary registry tokens token start inside).Finds whole stop) :
    Derives registry tokens (.unary token whole) start stop := by
  rw [readUnary] at found
  split at found
  case h_1 kind =>
    split at found
    · rename_i more
      obtain ⟨operand, reached, inner, rest⟩ := finds_bind.mp found
      obtain ⟨rfl, rfl⟩ := finds_ok.mp (rest inner.forward)
      have next : tokens[start + 1]? = some tokens[start + 1] := by simp [more]
      exact .unaryOperator kind next (derives_of_unary inner)
    · simp at found
  case h_2 kind =>
    obtain ⟨inner, middle, read, rest⟩ := finds_bind.mp found
    have rest := rest read.forward
    dsimp only at rest
    split at rest
    · rename_i closed
      obtain ⟨rfl, rfl⟩ := finds_ok.mp rest
      exact .parentheses kind (derives_of_expression read) closed
    · simp at rest
  case h_3 value kind =>
    obtain ⟨rfl, rfl⟩ := finds_ok.mp found
    exact .literal kind
  case h_4 kind => exact .array kind (derives_of_elements found)
  case h_5 kind => exact .object kind (derives_of_entries found)
  case h_6 kind =>
    obtain ⟨rfl, rfl⟩ := finds_ok.mp found
    exact .path kind
  case h_7 kind =>
    split at found
    · rename_i opened
      have rest : (readArguments registry tokens token [] (start + 2)).Finds whole stop :=
        (finds_weaken _).mp found
      exact .call kind opened (derives_of_arguments rest)
    · simp at found
  case h_8 => simp at found
  case h_9 kind =>
    obtain ⟨rfl, rfl⟩ := finds_ok.mp found
    exact .name kind
termination_by 3 * (tokens.size - start)

theorem derives_of_elements {done : List Formula} {start stop : Nat} {whole : Formula}
    (found : (readElements registry tokens done start).Finds whole stop) :
    Derives registry tokens (.elements done whole) start stop := by
  rw [readElements] at found
  by_cases inside : start < tokens.size
  · have here : tokens[start]? = some tokens[start] := by simp [inside]
    rw [dif_pos inside] at found
    split at found
    · rename_i closed
      obtain ⟨rfl, rfl⟩ := finds_ok.mp found
      exact .lastElement (here.trans (congrArg some closed))
    · rename_i more
      have more : tokens[start]? ≠ some "]" := by simpa [inside] using more
      obtain ⟨item, middle, first, rest⟩ := finds_bind.mp found
      have first := finds_after.mp first
      have forward := first.forward
      have rest := rest first.forward
      dsimp only at rest
      split at rest
      · rename_i comma
        split at rest
        · simp at rest
        · rename_i proper
          have rest :
              (readElements registry tokens (done ++ [item]) (middle + 1)).Finds whole stop :=
            (finds_weaken _).mp rest
          exact .element more (derives_of_expression first) (.inl ⟨comma, proper, rfl⟩)
            (derives_of_elements rest)
      · split at rest
        · rename_i closed
          have rest : (readElements registry tokens (done ++ [item]) middle).Finds whole stop :=
            (finds_weaken _).mp rest
          exact .element more (derives_of_expression first) (.inr ⟨closed, rfl⟩)
            (derives_of_elements rest)
        · simp at rest
  · simp [inside] at found
termination_by 3 * (tokens.size - start) + 2

theorem derives_of_entries {done : List Entry} {start stop : Nat} {whole : Formula}
    (found : (readEntries registry tokens done start).Finds whole stop) :
    Derives registry tokens (.entries done whole) start stop := by
  rw [readEntries] at found
  by_cases inside : start < tokens.size
  · rw [dif_pos inside] at found
    obtain ⟨item, middle, first, rest⟩ := finds_bind.mp found
    have first := finds_after.mp first
    have forward := first.forward
    have rest := rest first.forward
    dsimp only at rest
    split at rest
    · rename_i closed
      obtain ⟨rfl, rfl⟩ := finds_ok.mp rest
      exact .lastEntry (derives_of_entry first) closed
    · split at rest
      · rename_i comma
        have rest : (readEntries registry tokens (done ++ [item]) (middle + 1)).Finds whole stop :=
          (finds_weaken _).mp rest
        exact .moreEntries (derives_of_entry first) comma (derives_of_entries rest)
      · simp at rest
  · simp [inside] at found
termination_by 3 * (tokens.size - start) + 2

theorem derives_of_entry {start stop : Nat} {inside : start < tokens.size} {item : Entry}
    (found : (readEntry registry tokens start inside).Finds item stop) :
    Derives registry tokens (.entry item) start stop := by
  have here : tokens[start]? = some tokens[start] := by simp [inside]
  rw [readEntry] at found
  dsimp only at found
  split at found
  · rename_i token spread
    obtain ⟨left, middle, first, rest⟩ := finds_bind.mp found
    have forward := first.forward
    obtain ⟨operand, reached, tail, last⟩ := finds_bind.mp (rest forward)
    obtain ⟨rfl, rfl⟩ := finds_ok.mp (last tail.forward)
    exact .spread here spread (derives_of_unary first) (derives_of_tail tail)
  · rename_i plain
    split at found
    · simp at found
    · rename_i identifier
      split at found
      · simp at found
      · rename_i colon
        split at found
        · simp at found
        · rename_i follows
          obtain ⟨value, reached, inner, last⟩ := finds_bind.mp found
          obtain ⟨rfl, rfl⟩ := finds_ok.mp (last inner.forward)
          refine .keyed here plain (by simpa using identifier) (by simpa using colon) ?_
            (derives_of_expression inner)
          simp only [Bool.or_eq_true, decide_eq_true_eq, not_or] at follows
          obtain ⟨first, next⟩ := Option.ne_none_iff_exists'.mp follows.1.1
          exact ⟨first, next, by simpa [next] using follows.1.2, by simpa [next] using follows.2⟩
termination_by 3 * (tokens.size - start) + 1

theorem derives_of_arguments {function : String} {done : List Formula} {start stop : Nat}
    {whole : Formula}
    (found : (readArguments registry tokens function done start).Finds whole stop) :
    Derives registry tokens (.arguments function done whole) start stop := by
  rw [readArguments] at found
  by_cases inside : start < tokens.size
  · have here : tokens[start]? = some tokens[start] := by simp [inside]
    rw [dif_pos inside] at found
    split at found
    · rename_i closed
      obtain ⟨rfl, rfl⟩ := finds_ok.mp found
      exact .lastArgument (here.trans (congrArg some closed))
    · rename_i more
      have more : tokens[start]? ≠ some ")" := by simpa [inside] using more
      obtain ⟨item, middle, first, rest⟩ := finds_bind.mp found
      have first := finds_after.mp first
      have forward := first.forward
      have rest := rest first.forward
      dsimp only at rest
      split at rest
      · rename_i comma
        split at rest
        · simp at rest
        · rename_i proper
          have rest : (readArguments registry tokens function (done ++ [item]) (middle + 1)).Finds
              whole stop := (finds_weaken _).mp rest
          exact .argument more (derives_of_expression first) (.inl ⟨comma, proper, rfl⟩)
            (derives_of_arguments rest)
      · rename_i other
        have rest : (readArguments registry tokens function (done ++ [item]) middle).Finds whole
            stop := (finds_weaken _).mp rest
        exact .argument more (derives_of_expression first) (.inr ⟨other, rfl⟩)
          (derives_of_arguments rest)
  · simp [inside] at found
termination_by 3 * (tokens.size - start) + 2

end

def Phrase.Found (registry : Registry) (tokens : Array String) (start stop : Nat) : Phrase → Prop
  | .expression floor whole => (readExpression registry tokens floor start).Finds whole stop
  | .tail left floor whole => (readTail registry tokens left floor start).Finds whole stop
  | .unary token whole =>
      ∀ inside, (readUnary registry tokens token start inside).Finds whole stop
  | .elements done whole => (readElements registry tokens done start).Finds whole stop
  | .entries done whole => (readEntries registry tokens done start).Finds whole stop
  | .entry item => ∃ inside, (readEntry registry tokens start inside).Finds item stop
  | .arguments function done whole =>
      (readArguments registry tokens function done start).Finds whole stop

theorem Derives.inside {floor : Precedence} {whole : Formula}
    (derived : Derives registry tokens (.expression floor whole) start stop) :
    start < tokens.size := by
  cases derived with
  | expression here first rest => exact lt_size_of_token here

theorem Derives.found (derived : Derives registry tokens phrase start stop) :
    phrase.Found registry tokens start stop := by
  induction derived with
  | expression here first rest firstFound restFound =>
      obtain ⟨inside, rfl⟩ := Array.getElem?_eq_some_iff.mp here
      change (readExpression _ _ _ _).Finds _ _
      rw [readExpression, dif_pos inside]
      refine finds_then (firstFound inside) fun _ => ?_
      exact (finds_weaken _).mpr restFound
  | @loose floor left start loose =>
      change (readTail _ _ _ _ _).Finds _ _
      rw [readTail]
      by_cases inside : start < tokens.size
      · have stops := loose tokens[start] (by simp [inside])
        rw [dif_pos inside]
        simp [stops]
      · rw [dif_neg inside]
        exact finds_ok.mpr ⟨rfl, rfl⟩
  | tight here registered tight operand rest operandFound restFound =>
      obtain ⟨inside, rfl⟩ := Array.getElem?_eq_some_iff.mp here
      change (readTail _ _ _ _ _).Finds _ _
      have known := Option.isSome_iff_ne_none.mp registered
      rw [readTail, dif_pos inside]
      simp only [Option.isNone_iff_eq_none, known, tight, decide_false, Bool.or_false, if_false]
      refine finds_then (finds_after.mpr operandFound) fun _ => ?_
      exact (finds_weaken _).mpr restFound
  | unaryOperator kind more inner innerFound =>
      obtain ⟨within, rfl⟩ := Array.getElem?_eq_some_iff.mp more
      intro inside
      rw [readUnary]
      simp only [kind, dif_pos within]
      exact finds_then (innerFound within) fun _ => finds_ok.mpr ⟨rfl, rfl⟩
  | parentheses kind inner closed innerFound =>
      intro inside
      rw [readUnary]
      simp only [kind]
      refine finds_then innerFound fun _ => ?_
      rw [if_pos closed]
      exact finds_ok.mpr ⟨rfl, rfl⟩
  | literal kind =>
      intro inside
      rw [readUnary]
      simp [kind]
  | array kind rest restFound =>
      intro inside
      rw [readUnary]
      simp only [kind]
      exact restFound
  | object kind rest restFound =>
      intro inside
      rw [readUnary]
      simp only [kind]
      exact restFound
  | path kind =>
      intro inside
      rw [readUnary]
      simp [kind]
  | call kind opened rest restFound =>
      intro inside
      rw [readUnary]
      simp only [kind, if_pos opened]
      exact (finds_weaken _).mpr restFound
  | name kind =>
      intro inside
      rw [readUnary]
      simp [kind]
  | lastElement closed =>
      obtain ⟨inside, closed⟩ := Array.getElem?_eq_some_iff.mp closed
      change (readElements _ _ _ _).Finds _ _
      rw [readElements, dif_pos inside, if_pos closed]
      exact finds_ok.mpr ⟨rfl, rfl⟩
  | element more first separated rest firstFound restFound =>
      have inside := first.inside
      change (readElements _ _ _ _).Finds _ _
      rw [readElements, dif_pos inside, if_neg (by simpa [inside] using more)]
      refine finds_then (finds_after.mpr firstFound) fun _ => ?_
      rcases separated with ⟨comma, proper, rfl⟩ | ⟨closed, rfl⟩
      · rw [if_pos comma, if_neg proper]
        exact (finds_weaken _).mpr restFound
      · rw [if_neg (by simp [closed]), if_pos closed]
        exact (finds_weaken _).mpr restFound
  | lastEntry first closed firstFound =>
      obtain ⟨inside, firstFound⟩ := firstFound
      change (readEntries _ _ _ _).Finds _ _
      rw [readEntries, dif_pos inside]
      refine finds_then (finds_after.mpr firstFound) fun _ => ?_
      rw [if_pos closed]
      exact finds_ok.mpr ⟨rfl, rfl⟩
  | moreEntries first separated rest firstFound restFound =>
      obtain ⟨inside, firstFound⟩ := firstFound
      change (readEntries _ _ _ _).Finds _ _
      rw [readEntries, dif_pos inside]
      refine finds_then (finds_after.mpr firstFound) fun _ => ?_
      rw [if_neg (by simp [separated]), if_pos separated]
      exact (finds_weaken _).mpr restFound
  | keyed here plain identifier colon follows inner innerFound =>
      obtain ⟨inside, rfl⟩ := Array.getElem?_eq_some_iff.mp here
      obtain ⟨first, next, proper, comma⟩ := follows
      refine ⟨inside, ?_⟩
      rw [readEntry]
      simp only [plain, identifier, colon, next]
      simp only [Bool.not_true, Bool.false_eq_true, if_false, ne_eq, not_true, reduceCtorEq,
        decide_false, Option.some.injEq, proper, comma, Bool.or_false]
      exact finds_then innerFound fun _ => finds_ok.mpr ⟨rfl, rfl⟩
  | spread here spread first rest firstFound restFound =>
      obtain ⟨inside, rfl⟩ := Array.getElem?_eq_some_iff.mp here
      refine ⟨inside, ?_⟩
      rw [readEntry]
      simp only [spread]
      refine finds_then (firstFound inside) fun _ => ?_
      exact finds_then restFound fun _ => finds_ok.mpr ⟨rfl, rfl⟩
  | lastArgument closed =>
      obtain ⟨inside, closed⟩ := Array.getElem?_eq_some_iff.mp closed
      change (readArguments _ _ _ _ _).Finds _ _
      rw [readArguments, dif_pos inside, if_pos closed]
      exact finds_ok.mpr ⟨rfl, rfl⟩
  | argument more first separated rest firstFound restFound =>
      have inside := first.inside
      change (readArguments _ _ _ _ _).Finds _ _
      rw [readArguments, dif_pos inside, if_neg (by simpa [inside] using more)]
      refine finds_then (finds_after.mpr firstFound) fun _ => ?_
      rcases separated with ⟨comma, proper, rfl⟩ | ⟨other, rfl⟩
      · rw [if_pos comma, if_neg proper]
        exact (finds_weaken _).mpr restFound
      · rw [if_neg other]
        exact (finds_weaken _).mpr restFound

/-- The reader accepts exactly the trees that the grammar derives from all tokens. -/
theorem read_eq_ok_iff {whole : Formula} :
    Formula.read registry tokens = .ok whole ↔
      Derives registry tokens (.expression 0 whole) 0 tokens.size := by
  unfold Formula.read
  constructor
  · intro accepted
    rcases read : readExpression registry tokens 0 0 with rejection | span
    · simp [read] at accepted
    · have derived := derives_of_expression (read ▸ finds_ok.mpr ⟨rfl, rfl⟩)
      have inside := derived.inside
      have within := derived.within (Nat.zero_le _)
      simp only [read, Outcome.ok_bind] at accepted
      split at accepted
      · rename_i ends
        cases accepted
        have beyond : tokens.size ≤ span.stop := by simpa using ends
        rwa [Nat.le_antisymm within beyond] at derived
      · cases accepted
  · intro derived
    obtain ⟨forward, read⟩ := derived.found
    simp [read]

end Reckon.Formula
