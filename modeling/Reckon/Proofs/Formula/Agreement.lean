import Reckon.Proofs.Engine.Frame
import Reckon.Proofs.Formula.Role

/-!
Evaluating while reading agrees with reading first and evaluating afterwards.
-/

namespace Reckon.Formula

open Parse Production

variable {α β : Type} {least earlier : Nat} (setting : Setting)

theorem evaluateAll_append (first second : List Formula) :
    evaluateAll setting (first ++ second) = (do
      let values ← evaluateAll setting first
      let more ← evaluateAll setting second
      return values ++ more) := by
  induction first with
  | nil => simp [evaluateAll]
  | cons formula rest ih => simp [evaluateAll, ih]

theorem evaluateAll_concat (done : List Formula) (formula : Formula) :
    evaluateAll setting (done ++ [formula]) = (do
      let values ← evaluateAll setting done
      let value ← evaluate setting formula
      return values ++ [value]) := by
  simp [evaluateAll_append, evaluateAll]

theorem evaluateEntries_concat (table : Table Value) (done : List Entry) (entry : Entry) :
    evaluateEntries setting table (done ++ [entry]) = (do
      let written ← evaluateEntries setting table done
      evaluateEntry setting written entry) := by
  induction done generalizing table with
  | nil => simp [evaluateEntries]
  | cons first rest ih => simp [evaluateEntries, ih]

/-- The fault of tokens that are no formula: that of the first complete part that has no value, and
else the syntax error. -/
def Rejection.outcome (rejection : Rejection) : Except Fault α := do
  let _ ← evaluateAll setting rejection.completed
  .error (.raised rejection.error)

@[simp]
theorem Rejection.outcome_bind (rejection : Rejection) (next : α → Except Fault β) :
    (rejection.outcome setting >>= next) = rejection.outcome setting := by
  unfold Rejection.outcome
  cases evaluateAll setting rejection.completed <;> rfl

@[simp]
theorem Rejection.outcome_after (parts : List Formula) (rejection : Rejection) :
    (rejection.after parts).outcome setting =
      (evaluateAll setting parts >>= fun _ => rejection.outcome setting : Except Fault α) := by
  simp [Rejection.outcome, Rejection.after, evaluateAll_append]

/-- Where a reading ends and with which value: that of the part that was read. -/
def Reading.ended (meaning : β → Except Fault α) : Reading β least → Except Fault (α × Nat)
  | .ok span => do
      let value ← meaning span.part
      return (value, span.stop)
  | .error rejection => rejection.outcome setting

section

variable {meaning : β → Except Fault α}

@[simp]
theorem Reading.ended_ok (span : Span β least) :
    Reading.ended setting meaning (.ok span) =
      (meaning span.part >>= fun value => .ok (value, span.stop)) := rfl

@[simp]
theorem Reading.ended_error (rejection : Rejection) :
    Reading.ended setting meaning (.error rejection : Reading β least) =
      rejection.outcome setting := rfl

@[simp]
theorem Reading.ended_reject (near : Option String) (completed : List Formula) :
    Reading.ended setting meaning (Reading.reject near completed : Reading β least) =
      (evaluateAll setting completed >>= fun _ => .error (.raised (.invalidExpression near))) := rfl

@[simp]
theorem Reading.ended_rejectObject (near : Option String) (completed : List Formula) :
    Reading.ended setting meaning (Reading.rejectObject near completed : Reading β least) =
      (evaluateAll setting completed >>= fun _ => .error (.raised (.invalidObject near))) := rfl

@[simp]
theorem Reading.ended_weaken (reading : Reading β least) (before : earlier ≤ least) :
    Reading.ended setting meaning (reading >>= fun whole => .ok (whole.weaken before)) =
      reading.ended setting meaning := by
  cases reading <;> rfl

end

@[simp]
theorem Reading.after_ok (parts : List Formula) (span : Span β least) :
    Reading.after parts (.ok span) = .ok span := rfl

@[simp]
theorem Reading.after_error (parts : List Formula) (rejection : Rejection) :
    (Reading.after parts (.error rejection) : Reading β least) =
      .error (rejection.after parts) := rfl

variable (frame : Frame)

/-- Productions that stand inside each other up to `fuel` end as what is read ends, where that many
suffice.  What was read before is evaluated first. -/
structure AgreesUpTo (fuel : Nat) : Prop where
  expression : ∀ depth floor start, 3 * (frame.tokens.size - start) + 2 ≤ fuel →
    ended (run frame fuel depth (.expression floor)) start =
      (readExpression frame.registry frame.tokens floor start).ended frame.setting
        (evaluate frame.setting)
  tail : ∀ depth left floor start, 3 * (frame.tokens.size - start) + 1 ≤ fuel →
    (evaluate frame.setting left >>= fun value =>
        ended (run frame fuel depth (.tail value floor)) start) =
      (readTail frame.registry frame.tokens left floor start).ended frame.setting
        (evaluate frame.setting)
  unary : ∀ depth token start inside, 3 * (frame.tokens.size - start) + 1 ≤ fuel →
    ended (run frame fuel depth (.unary token)) start =
      (readUnary frame.registry frame.tokens token start inside).ended frame.setting
        (evaluate frame.setting)
  elements : ∀ depth done start, 3 * (frame.tokens.size - start) + 3 ≤ fuel →
    (evaluateAll frame.setting done >>= fun values =>
        ended (run frame fuel depth (.elements values.reverse)) start) =
      (readElements frame.registry frame.tokens done start).ended frame.setting
        (evaluate frame.setting)
  entries : ∀ depth done start, 3 * (frame.tokens.size - start) + 3 ≤ fuel →
    (evaluateEntries frame.setting [] done >>= fun table =>
        ended (run frame fuel depth (.entries table)) start) =
      (readEntries frame.registry frame.tokens done start).ended frame.setting
        (evaluate frame.setting)
  arguments : ∀ depth function callee done start,
    frame.registry.function? function = some callee →
    3 * (frame.tokens.size - start) + 3 ≤ fuel →
    (evaluateAll frame.setting done >>= fun values =>
        ended (run frame fuel depth (.arguments callee values.reverse)) start) =
      (readArguments frame.registry frame.tokens function done start).ended frame.setting
        (evaluate frame.setting)

variable {frame} {fuel : Nat}

theorem evaluate_binary {symbol : String} {operator : BinaryOperator}
    (registered : frame.registry.operator? symbol = some operator) (left right : Formula) :
    evaluate frame.setting (.binary symbol left right) = (do
      let leftValue ← evaluate frame.setting left
      let rightValue ← evaluate frame.setting right
      Outcome.ofExcept (operator leftValue rightValue)) := by
  simp [evaluate, Setting.binary, Frame.setting, registered]

theorem AgreesUpTo.tail_succ (below : AgreesUpTo frame fuel) (depth : Nat) (left : Formula)
    (floor : Precedence) (start : Nat)
    (enough : 3 * (frame.tokens.size - start) + 1 ≤ fuel + 1) :
    (evaluate frame.setting left >>= fun value =>
        ended (run frame (fuel + 1) depth (.tail value floor)) start) =
      (readTail frame.registry frame.tokens left floor start).ended frame.setting
        (evaluate frame.setting) := by
  rw [readTail]
  by_cases inside : start < frame.tokens.size
  · have current : frame.tokens[start]? = some frame.tokens[start] := by simp [inside]
    rcases found : frame.registry.operator? frame.tokens[start] with _ | operator
    · simp [run_succ, step, climb, inside, found]
    · by_cases loose : frame.registry.precedence frame.tokens[start] < floor
      · simp [run_succ, step, climb, inside, found, loose]
      · have inner := below.expression depth
          (Precedence.next (frame.registry.precedence frame.tokens[start])) (start + 1) (by omega)
        rcases read : readExpression frame.registry frame.tokens
            (Precedence.next (frame.registry.precedence frame.tokens[start])) (start + 1) with
          rejection | right
        · simp [run_succ, step, climb, inside, found, loose, inner, read, evaluateAll]
        · have forward := right.forward
          have rest := below.tail depth (.binary frame.tokens[start] left right.part) floor
            right.stop (by omega)
          rw [evaluate_binary found] at rest
          simp only [bind_assoc] at rest
          simp [run_succ, step, climb, inside, found, loose, inner, read, rest]
  · simp [run_succ, step, climb, inside]

theorem nested_of_unlimited (unlimited : frame.limit = none) (depth : Nat)
    (inner : Nat → Parse Value) : nested frame depth inner = inner (depth + 1) := by
  simp [nested, unlimited]

theorem AgreesUpTo.expression_succ (below : AgreesUpTo frame fuel)
    (unlimited : frame.limit = none) (depth : Nat) (floor : Precedence) (start : Nat)
    (enough : 3 * (frame.tokens.size - start) + 2 ≤ fuel + 1) :
    ended (run frame (fuel + 1) depth (.expression floor)) start =
      (readExpression frame.registry frame.tokens floor start).ended frame.setting
        (evaluate frame.setting) := by
  rw [readExpression, run_succ, step, nested_of_unlimited unlimited]
  by_cases inside : start < frame.tokens.size
  · have first := below.unary (depth + 1) frame.tokens[start] start inside (by omega)
    rcases read : readUnary frame.registry frame.tokens frame.tokens[start] start inside with
      rejection | left
    · simp [operand, inside, first, read]
    · have forward := left.forward
      have rest := below.tail (depth + 1) left.part floor left.stop (by omega)
      simp [operand, inside, first, read, rest]
  · simp [operand, inside, evaluateAll]

theorem ended_name (token : String) (start : Nat) :
    ended (Production.name frame token) start =
      (frame.setting.name token (frame.tokens[start + 1]? = some "(") >>= fun value =>
        .ok (value, start + 1)) := by
  unfold Production.name
  rcases found : Grammar.lookup frame.bindings token with error | value
  · by_cases called : frame.tokens[start + 1]? = some "("
    · simp [found, called, Setting.name, Frame.setting, Outcome.raise]
    · simp [found, called, Setting.name, Frame.setting, Outcome.raise]
  · simp [found, Setting.name, Frame.setting]

theorem AgreesUpTo.unary_succ (below : AgreesUpTo frame fuel) (unlimited : frame.limit = none)
    (depth : Nat) (token : String) (start : Nat) (inside : start < frame.tokens.size)
    (enough : 3 * (frame.tokens.size - start) + 1 ≤ fuel + 1) :
    ended (run frame (fuel + 1) depth (.unary token)) start =
      (readUnary frame.registry frame.tokens token start inside).ended frame.setting
        (evaluate frame.setting) := by
  rw [readUnary, run_succ, step]
  cases kind : role frame.registry token with
  | unaryOperator =>
      obtain ⟨operator, applied, same⟩ :=
        unaryOrFactor_of_operator (run frame fuel) depth kind
      rw [same, nested_of_unlimited unlimited]
      by_cases more : start + 1 < frame.tokens.size
      · have inner := below.unary (depth + 1) frame.tokens[start + 1] (start + 1) more (by omega)
        rcases read : readUnary frame.registry frame.tokens frame.tokens[start + 1] (start + 1)
            more with rejection | span
        · simp [operand, more, inner, read]
        · simp [operand, more, inner, read, evaluate, Setting.unary, Frame.setting, applied]
      · simp [operand, more, evaluateAll]
  | parenthesis =>
      have inner := below.expression depth 0 (start + 1) (by omega)
      rw [unaryOrFactor_of_parenthesis _ _ kind]
      rcases read : readExpression frame.registry frame.tokens 0 (start + 1) with rejection | span
      · simp [inner, read]
      · by_cases closed : frame.tokens[span.stop]? = some ")"
        · simp [inner, read, closed]
        · simp [inner, read, closed, evaluateAll]
  | literal value =>
      rw [unaryOrFactor_of_literal _ _ kind]
      simp [evaluate]
  | array =>
      have rest := below.elements depth [] (start + 1) (by omega)
      rw [unaryOrFactor_of_array _ _ kind]
      simpa [evaluateAll] using rest
  | object =>
      have rest := below.entries depth [] (start + 1) (by omega)
      rw [unaryOrFactor_of_object _ _ kind]
      simpa [evaluateEntries] using rest
  | path =>
      rw [unaryOrFactor_of_path _ _ kind]
      simp [evaluate, Frame.setting]
  | function =>
      obtain ⟨callee, callable, same⟩ :=
        unaryOrFactor_of_function (run frame fuel) depth kind
      rw [same]
      by_cases opened : frame.tokens[start + 1]? = some "("
      · have rest := below.arguments depth token callee [] (start + 2) callable (by omega)
        simpa [callOf, opened, evaluateAll] using rest
      · simp [callOf, opened, evaluateAll]
  | refused =>
      rw [unaryOrFactor_of_refused _ _ kind]
      simp [evaluateAll]
  | name =>
      rw [unaryOrFactor_of_name _ _ kind]
      simp [evaluate, ended_name]

theorem readExpression_outside {registry : Registry} {tokens : Array String} {start : Nat}
    (outside : ¬start < tokens.size) (floor : Precedence) :
    readExpression registry tokens floor start = Reading.reject none [] := by
  rw [readExpression, dif_neg outside]

theorem AgreesUpTo.elements_succ (below : AgreesUpTo frame fuel) (depth : Nat)
    (done : List Formula) (start : Nat)
    (enough : 3 * (frame.tokens.size - start) + 3 ≤ fuel + 1) :
    (evaluateAll frame.setting done >>= fun values =>
        ended (run frame (fuel + 1) depth (.elements values.reverse)) start) =
      (readElements frame.registry frame.tokens done start).ended frame.setting
        (evaluate frame.setting) := by
  have inner := below.expression depth 0 start (by omega)
  rw [readElements]
  by_cases inside : start < frame.tokens.size
  · by_cases closed : frame.tokens[start] = "]"
    · simp [run_succ, step, restOfArray, inside, closed, evaluate]
    · rcases read : readExpression frame.registry frame.tokens 0 start with rejection | item
      · simp [run_succ, step, restOfArray, inside, closed, inner, read]
      · have forward := item.forward
        by_cases comma : frame.tokens[item.stop]? = some ","
        · by_cases trailing : frame.tokens[item.stop + 1]? = some "]"
          · simp [run_succ, step, restOfArray, inside, closed, inner, read, comma, trailing,
              evaluateAll_concat]
          · have rest := below.elements depth (done ++ [item.part]) (item.stop + 1) (by omega)
            simp [evaluateAll_concat] at rest
            simp [run_succ, step, restOfArray, inside, closed, inner, read, comma, trailing, rest]
        · by_cases last : frame.tokens[item.stop]? = some "]"
          · have rest := below.elements depth (done ++ [item.part]) item.stop (by omega)
            simp [evaluateAll_concat] at rest
            simp [run_succ, step, restOfArray, inside, closed, inner, read, last, rest]
          · simp [run_succ, step, restOfArray, inside, closed, inner, read, comma, last,
              evaluateAll_concat]
  · simp [run_succ, step, restOfArray, inside, inner, readExpression_outside inside, evaluateAll]

theorem AgreesUpTo.arguments_succ (below : AgreesUpTo frame fuel) (depth : Nat)
    (function : String) (callee : Callable) (done : List Formula) (start : Nat)
    (registered : frame.registry.function? function = some callee)
    (enough : 3 * (frame.tokens.size - start) + 3 ≤ fuel + 1) :
    (evaluateAll frame.setting done >>= fun values =>
        ended (run frame (fuel + 1) depth (.arguments callee values.reverse)) start) =
      (readArguments frame.registry frame.tokens function done start).ended frame.setting
        (evaluate frame.setting) := by
  have inner := below.expression depth 0 start (by omega)
  rw [readArguments]
  by_cases inside : start < frame.tokens.size
  · by_cases closed : frame.tokens[start] = ")"
    · simp [run_succ, step, restOfArguments, inside, closed, evaluate, Setting.call, Frame.setting,
        registered]
    · rcases read : readExpression frame.registry frame.tokens 0 start with rejection | argument
      · simp [run_succ, step, restOfArguments, inside, closed, inner, read]
      · have forward := argument.forward
        by_cases comma : frame.tokens[argument.stop]? = some ","
        · by_cases trailing : frame.tokens[argument.stop + 1]? = some ")"
          · simp [run_succ, step, restOfArguments, inside, closed, inner, read, comma, trailing,
              evaluateAll_concat]
          · have rest := below.arguments depth function callee (done ++ [argument.part])
              (argument.stop + 1) registered (by omega)
            simp [evaluateAll_concat] at rest
            simp [run_succ, step, restOfArguments, inside, closed, inner, read, comma, trailing,
              rest]
        · have rest := below.arguments depth function callee (done ++ [argument.part])
            argument.stop registered (by omega)
          simp [evaluateAll_concat] at rest
          simp [run_succ, step, restOfArguments, inside, closed, inner, read, comma, rest]
  · simp [run_succ, step, restOfArguments, inside, inner, readExpression_outside inside,
      evaluateAll]

theorem ended_spread (table : Table Value) (token : String) (operand : Value) (position : Nat) :
    (match Grammar.spreadEntries? operand with
      | some written => pure (Table.insertAll table written)
      | none => fail (.invalidObject (some token)) : Parse (Table Value)).ended position =
      (spreadInto table token operand >>= fun written => .ok (written, position)) := by
  unfold spreadInto
  cases Grammar.spreadEntries? operand <;> rfl

theorem AgreesUpTo.entry (below : AgreesUpTo frame fuel) (unlimited : frame.limit = none)
    (depth : Nat) (table : Table Value) (start : Nat) (inside : start < frame.tokens.size)
    (enough : 3 * (frame.tokens.size - start) + 1 ≤ fuel) :
    ended (Production.entry frame (run frame fuel) depth table frame.tokens[start]) start =
      (readEntry frame.registry frame.tokens start inside).ended frame.setting
        (evaluateEntry frame.setting table) := by
  unfold Production.entry
  rw [readEntry]
  rcases spread : Grammar.spreadOperand? frame.tokens[start] with _ | token
  · by_cases identifier : Grammar.isIdentifier frame.tokens[start]
    · by_cases colon : frame.tokens[start + 1]? = some ":"
      · rcases next : frame.tokens[start + 2]? with _ | token
        · have outside : frame.tokens.size ≤ start + 2 := by simpa using next
          simp [Nat.add_assoc, identifier, colon, outside, evaluateAll]
        · have within : ¬frame.tokens.size ≤ start + 2 := by
            have := (Array.getElem?_eq_some_iff.mp next).1
            omega
          by_cases missing : token = "\x7d" ∨ token = ","
          · rcases missing with rfl | rfl <;>
              simp [Nat.add_assoc, identifier, colon, next, within, evaluateAll]
          · simp only [not_or] at missing
            have inner := below.expression depth 0 (start + 2) (by omega)
            rcases read : readExpression frame.registry frame.tokens 0 (start + 2) with
              rejection | value
            · simp [Nat.add_assoc, identifier, colon, next, within, missing, inner, read]
            · simp [Nat.add_assoc, identifier, colon, next, within, missing, inner, read,
                evaluateEntry]
      · simp [identifier, colon, evaluateAll]
    · simp [identifier, evaluateAll]
  · have first := below.unary (depth + 1) token start inside (by omega)
    rcases read : readUnary frame.registry frame.tokens token start inside with rejection | left
    · simp [nested_of_unlimited unlimited, first, read]
    · have forward := left.forward
      have rest := below.tail (depth + 1) left.part 0 left.stop (by omega)
      rcases tail : readTail frame.registry frame.tokens left.part 0 left.stop with
        rejection | operand
      · simp [nested_of_unlimited unlimited, first, read, rest, tail]
      · simp [nested_of_unlimited unlimited, first, read, rest, tail, evaluateEntry]
        congr 1
        funext value
        exact ended_spread table frame.tokens[start] value operand.stop

theorem AgreesUpTo.entries_succ (below : AgreesUpTo frame fuel) (unlimited : frame.limit = none)
    (depth : Nat) (done : List Entry) (start : Nat)
    (enough : 3 * (frame.tokens.size - start) + 3 ≤ fuel + 1) :
    (evaluateEntries frame.setting [] done >>= fun table =>
        ended (run frame (fuel + 1) depth (.entries table)) start) =
      (readEntries frame.registry frame.tokens done start).ended frame.setting
        (evaluate frame.setting) := by
  rw [readEntries]
  by_cases inside : start < frame.tokens.size
  · have inner := fun table => below.entry unlimited depth table start inside (by omega)
    rcases read : readEntry frame.registry frame.tokens start inside with rejection | entry
    · simp [run_succ, step, restOfObject, inside, inner, read, evaluateAll, evaluate]
    · have forward := entry.forward
      by_cases closed : frame.tokens[entry.stop]? = some "\x7d"
      · simp [run_succ, step, restOfObject, inside, inner, read, closed, evaluate,
          evaluateEntries_concat]
      · by_cases comma : frame.tokens[entry.stop]? = some ","
        · have rest := below.entries depth (done ++ [entry.part]) (entry.stop + 1) (by omega)
          simp [evaluateEntries_concat] at rest
          simp [run_succ, step, restOfObject, inside, inner, read, comma, rest]
        · simp [run_succ, step, restOfObject, inside, inner, read, closed, comma, evaluateAll,
            evaluate, evaluateEntries_concat]
  · simp [run_succ, step, restOfObject, inside, evaluateAll, evaluate]

theorem agreesUpTo (unlimited : frame.limit = none) (fuel : Nat) : AgreesUpTo frame fuel := by
  induction fuel with
  | zero =>
      constructor <;> intros <;> omega
  | succ fuel below =>
      exact {
        expression := below.expression_succ unlimited
        tail := below.tail_succ
        unary := below.unary_succ unlimited
        elements := below.elements_succ
        entries := below.entries_succ unlimited
        arguments := below.arguments_succ }

/-- The outcome of a frame is the value of the tree that its tokens denote, or the fault of tokens
that denote none. -/
theorem outcome_eq_ended (unlimited : frame.limit = none) :
    frame.outcome =
      match read frame.registry frame.tokens with
      | .ok formula => evaluate frame.setting formula
      | .error rejection => rejection.outcome frame.setting := by
  have whole := (agreesUpTo unlimited (fuelFor frame.tokens.size)).expression 0 0 0
    (by unfold fuelFor; omega)
  rw [Frame.outcome_eq_bind, Frame.expression, whole, Formula.read]
  rcases readExpression frame.registry frame.tokens 0 0 with rejection | span
  · simp
  · rcases trailing : frame.tokens[span.stop]? with _ | token
    · simp [trailing]
    · simp [trailing, Rejection.outcome, evaluateAll]

theorem Rejection.outcome_cases (rejection : Rejection) :
    ((∃ values, evaluateAll setting rejection.completed = .ok values) ∧
        (rejection.outcome setting : Except Fault α) = .error (.raised rejection.error)) ∨
      ∃ fault, evaluateAll setting rejection.completed = .error fault ∧
        (rejection.outcome setting : Except Fault α) = .error fault := by
  unfold Rejection.outcome
  rcases evaluateAll setting rejection.completed with fault | values
  · exact .inr ⟨fault, rfl, rfl⟩
  · exact .inl ⟨⟨values, rfl⟩, rfl⟩

end Reckon.Formula

namespace Reckon.Engine

/-- Without a limit an engine gives tokens that denote a tree the value of the tree or its first
fault.  Tokens that denote none have no value: what was read completely before they go wrong is
evaluated first, and its first fault comes before the error of syntax. -/
theorem outcome_of_read {engine : Engine} (unlimited : engine.limit = none) (levels : Nat)
    (site : List Nat) (tokens : Array String) (bindings : Table Value) :
    let frame := engine.frame levels site tokens bindings
    (∀ formula, Formula.read engine.registry tokens = .ok formula →
        frame.outcome = formula.evaluate frame.setting) ∧
      (∀ rejection, Formula.read engine.registry tokens = .error rejection →
        rejection.error.isSyntax = true ∧
          (((∃ values, Formula.evaluateAll frame.setting rejection.completed = .ok values) ∧
              frame.outcome = Outcome.raise rejection.error) ∨
            ∃ fault, Formula.evaluateAll frame.setting rejection.completed = .error fault ∧
              frame.outcome = .error fault)) ∧
      ∀ text, (engine.tokens text).toArray = tokens →
        engine.evaluateIn (levels + 1) site text bindings = frame.outcome := by
  intro frame
  have whole : frame.outcome = _ := Formula.outcome_eq_ended unlimited
  refine ⟨?_, ?_, ?_⟩
  · intro formula accepted
    have read : Formula.read frame.registry frame.tokens = .ok formula := accepted
    simpa only [read] using whole
  · intro rejection rejected
    have read : Formula.read frame.registry frame.tokens = .error rejection := rejected
    simp only [read] at whole
    rw [whole]
    exact ⟨rejection.malformed, rejection.outcome_cases frame.setting⟩
  · rintro text rfl
    exact engine.evaluateIn_succ levels site bindings text

/-- In `(true)` the tree is the literal; in `a b` the first name has no value, and that comes before
the error of syntax at the second. -/
theorem outcome_of_read_core :
    core.limit = none ∧
      (core.frame 0 [] #["(", "true", ")"] []).outcome = .ok (.boolean true) ∧
      (core.frame 0 [] #["a", "b"] []).outcome = Outcome.raise (.missingVariable "a") := by
  have roles : Formula.role core.registry "(" = .parenthesis ∧
      Formula.role core.registry "true" = .literal (.boolean true) ∧
      Formula.role core.registry "a" = .name := ⟨rfl, rfl, rfl⟩
  have operators : ∀ token, core.registry.operator? token = none := fun _ => rfl
  have accepted : Formula.read core.registry #["(", "true", ")"] =
      .ok (.literal (.boolean true)) := by
    simp [Formula.read, Formula.readExpression, Formula.readUnary, Formula.readTail, roles,
      operators, Formula.Span.weaken]
  have rejected : Formula.read core.registry #["a", "b"] =
      .error { error := .invalidExpression (some "b"), completed := [.name "a" false] } := by
    simp [Formula.read, Formula.readExpression, Formula.readUnary, Formula.readTail, roles,
      operators, Formula.Span.weaken]
  have missing : Formula.evaluateAll (core.frame 0 [] #["a", "b"] []).setting
      [.name "a" false] = .error (.raised (.missingVariable "a")) := rfl
  refine ⟨rfl, (outcome_of_read rfl 0 [] _ []).1 _ accepted, ?_⟩
  rcases ((outcome_of_read rfl 0 [] _ []).2.1 _ rejected).2 with
    ⟨⟨values, found⟩, -⟩ | ⟨fault, found, ended⟩
  · rw [missing] at found
    cases found
  · rw [missing] at found
    cases found
    exact ended

end Reckon.Engine
