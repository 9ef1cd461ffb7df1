import Reckon.Proofs.Formula.Derivation

/-!
What is derived from some tokens is derived wherever they stand among others, and has the same value
there.
-/

namespace Reckon.Formula

variable (offset : Nat)

mutual

def shift : Formula → Formula
  | .literal value => .literal value
  | .path token => .path token
  | .name token called => .name token called
  | .unary symbol operand => .unary symbol (shift operand)
  | .binary symbol left right => .binary symbol (shift left) (shift right)
  | .array items => .array (shiftAll items)
  | .object entries => .object (shiftEntries entries)
  | .call function arguments stop => .call function (shiftAll arguments) (offset + stop)

def shiftAll : List Formula → List Formula
  | [] => []
  | formula :: rest => shift formula :: shiftAll rest

def shiftEntries : List Entry → List Entry
  | [] => []
  | entry :: rest => shiftEntry entry :: shiftEntries rest

def shiftEntry : Entry → Entry
  | .keyed key value => .keyed key (shift value)
  | .spread token operand => .spread token (shift operand)

end

@[simp]
theorem shiftAll_concat (done : List Formula) (item : Formula) :
    shiftAll offset (done ++ [item]) = shiftAll offset done ++ [shift offset item] := by
  induction done with
  | nil => rfl
  | cons first rest ih => simp [shiftAll, ih]

@[simp]
theorem shiftEntries_concat (done : List Entry) (entry : Entry) :
    shiftEntries offset (done ++ [entry]) =
      shiftEntries offset done ++ [shiftEntry offset entry] := by
  induction done with
  | nil => rfl
  | cons first rest ih => simp [shiftEntries, ih]

def Phrase.shift : Phrase → Phrase
  | .expression floor whole => .expression floor (whole.shift offset)
  | .tail left floor whole => .tail (left.shift offset) floor (whole.shift offset)
  | .unary token whole => .unary token (whole.shift offset)
  | .elements done whole => .elements (shiftAll offset done) (whole.shift offset)
  | .entries done whole => .entries (shiftEntries offset done) (whole.shift offset)
  | .entry item => .entry (shiftEntry offset item)
  | .arguments function done whole =>
      .arguments function (shiftAll offset done) (whole.shift offset)

section

variable {offset} {setting moved : Setting}

structure Setting.Moves (offset : Nat) (setting moved : Setting) : Prop where
  bindings : moved.bindings = setting.bindings
  registry : moved.registry = setting.registry
  invoke : ∀ name callee, setting.registry.function? name = some callee → ∀ stop arguments,
    moved.invoke (offset + stop) callee arguments = setting.invoke stop callee arguments

variable (moves : Setting.Moves offset setting moved)

include moves

theorem Setting.Moves.call_eq (function : String) (stop : Nat) (arguments : List Value) :
    moved.call function (offset + stop) arguments = setting.call function stop arguments := by
  unfold Setting.call
  rw [moves.registry]
  cases found : setting.registry.function? function with
  | none => rfl
  | some callee => exact moves.invoke function callee found stop arguments

theorem Setting.Moves.name_eq (token : String) (called : Bool) :
    moved.name token called = setting.name token called := by
  unfold Setting.name
  rw [moves.bindings]

theorem Setting.Moves.unary_eq (symbol : String) (operand : Value) :
    moved.unary symbol operand = setting.unary symbol operand := by
  unfold Setting.unary
  rw [moves.registry]

theorem Setting.Moves.binary_eq (symbol : String) (left right : Value) :
    moved.binary symbol left right = setting.binary symbol left right := by
  unfold Setting.binary
  rw [moves.registry]

end

variable {offset} {setting moved : Setting}

mutual

theorem evaluate_shift (moves : Setting.Moves offset setting moved) (formula : Formula) :
    evaluate moved (shift offset formula) = evaluate setting formula := by
  cases formula with
  | literal value => rfl
  | path token =>
      unfold shift evaluate
      rw [moves.bindings]
  | name token called => exact moves.name_eq token called
  | unary symbol operand =>
      simp only [shift, evaluate, evaluate_shift moves operand, moves.unary_eq]
  | binary symbol left right =>
      simp only [shift, evaluate, evaluate_shift moves left, evaluate_shift moves right,
        moves.binary_eq]
  | array items => simp only [shift, evaluate, evaluateAll_shift moves items]
  | object entries => simp only [shift, evaluate, evaluateEntries_shift moves [] entries]
  | call function arguments stop =>
      simp only [shift, evaluate, evaluateAll_shift moves arguments, moves.call_eq]

theorem evaluateAll_shift (moves : Setting.Moves offset setting moved) (formulas : List Formula) :
    evaluateAll moved (shiftAll offset formulas) = evaluateAll setting formulas := by
  cases formulas with
  | nil => rfl
  | cons formula rest =>
      simp only [shiftAll, evaluateAll, evaluate_shift moves formula, evaluateAll_shift moves rest]

theorem evaluateEntries_shift (moves : Setting.Moves offset setting moved) (done : Table Value)
    (entries : List Entry) :
    evaluateEntries moved done (shiftEntries offset entries) =
      evaluateEntries setting done entries := by
  cases entries with
  | nil => rfl
  | cons entry rest =>
      simp only [shiftEntries, evaluateEntries, evaluateEntry_shift moves done entry]
      congr 1
      funext written
      exact evaluateEntries_shift moves written rest

theorem evaluateEntry_shift (moves : Setting.Moves offset setting moved) (done : Table Value)
    (entry : Entry) :
    evaluateEntry moved done (shiftEntry offset entry) = evaluateEntry setting done entry := by
  cases entry with
  | keyed key value => simp only [shiftEntry, evaluateEntry, evaluate_shift moves value]
  | spread token operand => simp only [shiftEntry, evaluateEntry, evaluate_shift moves operand]

end

section

variable {registry : Registry} {first second : Array String} {start stop : Nat} {phrase : Phrase}

/-- Tokens at the end of a phrase are alike: the same, or the one on the left is missing and the one
on the right carries nothing on. -/
def Alike (registry : Registry) (left right : Option String) : Prop :=
  left = right ∨ left = none ∧
    ∀ closer, right = some closer → registry.operator? closer = none ∧ closer ≠ "("

variable (registry first second) in
/-- Between two positions the first tokens are those further on in the second ones, and behind they
are alike. -/
structure Recurs (offset start stop : Nat) : Prop where
  token : ∀ position, start ≤ position → position < stop →
    second[offset + position]? = first[position]?
  boundary : Alike registry first[stop]? second[offset + stop]?

theorem Recurs.part (recurs : Recurs registry first second offset start stop) {left right : Nat}
    (after : start ≤ left) (before : right ≤ stop) (forward : left ≤ right) :
    Recurs registry first second offset left right := by
  refine ⟨fun position least most => recurs.token position (by omega) (by omega), ?_⟩
  rcases Nat.lt_or_eq_of_le before with inside | rfl
  · exact .inl (recurs.token right (by omega) inside).symm
  · exact recurs.boundary

theorem Recurs.loose {floor : Precedence} (recurs : Recurs registry first second offset start start)
    (loose : Loose registry first floor start) :
    Loose registry second floor (offset + start) := by
  intro symbol here
  rcases recurs.boundary with same | ⟨-, closes⟩
  · exact loose symbol (same.trans here)
  · exact .inl (closes symbol here).1

theorem Recurs.called (recurs : Recurs registry first second offset start stop) :
    first[stop]? = some "(" ↔ second[offset + stop]? = some "(" := by
  rcases recurs.boundary with same | ⟨missing, closes⟩
  · rw [same]
  · refine iff_of_false (by simp [missing]) fun here => ?_
    exact (closes "(" here).2 rfl

/-- Where tokens recur, the same is derived. -/
theorem Derives.shift (derived : Derives registry first phrase start stop)
    (recurs : Recurs registry first second offset start stop) :
    Derives registry second (phrase.shift offset) (offset + start) (offset + stop) := by
  induction derived with
  | expression here first rest firstShift restShift =>
      have before := first.forward
      have after := rest.forward
      simp only [Phrase.least] at before after
      refine .expression ((recurs.token _ (by omega) (by omega)).trans here)
        (firstShift (recurs.part (by omega) (by omega) (by omega)))
        (restShift (recurs.part (by omega) (by omega) (by omega)))
  | loose loose => exact .loose (recurs.loose loose)
  | tight here registered tight operand rest operandShift restShift =>
      have before := operand.forward
      have after := rest.forward
      simp only [Phrase.least] at before after
      exact .tight ((recurs.token _ (by omega) (by omega)).trans here) registered tight
        (operandShift (recurs.part (by omega) (by omega) (by omega)))
        (restShift (recurs.part (by omega) (by omega) (by omega)))
  | unaryOperator kind more inner innerShift =>
      have before := inner.forward
      simp only [Phrase.least] at before
      exact .unaryOperator kind ((recurs.token _ (by omega) (by omega)).trans more)
        (innerShift (recurs.part (by omega) (by omega) (by omega)))
  | parentheses kind inner closed innerShift =>
      have before := inner.forward
      simp only [Phrase.least] at before
      exact .parentheses kind (innerShift (recurs.part (by omega) (by omega) (by omega)))
        ((recurs.token _ (by omega) (by omega)).trans closed)
  | literal kind => exact .literal kind
  | array kind rest restShift =>
      have after := rest.forward
      exact .array kind (restShift (recurs.part (by omega) (by omega) (by omega)))
  | object kind rest restShift =>
      have after := rest.forward
      exact .object kind (restShift (recurs.part (by omega) (by omega) (by omega)))
  | path kind => exact .path kind
  | call kind opened rest restShift =>
      have after := rest.forward
      simp only [Phrase.least] at after
      exact .call kind ((recurs.token _ (by omega) (by omega)).trans opened)
        (restShift (recurs.part (by omega) (by omega) (by omega)))
  | @name token start kind =>
      simp only [Phrase.shift, Formula.shift, recurs.called]
      exact .name kind
  | lastElement closed =>
      exact .lastElement ((recurs.token _ (by omega) (by omega)).trans closed)
  | element more first separated rest firstShift restShift =>
      have before := first.forward
      have after := rest.forward
      simp only [Phrase.least] at before after
      have inner := firstShift (recurs.part (by omega) (by omega) (by omega))
      have others := restShift (recurs.part (by omega) (by omega) (by omega))
      rw [Phrase.shift, shiftAll_concat] at others
      refine .element (fun here => more ?_) inner ?_ others
      · exact (recurs.token _ (by omega) (by omega)).symm.trans here
      · rcases separated with ⟨comma, proper, rfl⟩ | ⟨closed, rfl⟩
        · refine .inl ⟨(recurs.token _ (by omega) (by omega)).trans comma,
            fun here => proper ?_, rfl⟩
          exact (recurs.token _ (by omega) (by omega)).symm.trans here
        · exact .inr ⟨(recurs.token _ (by omega) (by omega)).trans closed, rfl⟩
  | lastEntry first closed firstShift =>
      have before := first.forward
      have inner := firstShift (recurs.part (by omega) (by omega) (by omega))
      simp only [Phrase.shift, Formula.shift, shiftEntries_concat]
      exact .lastEntry inner ((recurs.token _ (by omega) (by omega)).trans closed)
  | moreEntries first separated rest firstShift restShift =>
      have before := first.forward
      have after := rest.forward
      simp only [Phrase.least] at before after
      have inner := firstShift (recurs.part (by omega) (by omega) (by omega))
      have others := restShift (recurs.part (by omega) (by omega) (by omega))
      rw [Phrase.shift, shiftEntries_concat] at others
      exact .moreEntries inner ((recurs.token _ (by omega) (by omega)).trans separated) others
  | keyed here plain identifier colon follows inner innerShift =>
      have before := inner.forward
      simp only [Phrase.least] at before
      obtain ⟨next, follows, proper⟩ := follows
      refine .keyed ((recurs.token _ (by omega) (by omega)).trans here) plain identifier
        ((recurs.token _ (by omega) (by omega)).trans colon) ⟨next, ?_, proper⟩
        (innerShift (recurs.part (by omega) (by omega) (by omega)))
      exact (recurs.token _ (by omega) (by omega)).trans follows
  | spread here spread first rest firstShift restShift =>
      have before := first.forward
      have after := rest.forward
      simp only [Phrase.least] at before after
      exact .spread ((recurs.token _ (by omega) (by omega)).trans here) spread
        (firstShift (recurs.part (by omega) (by omega) (by omega)))
        (restShift (recurs.part (by omega) (by omega) (by omega)))
  | lastArgument closed =>
      exact .lastArgument ((recurs.token _ (by omega) (by omega)).trans closed)
  | argument more first separated rest firstShift restShift =>
      have before := first.forward
      have after := rest.forward
      simp only [Phrase.least] at before after
      have inner := firstShift (recurs.part (by omega) (by omega) (by omega))
      have others := restShift (recurs.part (by omega) (by omega) (by omega))
      rw [Phrase.shift, shiftAll_concat] at others
      refine .argument (fun here => more ?_) inner ?_ others
      · exact (recurs.token _ (by omega) (by omega)).symm.trans here
      · rcases separated with ⟨comma, proper, rfl⟩ | ⟨other, rfl⟩
        · refine .inl ⟨(recurs.token _ (by omega) (by omega)).trans comma,
            fun here => proper ?_, rfl⟩
          exact (recurs.token _ (by omega) (by omega)).symm.trans here
        · refine .inr ⟨fun here => other ?_, rfl⟩
          exact (recurs.token _ (by omega) (by omega)).symm.trans here

end

end Reckon.Formula
